import Faultline.Proofs.Request.Traceparent

/-!
The grammar of a `traceparent`. Main statement: a trace id is read off a value exactly if the value
follows the grammar, and then it is what stands there, in lower case; the case of letters in the
value makes no difference, and a value made with a trace id that was read gives it back.
-/

namespace Faultline

namespace Text

theorem lowerChar_eq_iff_of_not_letter {d : Char}
    (other : ∀ letter ∈ letters, letter.1 ≠ d ∧ letter.2 ≠ d) (c : Char) :
    lowerChar c = d ↔ c = d := by
  have alike : ∀ letter ∈ letters, decide (letter.1 = d) = decide (letter.2 = d) := by
    intro letter member
    rw [decide_eq_false (other letter member).1, decide_eq_false (other letter member).2]
  have same := lowerChar_congr (f := fun c => decide (c = d)) alike c
  exact decide_eq_decide.1 same

theorem splitOn_map {sep : Char} {f : Char → Char} (fixed : ∀ c, f c = sep ↔ c = sep)
    (cs : List Char) : splitOn sep (cs.map f) = (splitOn sep cs).map (List.map f) := by
  induction cs with
  | nil => rfl
  | cons c rest ih =>
    rw [List.map_cons, splitOn, splitOn, ih]
    by_cases found : c = sep
    · rw [if_pos found, if_pos ((fixed c).2 found)]
      rfl
    · rw [if_neg found, if_neg (mt (fixed c).1 found)]
      cases splitOn sep rest <;> rfl

end Text

namespace Traceparent

/-- White space around it apart, a value is the version, the digits and more, with a hyphen after
each of them and another one in the last part. The digits are 32 hexadecimal ones, in any case, and
not all of them are zero. -/
structure Encloses (value digits : String) : Prop where
  shape : ∃ rest, Text.trim value = "00-" ++ digits ++ "-" ++ rest ∧ '-' ∈ rest.toList
  length : digits.length = 32
  hex : ∀ c ∈ digits.toList, c ∈ "0123456789abcdefABCDEF".toList
  nonzero : ∃ c ∈ digits.toList, c ≠ '0'

theorem isTraceId_iff {digits : String} : isTraceId digits.toList = true ↔
    digits.length = 32 ∧ (∀ c ∈ digits.toList, c ∈ "0123456789abcdefABCDEF".toList) ∧
      ∃ c ∈ digits.toList, c ≠ '0' := by
  simp only [isTraceId, Bool.and_eq_true, beq_iff_eq, List.all_eq_true, List.any_eq_true,
    bne_iff_ne, Text.isHexDigit_iff, String.length_toList, and_assoc]

theorem traceId?_eq_some_iff_encloses {value id : String} :
    traceId? value = some id ↔ ∃ digits, Encloses value digits ∧ id = Text.lowercase digits := by
  rw [traceId?_eq_some_iff]
  constructor
  · rintro ⟨digits, rest, whole, hyphen, valid, rfl⟩
    have trimmed : Text.trim value = "00-" ++ .ofList digits ++ "-" ++ .ofList rest := by
      apply String.toList_inj.1
      simp [Text.trim, whole]
    rw [← String.toList_ofList (l := digits), isTraceId_iff] at valid
    refine ⟨.ofList digits, ⟨⟨.ofList rest, trimmed, ?_⟩, valid.1, valid.2.1, valid.2.2⟩, ?_⟩
    · rwa [String.toList_ofList]
    · rw [Text.lowercase, String.toList_ofList]
  · rintro ⟨digits, ⟨⟨rest, trimmed, hyphen⟩, length, hex, nonzero⟩, rfl⟩
    have whole : Text.trimChars value.toList =
        ['0', '0'] ++ '-' :: (digits.toList ++ '-' :: rest.toList) := by
      have chars := congrArg String.toList trimmed
      simpa [Text.trim] using chars
    exact ⟨digits.toList, rest.toList, whole, hyphen, isTraceId_iff.2 ⟨length, hex, nonzero⟩, rfl⟩

theorem isTraceId_map_lowerChar (digits : List Char) :
    isTraceId (digits.map Text.lowerChar) = isTraceId digits := by
  have hex (c : Char) : Text.isHexDigit (Text.lowerChar c) = Text.isHexDigit c :=
    Text.lowerChar_congr (by decide) c
  have zero (c : Char) : (Text.lowerChar c != '0') = (c != '0') :=
    Text.lowerChar_congr (f := fun c => c != '0') (by decide) c
  simp only [isTraceId, List.length_map, List.all_map, List.any_map, Function.comp_def, hex, zero]

theorem traceId?_lowercase (value : String) :
    traceId? (Text.lowercase value) = traceId? value := by
  have hyphen (c : Char) : Text.lowerChar c = '-' ↔ c = '-' :=
    Text.lowerChar_eq_iff_of_not_letter (by decide) c
  have zero (c : Char) : Text.lowerChar c = '0' ↔ c = '0' :=
    Text.lowerChar_eq_iff_of_not_letter (by decide) c
  have version (piece : List Char) :
      piece.map Text.lowerChar = ['0', '0'] ↔ piece = ['0', '0'] := by
    simp only [List.map_eq_cons_iff, List.map_eq_nil_iff, zero]
    grind
  have lower (digits : List Char) :
      (digits.map Text.lowerChar).map Text.lowerChar = digits.map Text.lowerChar := by
    rw [List.map_map]
    exact List.map_congr_left fun c _ => Text.lowerChar_lowerChar c
  unfold traceId? Text.lowercase
  rw [String.toList_ofList, Text.trimChars_map Text.isSpace_lowerChar, Text.splitOn_map hyphen]
  match Text.splitOn '-' (Text.trimChars value.toList) with
  | [] | [_] | [_, _] | [_, _, _] => rfl
  | first :: digits :: span :: flags :: more =>
    simp only [List.map_cons, version, isTraceId_map_lowerChar, lower]

theorem traceId?_of_sameUpToCase {value other : String} (same : Text.SameUpToCase value other) :
    traceId? value = traceId? other := by
  have lowered : Text.lowercase value = Text.lowercase other := by
    rw [Text.lowercase, Text.lowercase, Text.sameUpToCase_iff.1 same]
  rw [← traceId?_lowercase value, lowered, traceId?_lowercase]

/-- A trace id is read exactly off the values that follow the grammar, as the digits in lower case.
The case of letters in a value makes no difference to what is read. A trace id that was read can be
passed on: any value made with it gives it back. -/
theorem traceId_of_grammar :
    (∀ value id, traceId? value = some id ↔
      ∃ digits, Encloses value digits ∧ id = Text.lowercase digits) ∧
      (∀ value other, Text.SameUpToCase value other → traceId? value = traceId? other) ∧
      ∀ value id, traceId? value = some id → IsCanonical id ∧
        ∀ span flags, traceId? ("00-" ++ id ++ "-" ++ span ++ "-" ++ flags) = some id := by
  refine ⟨fun _ _ => traceId?_eq_some_iff_encloses, fun _ _ => traceId?_of_sameUpToCase, ?_⟩
  intro value id parsed
  have canonical := isCanonical_of_traceId? parsed
  exact ⟨canonical, canonical.traceId?_value⟩

theorem traceId_of_grammar_mixed :
    let digits := "4BF92F3577b34da6A3CE929D0E0E4736"
    let value := "\u00a0 00-" ++ digits ++ "--\u3000"
    let id := "4bf92f3577b34da6a3ce929d0e0e4736"
    Encloses value digits ∧ traceId? value = some id ∧
      Text.SameUpToCase value (Text.lowercase value) ∧ traceId? (Text.lowercase value) = some id ∧
      IsCanonical id ∧ traceId? ("00-" ++ id ++ "-" ++ " " ++ "-" ++ "é-") = some id := by
  intro digits value id
  have valid : isTraceId digits.toList = true := by decide +kernel
  obtain ⟨length, hex, nonzero⟩ := isTraceId_iff.1 valid
  have encloses : Encloses value digits :=
    ⟨⟨"-", by decide +kernel, by decide +kernel⟩, length, hex, nonzero⟩
  have lower : id = Text.lowercase digits := by decide +kernel
  have alike : Text.SameUpToCase value (Text.lowercase value) :=
    Text.sameIgnoringCase_iff.1 (by decide +kernel)
  obtain ⟨reads, sameRead, passes⟩ := traceId_of_grammar
  have parsed : traceId? value = some id := (reads value id).2 ⟨digits, encloses, lower⟩
  obtain ⟨canonical, again⟩ := passes value id parsed
  exact ⟨encloses, parsed, alike, (sameRead value _ alike).symm.trans parsed, canonical,
    again " " "é-"⟩

end Traceparent
end Faultline
