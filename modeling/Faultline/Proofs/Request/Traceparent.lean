import Faultline.Proofs.Text.Matching
import Faultline.Proofs.Text.Plain
import Faultline.Request.Traceparent

/-!
What a `traceparent` is made of: version 00, a trace id, and at least two more parts. The trace id
that is read is in lower case, and a value made with it gives it back.
-/

namespace Faultline

namespace Text

theorem exists_splitOn_of_mem {sep : Char} {cs : List Char} (found : sep ∈ cs) :
    ∃ first second rest, splitOn sep cs = first :: second :: rest := by
  rw [splitOn_eq]
  match pieces : cs.splitOn sep with
  | [] => exact absurd pieces (List.splitOn_ne_nil sep cs)
  | [only] =>
    have joined : [sep].intercalate (cs.splitOn sep) = cs := List.intercalate_splitOn sep
    have whole : only = cs := by simpa [pieces] using joined
    have absent : sep ∉ only := not_mem_of_mem_splitOn (pieces ▸ List.mem_cons_self)
    exact absurd (whole ▸ found) absent
  | first :: second :: rest => exact ⟨first, second, rest, rfl⟩

end Text

namespace Traceparent

theorem not_mem_of_isTraceId {digits : List Char} (valid : isTraceId digits = true) :
    '-' ∉ digits := by
  simp only [isTraceId, Bool.and_eq_true, List.all_eq_true] at valid
  intro member
  have hyphen := valid.1.2 '-' member
  revert hyphen
  decide

/-- White space around it apart, the value is the version, a trace id and at least two parts. -/
theorem traceId?_eq_some_iff {value id : String} : traceId? value = some id ↔
    ∃ digits rest, Text.trimChars value.toList = ['0', '0'] ++ '-' :: (digits ++ '-' :: rest) ∧
      '-' ∈ rest ∧ isTraceId digits = true ∧ .ofList (digits.map Text.lowerChar) = id := by
  unfold traceId?
  constructor
  · intro parsed
    split at parsed
    next version digits span flags more pieces =>
      split at parsed
      next accepted =>
        obtain ⟨rfl, valid⟩ := accepted
        rw [Text.splitOn_eq] at pieces
        -- the pieces with a hyphen between each and the next are the value again
        have whole : ['-'].intercalate ((Text.trimChars value.toList).splitOn '-') =
            Text.trimChars value.toList := List.intercalate_splitOn '-'
        rw [pieces, List.intercalate_cons_of_ne_nil (List.cons_ne_nil _ _),
          List.intercalate_cons_of_ne_nil (List.cons_ne_nil _ _),
          List.intercalate_cons_of_ne_nil (List.cons_ne_nil _ _)] at whole
        refine ⟨digits, span ++ '-' :: ['-'].intercalate (flags :: more), ?_, ?_, valid,
          Option.some.inj parsed⟩
        · rw [← whole]
          simp
        · simp
      next => cases parsed
    next => cases parsed
  · rintro ⟨digits, rest, whole, hyphen, valid, rfl⟩
    obtain ⟨span, flags, more, pieces⟩ := Text.exists_splitOn_of_mem hyphen
    rw [whole, Text.splitOn_append_cons_of_not_mem (by decide),
      Text.splitOn_append_cons_of_not_mem (not_mem_of_isTraceId valid), pieces]
    exact if_pos ⟨rfl, valid⟩

theorem traceId?_trim (value : String) : traceId? (Text.trim value) = traceId? value := by
  unfold traceId? Text.trim
  rw [String.toList_ofList, Text.trimChars_idem]

structure IsLowerHex (id : String) : Prop where
  length : id.length = 32
  lower : ∀ c ∈ id.toList, c ∈ "0123456789abcdef".toList

/-- A trace id as a `traceparent` passes it on: not all of its digits are zero. -/
structure IsCanonical (id : String) : Prop extends IsLowerHex id where
  nonzero : ∃ c ∈ id.toList, c ≠ '0'

namespace IsLowerHex

variable {id : String}

theorem visible (hex : IsLowerHex id) :
    ∀ c ∈ id.toList, Headers.isReadableChar c = true ∧ Text.isSpace c = false := by
  have shown : "0123456789abcdef".toList.all
      (fun c => Headers.isReadableChar c && !Text.isSpace c) = true := by decide
  intro c member
  have both := List.all_eq_true.1 shown c (hex.lower c member)
  rwa [Bool.and_eq_true, Bool.not_eq_true'] at both

theorem isPlain (hex : IsLowerHex id) : Text.IsPlain id := by
  have nonempty : id.toList ≠ [] := by
    have length : id.toList.length = 32 := hex.length
    exact List.ne_nil_of_length_pos (by omega)
  rw [← String.ofList_toList (s := id)]
  exact Text.isPlain_ofList nonempty hex.visible

theorem trim_eq (hex : IsLowerHex id) : Text.trim id = id := by
  rw [Text.trim, Text.trimChars_of_visible fun c member => (hex.visible c member).2,
    String.ofList_toList]

end IsLowerHex

namespace IsCanonical

variable {id : String}

theorem isTraceId (canonical : IsCanonical id) : isTraceId id.toList = true := by
  have hex : ∀ c ∈ "0123456789abcdef".toList, Text.isHexDigit c = true :=
    List.all_eq_true.1 (by decide)
  simp only [Traceparent.isTraceId, Bool.and_eq_true, beq_iff_eq, List.all_eq_true,
    List.any_eq_true, bne_iff_ne]
  exact ⟨⟨canonical.length, fun c member => hex c (canonical.lower c member)⟩, canonical.nonzero⟩

theorem map_lowerChar (canonical : IsCanonical id) :
    id.toList.map Text.lowerChar = id.toList := by
  have same : "0123456789abcdef".toList.all (fun c => Text.lowerChar c == c) = true := by decide
  have kept (c : Char) (member : c ∈ id.toList) : Text.lowerChar c = c :=
    beq_iff_eq.1 (List.all_eq_true.1 same c (canonical.lower c member))
  exact (List.map_congr_left kept).trans (List.map_id _)

theorem traceId?_value (canonical : IsCanonical id) (span flags : String) :
    traceId? ("00-" ++ id ++ "-" ++ span ++ "-" ++ flags) = some id := by
  have shape : ("00-" ++ id ++ "-" ++ span ++ "-" ++ flags).toList =
      '0' :: ((['0', '-'] ++ id.toList ++ '-' :: span.toList) ++ '-' :: flags.toList) := by
    simp [String.toList_append]
  -- the white space that the flags end in is dropped, and no more than that
  obtain ⟨ending, trimmed⟩ := Text.exists_trimEnd_append_cons (c := '-') (by decide)
    ('0' :: (['0', '-'] ++ id.toList ++ '-' :: span.toList)) flags.toList
  rw [traceId?_eq_some_iff]
  refine ⟨id.toList, span.toList ++ '-' :: ending, ?_, by simp, canonical.isTraceId, ?_⟩
  · rw [shape, Text.trimChars, List.dropWhile_cons_of_neg (by decide), ← List.cons_append, trimmed]
    simp
  · rw [canonical.map_lowerChar, String.ofList_toList]

end IsCanonical

theorem isCanonical_of_traceId? {value id : String} (parsed : traceId? value = some id) :
    IsCanonical id := by
  obtain ⟨digits, -, -, -, valid, rfl⟩ := traceId?_eq_some_iff.1 parsed
  simp only [isTraceId, Bool.and_eq_true, beq_iff_eq, List.all_eq_true, List.any_eq_true,
    bne_iff_ne] at valid
  obtain ⟨⟨length, hex⟩, c, member, nonzero⟩ := valid
  refine ⟨⟨?_, ?_⟩, ?_⟩
  · rw [String.length_ofList, List.length_map, length]
  · rw [String.toList_ofList]
    intro lower image
    obtain ⟨d, digit, rfl⟩ := List.mem_map.1 image
    exact (Text.lowerChar_of_isHexDigit (hex d digit)).1
  · rw [String.toList_ofList]
    exact ⟨_, List.mem_map_of_mem member,
      mt (Text.lowerChar_of_isHexDigit (hex c member)).2 nonzero⟩

end Traceparent
end Faultline
