import Mathlib.Data.List.Forall2
import Mathlib.Data.List.Infix
import Faultline.Text.Ascii
import Faultline.Text.Blank
import Faultline.Text.Lines

/-!
When a text holds another one, and when two texts differ in the case of ASCII letters at most. In
lower case a letter has a counterpart, and a hexadecimal digit has one of sixteen.
-/

namespace Faultline.Text

theorem hasInfix_iff {needle cs : List Char} : hasInfix needle cs = true ↔ needle <:+: cs := by
  induction cs with
  | nil => rw [hasInfix, List.isEmpty_iff, List.infix_nil]
  | cons c rest ih =>
    rw [hasInfix, Bool.or_eq_true, List.isPrefixOf_iff_prefix, ih, List.infix_cons_iff]

theorem contains_iff {s needle : String} :
    contains s needle = true ↔ needle.toList <:+: s.toList := hasInfix_iff

def letters : List (Char × Char) :=
  "ABCDEFGHIJKLMNOPQRSTUVWXYZ".toList.zip "abcdefghijklmnopqrstuvwxyz".toList

/-- The same character, or the two cases of one ASCII letter. -/
inductive SameLetter : Char → Char → Prop where
  | refl (c : Char) : SameLetter c c
  | lower {c d : Char} (cases : (c, d) ∈ letters) : SameLetter c d
  | upper {c d : Char} (cases : (c, d) ∈ letters) : SameLetter d c

def SameUpToCase (s t : String) : Prop := List.Forall₂ SameLetter s.toList t.toList

/-- What holds of the first code points holds of the characters that have them. -/
theorem forall_ascii {P : Char → Prop} (few : ∀ n < 128, P (.ofNat n)) {c : Char}
    (bound : c.toNat < 128) : P c := by
  have settled := few c.toNat bound
  rwa [Char.ofNat_toNat] at settled

theorem lowerChar_cases (c : Char) : lowerChar c = c ∨ (c, lowerChar c) ∈ letters := by
  by_cases upper : 'A' ≤ c ∧ c ≤ 'Z'
  · have high : c.toNat ≤ 'Z'.toNat := upper.2
    have last : 'Z'.toNat = 90 := rfl
    have letter : 'A' ≤ c ∧ c ≤ 'Z' → (c, lowerChar c) ∈ letters :=
      forall_ascii (P := fun c => 'A' ≤ c ∧ c ≤ 'Z' → (c, lowerChar c) ∈ letters) (by decide)
        (by omega)
    exact .inr (letter upper)
  · exact .inl (if_neg upper)

theorem toNat_lt_of_isHexDigit {c : Char} (hex : isHexDigit c = true) : c.toNat < 128 := by
  have digits : ('9' : Char).toNat = 57 ∧ ('f' : Char).toNat = 102 ∧ ('F' : Char).toNat = 70 := by
    decide
  simp only [isHexDigit, Char.isDigit, Bool.or_eq_true, Bool.and_eq_true, decide_eq_true_eq]
    at hex
  rcases hex with (⟨-, high⟩ | ⟨-, high⟩) | ⟨-, high⟩
  · have : c.toNat ≤ '9'.toNat := high
    omega
  · have : c.toNat ≤ 'f'.toNat := high
    omega
  · have : c.toNat ≤ 'F'.toNat := high
    omega

theorem lowerChar_of_isHexDigit {c : Char} (hex : isHexDigit c = true) :
    lowerChar c ∈ "0123456789abcdef".toList ∧ (lowerChar c = '0' → c = '0') :=
  forall_ascii (P := fun c => isHexDigit c = true →
    lowerChar c ∈ "0123456789abcdef".toList ∧ (lowerChar c = '0' → c = '0')) (by decide)
    (toNat_lt_of_isHexDigit hex) hex

theorem isHexDigit_iff {c : Char} :
    isHexDigit c = true ↔ c ∈ "0123456789abcdefABCDEF".toList := by
  constructor
  · intro hex
    exact forall_ascii (P := fun c => isHexDigit c = true →
      c ∈ "0123456789abcdefABCDEF".toList) (by decide) (toNat_lt_of_isHexDigit hex) hex
  · intro listed
    exact List.all_eq_true.1 (by decide : "0123456789abcdefABCDEF".toList.all isHexDigit = true)
      c listed

theorem lowerChar_of_mem_letters {c d : Char} (cases : (c, d) ∈ letters) :
    lowerChar c = d ∧ lowerChar d = d := by
  have each : ∀ letter ∈ letters,
      lowerChar letter.1 = letter.2 ∧ lowerChar letter.2 = letter.2 := by
    decide
  exact each _ cases

theorem lowerChar_congr {α : Type} {f : Char → α}
    (alike : ∀ letter ∈ letters, f letter.1 = f letter.2) (c : Char) :
    f (lowerChar c) = f c := by
  rcases lowerChar_cases c with same | letter
  · rw [same]
  · exact (alike _ letter).symm

theorem lowerChar_lowerChar (c : Char) : lowerChar (lowerChar c) = lowerChar c :=
  lowerChar_congr (by decide) c

theorem isSpace_lowerChar (c : Char) : isSpace (lowerChar c) = isSpace c :=
  lowerChar_congr (by decide) c

theorem lowerChar_eq_iff {c d : Char} : lowerChar c = lowerChar d ↔ SameLetter c d := by
  constructor
  · intro same
    rcases lowerChar_cases c with first | first <;> rcases lowerChar_cases d with second | second
    · rw [first, second] at same
      exact same ▸ .refl c
    · rw [← same, first] at second
      exact .upper second
    · rw [same, second] at first
      exact .lower first
    · have unique : ∀ a ∈ letters, ∀ b ∈ letters, a.2 = b.2 → a.1 = b.1 := by decide
      have equal : c = d := unique _ first _ second same
      exact equal ▸ .refl c
  · intro alike
    cases alike with
    | refl => rfl
    | lower cases =>
      obtain ⟨first, second⟩ := lowerChar_of_mem_letters cases
      rw [first, second]
    | upper cases =>
      obtain ⟨first, second⟩ := lowerChar_of_mem_letters cases
      rw [first, second]

theorem sameUpToCase_iff {s t : String} :
    SameUpToCase s t ↔ s.toList.map lowerChar = t.toList.map lowerChar := by
  rw [SameUpToCase, ← List.forall₂_eq_eq_eq, List.forall₂_map_left_iff,
    List.forall₂_map_right_iff]
  simp only [lowerChar_eq_iff]

theorem sameIgnoringCase_iff {s t : String} : sameIgnoringCase s t = true ↔ SameUpToCase s t := by
  rw [sameIgnoringCase, beq_iff_eq, sameUpToCase_iff]

end Faultline.Text
