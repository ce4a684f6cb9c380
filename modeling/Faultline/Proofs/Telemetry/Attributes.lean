import Faultline.Proofs.Telemetry.Normalize
import Faultline.Proofs.Text.Plain

/-! Looking up attributes by key, and those with keys of one sort. -/

namespace Faultline.Telemetry.Attributes

variable {key other : String}

@[simp] theorem get?_append (a b : Attributes) (key : String) :
    get? (a ++ b) key = (get? a key).or (get? b key) := by
  unfold get?
  rw [List.find?_append, Option.map_or]

def told? (value : String) : Option AttributeValue :=
  if Text.isBlank value then none else some (.text (normalize value))

theorem told?_eq_some_iff {value : String} {told : AttributeValue} :
    told? value = some told ↔ Text.isBlank value = false ∧ told = .text (normalize value) := by
  unfold told?
  cases Text.isBlank value <;> simp [eq_comm]

theorem text_eq (key value : String) :
    text key value = (told? value).toList.map (Prod.mk key) := by
  have empty : (normalize value).isEmpty = Text.isBlank value := by
    rw [Bool.eq_iff_iff, String.isEmpty_iff, normalize_eq_empty_iff]
  unfold text told?
  dsimp only
  rw [empty]
  cases Text.isBlank value <;> rfl

@[simp] theorem get?_text (key value : String) : get? (text key value) key = told? value := by
  rw [text_eq]
  cases told? value <;> simp [get?]

@[simp] theorem get?_text? (key : String) (value : Option String) :
    get? (text? key value) key = value.bind told? := by
  cases value with
  | none => rfl
  | some value => exact get?_text key value

theorem get?_text_self {value : String} (plain : Text.IsPlain value) :
    get? (text key value) key = some (.text value) := by
  rw [get?_text, told?, plain.isBlank, plain.normalize]
  rfl

@[simp] theorem get?_text_of_ne (different : key ≠ other) (value : String) :
    get? (text key value) other = none := by
  unfold get? text
  dsimp only
  split <;> simp [different]

@[simp] theorem get?_text?_of_ne (different : key ≠ other) (value : Option String) :
    get? (text? key value) other = none := by
  cases value with
  | none => rfl
  | some value => exact get?_text_of_ne different value

@[simp] theorem get?_integer_self (value : Int) :
    get? (integer key value) key = some (.integer value) := by
  simp [get?, integer]

@[simp] theorem get?_integer_of_ne (different : key ≠ other) (value : Int) :
    get? (integer key value) other = none := by
  simp [get?, integer, different]

def under (sort : String → Bool) (attributes : Attributes) : Attributes :=
  attributes.filter fun entry => sort entry.1

variable {sort : String → Bool}

@[simp] theorem under_append (a b : Attributes) :
    under sort (a ++ b) = under sort a ++ under sort b := List.filter_append ..

theorem under_other {a : Attributes} (none : under sort a = []) :
    under (fun key => !sort key) a = a := by
  rw [under, List.filter_eq_nil_iff] at none
  exact List.filter_eq_self.2 fun entry member => by simpa using none entry member

theorem under_other_eq_nil {a : Attributes} (all : under sort a = a) :
    under (fun key => !sort key) a = [] := by
  rw [under, List.filter_eq_self] at all
  exact List.filter_eq_nil_iff.2 fun entry member => by simpa using all entry member

@[simp] theorem under_text (key value : String) :
    under sort (text key value) = if sort key then text key value else [] := by
  rw [text_eq]
  cases told? value with
  | none => exact (ite_self []).symm
  | some told => cases found : sort key <;> simp [under, found]

@[simp] theorem under_text? (key : String) (value : Option String) :
    under sort (text? key value) = if sort key then text? key value else [] := by
  cases value with
  | none => exact (ite_self []).symm
  | some value => exact under_text key value

@[simp] theorem under_integer (key : String) (value : Int) :
    under sort (integer key value) = if sort key then integer key value else [] := by
  cases found : sort key <;> simp [under, integer, found]

@[simp] theorem under_integer? (key : String) (value : Option Int) :
    under sort (integer? key value) = if sort key then integer? key value else [] := by
  cases value with
  | none => exact (ite_self []).symm
  | some value => exact under_integer key value

end Faultline.Telemetry.Attributes
