import Faultline.Journal
import Faultline.Problem.Basic
import Faultline.Text.Lines

/-!
Limits on extension members. Of the first `maxExtensions` members those stay which the validator
accepts, whose name is not reserved and whose value is not nested too deep; long texts are cut.
-/

namespace Faultline

structure Limits where
  maxExtensions : Nat
  maxStringLength : Nat
  maxDepth : Nat
  validator : Option (String → Json → Bool)

namespace Limits

def default : Limits := ⟨20, 2048, 2, none⟩

instance : Inhabited Limits := ⟨default⟩

def withValidator (limits : Limits) (validator : Option (String → Json → Bool)) : Limits :=
  { limits with validator := validator.or limits.validator }

mutual
/-- The value with its texts cut, unless collections are nested too deep inside `depth` others. -/
def fit (limits : Limits) (depth : Nat) : Json → Option Json
  | .string s => some (.string (Text.truncate limits.maxStringLength s))
  | .array items =>
    if depth < limits.maxDepth then (fitItems limits (depth + 1) items).map .array else none
  | .object members =>
    if depth < limits.maxDepth then (fitMembers limits (depth + 1) members).map .object else none
  | value => some value

def fitItems (limits : Limits) (depth : Nat) : List Json → Option (List Json)
  | [] => some []
  | item :: rest => do return (← fit limits depth item) :: (← fitItems limits depth rest)

def fitMembers (limits : Limits) (depth : Nat) : List (String × Json) →
    Option (List (String × Json))
  | [] => some []
  | (key, value) :: rest => do
    return (key, ← fit limits depth value) :: (← fitMembers limits depth rest)
end

def vet (limits : Limits) (key : String) (value : Json) : Recorded Bool :=
  match limits.validator with
  | some accepts => Recorded.ask accepts key value
  | none => return true

/-- What stays of one member. The validator is asked first, and about the value as it was given. -/
def judge (limits : Limits) (key : String) (value : Json) : Recorded (Option Json) := do
  if !(← limits.vet key value) then
    Recorded.log .debug "extension vetoed by custom validator" [("key", .text key)]
    return none
  else if Problem.isReserved key then return none
  else match limits.fit 0 value with
    | some kept => return some kept
    | none => do
      Recorded.log .debug "extension dropped: unsupported shape"
        [("key", .text key), ("max_depth", .integer limits.maxDepth)]
      return none

def judgeAll (limits : Limits) (kept : Members) : List (String × Json) → Recorded Members
  | [] => return kept
  | (key, value) :: rest => do
    match ← limits.judge key value with
    | some value => limits.judgeAll (kept.insert key value) rest
    | none => limits.judgeAll kept rest

def validate (limits : Limits) (extensions : Members) : Recorded Members := do
  let kept ← limits.judgeAll .empty (extensions.entries.take limits.maxExtensions)
  let dropped := extensions.entries.length - limits.maxExtensions
  if 0 < dropped then
    Recorded.log .debug "extensions trimmed"
      [("dropped", .integer dropped), ("limit", .integer limits.maxExtensions)]
  return kept

end Limits
end Faultline
