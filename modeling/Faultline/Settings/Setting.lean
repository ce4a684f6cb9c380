import Faultline.Decimal.Floating
import Faultline.Json.Basic

/-!
Values in settings. They are those of JSON and a few more: integers keep how they were written,
there are integers beyond 64 bits, infinities, and single characters.
-/

namespace Faultline

/-- How an integer is held: as an unsigned or a signed one of 64 bits, or as one of 128 bits. -/
inductive IntegerForm where
  | unsigned
  | signed
  | wide
  deriving DecidableEq, Repr

inductive Setting where
  | empty
  | flag (value : Bool)
  | integer (form : IntegerForm) (value : Int)
  | floating (value : Floating)
  | character (value : Char)
  | text (value : String)
  | list (items : List Setting)
  | table (members : List (String × Setting))
  deriving Repr

namespace Setting

instance : Inhabited Setting := ⟨.empty⟩

mutual
def ofJson : Json → Setting
  | .null => empty
  | .bool b => flag b
  | .integer n => integer (if n < 0 then .signed else .unsigned) n
  | .decimal d => floating (.finite d)
  | .string s => text s
  | .array items => list (ofItems items)
  | .object members => table (ofMembers members)

def ofItems : List Json → List Setting
  | [] => []
  | item :: rest => ofJson item :: ofItems rest

def ofMembers : List (String × Json) → List (String × Setting)
  | [] => []
  | (name, value) :: rest => (name, ofJson value) :: ofMembers rest
end

def find? (members : List (String × Setting)) (name : String) : Option Setting :=
  (members.find? fun member => member.1 == name).map (·.2)

def upsert (name : String) (value : Setting) :
    List (String × Setting) → List (String × Setting)
  | [] => [(name, value)]
  | (k, v) :: rest => if k = name then (k, value) :: rest else (k, v) :: upsert name value rest

/-- The members with the repetitions of a name resolved: the last value counts. -/
def resolve (members : List (String × Setting)) : List (String × Setting) :=
  members.foldl (fun known member => upsert member.1 member.2 known) []

mutual
def nesting : Setting → Nat
  | list items => nestingItems items + 1
  | table members => nestingMembers members + 1
  | _ => 0

def nestingItems : List Setting → Nat
  | [] => 0
  | item :: rest => max item.nesting (nestingItems rest)

def nestingMembers : List (String × Setting) → Nat
  | [] => 0
  | (_, value) :: rest => max value.nesting (nestingMembers rest)
end

end Setting
end Faultline
