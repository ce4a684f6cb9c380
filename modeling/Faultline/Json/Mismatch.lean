import Faultline.Json.Printer
import Faultline.Text.Quoted

/-! Why a value is not the value that was asked for, and how that is said. -/

namespace Faultline

inductive Mismatch (α : Type) where
  | invalidType (found : α) (expected : String)
  | invalidValue (found : α) (expected : String)
  | invalidLength (length : Nat) (expected : String)
  | unknownField (name : String) (known : List String)
  | unknownVariant (name : String) (known : List String)
  | missingField (name : String)
  | duplicateField (name : String)
  | refused (reason : String)
  deriving DecidableEq

namespace Mismatch

def ticked (s : String) : String := "\x60" ++ s ++ "\x60"

def oneOf : List String → String
  | [a] => ticked a
  | [a, b] => ticked a ++ " or " ++ ticked b
  | names => "one of " ++ ", ".intercalate (names.map ticked)

def message {α : Type} (describe : α → String) : Mismatch α → String
  | invalidType found expected => "invalid type: " ++ describe found ++ ", expected " ++ expected
  | invalidValue found expected => "invalid value: " ++ describe found ++ ", expected " ++ expected
  | invalidLength length expected =>
    "invalid length " ++ Text.numeral length ++ ", expected " ++ expected
  | unknownField name known => "unknown field " ++ ticked name ++ ", expected " ++ oneOf known
  | unknownVariant name known => "unknown variant " ++ ticked name ++ ", expected " ++ oneOf known
  | missingField name => "missing field " ++ ticked name
  | duplicateField name => "duplicate field " ++ ticked name
  | refused reason => reason

end Mismatch

def Json.describe : Json → String
  | .null => "null"
  | .bool b => "boolean " ++ Mismatch.ticked (Text.flag b)
  | .integer n => "integer " ++ Mismatch.ticked (Text.numeral n)
  | .decimal d => "floating point " ++ Mismatch.ticked (.ofList d.jsonText)
  | .string s => "string " ++ Text.quoted s
  | .array _ => "sequence"
  | .object _ => "map"

end Faultline
