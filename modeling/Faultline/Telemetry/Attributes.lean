import Faultline.Text.Blank
import Faultline.Text.Lines

/-!
Span attributes. A text attribute holds normalized text, and a text that is blank gives none.
-/

namespace Faultline.Telemetry

inductive AttributeValue where
  | text (value : String)
  | integer (value : Int)
  deriving DecidableEq, Repr

def AttributeValue.text? : AttributeValue → Option String
  | .text value => some value
  | .integer _ => none

abbrev Attributes := List (String × AttributeValue)

def joinDistinct : (previous : Option (List Char)) → List (List Char) → List Char
  | _, [] => []
  | none, line :: rest => line ++ joinDistinct (some line) rest
  | some previous, line :: rest =>
    if line = previous then joinDistinct (some previous) rest
    else '\n' :: line ++ joinDistinct (some line) rest

/-- One line break of one kind, no line twice in a row, no white space at the end. -/
def normalize (s : String) : String :=
  .ofList (Text.trimEnd (joinDistinct none (Text.splitOn '\n' (Text.unifyBreaks s.toList))))

namespace Attributes

def text (key value : String) : Attributes :=
  let value := normalize value
  if value.isEmpty then [] else [(key, .text value)]

def text? (key : String) : Option String → Attributes
  | some value => text key value
  | none => []

def integer (key : String) (value : Int) : Attributes := [(key, .integer value)]

def integer? (key : String) : Option Int → Attributes
  | some value => integer key value
  | none => []

def get? (attributes : Attributes) (key : String) : Option AttributeValue :=
  (attributes.find? fun entry => entry.1 == key).map (·.2)

def textOf (attributes : Attributes) (key : String) : String :=
  ((attributes.get? key).bind AttributeValue.text?).getD ""

end Attributes
end Faultline.Telemetry
