import Faultline.Text.Ascii
import Faultline.Text.Visible

/-!
Descriptions of values for operators: quoted texts, lists and records. Two texts have the same
quoted form only if they are equal.
-/

namespace Faultline.Text

def codePoint (c : Char) : List Char :=
  ['\\', 'u', '\x7b'] ++ (Nat.toDigits 16 c.toNat) ++ ['\x7d']

def quoteChar (c : Char) : List Char :=
  if c = '"' then ['\\', '"']
  else if c = '\\' then ['\\', '\\']
  else if c = '\x00' then ['\\', '0']
  else if c = '\t' then ['\\', 't']
  else if c = '\n' then ['\\', 'n']
  else if c = '\r' then ['\\', 'r']
  else if isVisible c then [c]
  else codePoint c

def quoted (s : String) : String := .ofList ('"' :: s.toList.flatMap quoteChar ++ ['"'])

def bracketed (items : List String) : String := "[" ++ ", ".intercalate items ++ "]"

def quotedList (items : List String) : String := bracketed (items.map quoted)

def record (name : String) (fields : List (String × String)) (more : Bool) : String :=
  let shown := fields.map fun field => field.1 ++ ": " ++ field.2
  name ++ " \x7b " ++ ", ".intercalate (if more then shown ++ [".."] else shown) ++ " \x7d"

def flag (b : Bool) : String := if b then "true" else "false"

end Faultline.Text
