import Faultline.Settings.Layers
import Faultline.Settings.Scalar
import Faultline.Text.Blank
import Faultline.Text.Bytes
import Faultline.Text.Lines

/-!
Settings from environment variables. The name of a variable, less its prefix, is the path of the
setting, and its value is read as a value if it is one, and else taken as text.
-/

namespace Faultline.Variables

def isLayout (c : Char) : Bool :=
  c == ' ' || c == '\t' || c == '\n' || c == '\x0c' || c == '\r'

def skipLayout (cs : List Char) : List Char := cs.dropWhile isLayout

def isSeparator (c : Char) : Bool :=
  c == ',' || c == '\x7b' || c == '\x7d' || c == '[' || c == ']'

def isNameChar (c : Char) : Bool := c.isAlphanum || c == '_' || c == '-'

def simpleEscape? : Char → Option Char
  | '"' => some '"'
  | '\\' => some '\\'
  | 'b' => some '\x08'
  | 'f' => some '\x0c'
  | 'n' => some '\n'
  | 'r' => some '\r'
  | 't' => some '\t'
  | _ => none

def scalar? (code : Nat) : Option Char :=
  if code.isValidChar then some (.ofNat code) else none

def isQuotable (c : Char) : Bool := c == '\t' || (0x20 ≤ c.toNat && c.toNat != 0x7F)

/-- Reads on inside a quoted text that has escapes, and its closing quote; `code` holds how many
digits of an escape are to come, and its value so far. -/
def readEscaped : (escaped : Bool) → (code : Option (Nat × Nat)) → List Char → List Char →
    Option (String × List Char)
  | _, _, _, [] => none
  | _, some (left, value), acc, c :: cs => do
    let value := value * 16 + (← Text.hexValue? c)
    if left ≤ 1 then readEscaped false none ((← scalar? value) :: acc) cs
    else readEscaped false (some (left - 1, value)) acc cs
  | true, none, acc, c :: cs =>
    if c = 'u' then readEscaped false (some (4, 0)) acc cs
    else if c = 'U' then readEscaped false (some (8, 0)) acc cs
    else do readEscaped false none ((← simpleEscape? c) :: acc) cs
  | false, none, acc, c :: cs =>
    if c = '"' then some (.ofList acc.reverse, cs)
    else if c = '\\' then readEscaped true none acc cs
    else if isQuotable c then readEscaped false none (c :: acc) cs
    else none

/-- Reads the inside of a quoted text and its closing quote. What stands before the first escape is
cut to as many bytes as it has characters. -/
def readQuoted (cs : List Char) : Option (String × List Char) :=
  let isPlain (c : Char) : Bool := isQuotable c && c != '"' && c != '\\'
  let plain := cs.takeWhile isPlain
  match cs.dropWhile isPlain with
  | '"' :: rest => some (.ofList plain, rest)
  | '\\' :: rest => readEscaped true none (Text.fitting plain.length plain).reverse rest
  | _ => none

def readName : List Char → Option (String × List Char)
  | '"' :: rest => readQuoted rest
  | cs =>
    let name := cs.takeWhile isNameChar
    if name.isEmpty then none else some (.ofList name, cs.dropWhile isNameChar)

def plain (text : List Char) : Setting :=
  match (if text.contains '.' then Scalar.floating? text else none), Scalar.integer? text with
  | some x, _ => .floating x
  | none, some n => .integer (if text.head? = some '-' then .signed else .unsigned) n
  | none, none => .text (.ofList text)

mutual
def readValue : (fuel : Nat) → List Char → Option (Setting × List Char)
  | 0, _ => none
  | fuel + 1, cs => do
    let (value, rest) ← match skipLayout cs with
      | 't' :: 'r' :: 'u' :: 'e' :: rest => some (.flag true, rest)
      | 'f' :: 'a' :: 'l' :: 's' :: 'e' :: rest => some (.flag false, rest)
      | '"' :: rest => (readQuoted rest).map fun (s, rest) => (.text s, rest)
      | '\'' :: c :: '\'' :: rest => some (.character c, rest)
      | '\'' :: _ => none
      | '[' :: rest => (readItems fuel rest).map fun (items, rest) => (.list items, rest)
      | '\x7b' :: rest =>
        (readMembers fuel rest).map fun (members, rest) => (.table (Setting.resolve members), rest)
      | cs => some (plain (Text.trimChars (cs.takeWhile (!isSeparator ·))),
          cs.dropWhile (!isSeparator ·))
    some (value, skipLayout rest)

def readItems : (fuel : Nat) → List Char → Option (List Setting × List Char)
  | 0, _ => none
  | _, ']' :: rest => some ([], rest)
  | fuel + 1, cs => do
    let (item, rest) ← readValue fuel cs
    match rest with
    | ']' :: rest => some ([item], rest)
    | ',' :: rest =>
      let (items, rest) ← readItems fuel rest
      some (item :: items, rest)
    | _ => none

def readMembers : (fuel : Nat) → List Char → Option (List (String × Setting) × List Char)
  | 0, _ => none
  | _, '\x7d' :: rest => some ([], rest)
  | fuel + 1, cs => do
    let (name, rest) ← readName (skipLayout cs)
    match skipLayout rest with
    | '=' :: rest =>
      let (value, rest) ← readValue fuel rest
      match rest with
      | '\x7d' :: rest => some ([(name, value)], rest)
      | ',' :: rest =>
        let (members, rest) ← readMembers fuel rest
        some ((name, value) :: members, rest)
      | _ => none
    | _ => none
end

def value (text : String) : Setting :=
  match readValue (text.length + 1) text.toList with
  | some (value, []) => value
  | _ => .text text

def namePrefix : String := "PROBLEMKIT__"

/-- Two underscores separate the names along a path, and so does a point. -/
def dotted : List Char → List Char
  | '_' :: '_' :: rest => '.' :: dotted rest
  | c :: rest => c :: dotted rest
  | [] => []

/-- The path of the setting that a variable gives. The case of letters does not count, nor does
white space around the name of the variable or the path, and a name along the path is not
empty. -/
def path? (name : String) : Option (List String) :=
  let chars := (Text.trimChars name.toList).map Text.lowerChar
  let start := namePrefix.toList.map Text.lowerChar
  if start.isPrefixOf chars then
    let names := Text.splitOn '.' (Text.trimChars (dotted (chars.drop start.length)))
    if names.any List.isEmpty then none else some (names.map .ofList)
  else none

def nested : List String → Setting → Setting
  | [], value => value
  | name :: path, value => .table [(name, nested path value)]

/-- The settings that variables give; those of other names are ignored. A variable that is given
again takes the later value. -/
def layer (given : List (String × String)) : Setting :=
  let resolved := Setting.resolve (given.map fun (name, text) => (name, value text))
  Layers.merged (resolved.filterMap fun (name, value) => (path? name).map (nested · value))

end Faultline.Variables
