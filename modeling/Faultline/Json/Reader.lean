import Faultline.Decimal.Stepwise
import Faultline.Json.Basic
import Faultline.Text.Ascii

/-!
Reading JSON text from left to right. `Json.parse` reads one value. `Json.readDocument` also says
how far a text could be read, for readers that judge the members of an object as they come.
-/

namespace Faultline.Json

inductive Defect where
  | truncated
  | malformed
  deriving DecidableEq, Repr

/-- Arrays and objects may be nested one less than this. -/
def nestingLimit : Nat := 128

def isLayout (c : Char) : Bool := c == ' ' || c == '\n' || c == '\t' || c == '\r'

def skipLayout (cs : List Char) : List Char := cs.dropWhile isLayout

def missing (rest : List Char) : Defect := if rest.isEmpty then .truncated else .malformed

def readWord : List Char → List Char → Except Defect (List Char)
  | [], cs => .ok cs
  | _ :: _, [] => .error .truncated
  | w :: ws, c :: cs => if w = c then readWord ws cs else .error .malformed

/-- Where the reader of a string is: between characters, after a backslash, inside the four digits
of an escape (the first of a surrogate pair in `high`), or between the escapes of a pair. -/
inductive StringState where
  | plain
  | escaped
  | digits (high : Option Nat) (count value : Nat)
  | pairBackslash (high : Nat)
  | pairLetter (high : Nat)

def isHighSurrogate (n : Nat) : Bool := 0xD800 ≤ n && n ≤ 0xDBFF

def isLowSurrogate (n : Nat) : Bool := 0xDC00 ≤ n && n ≤ 0xDFFF

def simpleEscape? : Char → Option Char
  | '"' => some '"'
  | '\\' => some '\\'
  | '/' => some '/'
  | 'b' => some '\x08'
  | 'f' => some '\x0c'
  | 'n' => some '\n'
  | 'r' => some '\r'
  | 't' => some '\t'
  | _ => none

def byteCount (cs : List Char) : Nat := (cs.take 4).foldl (fun count c => count + c.utf8Size) 0

/-- Reads the inside of a string and its closing quote; `acc` holds the characters so far, last
first. Four hexadecimal digits have to fit into the rest of the text before they are looked at. -/
def readString : StringState → List Char → List Char → Except Defect (String × List Char)
  | _, _, [] => .error .truncated
  | .plain, acc, c :: cs =>
    if c = '"' then .ok (.ofList acc.reverse, cs)
    else if c = '\\' then readString .escaped acc cs
    else if c.toNat < 32 then .error .malformed
    else readString .plain (c :: acc) cs
  | .escaped, acc, c :: cs =>
    if c = 'u' then readString (.digits none 0 0) acc cs
    else match simpleEscape? c with
      | some d => readString .plain (d :: acc) cs
      | none => .error .malformed
  | .digits high count value, acc, c :: cs =>
    if count + byteCount (c :: cs) < 4 then .error .truncated
    else match Text.hexValue? c with
      | none => .error .malformed
      | some digit =>
        let value := value * 16 + digit
        if count < 3 then readString (.digits high (count + 1) value) acc cs
        else match high with
          | none =>
            if isLowSurrogate value then .error .malformed
            else if isHighSurrogate value then readString (.pairBackslash value) acc cs
            else readString .plain (.ofNat value :: acc) cs
          | some first =>
            if isLowSurrogate value then
              readString .plain
                (.ofNat (0x10000 + (first - 0xD800) * 1024 + (value - 0xDC00)) :: acc) cs
            else .error .malformed
  | .pairBackslash high, acc, c :: cs =>
    if c = '\\' then readString (.pairLetter high) acc cs else .error .malformed
  | .pairLetter high, acc, c :: cs =>
    if c = 'u' then readString (.digits (some high) 0 0) acc cs else .error .malformed

/-- An integer of 64 bits, with or without a sign; any other number is a decimal. -/
def ofInteger (negative : Bool) (digits : List Char) : Option Json :=
  let n := Nat.ofDigitChars 10 digits 0
  if negative then
    if 0 < n ∧ n ≤ Nat.pow 2 63 then some (.integer (-n))
    else (Decimal.stepwise? true digits [] 0).map .decimal
  else if n < Nat.pow 2 64 then some (.integer n)
  else (Decimal.stepwise? false digits [] 0).map .decimal

def readExponent (negative : Bool) (whole fraction : List Char) (cs : List Char) :
    Except Defect (Json × List Char) :=
  let (minus, cs) := match cs with
    | '-' :: cs => (true, cs)
    | '+' :: cs => (false, cs)
    | cs => (false, cs)
  let digits := cs.takeWhile Char.isDigit
  let rest := cs.dropWhile Char.isDigit
  if digits.isEmpty then .error (missing rest)
  else
    let size : Int := Nat.ofDigitChars 10 digits 0
    match Decimal.stepwise? negative whole fraction (if minus then -size else size) with
    | some d => .ok (.decimal d, rest)
    | none => .error .malformed

def readUnsigned (negative : Bool) (cs : List Char) : Except Defect (Json × List Char) :=
  let whole := cs.takeWhile Char.isDigit
  let rest := cs.dropWhile Char.isDigit
  if whole.isEmpty then .error (missing rest)
  else if whole.head? = some '0' ∧ whole.length ≠ 1 then .error .malformed
  else match rest with
    | '.' :: more =>
      let fraction := more.takeWhile Char.isDigit
      let rest := more.dropWhile Char.isDigit
      if fraction.isEmpty then .error (missing rest)
      else match rest with
        | 'e' :: cs | 'E' :: cs => readExponent negative whole fraction cs
        | rest => match Decimal.stepwise? negative whole fraction 0 with
          | some d => .ok (.decimal d, rest)
          | none => .error .malformed
    | 'e' :: cs | 'E' :: cs => readExponent negative whole [] cs
    | rest => match ofInteger negative whole with
      | some n => .ok (n, rest)
      | none => .error .malformed

def readNumber : List Char → Except Defect (Json × List Char)
  | '-' :: cs => readUnsigned true cs
  | cs => readUnsigned false cs

/-- Why the members of an object end: after the closing brace, or at a defect. The name read last,
if its value is not complete, stands with whether that value began as an array or object. -/
inductive Ending where
  | closed (rest : List Char)
  | broken (defect : Defect) (pending : Option (String × Bool))

def opensCollection (cs : List Char) : Bool :=
  match skipLayout cs with
  | '[' :: _ | '\x7b' :: _ => true
  | _ => false

def nextItem (first : Bool) (cs : List Char) : Except Defect (List Char) :=
  if first then .ok cs
  else match cs with
    | ',' :: rest => match skipLayout rest with
      | [] => .error .truncated
      | ']' :: _ => .error .malformed
      | rest => .ok rest
    | _ => .error .malformed

def nextMember (first : Bool) (cs : List Char) : Except Defect (List Char) :=
  if first then .ok cs
  else match cs with
    | ',' :: rest => .ok (skipLayout rest)
    | _ => .error .malformed

def readName : List Char → Except Ending (String × List Char)
  | [] => .error (.broken .truncated none)
  | '"' :: rest => match readString .plain [] rest with
    | .error defect => .error (.broken defect none)
    | .ok (name, rest) => match skipLayout rest with
      | ':' :: rest => .ok (name, rest)
      | rest => .error (.broken (missing rest) (some (name, false)))
  | _ => .error (.broken .malformed none)

mutual
/-- Reads a value. The `fuel` bounds the steps of the reader, and `depth` the nesting that is
left. -/
def readValue : (fuel depth : Nat) → List Char → Except Defect (Json × List Char)
  | 0, _, _ => .error .truncated
  | fuel + 1, depth, cs =>
    match skipLayout cs with
    | [] => .error .truncated
    | c :: rest =>
      if c = 'n' then (readWord ['u', 'l', 'l'] rest).map (.null, ·)
      else if c = 't' then (readWord ['r', 'u', 'e'] rest).map (.bool true, ·)
      else if c = 'f' then (readWord ['a', 'l', 's', 'e'] rest).map (.bool false, ·)
      else if c = '"' then (readString .plain [] rest).map fun (s, rest) => (.string s, rest)
      else if c = '[' then
        if depth ≤ 1 then .error .malformed
        else (readItems fuel (depth - 1) true rest).map fun (items, rest) => (.array items, rest)
      else if c = '\x7b' then
        if depth ≤ 1 then .error .malformed
        else match readMembers fuel (depth - 1) true rest with
          | (members, .closed rest) => .ok (.object (resolve members), rest)
          | (_, .broken defect _) => .error defect
      else if c = '-' ∨ c.isDigit then readNumber (c :: rest)
      else .error .malformed

def readItems : (fuel depth : Nat) → (first : Bool) → List Char →
    Except Defect (List Json × List Char)
  | 0, _, _, _ => .error .truncated
  | fuel + 1, depth, first, cs =>
    match skipLayout cs with
    | [] => .error .truncated
    | ']' :: rest => .ok ([], rest)
    | cs => do
      let (item, rest) ← readValue fuel depth (← nextItem first cs)
      let (items, rest) ← readItems fuel depth false rest
      .ok (item :: items, rest)

/-- Reads the members up to the closing brace, and keeps those that are complete at a defect. -/
def readMembers : (fuel depth : Nat) → (first : Bool) → List Char →
    List (String × Json) × Ending
  | 0, _, _, _ => ([], .broken .truncated none)
  | fuel + 1, depth, first, cs =>
    match skipLayout cs with
    | [] => ([], .broken .truncated none)
    | '\x7d' :: rest => ([], .closed rest)
    | cs => match nextMember first cs with
      | .error defect => ([], .broken defect none)
      | .ok cs => match readName cs with
        | .error ending => ([], ending)
        | .ok (name, rest) => match readValue fuel depth rest with
          | .error defect => ([], .broken defect (some (name, opensCollection rest)))
          | .ok (value, rest) =>
            let (members, ending) := readMembers fuel depth false rest
            ((name, value) :: members, ending)
end

def trailing (rest : List Char) : Option Defect :=
  if (skipLayout rest).isEmpty then none else some .malformed

def parse (text : String) : Except Defect Json := do
  let cs := text.toList
  let (value, rest) ← readValue (cs.length + 1) nestingLimit cs
  match trailing rest with
  | none => .ok value
  | some defect => .error defect

/-- What a text holds as far as it can be read. The members of an object are as written, with
repeated names. -/
inductive Document where
  | nothing (defect : Defect)
  | list
  | scalar (value : Json)
  | members (entries : List (String × Json)) (afterwards : Option Defect)
  | brokenMembers (entries : List (String × Json)) (pending : Option (String × Bool))
    (defect : Defect)

def readDocument (text : String) : Document :=
  let cs := text.toList
  match skipLayout cs with
  | '[' :: _ => .list
  | '\x7b' :: rest => match readMembers (cs.length + 1) (nestingLimit - 1) true rest with
    | (entries, .closed rest) => .members entries (trailing rest)
    | (entries, .broken defect pending) => .brokenMembers entries pending defect
  | cs => match readValue (cs.length + 1) nestingLimit cs with
    | .ok (value, _) => .scalar value
    | .error defect => .nothing defect

end Faultline.Json
