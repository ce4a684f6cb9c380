import Faultline.LogFilter.Pattern.Syntax
import Faultline.Text.Alphanumeric
import Faultline.Text.Ascii
import Faultline.Text.Blank

/-!
Reading regular expressions. Where one is `spaced`, white space and comments between its parts are
passed over, also between those of groups, classes and codes.
-/

namespace Faultline.Pattern

def skipGap (inComment : Bool) : List Char → List Char
  | [] => []
  | c :: rest =>
    if inComment then skipGap (c != '\n') rest
    else if Text.isSpace c then skipGap false rest
    else if c = '#' then skipGap true rest
    else c :: rest

def skip (spaced : Bool) (cs : List Char) : List Char := if spaced then skipGap false cs else cs

/-! ## Escapes -/

inductive Escape where
  | literal (literal : Literal)
  | shorthand (negated : Bool)
  | wordBoundary
  | anchor
  deriving DecidableEq, Repr

def codeLengths : List (Char × Nat) := [('x', 2), ('u', 4), ('U', 8)]

def controls : List (Char × Char) :=
  [('a', '\x07'), ('f', '\x0c'), ('t', '\t'), ('n', '\n'), ('r', '\r'), ('v', '\x0b')]

def readCode (spaced : Bool) : (left value : Nat) → List Char → Option (Nat × List Char)
  | 0, value, cs => some (value, cs)
  | left + 1, value, cs =>
    match skip spaced cs with
    | [] => none
    | digit :: rest => do readCode spaced left (value * 16 + (← Text.hexValue? digit)) rest

def readEscape (spaced : Bool) : List Char → Option (Escape × List Char)
  | [] => none
  | c :: rest =>
    match codeLengths.lookup c, controls.lookup c with
    | some length, _ => do
      let (code, rest) ← readCode spaced length 0 rest
      if code.isValidChar then some (.literal ⟨.ofNat code, c == 'x'⟩, rest) else none
    | none, some control => some (.literal ⟨control, false⟩, rest)
    | none, none =>
      if "dsw".toList.contains c then some (.shorthand false, rest)
      else if "DSW".toList.contains c then some (.shorthand true, rest)
      else if "bB<>".toList.contains c then some (.wordBoundary, rest)
      else if "Az".toList.contains c then some (.anchor, rest)
      else if c.isAlphanum || 0x80 ≤ c.toNat then none
      else some (.literal ⟨c, false⟩, rest)

/-! ## Classes in brackets -/

def classNames : List String :=
  ["alnum", "alpha", "ascii", "blank", "cntrl", "digit", "graph", "lower", "print", "punct",
    "space", "upper", "word", "xdigit"]

def readClassName : List Char → Option (CharClass × List Char)
  | ':' :: rest =>
    let (negated, rest) := match rest with
      | '^' :: rest => (true, rest)
      | rest => (false, rest)
    match rest.dropWhile (· ≠ ':') with
    | ':' :: ']' :: after =>
      if classNames.contains (.ofList (rest.takeWhile (· ≠ ':'))) then
        some (.named negated, after)
      else none
    | _ => none
  | _ => none

def readMember (spaced : Bool) : List Char → Option ((Literal ⊕ CharClass) × List Char)
  | [] => none
  | '\\' :: rest => do
    match ← readEscape spaced rest with
    | (.literal literal, rest) => some (.inl literal, rest)
    | (.shorthand negated, rest) => some (.inr (.shorthand negated), rest)
    | _ => none
  | c :: rest => some (.inl ⟨c, false⟩, rest)

/-- What comes after a dash: past white space, past the mark of a comment, but not past the comment
itself. If nothing does, it is what follows right away. -/
def peek (spaced : Bool) (cs : List Char) : Option Char :=
  if spaced then
    let next := match cs.dropWhile Text.isSpace with
      | '#' :: rest => rest.dropWhile Text.isSpace
      | rest => rest
    next.head?.or cs.head?
  else cs.head?

/-- Reads a member or a range, which may not run backwards. A dash at the end of a class or before
another dash makes no range. -/
def readRange (spaced : Bool) (cs : List Char) : Option (CharClass × List Char) := do
  let (first, rest) ← readMember spaced cs
  let alone := first.elim CharClass.char id
  match skip spaced rest with
  | '-' :: rest =>
    if peek spaced rest == some ']' || peek spaced rest == some '-' then
      return (alone, '-' :: rest)
    else match first, ← readMember spaced (skip spaced rest) with
      | .inl first, (.inl last, rest) =>
        if first.char ≤ last.char then some (.range first last, rest) else none
      | _, _ => none
  | rest => return (alone, rest)

def readNegation (spaced : Bool) (cs : List Char) : Bool × List Char :=
  match skip spaced cs with
  | '^' :: rest => (true, rest)
  | rest => (false, rest)

/-- Reads the inside of a class and its closing bracket. The `members` so far begin with the last
one, and come after the mark of an operation if there is something to the `left` of it. Dashes at
the start stand for themselves, and so does a closing bracket in the first place. The `fuel` bounds
the steps to come. -/
def readClass (spaced : Bool) : (fuel : Nat) → (atStart : Bool) → (left : Option CharClass) →
    (members : List CharClass) → List Char → Option (CharClass × List Char)
  | 0, _, _, _, _ => none
  | fuel + 1, atStart, left, members, cs =>
    let literal (c : Char) : CharClass := .char ⟨c, false⟩
    match skip spaced cs with
    | [] => none
    | '[' :: rest => do
      let (member, rest) ← match readClassName rest with
        | some named => some named
        | none =>
          let (negated, rest) := readNegation spaced rest
          (readClass spaced fuel true none [] rest).map fun (inner, rest) =>
            (.bracketed negated inner, rest)
      readClass spaced fuel false left (member :: members) rest
    | ']' :: rest =>
      if atStart && members.isEmpty then readClass spaced fuel false left [literal ']'] rest
      else some (.close left members, rest)
    | c :: rest =>
      if atStart && c == '-' then readClass spaced fuel true left (literal c :: members) rest
      else if "&-~".toList.contains c && rest.head? == some c then
        readClass spaced fuel false (some (.close left members)) [] (rest.drop 1)
      else do
        let (member, rest) ← readRange spaced (c :: rest)
        readClass spaced fuel false left (member :: members) rest

/-! ## Groups -/

/-- What an opening parenthesis begins: a group, which may have a name and modes of its own, or just
modes, which hold from then on. -/
inductive Opening where
  | group (name : Option String) (flags : Flags)
  | modes (flags : Flags)
  deriving DecidableEq, Repr

/-- Reads modes up to a colon, after which a group begins, or up to the end of the group. Both the
letters `seen` so far and the modes begin with the last one. -/
def readFlags (seen : List Char) (flags : Flags) : List Char → Option (Opening × List Char)
  | [] => none
  | c :: rest =>
    let dangling := seen.head? == some '-'
    if c = ':' then if dangling then none else some (.group none flags, rest)
    else if c = ')' then if dangling || seen.isEmpty then none else some (.modes flags, rest)
    else if seen.contains c then none
    else if c = '-' then readFlags (c :: seen) flags rest
    else if "imsUuRx".toList.contains c then
      readFlags (c :: seen) ((c, !seen.contains '-') :: flags) rest
    else none

def readName (cs : List Char) : Option (Opening × List Char) :=
  let isStart (c : Char) : Bool := c == '_' || Text.isAlphabetic c
  let isPart (c : Char) : Bool := "_.[]".toList.contains c || Text.isAlphanumeric c
  match cs.takeWhile (· ≠ '>'), cs.dropWhile (· ≠ '>') with
  | first :: name, '>' :: rest =>
    if isStart first && name.all isPart then
      some (.group (some (.ofList (first :: name))) [], rest)
    else none
  | _, _ => none

/-- Reads what follows an opening parenthesis. Looking ahead or behind is refused. -/
def readOpening : List Char → Option (Opening × List Char)
  | '?' :: '=' :: _ | '?' :: '!' :: _ | '?' :: '<' :: '=' :: _ | '?' :: '<' :: '!' :: _ => none
  | '?' :: 'P' :: '<' :: rest | '?' :: '<' :: rest => readName rest
  | '?' :: rest => readFlags [] [] rest
  | rest => some (.group none [], rest)

/-! ## Expressions -/

structure State where
  spaced : Bool
  names : List String
  deriving DecidableEq, Repr

def State.under (flags : Flags) (s : State) : State :=
  { s with spaced := (flags.lookup 'x').getD s.spaced }

def State.naming (name : Option String) (s : State) : Option State :=
  match name with
  | none => some s
  | some name => if s.names.contains name then none else some { s with names := name :: s.names }

def repeatLast : List Expr → Option (List Expr)
  | [] | .flags _ :: _ => none
  | part :: parts => some (.repeated part :: parts)

def readPart (spaced : Bool) : List Char → Option (Expr × List Char)
  | [] => none
  | '\\' :: rest => do
    match ← readEscape spaced rest with
    | (.literal literal, rest) => some (.literal literal, rest)
    | (.shorthand negated, rest) => some (.shorthand negated, rest)
    | (.wordBoundary, rest) => some (.wordBoundary, rest)
    | (.anchor, rest) => some (.anchor, rest)
  | '.' :: rest => some (.anyChar, rest)
  | '^' :: rest | '$' :: rest => some (.anchor, rest)
  | c :: rest => some (.literal ⟨c, false⟩, rest)

/-- Reads an expression up to the end of its group or of the text. The branches before the current
one and the parts of that one begin with the last. A repetition with bounds has no place here, for
its closing brace would end the field. The `fuel` bounds the steps to come. -/
def readExpr : (fuel : Nat) → State → (branches parts : List Expr) → List Char →
    Option (Expr × State × List Char)
  | 0, _, _, _, _ => none
  | fuel + 1, s, branches, parts, cs =>
    match skip s.spaced cs with
    | [] => some (.close branches parts, s, [])
    | ')' :: rest => some (.close branches parts, s, ')' :: rest)
    | '|' :: rest => readExpr fuel s (.ofParts parts :: branches) [] rest
    | '(' :: rest => do
      match ← readOpening (skip s.spaced rest) with
      | (.modes flags, rest) => readExpr fuel (s.under flags) branches (.flags flags :: parts) rest
      | (.group name flags, rest) =>
        match ← readExpr fuel (← (s.under flags).naming name) [] [] rest with
        | (inner, after, ')' :: rest) =>
          readExpr fuel { s with names := after.names } branches (.group flags inner :: parts) rest
        | _ => none
    | '[' :: rest => do
      let (negated, rest) := readNegation s.spaced rest
      let (inner, rest) ← readClass s.spaced (rest.length + 1) true none [] rest
      readExpr fuel s branches (.charClass negated inner :: parts) rest
    | '?' :: rest | '*' :: rest | '+' :: rest => do
      let lazy := rest.head? == some '?'
      readExpr fuel s branches (← repeatLast parts) (if lazy then rest.drop 1 else rest)
    | '\x7b' :: _ => none
    | rest => do
      let (part, rest) ← readPart s.spaced rest
      readExpr fuel s branches (part :: parts) rest

def read? (text : String) : Option Expr :=
  match readExpr (text.length + 1) ⟨false, []⟩ [] [] text.toList with
  | some (expr, _, []) => some expr
  | _ => none

end Faultline.Pattern
