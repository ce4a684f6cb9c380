import Faultline.Text.Ascii
import Faultline.Yaml.Place

/-!
The scalars of YAML as they are written: plain ones, and those in single or double quotes. They may
go on over several lines, which are then folded.
-/

namespace Faultline.Yaml

/-- White space within a scalar: that on one line, or the breaks between lines, the first one apart
unless it was escaped. Both lists begin with what was read last. -/
structure Gap where
  blanks : List Char
  broken : Bool
  first : Option Char
  more : List Char
  deriving DecidableEq, Repr

namespace Gap

def empty : Gap := ⟨[], false, none, []⟩

def escaped : Gap := ⟨[], true, none, []⟩

def isEmpty (gap : Gap) : Bool := gap.blanks.isEmpty && !gap.broken

def push (gap : Gap) (c : Char) : Gap :=
  if isBreak c then
    if gap.broken then { gap with more := c :: gap.more } else ⟨[], true, some c, []⟩
  else if gap.broken then gap else { gap with blanks := c :: gap.blanks }

/-- What the gap reads as, the last character first: a single line feed is folded into a space, and
before others it is left out. -/
def folded (gap : Gap) : List Char :=
  if !gap.broken then gap.blanks
  else match gap.first with
    | some '\n' => if gap.more.isEmpty then [' '] else gap.more
    | some c => gap.more ++ [c]
    | none => gap.more

end Gap

structure Scanned where
  text : String
  place : Place
  rest : List Char
  broken : Bool

def isFlowMark (c : Char) : Bool := ",[]\x7b\x7d".toList.contains c

def refusesColon : List Char → Bool
  | [] => false
  | c :: _ => c == '?' || isFlowMark c

/-- Reads a plain scalar, whose lines have at least the given indentation unless it is within
brackets. -/
def readPlain (inFlow : Bool) (indent : Nat) (place : Place) (gap : Gap) (acc : List Char) :
    List Char → Option Scanned
  | [] => some ⟨.ofList acc.reverse, place, [], gap.broken⟩
  | c :: rest =>
    let done : Option Scanned := some ⟨.ofList acc.reverse, place, c :: rest, gap.broken⟩
    if isBlank c || isBreak c then
      if c == '\t' && gap.broken && place.column < indent then none
      else readPlain inFlow indent (place.after c) (gap.push c) acc rest
    else if !gap.isEmpty &&
        ((!inFlow && place.column < indent) || place.isMarker (c :: rest) || c == '#') then done
    else if inFlow && c == ':' && refusesColon rest then none
    else if (c == ':' && atGap rest) || (inFlow && isFlowMark c) then done
    else readPlain inFlow indent (place.after c) .empty (c :: (gap.folded ++ acc)) rest

/-- What is being read inside quotes: a character, one after a backslash, or digits of a code, of
which some are left, with the value so far. -/
inductive QuoteState where
  | normal
  | escape
  | code (left value : Nat)
  deriving DecidableEq, Repr

def escapes : List (Char × Char) :=
  [('0', '\x00'), ('a', '\x07'), ('b', '\x08'), ('t', '\t'), ('\t', '\t'), ('n', '\n'),
    ('v', '\x0b'), ('f', '\x0c'), ('r', '\r'), ('e', '\x1b'), (' ', ' '), ('"', '"'), ('/', '/'),
    ('\\', '\\'), ('N', '\u0085'), ('_', '\u00a0'), ('L', '\u2028'), ('P', '\u2029')]

def codeLengths : List (Char × Nat) := [('x', 2), ('u', 4), ('U', 8)]

def readQuoted (quote : Char) (state : QuoteState) (place : Place) (gap : Gap) (acc : List Char) :
    List Char → Option Scanned
  | [] => none
  | c :: rest =>
    let next := place.after c
    match state with
    | .code left value => do
      let value := value * 16 + (← Text.hexValue? c)
      if 1 < left then readQuoted quote (.code (left - 1) value) next .empty acc rest
      else if value.isValidChar then readQuoted quote .normal next .empty (.ofNat value :: acc) rest
      else none
    | .escape =>
      if isBreak c then readQuoted quote .normal next .escaped acc rest
      else match codeLengths.lookup c with
        | some length => readQuoted quote (.code length 0) next .empty acc rest
        | none => do readQuoted quote .normal next .empty ((← escapes.lookup c) :: acc) rest
    | .normal =>
      if isBlank c || isBreak c then readQuoted quote .normal next (gap.push c) acc rest
      else if place.isMarker (c :: rest) then none
      else
        let acc := gap.folded ++ acc
        if c = '\\' ∧ quote = '"' then readQuoted quote .escape next .empty acc rest
        else if c = quote then match quote, rest with
          | '\'', '\'' :: rest => readQuoted quote .normal (next.after c) .empty (c :: acc) rest
          | _, _ => some ⟨.ofList acc.reverse, next, rest, false⟩
        else readQuoted quote .normal next .empty (c :: acc) rest

end Faultline.Yaml
