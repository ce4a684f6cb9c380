import Faultline.LogFilter.Pattern.Reading

/-!
Which texts are valid as regular expressions. They are those that can be matched without tables of
characters: the classes of digits, words and white space, word boundaries and the case of letters
are known for ASCII only, and refused where all characters count. Without all characters, on the
other hand, nothing may match bytes beyond ASCII, which are no text.
-/

namespace Faultline.Pattern

/-- What holds at a point of an expression: whether case counts, and whether all characters do or
ASCII only. -/
structure Modes where
  ignoreCase : Bool
  unicode : Bool
  deriving DecidableEq, Repr

def Modes.default : Modes := ⟨false, true⟩

def Modes.under (flags : Flags) (modes : Modes) : Modes :=
  ⟨(flags.lookup 'i').getD modes.ignoreCase, (flags.lookup 'u').getD modes.unicode⟩

def Literal.isSupported (modes : Modes) (literal : Literal) : Bool :=
  if modes.unicode then !modes.ignoreCase else !literal.asByte || literal.char.toNat < 0x80

def Literal.isMember (modes : Modes) (literal : Literal) : Bool :=
  if modes.unicode then !modes.ignoreCase else literal.char.toNat < 0x80

def isShorthandSupported (modes : Modes) (negated : Bool) : Bool := !modes.unicode && !negated

namespace CharClass

mutual
def isSupported (modes : Modes) : CharClass → Bool
  | .empty => true
  | .range first last => first.isMember modes && last.isMember modes
  | .named negated => if modes.unicode then !modes.ignoreCase else !negated
  | .shorthand negated => isShorthandSupported modes negated
  | .bracketed negated inner => (modes.unicode || !negated) && inner.isSupported modes
  | .union members => areSupported modes members
  | .operation left right => left.isSupported modes && right.isSupported modes

def areSupported (modes : Modes) : List CharClass → Bool
  | [] => true
  | member :: rest => member.isSupported modes && areSupported modes rest
end

end CharClass

namespace Expr

mutual
/-- The modes after an expression, if it is supported. Those of a group end with it. -/
def after? (modes : Modes) : Expr → Option Modes
  | .empty | .anchor => some modes
  | .flags changes => some (modes.under changes)
  | .literal c => if c.isSupported modes then some modes else none
  | .anyChar => if modes.unicode then some modes else none
  | .wordBoundary => if modes.unicode then none else some modes
  | .shorthand negated => if isShorthandSupported modes negated then some modes else none
  | .charClass negated inner =>
    if (inner.bracketed negated).isSupported modes then some modes else none
  | .repeated expr => expr.after? modes
  | .group changes expr => (expr.after? (modes.under changes)).map fun _ => modes
  | .sequence parts => afterAll? modes parts
  | .choice branches => afterAll? modes branches

def afterAll? (modes : Modes) : List Expr → Option Modes
  | [] => some modes
  | part :: rest => do afterAll? (← part.after? modes) rest
end

def depthLimit : Nat := 250

end Expr

def isValid (text : String) : Bool :=
  (read? text).any fun expr => expr.depth ≤ Expr.depthLimit && (expr.after? .default).isSome

end Faultline.Pattern
