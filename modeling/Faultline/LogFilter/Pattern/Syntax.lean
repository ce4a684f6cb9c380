/-!
The syntax of regular expressions, as far as it matters for which of them are valid: the characters
of literals and ranges, but not what is in the classes that have a name.
-/

namespace Faultline.Pattern

structure Literal where
  char : Char
  asByte : Bool
  deriving DecidableEq, Repr

inductive CharClass where
  | empty
  | range (first last : Literal)
  | named (negated : Bool)
  /-- Digits, words or white space by a letter, or all but those. -/
  | shorthand (negated : Bool)
  | bracketed (negated : Bool) (inner : CharClass)
  | union (members : List CharClass)
  /-- What is in both, in one but not the other, or in just one of them. -/
  | operation (left right : CharClass)
  deriving Repr

/-- Modes that are switched on or off, by their letters. -/
abbrev Flags := List (Char × Bool)

inductive Expr where
  | empty
  | flags (flags : Flags)
  | literal (literal : Literal)
  | anyChar
  | anchor
  | wordBoundary
  | shorthand (negated : Bool)
  | charClass (negated : Bool) (inner : CharClass)
  | repeated (expr : Expr)
  | group (flags : Flags) (expr : Expr)
  | sequence (parts : List Expr)
  | choice (branches : List Expr)
  deriving Repr

namespace CharClass

def char (literal : Literal) : CharClass := range literal literal

/-- The members of a class in one, given with the last one first. -/
def ofMembers : List CharClass → CharClass
  | [] => empty
  | [member] => member
  | members => union members.reverse

def close (left : Option CharClass) (members : List CharClass) : CharClass :=
  match left with
  | none => ofMembers members
  | some left => operation left (ofMembers members)

mutual
def depth : CharClass → Nat
  | bracketed _ inner => inner.depth + 1
  | union members => maxDepth members + 1
  | operation left right => max left.depth right.depth + 1
  | _ => 0

def maxDepth : List CharClass → Nat
  | [] => 0
  | member :: rest => max member.depth (maxDepth rest)
end

end CharClass

namespace Expr

def ofParts : List Expr → Expr
  | [] => empty
  | [part] => part
  | parts => sequence parts.reverse

def close (branches parts : List Expr) : Expr :=
  match branches with
  | [] => ofParts parts
  | branches => choice (ofParts parts :: branches).reverse

mutual
def depth : Expr → Nat
  | charClass _ inner => inner.depth + 1
  | repeated expr => expr.depth + 1
  | group _ expr => expr.depth + 1
  | sequence parts => maxDepth parts + 1
  | choice branches => maxDepth branches + 1
  | _ => 0

def maxDepth : List Expr → Nat
  | [] => 0
  | part :: rest => max part.depth (maxDepth rest)
end

end Expr
end Faultline.Pattern
