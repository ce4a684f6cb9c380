import Faultline.Journal
import Faultline.LogFilter.Pattern.Validity
import Faultline.Settings.Scalar
import Faultline.Text.Bytes
import Faultline.Text.Lines
import Faultline.Text.Numeral
import Faultline.Text.Quoted

/-!
The directives of log filters. Each gives a level to a target, a span or a field of a span. They are
ordered by how specific they are.
-/

namespace Faultline

inductive Threshold where
  | off
  | upTo (level : Level)
  deriving DecidableEq, Repr

namespace Threshold

def names : List (String × Threshold) :=
  [("off", off), ("error", upTo .error), ("warn", upTo .warn), ("info", upTo .info),
    ("debug", upTo .debug), ("trace", upTo .trace)]

def name : Threshold → String
  | off => "off"
  | upTo level => Text.lowercase level.name

def parse? (cs : List Char) : Option Threshold :=
  let digits := match cs with
    | '+' :: digits => digits
    | digits => digits
  match Scalar.natural? 10 (digits.takeWhile Char.isDigit) with
  | some position =>
    if digits.all Char.isDigit then (names[position]?).map (·.2) else none
  | none => (names.find? fun entry => Text.sameIgnoringCase entry.1 (.ofList cs)).map (·.2)

end Threshold

inductive ValueMatch where
  | flag (value : Bool)
  | floating (value : Floating)
  | unsigned (value : Nat)
  | signed (value : Int)
  | pattern (text : String)
  deriving DecidableEq, Repr

namespace ValueMatch

def parse? (cs : List Char) : Option ValueMatch :=
  let text := String.ofList cs
  if text = "true" then some (flag true)
  else if text = "false" then some (flag false)
  else match Scalar.integer? cs, Scalar.floating? cs with
    | some n, _ => some (if cs.head? = some '-' then signed n else unsigned n.toNat)
    | none, some x => some (floating x)
    | none, none => if Pattern.isValid text then some (pattern text) else none

def text : ValueMatch → String
  | flag b => Text.flag b
  | floating x => x.text
  | unsigned n => Text.numeral n
  | signed n => Text.numeral n
  | pattern text => text

/-- The kinds of values in order. What is no number comes after the numbers with a fraction. -/
def rank : ValueMatch → Nat
  | flag _ => 0
  | floating .notANumber => 2
  | floating _ => 1
  | unsigned _ => 3
  | signed _ => 4
  | pattern _ => 5

def order (a b : ValueMatch) : Ordering :=
  (compare a.rank b.rank).then <| match a, b with
    | flag a, flag b => compare a b
    | floating a, floating b => a.order b
    | unsigned a, unsigned b => compare a b
    | signed a, signed b => compare a b
    | pattern a, pattern b => compare a b
    | _, _ => .eq

end ValueMatch

structure FieldMatch where
  name : String
  value : Option ValueMatch
  deriving DecidableEq, Repr

namespace FieldMatch

def parse? (cs : List Char) : Option FieldMatch :=
  match Text.splitOn '=' cs with
  | [] | [[]] => none
  | [name] => some ⟨.ofList name, none⟩
  | name :: value :: _ => (ValueMatch.parse? value).map fun value => ⟨.ofList name, some value⟩

def text (field : FieldMatch) : String :=
  field.name ++ (field.value.map ("=" ++ ·.text)).getD ""

def order (a b : FieldMatch) : Ordering :=
  (compare a.value.isSome b.value.isSome).then
    ((compare a.name b.name).then
      (match a.value, b.value with
        | some a, some b => a.order b
        | _, _ => .eq))

end FieldMatch

structure Directive where
  target : Option String
  span : Option String
  field : Option FieldMatch
  threshold : Threshold
  deriving DecidableEq, Repr

namespace Directive

/-- A directive without a level lets everything through. -/
def everything : Directive := ⟨none, none, none, .upTo .trace⟩

inductive Part where
  | start
  | scope (start : Nat)
  | span (start : Nat)
  | field (start : Nat)
  | fieldEnd
  | spanEnd
  | level (start : Nat)
  deriving DecidableEq, Repr

def isScopeStart (c : Char) : Bool :=
  c == '-' || c == ':' || c == '_' || Text.isAlphanumeric c

def withScope (directive : Directive) (cs : List Char) : Directive :=
  match Threshold.parse? cs with
  | some threshold => { directive with threshold := threshold }
  | none => { directive with target := some (.ofList cs) }

def finish? (whole : List Char) (directive : Directive) : Part → Option Directive
  | .scope start => (Text.dropBytes? start whole).map directive.withScope
  | .level start => do
    match ← Text.dropBytes? start whole with
    | [] => return directive
    | cs => return { directive with threshold := ← Threshold.parse? cs }
  | .spanEnd => some directive
  | _ => none

/-- Reads the characters of a directive from a position on. The parts are taken out of the `whole`
text by their positions. -/
def read? (whole : List Char) (part : Part) (directive : Directive) (position : Nat) :
    List Char → Option Directive
  | [] => directive.finish? whole part
  | c :: rest => do
    let next := position + c.utf8Size
    let cut (start : Nat) : Option (List Char) := Text.slice? start position whole
    match part, c with
    | .start, '[' => read? whole (.span next) directive next rest
    | .start, c =>
      if isScopeStart c then read? whole (.scope position) directive next rest else none
    | .scope start, '=' =>
      let target := String.ofList (← cut start)
      read? whole (.level next) { directive with target := some target } next rest
    | .scope start, '[' =>
      let target := String.ofList (← cut start)
      read? whole (.span next) { directive with target := some target } next rest
    | .span start, ']' =>
      let span := String.ofList (← cut start)
      read? whole .spanEnd { directive with span := some span } next rest
    | .span start, '\x7b' =>
      let span := String.ofList (← cut start)
      let span := if span.isEmpty then none else some span
      read? whole (.field next) { directive with span := span } next rest
    | .field start, '\x7d' =>
      let field ← FieldMatch.parse? (← cut start)
      read? whole .fieldEnd { directive with field := some field } next rest
    | .fieldEnd, ']' => read? whole .spanEnd directive next rest
    | .spanEnd, '=' => read? whole (.level next) directive next rest
    | .fieldEnd, _ | .spanEnd, _ => none
    | part, _ => read? whole part directive next rest

/-- Reads a directive. Its parts are looked for without the white space around it, but the white
space in front counts where they are cut out, and so does that behind them. -/
def parse? (whole : List Char) : Option Directive :=
  everything.read? whole .start 0 (Text.trimChars whole)

def isDynamic (directive : Directive) : Bool := directive.span.isSome || directive.field.isSome

def isStatic (directive : Directive) : Bool :=
  directive.span.isNone && directive.field.all (·.value.isNone)

def text (directive : Directive) : String :=
  let field := (directive.field.map fun field => "\x7b" ++ field.text ++ "\x7d").getD ""
  let span := if directive.isDynamic then "[" ++ directive.span.getD "" ++ field ++ "]" else ""
  (if directive.target.isSome || directive.isDynamic then directive.target.getD "" ++ span ++ "="
    else "") ++ directive.threshold.name

/-- One more than the length of the target in bytes, and 0 without one. -/
def targetSize (directive : Directive) : Nat :=
  (directive.target.map fun target => target.utf8ByteSize + 1).getD 0

def fieldOrder (a b : Directive) : Ordering :=
  match a.field, b.field with
  | some a, some b => a.order b
  | _, _ => .eq

/-- Less specific directives come first in this order: those without a target or with a shorter
one, then those without a span, then those without a field; the rest goes by their texts. -/
def order (a b : Directive) : Ordering :=
  (compare a.targetSize b.targetSize).then
    ((compare a.span.isSome b.span.isSome).then
      ((compare a.field.isSome b.field.isSome).then
        ((compare (a.target.getD "") (b.target.getD "")).then
          ((compare (a.span.getD "") (b.span.getD "")).then (fieldOrder a b)))))

/-- Puts a directive among others, the most specific first, or in the place of its equal. -/
def insert (directive : Directive) : List Directive → List Directive
  | [] => [directive]
  | other :: rest => match order directive other with
    | .gt => directive :: other :: rest
    | .eq => directive :: rest
    | .lt => other :: insert directive rest

def table (directives : List Directive) : List Directive :=
  directives.foldl (fun known directive => directive.insert known) []

end Directive
end Faultline
