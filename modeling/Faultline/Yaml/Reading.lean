import Faultline.Settings.Scalar
import Faultline.Settings.Setting
import Faultline.Yaml.Node

/-!
Settings from YAML documents: what plain scalars mean, and which documents are settings. Collections
in blocks and in brackets are read, with plain and quoted scalars. A document with a block scalar,
an anchor, an alias, a tag or a directive is not, so this is one reader of files among others, for
plain documents.
-/

namespace Faultline.Yaml

def isPadded (cs : List Char) : Bool :=
  match (Scalar.dropSign cs).2 with
  | '0' :: rest => !rest.isEmpty && rest.all Char.isDigit
  | _ => false

def bases : List (Char × Nat) := [('x', 16), ('o', 8), ('b', 2)]

def magnitude? (padded : Bool) (digits : List Char) : Option Nat :=
  let prefixed := match digits with
    | '0' :: letter :: rest => (bases.lookup letter).bind (Scalar.natural? · rest)
    | _ => none
  prefixed.or (if padded then none else Scalar.natural? 10 digits)

def integer? (cs : List Char) : Option Setting := do
  let (negative, digits) := Scalar.dropSign cs
  let n ← magnitude? (isPadded cs) digits
  if negative then
    if n ≤ Nat.pow 2 63 then some (.integer .signed (-n))
    else if n ≤ Nat.pow 2 127 then some (.integer .wide (-n)) else none
  else if n < Nat.pow 2 64 then some (.integer .unsigned n)
  else if n < Nat.pow 2 128 then some (.integer .wide n) else none

def named : List (String × Floating) :=
  [".inf", ".Inf", ".INF", "+.inf", "+.Inf", "+.INF"].map (·, .infinite false) ++
    ["-.inf", "-.Inf", "-.INF"].map (·, .infinite true) ++
    [".nan", ".NaN", ".NAN"].map (·, .notANumber)

def floating? (cs : List Char) : Option Setting :=
  match named.lookup (.ofList cs) with
  | some value => some (.floating value)
  | none => match Scalar.floating? cs with
    | some (.finite d) => if isPadded cs then none else some (.floating (.finite d))
    | _ => none

def resolve (text : String) : Setting :=
  if ["", "~", "null", "Null", "NULL"].contains text then .empty
  else if ["true", "True", "TRUE"].contains text then .flag true
  else if ["false", "False", "FALSE"].contains text then .flag false
  else ((integer? text.toList).or (floating? text.toList)).getD (.text text)

mutual
/-- The value of a node, unless a key in it is no scalar. Of equal keys the last one counts. -/
def setting? : Node → Option Setting
  | .scalar true text => some (resolve text)
  | .scalar false text => some (.text text)
  | .list items => (settings? items).map .list
  | .mapping entries => (members? entries).map fun members => .table (Setting.resolve members)

def settings? : List Node → Option (List Setting)
  | [] => some []
  | item :: rest => do return (← setting? item) :: (← settings? rest)

def members? : List (Node × Node) → Option (List (String × Setting))
  | [] => some []
  | (.scalar _ name, value) :: rest => do return (name, ← setting? value) :: (← members? rest)
  | _ :: _ => none
end

def maxNesting : Nat := 128

/-- The table that a text holds; a text without a value is an empty one. -/
def read? (text : String) : Option Setting := do
  match ← Node.ofTokens? (← Token.ofText? text) with
  | none | some (.scalar true "") => some (.table [])
  | some node => match ← setting? node with
    | .table members =>
      if (Setting.table members).nesting ≤ maxNesting then some (.table members) else none
    | _ => none

end Faultline.Yaml
