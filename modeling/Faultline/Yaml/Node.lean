import Faultline.Yaml.Token

/-!
The structure of a YAML document, from its tokens. What is left out where a node may stand is an
empty plain scalar.
-/

namespace Faultline.Yaml

inductive Node where
  | scalar (plain : Bool) (text : String)
  | list (items : List Node)
  | mapping (entries : List (Node × Node))
  deriving Repr

namespace Node

def empty : Node := scalar true ""

instance : Inhabited Node := ⟨empty⟩

/-- The tokens before which a key or a value in a block is left out. -/
def endsBlockPart : List Token → Bool
  | .key :: _ | .value :: _ | .blockEnd :: _ => true
  | _ => false

def endsBlockItem : List Token → Bool
  | .entry :: _ | .blockEnd :: _ => true
  | _ => false

def endsFlowValue : List Token → Bool
  | .flowEntry :: _ | .flowSequenceEnd :: _ => true
  | _ => false

def endsMemberValue : List Token → Bool
  | .flowEntry :: _ | .flowMappingEnd :: _ => true
  | _ => false

def dropComma (first : Bool) (tokens : List Token) : Option (List Token) :=
  if first then some tokens
  else match tokens with
    | .flowEntry :: rest => some rest
    | _ => none

mutual
/-- Reads a node, and gives the tokens that follow it. Only in a `block` may it be a block itself;
`bare` allows for items without an indentation of their own. The `fuel` bounds the steps to come. -/
def read (block bare : Bool) : (fuel : Nat) → List Token → Option (Node × List Token)
  | 0, _ => none
  | fuel + 1, tokens => match tokens with
    | .entry :: rest =>
      if bare then (readBareItems fuel (.entry :: rest)).map fun (items, rest) => (list items, rest)
      else none
    | .scalar plain text :: rest => some (scalar plain text, rest)
    | .flowSequenceStart :: rest =>
      (readFlowItems true fuel rest).map fun (items, rest) => (list items, rest)
    | .flowMappingStart :: rest =>
      (readFlowMembers true fuel rest).map fun (entries, rest) => (mapping entries, rest)
    | .blockSequenceStart :: rest =>
      if block then (readItems fuel rest).map fun (items, rest) => (list items, rest) else none
    | .blockMappingStart :: rest =>
      if block then (readMembers fuel rest).map fun (entries, rest) => (mapping entries, rest)
      else none
    | _ => none

def readItems : (fuel : Nat) → List Token → Option (List Node × List Token)
  | 0, _ => none
  | _, .blockEnd :: rest => some ([], rest)
  | fuel + 1, .entry :: rest => do
    let (item, rest) ← if endsBlockItem rest then some (empty, rest) else read true false fuel rest
    let (items, rest) ← readItems fuel rest
    return (item :: items, rest)
  | _, _ => none

/-- Reads items that are not indented further than the key before them. -/
def readBareItems : (fuel : Nat) → List Token → Option (List Node × List Token)
  | 0, _ => none
  | fuel + 1, .entry :: rest => do
    let (item, rest) ←
      if endsBlockItem rest || endsBlockPart rest then some (empty, rest)
      else read true false fuel rest
    let (items, rest) ← readBareItems fuel rest
    return (item :: items, rest)
  | _, rest => some ([], rest)

def readPart : (fuel : Nat) → List Token → Option (Node × List Token)
  | 0, _ => none
  | fuel + 1, tokens =>
    if endsBlockPart tokens then some (empty, tokens) else read true true fuel tokens

def readMembers : (fuel : Nat) → List Token → Option (List (Node × Node) × List Token)
  | 0, _ => none
  | _, .blockEnd :: rest => some ([], rest)
  | fuel + 1, .key :: rest => do
    let (key, rest) ← readPart fuel rest
    let (value, rest) ← match rest with
      | .value :: rest => readPart fuel rest
      | rest => some (empty, rest)
    let (entries, rest) ← readMembers fuel rest
    return ((key, value) :: entries, rest)
  | _, _ => none

/-- Reads the items in brackets; a key among them is an entry of a mapping that has no other. -/
def readFlowItems (first : Bool) : (fuel : Nat) → List Token → Option (List Node × List Token)
  | 0, _ => none
  | _, .flowSequenceEnd :: rest => some ([], rest)
  | fuel + 1, tokens => do
    match ← dropComma first tokens with
    | .flowSequenceEnd :: rest => return ([], rest)
    | .key :: rest =>
      let (entry, rest) ← readPair fuel rest
      let (items, rest) ← readFlowItems false fuel rest
      return (mapping [entry] :: items, rest)
    | rest =>
      let (item, rest) ← read false false fuel rest
      let (items, rest) ← readFlowItems false fuel rest
      return (item :: items, rest)

/-- Reads an entry among items. Where its key is left out, the token after it is passed over. -/
def readPair : (fuel : Nat) → List Token → Option ((Node × Node) × List Token)
  | 0, _ => none
  | fuel + 1, tokens => do
    let (key, rest) ← match tokens with
      | .value :: rest | .flowEntry :: rest | .flowSequenceEnd :: rest => some (empty, rest)
      | tokens => read false false fuel tokens
    match rest with
    | .value :: rest =>
      let (value, rest) ←
        if endsFlowValue rest then some (empty, rest) else read false false fuel rest
      return ((key, value), rest)
    | rest => return ((key, empty), rest)

def readFlowMembers (first : Bool) : (fuel : Nat) → List Token →
    Option (List (Node × Node) × List Token)
  | 0, _ => none
  | _, .flowMappingEnd :: rest => some ([], rest)
  | fuel + 1, tokens => do
    match ← dropComma first tokens with
    | .flowMappingEnd :: rest => return ([], rest)
    | .key :: rest =>
      let (key, rest) ← match rest with
        | .value :: _ => some (empty, rest)
        | rest => if endsMemberValue rest then some (empty, rest) else read false false fuel rest
      let (value, rest) ← match rest with
        | .value :: rest =>
          if endsMemberValue rest then some (empty, rest) else read false false fuel rest
        | rest => some (empty, rest)
      let (entries, rest) ← readFlowMembers false fuel rest
      return ((key, value) :: entries, rest)
    | rest =>
      let (key, rest) ← read false false fuel rest
      let (entries, rest) ← readFlowMembers false fuel rest
      return ((key, empty) :: entries, rest)
end

def ofTokens? (tokens : List Token) : Option (Option Node) := do
  match tokens with
  | [] => return none
  | .documentStart :: rest =>
    match rest with
    | [] | .documentStart :: _ | .documentEnd :: _ => finish empty rest
    | rest => content rest
  | rest => content rest
where
  content (tokens : List Token) : Option (Option Node) := do
    let (node, rest) ← read true false (3 * tokens.length + 3) tokens
    finish node rest
  finish (node : Node) (rest : List Token) : Option (Option Node) :=
    if rest.all (· == .documentEnd) then some (some node) else none

end Node
end Faultline.Yaml
