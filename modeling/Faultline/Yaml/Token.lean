import Faultline.Yaml.Scalar

/-!
The tokens of a YAML text. Indentation shows as tokens too: a block opens where a line is indented
further than the block around it, and ends before a line that is indented less. A scalar turns out
to be a key when a colon follows it, and is marked as one then.
-/

namespace Faultline.Yaml

inductive Token where
  | documentStart
  | documentEnd
  | blockSequenceStart
  | blockMappingStart
  | blockEnd
  | flowSequenceStart
  | flowSequenceEnd
  | flowMappingStart
  | flowMappingEnd
  | entry
  | flowEntry
  | key
  | value
  | scalar (plain : Bool) (text : String)
  deriving DecidableEq, Repr

namespace Token

/-- A token that may be a key: where it starts, how many tokens precede it, and whether it has to
be a key. -/
structure Candidate where
  place : Place
  position : Nat
  required : Bool

/-- What is known on the way through a text. Tokens and indentations begin with the latest, and
candidates with the one of the innermost brackets. -/
structure Scanner where
  rest : List Char
  place : Place
  tokens : List Token
  indents : List Nat
  candidate : Option Candidate
  outer : List (Option Candidate)
  keyAllowed : Bool

namespace Scanner

def start (cs : List Char) : Scanner := ⟨cs, .start, [], [], none, [], true⟩

def inFlow (s : Scanner) : Bool := !s.outer.isEmpty

def emit (s : Scanner) (token : Token) : Scanner := { s with tokens := token :: s.tokens }

def skip (s : Scanner) : Scanner :=
  match s.rest with
  | [] => s
  | c :: rest => { s with rest := rest, place := s.place.after c }

def allowKey (allowed : Bool) (s : Scanner) : Scanner := { s with keyAllowed := allowed }

/-- Passes over blanks, comments and breaks, and over a byte order mark at the start of a line,
which takes a column. A tab may not stand where a key may start. -/
def skipGap (s : Scanner) (inComment : Bool) : List Char → Scanner
  | [] => { s with rest := [] }
  | c :: rest =>
    let next := { s with place := s.place.after c }
    if isBreak c then
      skipGap { next with keyAllowed := s.keyAllowed || !s.inFlow } false rest
    else if inComment then skipGap next true rest
    else if (c == byteOrderMark && s.place.column == 0) || c == ' ' ||
        (c == '\t' && (s.inFlow || !s.keyAllowed)) then skipGap next false rest
    else if c == '#' then skipGap next true rest
    else { s with rest := c :: rest }

def maxKeySize : Nat := 1024

/-- A key is on one line, and not too long. -/
def isStale (s : Scanner) (candidate : Candidate) : Bool :=
  candidate.place.line < s.place.line ||
    candidate.place.offset + maxKeySize < s.place.offset

/-- Gives up the candidates that have become too long. One that has to be a key is missed. -/
def dropStale (s : Scanner) : Option Scanner :=
  if (s.candidate :: s.outer).any (·.any fun candidate => candidate.required && s.isStale candidate)
  then none
  else
    let fresh (candidate : Option Candidate) := candidate.filter (!s.isStale ·)
    some { s with candidate := fresh s.candidate, outer := s.outer.map fresh }

def dropCandidate (s : Scanner) : Option Scanner :=
  if s.candidate.any Candidate.required then none else some { s with candidate := none }

def saveCandidate (s : Scanner) : Option Scanner :=
  if s.keyAllowed then do
    let required := !s.inFlow && s.indents.head? == some s.place.column
    return { ← s.dropCandidate with candidate := some ⟨s.place, s.tokens.length, required⟩ }
  else some s

def closeBlocks (s : Scanner) (column : Option Nat) : Scanner :=
  let isOpen (indent : Nat) : Bool := column.all (· < indent)
  if s.inFlow then s
  else { s with
    tokens := (s.indents.takeWhile isOpen).map (fun _ => blockEnd) ++ s.tokens
    indents := s.indents.dropWhile isOpen }

def insertAt (s : Scanner) (position : Nat) (token : Token) : Scanner :=
  let later := s.tokens.length - position
  { s with tokens := s.tokens.take later ++ token :: s.tokens.drop later }

def openBlock (s : Scanner) (column position : Nat) (token : Token) : Scanner :=
  if s.inFlow || s.indents.head?.any (column ≤ ·) then s
  else { s.insertAt position token with indents := column :: s.indents }

def openBlockHere (s : Scanner) (token : Token) : Option Scanner :=
  if s.inFlow then some s
  else if s.keyAllowed then some (s.openBlock s.place.column s.tokens.length token)
  else none

def openBrackets (s : Scanner) (token : Token) : Option Scanner := do
  let s ← s.saveCandidate
  return { (s.emit token).skip with
    candidate := none, outer := s.candidate :: s.outer, keyAllowed := true }

def closeBrackets (s : Scanner) (token : Token) : Option Scanner := do
  let s ← s.dropCandidate
  let s := ((s.emit token).skip).allowKey false
  return match s.outer with
    | [] => s
    | candidate :: outer => { s with candidate := candidate, outer := outer }

def readFlowEntry (s : Scanner) : Option Scanner := do
  return (((← s.dropCandidate).emit flowEntry).skip).allowKey true

def readEntry (s : Scanner) : Option Scanner := do
  let s ← (← s.openBlockHere blockSequenceStart).dropCandidate
  return ((s.emit entry).skip).allowKey true

def readKey (s : Scanner) : Option Scanner := do
  let s ← (← s.openBlockHere blockMappingStart).dropCandidate
  return ((s.emit key).skip).allowKey !s.inFlow

def readValue (s : Scanner) : Option Scanner := do
  let s ← match s.candidate with
    | some candidate =>
      let marked := (s.insertAt candidate.position key).openBlock candidate.place.column
        candidate.position blockMappingStart
      some { marked with candidate := none, keyAllowed := false }
    | none => (s.openBlockHere blockMappingStart).map (allowKey !s.inFlow)
  return (s.emit value).skip

def readMarker (s : Scanner) (token : Token) : Option Scanner := do
  let s ← (s.closeBlocks none).dropCandidate
  return ((s.emit token).skip.skip.skip).allowKey false

def afterScalar (s : Scanner) (plain : Bool) (scanned : Scanned) : Scanner :=
  { s.emit (.scalar plain scanned.text) with
    rest := scanned.rest, place := scanned.place, keyAllowed := scanned.broken }

def readQuotedScalar (s : Scanner) (quote : Char) : Option Scanner := do
  let s ← s.saveCandidate
  return s.afterScalar false (← readQuoted quote .normal s.skip.place .empty [] s.skip.rest)

def readPlainScalar (s : Scanner) : Option Scanner := do
  let s ← s.saveCandidate
  let indent := (s.indents.head?.map (· + 1)).getD 0
  return s.afterScalar true (← readPlain s.inFlow indent s.place .empty [] s.rest)

def isIndicator (c : Char) : Bool := isBlank c || ",[]\x7b\x7d#&*!|>'\"%@\x60".toList.contains c

/-- Whether a plain scalar starts here. A dash starts one before anything but a blank or a break,
and outside of brackets a question mark and a colon do so too. -/
def startsPlain (inFlow : Bool) (c : Char) (rest : List Char) : Bool :=
  if c == '-' then !atGap rest
  else if c == '?' || c == ':' then !inFlow && !atGap rest
  else !isIndicator c

def readToken (s : Scanner) (c : Char) (rest : List Char) : Option Scanner :=
  if s.place.isMarker s.rest then s.readMarker (if c = '-' then documentStart else documentEnd)
  else if c = '[' then s.openBrackets flowSequenceStart
  else if c = '\x7b' then s.openBrackets flowMappingStart
  else if c = ']' then s.closeBrackets flowSequenceEnd
  else if c = '\x7d' then s.closeBrackets flowMappingEnd
  else if c = ',' then s.readFlowEntry
  else if c = '-' ∧ atGap rest then s.readEntry
  else if c = '?' ∧ (s.inFlow ∨ atGap rest) then s.readKey
  else if c = ':' ∧ (s.inFlow ∨ atGap rest) then s.readValue
  else if c = '\'' ∨ c = '"' then s.readQuotedScalar c
  else if startsPlain s.inFlow c rest then s.readPlainScalar
  else none

def readAll (s : Scanner) : Option (List Token) := do
  let s' ← (s.skipGap false s.rest).dropStale
  match s'.rest with
  | [] => return (← (s'.closeBlocks none).dropCandidate).tokens.reverse
  | c :: rest =>
    let next ← (s'.closeBlocks (some s'.place.column)).readToken c rest
    -- each token takes a part of the text
    if _ : next.rest.length < s.rest.length then next.readAll else none
termination_by s.rest.length

end Scanner

def ofText? (text : String) : Option (List Token) :=
  let cs := text.toList
  if cs.all isLegal then (Scanner.start (unifyBreaks cs)).readAll else none

end Token
end Faultline.Yaml
