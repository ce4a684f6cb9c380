import Faultline.Text.Ascii

/-!
The path of a request target. A target is a path, the asterisk, an authority, or an absolute URI;
what follows a question mark or a number sign is not part of the path.
-/

namespace Faultline.Uri

inductive UriError where
  | empty
  | tooLong
  | invalidCharacter
  | invalidAuthority
  | invalidFormat
  | schemeTooLong
  deriving DecidableEq, Repr

def UriError.message : UriError → String
  | empty => "empty string"
  | tooLong => "uri too long"
  | invalidCharacter => "invalid uri character"
  | invalidAuthority => "invalid authority"
  | invalidFormat => "invalid format"
  | schemeTooLong => "scheme too long"

/-- In bytes. -/
def maxLength : Nat := 65534

def maxSchemeLength : Nat := 64

def isSchemeChar (c : Char) : Bool := c.isAlphanum || "+-.~".toList.contains c

def isAuthorityChar (c : Char) : Bool := c.isAlphanum || "!#$&'()*+,-./:;=?@[]_~".toList.contains c

/-- Quotes and braces should be escaped in a path, but are often sent as they are. -/
def isPathChar (c : Char) : Bool :=
  let n := c.toNat
  n == 0x21 || (0x24 ≤ n && n ≤ 0x3B) || n == 0x3D || (0x40 ≤ n && n ≤ 0x5F) ||
    (0x61 ≤ n && n ≤ 0x7A) || n == 0x7C || n == 0x7E || 0x80 ≤ n ||
    c == '"' || c == '\x7b' || c == '\x7d'

def isQueryChar (c : Char) : Bool :=
  let n := c.toNat
  n == 0x21 || (0x24 ≤ n && n ≤ 0x3B) || n == 0x3D || (0x3F ≤ n && n != 0x7F)

def checkQuery (query : List Char) : Except UriError Unit :=
  if (query.takeWhile (· ≠ '#')).all isQueryChar then .ok () else .error .invalidCharacter

def readPath (cs : List Char) : Except UriError String := do
  let path := cs.takeWhile fun c => c ≠ '?' ∧ c ≠ '#'
  if !path.all isPathChar then throw .invalidCharacter
  match cs.dropWhile fun c => c ≠ '?' ∧ c ≠ '#' with
  | '?' :: query => checkQuery query
  | _ => pure ()
  return if path.isEmpty then "/" else .ofList path

/-- What was seen of an authority so far. Colons and percent signs before an at sign belong to the
user, and those in brackets to an address. -/
structure Authority where
  colons : Nat
  opened : Bool
  closed : Bool
  percent : Bool
  afterAt : Bool

def readAuthority (seen : Authority) : List Char → Except UriError (List Char)
  | c :: rest =>
    if c = '/' ∨ c = '?' ∨ c = '#' then finish (c :: rest)
    else if c = ':' then
      if seen.colons ≥ 8 then .error .invalidAuthority
      else readAuthority { seen with colons := seen.colons + 1, afterAt := false } rest
    else if c = '[' then
      if seen.percent || seen.opened then .error .invalidAuthority
      else readAuthority { seen with opened := true, afterAt := false } rest
    else if c = ']' then
      if !seen.opened || seen.closed then .error .invalidAuthority
      else readAuthority ⟨0, true, true, false, false⟩ rest
    else if c = '@' then
      readAuthority ⟨0, seen.opened, seen.closed, false, true⟩ rest
    else if c = '%' then readAuthority { seen with percent := true, afterAt := false } rest
    else if isAuthorityChar c then readAuthority { seen with afterAt := false } rest
    else .error .invalidCharacter
  | [] => finish []
where
  finish (rest : List Char) : Except UriError (List Char) :=
    if seen.opened != seen.closed || seen.colons > 1 || seen.afterAt || seen.percent then
      .error .invalidAuthority
    else .ok rest

def authority (cs : List Char) : Except UriError (List Char) :=
  if cs.isEmpty then .error .empty else readAuthority ⟨0, false, false, false, false⟩ cs

/-- What follows the scheme and its two slashes, if the text begins with a scheme. The mark after a
scheme is none where it is the whole text. -/
def dropScheme (cs : List Char) : Except UriError (Option (List Char)) :=
  let scheme := cs.takeWhile isSchemeChar
  match cs.dropWhile isSchemeChar with
  | ':' :: '/' :: '/' :: rest =>
    if scheme.isEmpty && rest.isEmpty then .ok none
    else if scheme.length > maxSchemeLength then .error .schemeTooLong
    else .ok (some rest)
  | _ => .ok none

def path (target : String) : Except UriError String :=
  if target.utf8ByteSize > maxLength then .error .tooLong
  else match target.toList with
    | [] => .error .empty
    | ['*'] => .ok "*"
    | [c] =>
      if c = '/' then .ok "/"
      else do
        if (← authority [c]).isEmpty then return ""
        throw .invalidCharacter
    | '/' :: rest => readPath ('/' :: rest)
    | cs => do
      match ← dropScheme cs with
      | none =>
        if (← authority cs).isEmpty then return ""
        throw .invalidFormat
      | some cs =>
        let rest ← authority cs
        if rest.length = cs.length then throw .invalidFormat
        readPath rest

end Faultline.Uri
