import Faultline.Status
import Faultline.Text.Ascii

/-!
Header fields and response heads. Names are in lower case; a name may have several values, whose
order counts.
-/

namespace Faultline

structure Headers where
  fields : List (String × String)
  deriving DecidableEq, Repr

namespace Headers

def empty : Headers := ⟨[]⟩

instance : Inhabited Headers := ⟨empty⟩

def values (headers : Headers) (name : String) : List String :=
  (headers.fields.filter fun field => field.1 == name).map (·.2)

def get? (headers : Headers) (name : String) : Option String := (headers.values name).head?

def append (headers : Headers) (name value : String) : Headers :=
  ⟨headers.fields ++ [(Text.lowercase name, value)]⟩

def insert (headers : Headers) (name value : String) : Headers :=
  ⟨headers.fields.filter (fun field => field.1 != name) ++ [(name, value)]⟩

def ofList (fields : List (String × String)) : Headers :=
  fields.foldl (fun headers field => headers.append field.1 field.2) empty

structure Entry where
  name : String
  first : String
  more : List String
  deriving DecidableEq, Repr

def Entry.values (entry : Entry) : List String := entry.first :: entry.more

def entriesOf : List (String × String) → List Entry
  | [] => []
  | (name, value) :: rest =>
    ⟨name, value, (rest.filter fun field => field.1 == name).map (·.2)⟩ ::
      (entriesOf rest).filter fun entry => entry.name != name

/-- Each name once, in the order of the first values. -/
def entries (headers : Headers) : List Entry := entriesOf headers.fields

/-- The first value takes the place of those the name had, and the others come after it. -/
def put (headers : Headers) (entry : Entry) : Headers :=
  entry.more.foldl (fun headers value => ⟨headers.fields ++ [(entry.name, value)]⟩)
    (headers.insert entry.name entry.first)

def extend (headers other : Headers) : Headers := other.entries.foldl put headers

/-- A value holds no control character but the tab. -/
def isLegalChar (c : Char) : Bool := c == '\t' || (0x20 ≤ c.toNat && c.toNat != 0x7F)

def isLegalValue (value : String) : Bool := value.toList.all isLegalChar

def isReadableChar (c : Char) : Bool := c == '\t' || (0x20 ≤ c.toNat && c.toNat < 0x7F)

def isReadable (value : String) : Bool := value.toList.all isReadableChar

def contentType : String := "content-type"

def contentLength : String := "content-length"

def errorId : String := "x-error-id"

def traceId : String := "x-trace-id"

def requestId : String := "x-request-id"

def traceparent : String := "traceparent"

end Headers

structure ResponseHead where
  status : Status
  headers : Headers
  deriving DecidableEq, Repr

def ResponseHead.initial : ResponseHead := ⟨.ok, .empty⟩

instance : Inhabited ResponseHead := ⟨.initial⟩

structure Response where
  status : Status
  headers : Headers
  body : String
  deriving DecidableEq, Repr

namespace Response

/-- Adds the length of the body in bytes, if no length is given. -/
def withContentLength (response : Response) : Response :=
  if response.headers.fields.any (·.1 == Headers.contentLength) then response
  else { response with
    headers := response.headers.append Headers.contentLength
      (.ofList (Nat.toDigits 10 response.body.utf8ByteSize)) }

end Response
end Faultline
