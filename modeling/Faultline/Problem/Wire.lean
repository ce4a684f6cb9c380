import Faultline.Json.Mismatch
import Faultline.Json.Reader
import Faultline.Problem.Basic

/-!
The JSON form of a problem document: the document's own members in fixed order, then the extension
members. The detail is left out if it is empty, the error id if there is none.
-/

namespace Faultline.Problem

def ownMembers (problem : Problem) : List (String × Json) :=
  [("type", .string problem.typeUri), ("title", .string problem.title),
    ("status", .integer problem.status.code)] ++
  (if problem.detail.isEmpty then [] else [("detail", .string problem.detail)]) ++
  [("instance", .string problem.instanceUri), ("code", .string problem.code),
    ("traceId", .string problem.traceId)] ++
  (match problem.errorId with
    | some id => [("errorId", .string id)]
    | none => [])

def encode (problem : Problem) : Json := .object (problem.ownMembers ++ problem.extensions.entries)

def body (problem : Problem) : String := problem.encode.compact

structure Draft where
  typeUri : Option String
  title : Option String
  status : Option Status
  detail : Option String
  instanceUri : Option String
  code : Option String
  traceId : Option String
  errorId : Option (Option String)
  extensions : Members

namespace Draft

def empty : Draft := ⟨none, none, none, none, none, none, none, none, .empty⟩

def has (draft : Draft) (key : String) : Bool :=
  match key with
  | "type" => draft.typeUri.isSome
  | "title" => draft.title.isSome
  | "status" => draft.status.isSome
  | "detail" => draft.detail.isSome
  | "instance" => draft.instanceUri.isSome
  | "code" => draft.code.isSome
  | "traceId" => draft.traceId.isSome
  | "errorId" => draft.errorId.isSome
  | _ => false

end Draft

def decodeText : Json → Except (Mismatch Json) String
  | .string s => .ok s
  | value => .error (.invalidType value "a string")

/-- A status is an integer of 16 bits, and one that HTTP has. -/
def decodeStatus : Json → Except (Mismatch Json) Status
  | .integer n =>
    if 0 ≤ n ∧ n < Nat.pow 2 16 then match Status.ofInt? n with
      | some status => .ok status
      | none => .error (.refused Status.invalidMessage)
    else .error (.invalidValue (.integer n) "u16")
  | value => .error (.invalidType value "u16")

def decodeErrorId : Json → Except (Mismatch Json) (Option String)
  | .null => .ok none
  | value => (decodeText value).map some

namespace Draft

/-- Reads one more member. A member of the document's own comes once; of extension members of one
name the last value counts. -/
def accept (draft : Draft) (key : String) (value : Json) : Except (Mismatch Json) Draft :=
  if draft.has key then .error (.duplicateField key)
  else match key with
    | "type" => (decodeText value).map ({ draft with typeUri := some · })
    | "title" => (decodeText value).map ({ draft with title := some · })
    | "status" => (decodeStatus value).map ({ draft with status := some · })
    | "detail" => (decodeText value).map ({ draft with detail := some · })
    | "instance" => (decodeText value).map ({ draft with instanceUri := some · })
    | "code" => (decodeText value).map ({ draft with code := some · })
    | "traceId" => (decodeText value).map ({ draft with traceId := some · })
    | "errorId" => (decodeErrorId value).map ({ draft with errorId := some · })
    | key => .ok { draft with extensions := draft.extensions.insert key value }

def acceptAll (draft : Draft) : List (String × Json) → Except (Mismatch Json) Draft
  | [] => .ok draft
  | (key, value) :: rest => do acceptAll (← draft.accept key value) rest

/-- Type, title and status are required; what else is absent is empty. -/
def finish (draft : Draft) : Except (Mismatch Json) Problem :=
  match draft.typeUri, draft.title, draft.status with
  | none, _, _ => .error (.missingField "type")
  | _, none, _ => .error (.missingField "title")
  | _, _, none => .error (.missingField "status")
  | some typeUri, some title, some status => .ok {
      typeUri := typeUri
      title := title
      status := status
      detail := draft.detail.getD ""
      instanceUri := draft.instanceUri.getD ""
      code := draft.code.getD ""
      traceId := draft.traceId.getD ""
      errorId := draft.errorId.getD none
      extensions := draft.extensions }

end Draft

def decodeMembers (members : List (String × Json)) : Except (Mismatch Json) Problem := do
  (← Draft.empty.acceptAll members).finish

def decode : Json → Except (Mismatch Json) Problem
  | .object members => decodeMembers members
  | value => .error (.invalidType value "struct Problem")

inductive ReadError where
  | defect (defect : Json.Defect)
  | mismatch
  deriving DecidableEq, Repr

/-- What a text that breaks off within the member `pending` is blamed for: the member, if it cannot
be one whatever follows, and else the break. -/
def blame (draft : Draft) (pending : Option (String × Bool)) (defect : Json.Defect) : ReadError :=
  match pending with
  | none => .defect defect
  | some (key, opened) =>
    if draft.has key || (opened && isReserved key) then .mismatch else .defect defect

/-- Reads the text of a document from left to right; the first thing wrong is the one reported. -/
def read (text : String) : Except ReadError Problem :=
  match Json.readDocument text with
  | .nothing defect => .error (.defect defect)
  | .list | .scalar _ => .error .mismatch
  | .members entries afterwards => match decodeMembers entries, afterwards with
    | .error _, _ => .error .mismatch
    | .ok _, some defect => .error (.defect defect)
    | .ok problem, none => .ok problem
  | .brokenMembers entries pending defect => match Draft.empty.acceptAll entries with
    | .error _ => .error .mismatch
    | .ok draft => .error (blame draft pending defect)

end Faultline.Problem
