/-! HTTP status codes: three digits, of which the first is not zero. -/

namespace Faultline

structure Status where
  code : Nat
  valid : 100 ≤ code ∧ code ≤ 999
  deriving DecidableEq, Repr

namespace Status

def ofNat? (code : Nat) : Option Status :=
  if h : 100 ≤ code ∧ code ≤ 999 then some ⟨code, h⟩ else none

def ofInt? (code : Int) : Option Status := if code < 0 then none else ofNat? code.toNat

def invalidMessage : String := "invalid status code"

def isServerError (status : Status) : Bool := 500 ≤ status.code && status.code ≤ 599

def ok : Status := ⟨200, by decide⟩
def badRequest : Status := ⟨400, by decide⟩
def unauthorized : Status := ⟨401, by decide⟩
def forbidden : Status := ⟨403, by decide⟩
def notFound : Status := ⟨404, by decide⟩
def requestTimeout : Status := ⟨408, by decide⟩
def conflict : Status := ⟨409, by decide⟩
def unprocessable : Status := ⟨422, by decide⟩
def tooManyRequests : Status := ⟨429, by decide⟩
def internalError : Status := ⟨500, by decide⟩
def badGateway : Status := ⟨502, by decide⟩
def unavailable : Status := ⟨503, by decide⟩
def gatewayTimeout : Status := ⟨504, by decide⟩

instance : Inhabited Status := ⟨ok⟩

end Status
end Faultline
