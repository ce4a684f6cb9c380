import Faultline.Problem.Wire
import Faultline.Request.Context

/-!
Writing the body of a response to a sink that answers one offer at a time. The sink may take some
of the bytes, fail, or let the writer wait; a request may be cancelled meanwhile, which the writer
notices when it starts and whenever it has waited.
-/

namespace Faultline.Delivery

/-- How a sink answers the offer of bytes, or the request to flush those it took. -/
inductive Reply where
  | ready (count : Nat)
  | failed (reason : String)
  | pending
  deriving DecidableEq, Repr

/-- An answer, and whether the request is cancelled by the time of the next one. -/
structure Poll where
  reply : Reply
  cancels : Bool
  deriving DecidableEq, Repr

inductive Verdict where
  | complete
  | cancelled
  | failed (reason : String)
  | unfinished
  deriving DecidableEq, Repr

def Verdict.message : Verdict → String
  | complete | unfinished => ""
  | cancelled => "problem write cancelled by the request"
  | failed reason => "failed to write problem body: " ++ reason

/-- The bytes taken and those left, whether the request is cancelled, and whether the writer is
about to look. -/
structure State where
  taken : List UInt8
  left : List UInt8
  cancelled : Bool
  waking : Bool
  deriving DecidableEq, Repr

structure Delivered where
  verdict : Verdict
  taken : List UInt8
  cancelled : Bool
  deriving DecidableEq, Repr

namespace State

def start (body : List UInt8) (cancelled : Bool) : State := ⟨[], body, cancelled, true⟩

def stop (state : State) (verdict : Verdict) : Delivered :=
  ⟨verdict, state.taken, state.cancelled⟩

/-- What an answer leads to: the end, or the next offer. While bytes are left they are offered, and
a sink that takes none of them has failed; then the sink is asked to flush. -/
def step (state : State) (poll : Poll) : Delivered ⊕ State :=
  let state := { state with cancelled := state.cancelled || poll.cancels, waking := false }
  match poll.reply with
  | .failed reason => .inl (state.stop (.failed reason))
  | .pending => .inr { state with waking := true }
  | .ready count =>
    if state.left.isEmpty then .inl (state.stop .complete)
    else if count = 0 then .inl (state.stop (.failed "write zero"))
    else .inr { state with
      taken := state.taken ++ state.left.take count
      left := state.left.drop count }

def run (state : State) : List Poll → Delivered
  | [] => state.stop (if state.waking && state.cancelled then .cancelled else .unfinished)
  | poll :: rest =>
    if state.waking && state.cancelled then state.stop .cancelled
    else match state.step poll with
      | .inl delivered => delivered
      | .inr state => state.run rest

end State

def bytesOf (problem : Problem) : List UInt8 := problem.body.toUTF8.toList

/-- How a sink answers one after another, given how many bytes it will be offered. -/
abbrev Sink := Nat → List Poll

def write (ctx : RequestContext) (problem : Problem) (sink : Sink) : Recorded Delivered := do
  let body := bytesOf problem
  let delivered := (State.start body ctx.cancelled).run (sink body.length)
  if delivered.verdict = .cancelled then
    Recorded.log .debug "problem write cancelled" [("trace_id", .text ctx.traceId)]
  return delivered

end Faultline.Delivery
