import Faultline.Proofs.Pipeline.Handling
import Faultline.Proofs.Pipeline.Status
import Faultline.Proofs.Response.Acceptance

/-!
The two ways to answer a fault: with a response, and with a head that is left in the context and a
document that is written to a sink. Main statement: both give the same status, the same values of
every header and the same bytes, unless the request is cancelled before the writing starts.
-/

namespace Faultline.Pipeline
open Delivery

variable (pipeline : Pipeline) (ctx : RequestContext) (fault : Fault) (span : Telemetry.Span)
  (sink : Sink) (supply : Supply)

theorem value_respond_of_process :
    let processed := ((pipeline.process ctx fault span).run supply).value
    ((pipeline.respond ctx fault span).run supply).value =
      ⟨processed.1.response.status, Headers.empty.extend processed.1.response.headers,
        processed.2.problem.body⟩ := by
  rw [value_respond, value_process]

theorem head_handle :
    ((pipeline.handle ctx fault span sink).run supply).value.ctx.response =
      ((pipeline.process ctx fault span).run supply).value.1.response := by
  rw [value_handle]

theorem delivered_handle_of_cancelled (cancelled : ctx.cancelled = true) :
    let delivered := ((pipeline.handle ctx fault span sink).run supply).value.delivered
    delivered.verdict = .cancelled ∧ delivered.taken = [] := by
  have given : ((pipeline.process ctx fault span).run supply).value.1.cancelled = true := by
    rw [cancelled_process, cancelled]
  rw [value_handle]
  dsimp only
  rw [State.run_of_cancelled rfl given]
  exact ⟨rfl, rfl⟩

theorem delivered_handle_of_takesAll {sink : Sink} (takesAll : sink.TakesAll)
    (going : ctx.cancelled = false) :
    let processed := ((pipeline.process ctx fault span).run supply).value
    let delivered := ((pipeline.handle ctx fault span sink).run supply).value.delivered
    delivered.verdict = .complete ∧ delivered.taken = bytesOf processed.2.problem := by
  have given : ((pipeline.process ctx fault span).run supply).value.1.cancelled = false := by
    rw [cancelled_process, going]
  rw [value_handle]
  exact State.run_of_takesAll (takesAll _) given rfl given

/-- A fault is answered alike in both ways: with the same status, the same values of every header in
the same order, and the same bytes for a sink that takes them all. Of a request that is cancelled
before the writing starts nothing is written. -/
theorem respond_agrees_with_handle (takesAll : sink.TakesAll) :
    let response := ((pipeline.respond ctx fault span).run supply).value
    let handled := ((pipeline.handle ctx fault span sink).run supply).value
    response.status = handled.ctx.response.status ∧
      (∀ name, response.headers.values name = handled.ctx.response.headers.values name) ∧
      (ctx.cancelled = false → handled.delivered.verdict = .complete ∧
        handled.delivered.taken = response.body.toUTF8.toList) ∧
      (ctx.cancelled = true → handled.delivered.verdict = .cancelled ∧
        handled.delivered.taken = []) := by
  intro response handled
  have answered : response = _ := pipeline.value_respond_of_process ctx fault span supply
  have head : handled.ctx.response = _ := pipeline.head_handle ctx fault span sink supply
  refine ⟨?_, ?_, ?_, pipeline.delivered_handle_of_cancelled ctx fault span sink supply⟩
  · rw [answered, head]
  · intro name
    rw [answered, head, Headers.values_empty_extend]
  · intro going
    obtain ⟨verdict, taken⟩ :=
      pipeline.delivered_handle_of_takesAll ctx fault span supply takesAll going
    refine ⟨verdict, taken.trans ?_⟩
    rw [answered]
    rfl

def cookies (cancelled : Bool) : RequestContext :=
  { RequestContext.start "7f3a" (by decide) "/orders" with
    response := ⟨.ok, .ofList [("Set-Cookie", "a=1"), ("X-Trace-Id", "old"), ("Set-Cookie", "b=2")]⟩
    cancelled := cancelled }

theorem respond_agrees_with_handle_cookies :
    let fault : Fault := .remote (some .tooManyRequests) "slow down"
    let supply : Supply := fun _ => ⟨.replicate 32 5⟩
    let response := ((relaying.respond (cookies false) fault .disabled).run supply).value
    let handled := ((relaying.handle (cookies false) fault .disabled .greedy).run supply).value
    Sink.greedy.TakesAll ∧ handled.ctx.response.headers.values "set-cookie" = ["a=1", "b=2"] ∧
      response.headers.values "set-cookie" = ["a=1", "b=2"] ∧
      handled.delivered.verdict = .complete ∧
      handled.delivered.taken = response.body.toUTF8.toList := by
  obtain ⟨-, headers, written, -⟩ := respond_agrees_with_handle relaying (cookies false)
    (.remote (some .tooManyRequests) "slow down") .disabled .greedy (fun _ => ⟨.replicate 32 5⟩)
    Sink.takesAll_greedy
  exact ⟨Sink.takesAll_greedy, rfl, (headers "set-cookie").trans rfl, written rfl⟩

/-- A sink that would take all gets nothing of a document that a response holds. -/
theorem handle_withholds_cancelled :
    let fault : Fault := .remote (some .tooManyRequests) "slow down"
    let supply : Supply := fun _ => ⟨.replicate 32 5⟩
    let response := ((relaying.respond (cookies true) fault .disabled).run supply).value
    let handled := ((relaying.handle (cookies true) fault .disabled .greedy).run supply).value
    Sink.greedy.TakesAll ∧ handled.delivered.taken ≠ response.body.toUTF8.toList := by
  intro fault supply response handled
  have answered : response = _ :=
    relaying.value_respond_of_process (cookies true) fault .disabled supply
  have delivered : _ ∧ handled.delivered.taken = [] :=
    relaying.delivered_handle_of_cancelled (cookies true) fault .disabled .greedy supply rfl
  refine ⟨Sink.takesAll_greedy, ?_⟩
  rw [delivered.2, answered]
  exact (bytesOf_ne_nil _).symm

end Faultline.Pipeline
