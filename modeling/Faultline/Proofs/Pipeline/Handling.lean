import Faultline.Proofs.Pipeline.Answer
import Faultline.Proofs.Response.Exchange

/-!
Handling a fault with a sink. Main statement: however the sink answers, and whenever the request is
cancelled, the document is written by the protocol of exchanges, and the head of the response is the
one that was settled before.
-/

namespace Faultline.Pipeline
open Delivery

variable (pipeline : Pipeline) (ctx : RequestContext) (fault : Fault) (span : Telemetry.Span)
  (sink : Sink) (supply : Supply)

theorem value_handle :
    ((pipeline.handle ctx fault span sink).run supply).value =
      let processed := ((pipeline.process ctx fault span).run supply).value
      let body := bytesOf processed.2.problem
      let delivered := (State.start body processed.1.cancelled).run (sink body.length)
      ⟨{ processed.1 with cancelled := delivered.cancelled }, processed.2, delivered⟩ := by
  unfold handle
  simp only [Recorded.run_bind, Recorded.run_pure, value_write]

theorem cancelled_process :
    ((pipeline.process ctx fault span).run supply).value.1.cancelled = ctx.cancelled := by
  have settled := pipeline.value_settle ctx fault supply
  dsimp only at settled
  rw [value_process, settled]

/-- A document is written by the protocol, also when it is that of a fault; the head of the response
and what became of the fault stay as they were settled, whether the writing fails or not. -/
theorem delivery_keeps_protocol :
    (∀ (ctx : RequestContext) (problem : Problem) (sink : Sink) (supply : Supply),
      let body := bytesOf problem
      let polls := sink body.length
      Protocol body ctx.cancelled polls ((State.start body ctx.cancelled).exchanges polls)
        ((write ctx problem sink).run supply).value) ∧
    ∀ (pipeline : Pipeline) ctx fault span sink supply,
      let processed := ((pipeline.process ctx fault span).run supply).value
      let handled := ((pipeline.handle ctx fault span sink).run supply).value
      let body := bytesOf processed.2.problem
      let polls := sink body.length
      Protocol body ctx.cancelled polls ((State.start body ctx.cancelled).exchanges polls)
          handled.delivered ∧
        handled.ctx.response = processed.1.response ∧ handled.processed = processed.2 := by
  constructor
  · intro ctx problem sink supply body polls
    rw [value_write]
    exact (State.runs_run _ _).protocol
  · intro pipeline ctx fault span sink supply processed handled body polls
    have cancelled : processed.1.cancelled = ctx.cancelled :=
      pipeline.cancelled_process ctx fault span supply
    have value : handled = _ := pipeline.value_handle ctx fault span sink supply
    have delivered : handled.delivered = (State.start body ctx.cancelled).run polls := by
      rw [value, ← cancelled]
    refine ⟨?_, ?_, ?_⟩
    · rw [delivered]
      exact (State.runs_run _ _).protocol
    · rw [value]
    · rw [value]

end Faultline.Pipeline
