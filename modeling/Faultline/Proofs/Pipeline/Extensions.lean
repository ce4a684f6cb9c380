import Faultline.Proofs.Pipeline.Answer
import Faultline.Proofs.Problem.Limits
import Faultline.Proofs.Response.Delivery

/-!
The extension members of what a pipeline sends. Main statement: limits leave exactly the members
that meet all conditions, and every body keeps to the limits of its pipeline, whatever a mapper
filled its document with.
-/

namespace Faultline.Pipeline
open Formatting

variable (pipeline : Pipeline) (ctx : RequestContext) (fault : Fault) (span : Telemetry.Span)
  (supply : Supply)

theorem taken_handle (sink : Delivery.Sink) :
    ((pipeline.handle ctx fault span sink).run supply).value.delivered.taken <+:
      Delivery.bytesOf ((pipeline.process ctx fault span).run supply).value.2.problem := by
  unfold handle
  exact Delivery.taken_write _ _ _ _

theorem extensions_process :
    ((pipeline.process ctx fault span).run supply).value.2.problem.extensions =
      pipeline.limits.admitted
        ((pipeline.answer ctx fault).run supply).value.problem.extensions := by
  have settled := pipeline.value_settle ctx fault supply
  dsimp only at settled
  rw [value_process]
  dsimp only
  rw [settled]
  rfl

/-- Of the first members those stay, cut, that limits accept, and a validator is asked about each of
the first ones. What a pipeline sends has just these, however many of its bytes are taken, and they
are read back from a body whose text can say what the mapper gave. -/
theorem extension_members_bound :
    (∀ (limits : Limits) (extensions : Members) (supply : Supply),
      let first := extensions.entries.take limits.maxExtensions
      let outcome := (limits.validate extensions).run supply
      outcome.value.entries = (first.filter limits.accepts).map limits.shorten ∧
        outcome.questions = if limits.validator.isSome then first else []) ∧
    ∀ (pipeline : Pipeline) ctx fault span supply,
      let limits := pipeline.limits
      let given := ((pipeline.answer ctx fault).run supply).value.problem.extensions
      let sent := ((pipeline.process ctx fault span).run supply).value.2.problem
      sent.extensions = ((limits.validate given).run supply).value ∧
        limits.Bound sent.extensions.entries ∧
        ((pipeline.respond ctx fault span).run supply).value.body =
          (Json.object (sent.ownMembers ++ sent.extensions.entries)).compact ∧
        ((∀ entry ∈ given.entries, Problem.IsPortable entry.2) →
          Json.parse ((pipeline.respond ctx fault span).run supply).value.body =
            .ok (.object (sent.ownMembers ++ sent.extensions.entries))) ∧
        ∀ sink, ((pipeline.handle ctx fault span sink).run supply).value.delivered.taken <+:
          Delivery.bytesOf sent := by
  constructor
  · intro limits extensions supply first outcome
    refine ⟨?_, limits.questions_validate extensions supply⟩
    simp only [outcome, Limits.value_validate]
    exact limits.entries_admitted extensions
  · intro pipeline ctx fault span supply limits given sent
    have extensions := pipeline.extensions_process ctx fault span supply
    have body : ((pipeline.respond ctx fault span).run supply).value.body = sent.body := by
      rw [value_respond]
      simp only [sent, value_process]
    refine ⟨?_, ?_, body, ?_, pipeline.taken_handle ctx fault span supply⟩
    · rw [Limits.value_validate]
      exact extensions
    · simp only [sent, extensions]
      exact limits.bound_admitted given
    · intro portable
      rw [body]
      refine Problem.parse_body ?_ ?_
      · rw [extensions]
        exact Limits.isPortable_admitted portable
      · rw [extensions]
        exact limits.unreserved_admitted given

end Faultline.Pipeline
