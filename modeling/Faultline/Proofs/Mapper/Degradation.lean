import Faultline.Proofs.Mapper.Status

/-!
What every built-in mapper answers, whether it can handle the fault or not. Main statement: the
document belongs to the request and has a fresh instance, and to a fault that the mapper cannot
handle the answer is the one of the mapper for unexpected faults, with one more warning.
-/

namespace Faultline

/-- The answer belongs to the request, and it tells no more than was decided. -/
structure Mapped.BelongsTo (mapped : Mapped) (ctx : RequestContext) (id : Uuid) : Prop where
  status : mapped.IsCoherent
  traceId : mapped.problem.traceId = ctx.traceId
  instanceUri : mapped.problem.instanceUri = Problem.instanceUrn id.hyphenated
  errorId : mapped.problem.errorId = none
  extensions : Problem.Unreserved mapped.problem.extensions
  detail : mapped.problem.detail =
    if Text.isBlank mapped.sanitization.detail then "" else mapped.sanitization.detail

theorem Row.mapped_belongsTo {row : Row} (free : AreFree row.members) (sanitizer : Sanitizer)
    (ctx : RequestContext) (fault : Fault) (id : Uuid) :
    (row.mapped sanitizer ctx fault id).BelongsTo ctx id where
  status := rfl
  traceId := rfl
  instanceUri := rfl
  errorId := rfl
  extensions := free.unreserved
  detail := textOr_some "" _

namespace Mapper

def misplaced (name : String) (fault : Fault) : Event :=
  ⟨.warn,
    "mapper invoked with a fault it cannot handle; answering with an unexpected-error problem",
    [("mapper", .text name), ("kind", .text fault.kindName)]⟩

variable (sanitizer : Sanitizer) (ctx : RequestContext) (fault : Fault)

theorem run_mapUnexpected (name : String) (supply : Supply) :
    let unexpected := (unexpectedProblem sanitizer ctx fault).run supply
    (mapUnexpected sanitizer name ctx fault).run supply =
      { unexpected with journal := .logged (misplaced name fault) :: unexpected.journal } := by
  unfold mapUnexpected
  simp only [Recorded.run_bind, Recorded.run_log, Nat.zero_add]
  rfl

end Mapper

namespace BuiltInMapper

/-- Every answer belongs to its request, and a fault that the mapper cannot handle is answered as an
unexpected one is. -/
theorem map_degrades (mapper : BuiltInMapper) (sanitizer : Sanitizer) (ctx : RequestContext)
    (fault : Fault) (supply : Supply) :
    let outcome := (mapper.map sanitizer ctx fault).run supply
    (∃ earlier, outcome.drawn = earlier + 1 ∧ outcome.value.BelongsTo ctx (supply earlier)) ∧
      (mapper.canHandle fault = false →
        let other := (unexpected.map sanitizer ctx fault).run supply
        outcome.value = other.value ∧ outcome.drawn = other.drawn ∧
          outcome.journal = .logged (Mapper.misplaced mapper.name fault) :: other.journal) := by
  intro outcome
  constructor
  · obtain ⟨row, free, earlier, drawn, value⟩ := mapper.exists_answers sanitizer ctx fault supply
    have belongs := row.mapped_belongsTo free sanitizer ctx fault (supply earlier)
    exact ⟨earlier, drawn, value ▸ belongs⟩
  · intro refused other
    have same : outcome = { other with
        journal := .logged (Mapper.misplaced mapper.name fault) :: other.journal } := by
      show (mapper.map sanitizer ctx fault).run supply = _
      rw [map_of_not_canHandle sanitizer ctx refused]
      exact Mapper.run_mapUnexpected sanitizer ctx fault mapper.name supply
    rw [same]
    exact ⟨rfl, rfl, rfl⟩

theorem map_degrades_timeout :
    let sanitizer : Sanitizer := ⟨.default, .production, none⟩
    let ctx : RequestContext := .start "7f3a" (by decide) "/orders"
    let fault : Fault := .timeout "GET /stock" ⟨2, 0⟩
    let supply : Supply := fun n => ⟨.replicate 32 (Fin.ofNat 16 n)⟩
    validation.canHandle fault = false ∧
      ((validation.map sanitizer ctx fault).run supply).value =
        ((unexpected.map sanitizer ctx fault).run supply).value := by
  intro sanitizer ctx fault supply
  have refused : validation.canHandle fault = false := rfl
  obtain ⟨-, degrades⟩ := map_degrades validation sanitizer ctx fault supply
  exact ⟨refused, (degrades refused).1⟩

end BuiltInMapper
end Faultline
