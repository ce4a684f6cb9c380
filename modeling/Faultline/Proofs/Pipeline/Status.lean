import Faultline.Proofs.Mapper.Status
import Faultline.Proofs.Pipeline.Answer
import Faultline.Proofs.Pipeline.Assembly

/-!
The two places of a response that tell its status. Main statement: the head has the status that the
mapper gives beside its document and the body the document's own, so they agree exactly for coherent
answers. The built-in mappers give no others, but a mapper made from them may.
-/

namespace Faultline

namespace Pipeline
open Formatting

def StatusesAgree (head : Status) (document : Problem) : Prop :=
  Json.find? document.members "status" = some (.integer head.code)

theorem statusesAgree_iff {head : Status} {document : Problem} :
    StatusesAgree head document ↔ document.status = head := by
  have codes : ((document.status.code : Int) = head.code) ↔ document.status = head := by
    rw [Int.ofNat_inj, Status.code_inj]
  rw [StatusesAgree, document.find?_status, Option.some.injEq, Json.integer.injEq, codes]

theorem UsesBuiltIns.isCoherent_answer {pipeline : Pipeline} (builtIns : pipeline.UsesBuiltIns)
    (ctx : RequestContext) (fault : Fault) :
    (pipeline.answer ctx fault).Ensures Mapped.IsCoherent := by
  obtain ⟨builtIn, mapper⟩ := builtIns _ (Registry.mapperFor_mem fault)
  unfold answer
  rw [mapper]
  exact builtIn.isCoherent_map pipeline.sanitizer ctx fault

/-- Head and body agree exactly if the mapper gives the status of its document, as every built-in
mapper does. -/
theorem statuses_agree_iff_isCoherent (pipeline : Pipeline) (ctx : RequestContext)
    (fault : Fault) (span : Telemetry.Span) (supply : Supply) :
    let mapped := ((pipeline.answer ctx fault).run supply).value
    let outcome := ((pipeline.process ctx fault span).run supply).value
    let response := ((pipeline.respond ctx fault span).run supply).value
    outcome.1.response.status = mapped.status ∧ response.status = mapped.status ∧
      response.body = (Json.object outcome.2.problem.members).compact ∧
      (StatusesAgree mapped.status outcome.2.problem ↔ mapped.IsCoherent) ∧
      (pipeline.UsesBuiltIns → StatusesAgree mapped.status outcome.2.problem) := by
  intro mapped outcome response
  have settled := pipeline.value_settle ctx fault supply
  have processed := pipeline.value_process ctx fault span supply
  have responded := pipeline.value_respond ctx fault span supply
  dsimp only at settled processed responded
  rw [settled] at processed responded
  have agree : StatusesAgree mapped.status outcome.2.problem ↔ mapped.IsCoherent := by
    rw [statusesAgree_iff]
    simp only [outcome, processed]
    exact Iff.rfl
  refine ⟨?_, ?_, ?_, agree, ?_⟩
  · simp only [outcome, processed]
    rfl
  · simp only [response, responded]
    rfl
  · simp only [response, responded, outcome, processed]
    exact Problem.body_eq _
  · intro builtIns
    exact agree.2 (builtIns.isCoherent_answer ctx fault supply)

def relaying : Pipeline :=
  let sanitizer : Sanitizer := ⟨.default, .production, none⟩
  { registry := ⟨[.primary (BuiltInMapper.remoteHttp.toMapper sanitizer) 300],
      [.fallback (BuiltInMapper.unexpected.toMapper sanitizer) 0], List.cons_ne_nil _ _⟩
    limits := .default
    enricher := Telemetry.Enricher.silent
    sanitizer := sanitizer }

theorem statuses_agree_relaying :
    let outcome := (relaying.process (.start "7f3a" (by decide) "/orders")
      (.remote (some .tooManyRequests) "slow down") .disabled).run fun _ => ⟨.replicate 32 5⟩
    relaying.UsesBuiltIns ∧ outcome.value.1.response.status = .tooManyRequests ∧
      StatusesAgree .tooManyRequests outcome.value.2.problem := by
  have builtIns : relaying.UsesBuiltIns := by
    intro mapper member
    simp only [relaying, Registry.mappers, List.cons_append, List.nil_append, List.map_cons,
      List.map_nil, List.mem_cons, List.not_mem_nil, or_false] at member
    rcases member with rfl | rfl
    · exact ⟨.remoteHttp, rfl⟩
    · exact ⟨.unexpected, rfl⟩
  obtain ⟨head, -, -, -, agree⟩ := statuses_agree_iff_isCoherent relaying
    (.start "7f3a" (by decide) "/orders") (.remote (some .tooManyRequests) "slow down") .disabled
    fun _ => ⟨.replicate 32 5⟩
  exact ⟨builtIns, head.trans rfl, agree builtIns⟩

/-- Says of a declined payment that it conflicts, after the mapper has settled the status. -/
def overruling : Pipeline :=
  let sanitizer : Sanitizer := ⟨.default, .production, none⟩
  let mapper := Mapper.forType .domain "payments" .badRequest
    (fun builder _ => builder.withStatus .conflict) sanitizer
  { registry := ⟨[.primary mapper 600],
      [.fallback (BuiltInMapper.unexpected.toMapper sanitizer) 0], List.cons_ne_nil _ _⟩
    limits := .default
    enricher := Telemetry.Enricher.silent
    sanitizer := sanitizer }

theorem overruling_disagrees :
    let declined : Fault := .app (.domain ⟨"DECLINED", "Declined", none⟩ "card" false none)
    let ctx : RequestContext := .start "7f3a" (by decide) "/pay"
    let supply : Supply := fun _ => ⟨.replicate 32 5⟩
    let outcome := ((overruling.process ctx declined .disabled).run supply).value
    let response := ((overruling.respond ctx declined .disabled).run supply).value
    outcome.1.response.status = .badRequest ∧ response.status = .badRequest ∧
      Json.find? outcome.2.problem.members "status" = some (.integer 409) ∧
      ¬ StatusesAgree outcome.1.response.status outcome.2.problem := by
  refine ⟨rfl, rfl, rfl, ?_⟩
  rw [statusesAgree_iff]
  decide

end Pipeline
end Faultline
