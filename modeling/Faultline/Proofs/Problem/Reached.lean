import Faultline.Proofs.Problem.Decoding
import Faultline.Proofs.Problem.History

/-!
Documents made by the operations on them. None of these adds an extension member with a reserved
name, and each value in such a document is one that was given.
-/

namespace Faultline

theorem Json.mem_upsert {members : List (String × Json)} {key : String} {value : Json}
    {entry : String × Json} (member : entry ∈ upsert key value members) :
    entry = (key, value) ∨ entry ∈ members := by
  induction members with
  | nil => exact .inl (List.mem_singleton.1 member)
  | cons first rest ih =>
    rw [upsert] at member
    split at member
    next same =>
      rcases List.mem_cons.1 member with rfl | later
      · exact .inl (congrArg (·, value) same)
      · exact .inr (List.mem_cons_of_mem _ later)
    next =>
      rcases List.mem_cons.1 member with rfl | later
      · exact .inr List.mem_cons_self
      · exact (ih later).imp_right (List.mem_cons_of_mem _)

namespace Problem

def Carries (admits : Json → Prop) (extensions : Members) : Prop :=
  ∀ entry ∈ extensions.entries, isReserved entry.1 = false ∧ admits entry.2

/-- Documents made by operations on documents, with extension values that are admitted. -/
inductive Reached (admits : Json → Prop) : Problem → Prop where
  | new (status : Status) (title detail : String) : Reached admits (.new status title detail)
  | withType {problem : Problem} (made : Reached admits problem) (uri : String) :
    Reached admits (problem.withType uri)
  | withInstance {problem : Problem} (made : Reached admits problem) (uri : String) :
    Reached admits (problem.withInstance uri)
  | withCode {problem : Problem} (made : Reached admits problem) (code : String) :
    Reached admits (problem.withCode code)
  | withTraceId {problem : Problem} (made : Reached admits problem) (id : String) :
    Reached admits (problem.withTraceId id)
  | withExtension {problem : Problem} (made : Reached admits problem) (key : String)
    {value : Json} (admitted : admits value) : Reached admits (problem.withExtension key value)
  | build {problem : Problem} (made : Reached admits problem) (requestTraceId : String)
    {steps : List ProblemBuilder.Step}
    (admitted : ∀ key value, .extension key value ∈ steps → admits value) (supply : Supply) :
    Reached admits ((do
      (← (ProblemBuilder.ofProblem problem requestTraceId).applyAll steps).build).run supply).value
  | decode {value : Json} {problem : Problem}
    (admitted : ∀ members, value = .object members →
      ∀ member ∈ members, isReserved member.1 = false → admits member.2)
    (decoded : decode value = .ok problem) : Reached admits problem
  | read {text : String} {problem : Problem}
    (admitted : ∀ members afterwards, Json.readDocument text = .members members afterwards →
      ∀ member ∈ members, isReserved member.1 = false → admits member.2)
    (decoded : read text = .ok problem) : Reached admits problem

variable {admits : Json → Prop} {problem : Problem} {extensions : Members} {key : String}
  {value : Json}

theorem carries_empty : Carries admits .empty := by
  intro entry member
  cases member

theorem Carries.insert (carries : Carries admits extensions) (free : isReserved key = false)
    (admitted : admits value) : Carries admits (extensions.insert key value) := by
  intro entry member
  rcases Json.mem_upsert member with rfl | old
  · exact ⟨free, admitted⟩
  · exact carries entry old

theorem Carries.withExtension (carries : Carries admits problem.extensions)
    (admitted : admits value) : Carries admits (problem.withExtension key value).extensions := by
  unfold Problem.withExtension
  split
  next => exact carries
  next free => exact carries.insert (Bool.eq_false_iff.2 free) admitted

variable {builder : ProblemBuilder}

theorem carries_apply {step : ProblemBuilder.Step}
    (carries : Carries admits builder.problem.extensions)
    (admitted : ∀ key value, step = .extension key value → admits value) :
    (builder.apply step).Ensures (Carries admits ·.problem.extensions) := by
  cases step with
  | type | title | detail | status | code | traceId => exact Recorded.ensures_pure carries
  | «instance» uri =>
    show (builder.withInstance uri).Ensures _
    unfold ProblemBuilder.withInstance
    split
    next => exact Recorded.ensures_pure carries
    next => exact Recorded.ensures_then fun _ => Recorded.ensures_pure carries
  | extension key value =>
    refine Recorded.ensures_pure ?_
    rw [ProblemBuilder.withExtension_eq]
    dsimp only
    split
    next => exact carries
    next free =>
      rw [Bool.not_eq_true, Bool.or_eq_false_iff] at free
      exact carries.insert free.2 (admitted key value rfl)

theorem carries_applyAll {steps : List ProblemBuilder.Step}
    (carries : Carries admits builder.problem.extensions)
    (admitted : ∀ key value, .extension key value ∈ steps → admits value) :
    (builder.applyAll steps).Ensures (Carries admits ·.problem.extensions) := by
  induction steps generalizing builder with
  | nil => exact Recorded.ensures_pure carries
  | cons step rest ih =>
    have first : (builder.apply step).Ensures (Carries admits ·.problem.extensions) :=
      carries_apply carries fun key value same => admitted key value (same ▸ List.mem_cons_self)
    exact Recorded.ensures_bind _ first fun next carries =>
      ih carries fun key value later => admitted key value (List.mem_cons_of_mem _ later)

theorem carries_build (carries : Carries admits builder.problem.extensions) :
    builder.build.Ensures (Carries admits ·.extensions) := by
  intro supply
  rw [ProblemBuilder.run_build_eq]
  exact carries

variable {draft next : Draft} {members : List (String × Json)}

theorem carries_accept (carries : Carries admits draft.extensions)
    (admitted : isReserved key = false → admits value)
    (accepted : draft.accept key value = .ok next) : Carries admits next.extensions := by
  cases kind : isReserved key with
  | true =>
    rw [(Draft.own?_accept kind accepted).2.2]
    exact carries
  | false =>
    rw [Draft.accept_extension kind, Except.ok.injEq] at accepted
    subst accepted
    exact carries.insert kind (admitted kind)

theorem carries_acceptAll (carries : Carries admits draft.extensions)
    (admitted : ∀ member ∈ members, isReserved member.1 = false → admits member.2)
    (accepted : draft.acceptAll members = .ok next) : Carries admits next.extensions := by
  induction members generalizing draft with
  | nil =>
    cases accepted
    exact carries
  | cons member rest ih =>
    obtain ⟨mid, first, later⟩ := Except.bind_eq_ok accepted
    exact ih (carries_accept carries (admitted _ List.mem_cons_self) first)
      (fun member inside => admitted member (List.mem_cons_of_mem _ inside)) later

theorem carries_decodeMembers
    (admitted : ∀ member ∈ members, isReserved member.1 = false → admits member.2)
    (decoded : decodeMembers members = .ok problem) : Carries admits problem.extensions := by
  obtain ⟨draft, accepted, made⟩ := Except.bind_eq_ok decoded
  have carries := carries_acceptAll carries_empty admitted accepted
  unfold Draft.finish at made
  split at made
  next => cases made
  next => cases made
  next => cases made
  next =>
    cases made
    exact carries

theorem read_eq_ok_iff {text : String} : read text = .ok problem ↔
    ∃ members, Json.readDocument text = .members members none ∧
      decodeMembers members = .ok problem := by
  unfold read
  cases found : Json.readDocument text with
  | nothing | list | scalar => simp
  | brokenMembers entries pending defect =>
    cases accepted : Draft.empty.acceptAll entries <;> simp [accepted]
  | members entries afterwards =>
    cases decoded : decodeMembers entries <;> cases afterwards <;> simp [decoded]

theorem carries_of_reached (reached : Reached admits problem) :
    Carries admits problem.extensions := by
  induction reached with
  | new => exact carries_empty
  | withType _ _ ih => exact ih
  | withInstance _ _ ih => exact ih
  | withCode _ _ ih => exact ih
  | withTraceId _ _ ih => exact ih
  | withExtension _ key admitted ih => exact ih.withExtension admitted
  | build _ requestTraceId admitted supply ih =>
    exact Recorded.ensures_bind _ (carries_applyAll ih admitted)
      (fun _ carries => carries_build carries) supply
  | @decode value problem admitted decoded =>
    cases value with
    | object members => exact carries_decodeMembers (admitted members rfl) decoded
    | null | bool | integer | decimal | string | array => cases decoded
  | @read text problem admitted decoded =>
    obtain ⟨members, document, decoded⟩ := read_eq_ok_iff.1 decoded
    exact carries_decodeMembers (admitted members none document) decoded

end Problem
end Faultline
