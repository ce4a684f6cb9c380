import Faultline.Proofs.Json.Members
import Faultline.Proofs.Problem.Members

/-!
Reading a document member by member. A member of the document's own is kept under its name, once,
and any other becomes an extension member.
-/

namespace Faultline

theorem Status.ofInt?_eq_some_iff {n : Int} {status : Status} :
    ofInt? n = some status ↔ n = status.code := by
  obtain ⟨code, low, high⟩ := status
  unfold ofInt? ofNat?
  dsimp only
  by_cases negative : n < 0
  · rw [if_pos negative]
    simp only [reduceCtorEq, false_iff]
    omega
  · rw [if_neg negative]
    by_cases within : 100 ≤ n.toNat ∧ n.toNat ≤ 999
    · rw [dif_pos within, Option.some.injEq, Status.mk.injEq]
      omega
    · rw [dif_neg within]
      simp only [reduceCtorEq, false_iff]
      omega

namespace Problem

def Fits (key : String) (value : Json) : Prop :=
  match key with
  | "status" => ∃ n : Int, value = .integer n ∧ 100 ≤ n ∧ n ≤ 999
  | "errorId" => value = .null ∨ ∃ s, value = .string s
  | _ => ∃ s, value = .string s

def errorIdValue : Option String → Json
  | some id => .string id
  | none => .null

section
variable {α : Type} {value : Json} {made : α}

theorem decodeText_map {f : String → α} :
    (decodeText value).map f = .ok made ↔ ∃ s, value = .string s ∧ f s = made := by
  cases value <;> simp [decodeText, Except.map]

theorem decodeStatus_eq_ok_iff {status : Status} :
    decodeStatus value = .ok status ↔ value = .integer status.code := by
  cases value with
  | integer n =>
    have bits : Nat.pow 2 16 = 65536 := rfl
    have bounds := status.valid
    have codes : decodeStatus (.integer n) = .ok status ↔ n = status.code := by
      simp only [decodeStatus]
      by_cases short : 0 ≤ n ∧ n < Nat.pow 2 16
      · rw [if_pos short, ← Status.ofInt?_eq_some_iff]
        cases Status.ofInt? n <;> simp
      · rw [if_neg short]
        simp only [reduceCtorEq, false_iff]
        omega
    rw [codes, Json.integer.injEq]
  | null | bool | decimal | string | array | object => simp [decodeStatus]

theorem decodeStatus_map {f : Status → α} :
    (decodeStatus value).map f = .ok made ↔
      ∃ status : Status, value = .integer status.code ∧ f status = made := by
  simp only [← decodeStatus_eq_ok_iff]
  cases decodeStatus value <;> simp [Except.map]

theorem decodeErrorId_map {f : Option String → α} :
    (decodeErrorId value).map f = .ok made ↔ ∃ id, value = errorIdValue id ∧ f id = made := by
  constructor
  · intro mapped
    cases value with
    | null =>
      cases mapped
      exact ⟨none, rfl, rfl⟩
    | string s =>
      cases mapped
      exact ⟨some s, rfl, rfl⟩
    | bool | integer | decimal | array | object => cases mapped
  · rintro ⟨id, rfl, rfl⟩
    cases id <;> rfl

end

theorem isReserved_cases {key : String} (reserved : isReserved key = true) :
    key = "type" ∨ key = "title" ∨ key = "status" ∨ key = "detail" ∨ key = "instance" ∨
      key = "code" ∨ key = "traceId" ∨ key = "errorId" := by
  simpa [isReserved, Problem.reserved] using reserved

namespace Draft

def own? (draft : Draft) (key : String) : Option Json :=
  match key with
  | "type" => draft.typeUri.map .string
  | "title" => draft.title.map .string
  | "status" => draft.status.map fun status => .integer status.code
  | "detail" => draft.detail.map .string
  | "instance" => draft.instanceUri.map .string
  | "code" => draft.code.map .string
  | "traceId" => draft.traceId.map .string
  | "errorId" => draft.errorId.map errorIdValue
  | _ => none

variable {draft next : Draft} {key : String} {value : Json}

theorem has_eq_isSome_own? : draft.has key = (draft.own? key).isSome := by
  unfold has own?
  split <;> simp

theorem fits_of_own? (read : draft.own? key = some value) : Fits key value := by
  unfold own? at read
  split at read
  case h_9 => cases read
  all_goals obtain ⟨given, -, rfl⟩ := Option.map_eq_some_iff.1 read
  case h_3 =>
    have bounds := given.valid
    exact ⟨given.code, rfl, by omega, by omega⟩
  case h_8 =>
    cases given with
    | none => exact .inl rfl
    | some id => exact .inr ⟨id, rfl⟩
  all_goals exact ⟨given, rfl⟩

theorem not_has_of_absent (absent : draft.own? key = none) : ¬ draft.has key = true := by
  rw [has_eq_isSome_own?, absent]
  exact Bool.false_ne_true

theorem own?_of_extension (free : isReserved key = false) : draft.own? key = none := by
  unfold own?
  split
  case h_9 => rfl
  all_goals cases free

theorem own?_accept (reserved : isReserved key = true)
    (accepted : draft.accept key value = .ok next) :
    next.own? key = some value ∧ (∀ other, other ≠ key → next.own? other = draft.own? other) ∧
      next.extensions = draft.extensions := by
  unfold accept at accepted
  by_cases known : draft.has key = true
  · rw [if_pos known] at accepted
    cases accepted
  · rw [if_neg known] at accepted
    rcases isReserved_cases reserved with rfl | rfl | rfl | rfl | rfl | rfl | rfl | rfl
    -- Each name has one of three kinds of value, and reading it fills the place of that name only.
    all_goals
      first
      | obtain ⟨given, rfl, rfl⟩ := decodeText_map.1 accepted
      | obtain ⟨given, rfl, rfl⟩ := decodeStatus_map.1 accepted
      | obtain ⟨given, rfl, rfl⟩ := decodeErrorId_map.1 accepted
      refine ⟨rfl, ?_, rfl⟩
      intro other different
      unfold own?
      split <;> first | rfl | exact absurd rfl different

theorem exists_accept (reserved : isReserved key = true) (absent : draft.own? key = none)
    (fits : Fits key value) : ∃ next, draft.accept key value = .ok next := by
  unfold accept
  rw [if_neg (not_has_of_absent absent)]
  rcases isReserved_cases reserved with rfl | rfl | rfl | rfl | rfl | rfl | rfl | rfl
  case inr.inr.inl =>
    obtain ⟨n, rfl, low, high⟩ := fits
    have code : 100 ≤ n.toNat ∧ n.toNat ≤ 999 := by omega
    have same : ((n.toNat : Nat) : Int) = n := by omega
    exact ⟨_, decodeStatus_map.2 ⟨⟨n.toNat, code⟩, congrArg Json.integer same.symm, rfl⟩⟩
  case inr.inr.inr.inr.inr.inr.inr =>
    rcases fits with rfl | ⟨s, rfl⟩
    · exact ⟨_, decodeErrorId_map.2 ⟨none, rfl, rfl⟩⟩
    · exact ⟨_, decodeErrorId_map.2 ⟨some s, rfl, rfl⟩⟩
  all_goals
    obtain ⟨s, rfl⟩ := fits
    exact ⟨_, decodeText_map.2 ⟨s, rfl, rfl⟩⟩

theorem accept_extension (free : isReserved key = false) :
    draft.accept key value =
      .ok { draft with extensions := draft.extensions.insert key value } := by
  unfold accept
  rw [if_neg (not_has_of_absent (own?_of_extension free))]
  split
  case h_9 => rfl
  all_goals cases free

variable {members : List (String × Json)}

theorem acceptAll_cons (rest : List (String × Json)) :
    draft.acceptAll ((key, value) :: rest) =
      (draft.accept key value >>= fun next => next.acceptAll rest) := rfl

theorem own?_empty : empty.own? key = none := by
  unfold own?
  split <;> rfl

/-- A run over members with distinct names puts each where it belongs. -/
theorem own?_acceptAll (distinct : (members.map Prod.fst).Nodup)
    (accepted : draft.acceptAll members = .ok next) :
    (∀ key, isReserved key = true →
      next.own? key = (Json.find? members key).or (draft.own? key)) ∧
    next.extensions = (members.filter (!isReserved ·.1)).foldl
      (fun known member => known.insert member.1 member.2) draft.extensions := by
  induction members generalizing draft with
  | nil =>
    cases accepted
    exact ⟨fun key _ => rfl, rfl⟩
  | cons member rest ih =>
    obtain ⟨name, value⟩ := member
    rw [List.map_cons, List.nodup_cons] at distinct
    rw [acceptAll_cons] at accepted
    cases first : draft.accept name value with
    | error reason =>
      rw [first] at accepted
      cases accepted
    | ok mid =>
      rw [first] at accepted
      obtain ⟨later, extensions⟩ := ih distinct.2 accepted
      cases kind : isReserved name with
      | true =>
        obtain ⟨here, others, kept⟩ := own?_accept kind first
        have skipped : ((name, value) :: rest).filter (!isReserved ·.1) =
            rest.filter (!isReserved ·.1) := List.filter_cons_of_neg (by simp [kind])
        refine ⟨fun key reserved => ?_, by rw [extensions, kept, skipped]⟩
        rw [later key reserved]
        by_cases same : name = key
        · subst same
          -- the name does not come again, so what was read here stays
          rw [Json.find?_cons_self, Json.find?_eq_none_iff.2 distinct.1, here]
          rfl
        · rw [Json.find?_cons_of_ne same, others key (Ne.symm same)]
      | false =>
        rw [accept_extension kind, Except.ok.injEq] at first
        subst first
        have taken : ((name, value) :: rest).filter (!isReserved ·.1) =
            (name, value) :: rest.filter (!isReserved ·.1) :=
          List.filter_cons_of_pos (by simp [kind])
        refine ⟨fun key reserved => ?_, by rw [extensions, taken, List.foldl_cons]⟩
        have different : name ≠ key := by
          rintro rfl
          rw [kind] at reserved
          cases reserved
        rw [later key reserved, Json.find?_cons_of_ne different]
        rfl

theorem exists_acceptAll (distinct : (members.map Prod.fst).Nodup)
    (fit : ∀ member ∈ members, isReserved member.1 = true →
      draft.own? member.1 = none ∧ Fits member.1 member.2) :
    ∃ next, draft.acceptAll members = .ok next := by
  induction members generalizing draft with
  | nil => exact ⟨draft, rfl⟩
  | cons member rest ih =>
    obtain ⟨name, value⟩ := member
    rw [List.map_cons, List.nodup_cons] at distinct
    have later (other : String × Json) (inside : other ∈ rest) :=
      fit other (List.mem_cons_of_mem _ inside)
    rw [acceptAll_cons]
    cases kind : isReserved name with
    | true =>
      obtain ⟨absent, fits⟩ := fit _ List.mem_cons_self kind
      obtain ⟨mid, first⟩ := exists_accept kind absent fits
      obtain ⟨-, others, -⟩ := own?_accept kind first
      rw [first]
      refine ih distinct.2 fun other inside reserved => ?_
      have named : other.1 ∈ rest.map Prod.fst := List.mem_map_of_mem inside
      -- what is read here leaves the other names free
      have different : other.1 ≠ name := by
        intro same
        exact distinct.1 (same ▸ named)
      obtain ⟨free, fitsToo⟩ := later other inside reserved
      exact ⟨(others _ different).trans free, fitsToo⟩
    | false =>
      rw [accept_extension kind]
      exact ih distinct.2 later

theorem exists_finish {typeUri title status : Json}
    (type : draft.own? "type" = some typeUri) (named : draft.own? "title" = some title)
    (settled : draft.own? "status" = some status) : ∃ problem, draft.finish = .ok problem := by
  obtain ⟨_, hasType, -⟩ := Option.map_eq_some_iff.1 type
  obtain ⟨_, hasTitle, -⟩ := Option.map_eq_some_iff.1 named
  obtain ⟨_, hasStatus, -⟩ := Option.map_eq_some_iff.1 settled
  unfold finish
  rw [hasType, hasTitle, hasStatus]
  exact ⟨_, rfl⟩

end Draft
end Problem
end Faultline
