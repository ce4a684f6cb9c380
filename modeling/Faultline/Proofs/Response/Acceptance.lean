import Faultline.Proofs.Problem.Members
import Faultline.Proofs.Response.Delivery
import Faultline.Proofs.Text.Bytes

/-!
Sinks that take all they are offered: they have the whole body at the end, unless the request was
cancelled before the writer started.
-/

namespace Faultline.Delivery

/-- Answers that take so many bytes, in parts of any size, and then flush. The writer may have to
wait, but not once the request is cancelled. -/
inductive TakesAll : (cancelled : Bool) → (left : Nat) → List Poll → Prop
  | waits {left : Nat} {rest : List Poll} (later : TakesAll false left rest) :
    TakesAll false left (⟨.pending, false⟩ :: rest)
  | takes {cancelled cancels : Bool} {left count : Nat} {rest : List Poll} (remains : 0 < left)
    (positive : 0 < count) (later : TakesAll (cancelled || cancels) (left - count) rest) :
    TakesAll cancelled left (⟨.ready count, cancels⟩ :: rest)
  | flushes {cancelled cancels : Bool} {count : Nat} {rest : List Poll} :
    TakesAll cancelled 0 (⟨.ready count, cancels⟩ :: rest)

/-- The sink takes a body of any size if the request is not cancelled when the writer starts. -/
def Sink.TakesAll (sink : Sink) : Prop := ∀ size, Delivery.TakesAll false size (sink size)

def Sink.greedy : Sink := fun size => [⟨.ready size, false⟩, ⟨.ready 0, false⟩]

theorem Sink.takesAll_greedy : greedy.TakesAll := by
  intro size
  by_cases remains : 0 < size
  · refine .takes remains remains ?_
    rw [Nat.sub_self]
    exact .flushes
  · obtain rfl : size = 0 := by omega
    exact .flushes

namespace State

variable {state : State}

theorem run_of_cancelled (waking : state.waking = true) (cancelled : state.cancelled = true)
    (polls : List Poll) : state.run polls = state.stop .cancelled := by
  cases polls <;> simp [run, waking, cancelled]

theorem run_of_takesAll {cancelled : Bool} {left : Nat} {polls : List Poll}
    (takesAll : TakesAll cancelled left polls) (flag : state.cancelled = cancelled)
    (size : state.left.length = left) (looks : (state.waking && state.cancelled) = false) :
    (state.run polls).verdict = .complete ∧
      (state.run polls).taken = state.taken ++ state.left := by
  induction takesAll generalizing state with
  | waits later ih =>
    have step : state.step ⟨.pending, false⟩ = .inr { state with waking := true } := by
      simp [State.step]
    rw [run, looks, step]
    exact ih flag size (by rw [flag, Bool.and_false])
  | @takes cancelled cancels left count rest remains positive later ih =>
    have nonempty : state.left.isEmpty = false := by
      rw [List.isEmpty_eq_false_iff_exists_mem, ← List.length_pos_iff_exists_mem, size]
      exact remains
    have step : state.step ⟨.ready count, cancels⟩ = .inr {
        taken := state.taken ++ state.left.take count
        left := state.left.drop count
        cancelled := state.cancelled || cancels
        waking := false } := by
      simp [State.step, nonempty, Nat.pos_iff_ne_zero.1 positive]
    rw [run, looks, step]
    -- bytes only move from those left to those taken
    obtain ⟨verdict, taken⟩ := @ih ⟨state.taken ++ state.left.take count, state.left.drop count,
      state.cancelled || cancels, false⟩ (by rw [flag]) (by rw [List.length_drop, size]) rfl
    refine ⟨verdict, taken.trans ?_⟩
    rw [List.append_assoc, List.take_append_drop]
  | @flushes cancelled cancels count rest =>
    have empty : state.left = [] := List.eq_nil_of_length_eq_zero size
    have step : state.step ⟨.ready count, cancels⟩ = .inl ({ state with
        cancelled := state.cancelled || cancels, waking := false }.stop .complete) := by
      simp [State.step, empty]
    rw [run, looks, step]
    exact ⟨rfl, by rw [empty, List.append_nil]; rfl⟩

end State

theorem bytesOf_ne_nil (problem : Problem) : bytesOf problem ≠ [] := by
  have written : problem.body ≠ "" := by
    rw [ne_eq, ← String.toList_eq_nil_iff, Problem.body_eq, Json.compact, String.toList_ofList]
    cases problem.members <;> simp [Json.text]
  exact mt Text.bytes_eq_nil_iff.1 written

end Faultline.Delivery
