import Faultline.Response.Delivery

/-!
What a sink has taken. The bytes taken and those left always make up the body, so what a sink has
taken at the end is the beginning of the body.
-/

namespace Faultline.Delivery

namespace State

def Splits (state : State) (body : List UInt8) : Prop := state.taken ++ state.left = body

theorem splits_start (body : List UInt8) (cancelled : Bool) : (start body cancelled).Splits body :=
  rfl

variable {state : State} {body : List UInt8}

theorem Splits.taken_prefix (splits : state.Splits body) (verdict : Verdict) :
    (state.stop verdict).taken <+: body := ⟨state.left, splits⟩

theorem Splits.step (splits : state.Splits body) (poll : Poll) :
    match state.step poll with
    | .inl delivered => delivered.taken <+: body
    | .inr next => next.Splits body := by
  unfold State.step
  cases poll.reply with
  | failed reason => exact splits.taken_prefix (.failed reason)
  | pending => exact splits
  | ready count =>
    dsimp only
    cases state.left.isEmpty with
    | true => exact splits.taken_prefix .complete
    | false =>
      by_cases none : count = 0
      · rw [if_neg Bool.false_ne_true, if_pos none]
        exact splits.taken_prefix (.failed "write zero")
      · rw [if_neg Bool.false_ne_true, if_neg none]
        have moved : state.taken ++ state.left.take count ++ state.left.drop count = body := by
          rw [List.append_assoc, List.take_append_drop]
          exact splits
        exact moved

theorem Splits.run (splits : state.Splits body) (polls : List Poll) :
    (state.run polls).taken <+: body := by
  induction polls generalizing state with
  | nil => exact splits.taken_prefix _
  | cons poll rest ih =>
    have step := splits.step poll
    unfold State.run
    split
    next => exact splits.taken_prefix .cancelled
    next =>
      cases stepped : state.step poll with
      | inl delivered =>
        rw [stepped] at step
        exact step
      | inr next =>
        rw [stepped] at step
        exact ih step

end State

theorem value_write (ctx : RequestContext) (problem : Problem) (sink : Sink) (supply : Supply) :
    ((write ctx problem sink).run supply).value =
      (State.start (bytesOf problem) ctx.cancelled).run (sink (bytesOf problem).length) := by
  unfold write
  dsimp only
  split <;> rfl

theorem taken_write (ctx : RequestContext) (problem : Problem) (sink : Sink) (supply : Supply) :
    ((write ctx problem sink).run supply).value.taken <+: bytesOf problem := by
  rw [value_write]
  exact (State.splits_start _ _).run _

end Faultline.Delivery
