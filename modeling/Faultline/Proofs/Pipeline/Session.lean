import Mathlib.Data.List.Pairwise
import Mathlib.Data.Set.Function
import Faultline.Pipeline.Basic
import Faultline.Proofs.Journal

/-!
Sessions with a pipeline: contexts are made and faults are processed one after another, and the
calls share one supply of identifiers. Main statement: if the identifiers drawn in a session do not
repeat, no two calls draw the same one.
-/

namespace Faultline

inductive Call where
  | context (traceId path : String)
  | request (headers : Headers) (path : String)
  | process (ctx : RequestContext) (fault : Fault) (span : Telemetry.Span)

inductive Reply where
  | context (ctx : RequestContext)
  | processed (ctx : RequestContext) (processed : Processed)

def Pipeline.serve (pipeline : Pipeline) : Call → Recorded Reply
  | .context traceId path => return .context (← RequestContext.new traceId path)
  | .request headers path => return .context (← RequestContext.ofRequest headers path)
  | .process ctx fault span => do
    let (ctx, processed) ← pipeline.process ctx fault span
    return .processed ctx processed

namespace Pipeline

variable (pipeline : Pipeline) (supply : Supply)

theorem run_serve_context (given path : String) :
    (pipeline.serve (.context given path)).run supply =
      let made := (RequestContext.new given path).run supply
      ⟨.context made.value, made.drawn, made.journal⟩ := by
  simp only [serve, Recorded.run_bind, Recorded.run_pure, Nat.add_zero, List.append_nil]

theorem run_serve_request (headers : Headers) (path : String) :
    (pipeline.serve (.request headers path)).run supply =
      let given := (RequestContext.incomingTraceId headers).getD ""
      let made := (RequestContext.new given path).run supply
      ⟨.context made.value, made.drawn, made.journal⟩ :=
  pipeline.run_serve_context supply _ path

theorem run_serve_process (ctx : RequestContext) (fault : Fault) (span : Telemetry.Span) :
    (pipeline.serve (.process ctx fault span)).run supply =
      let outcome := (pipeline.process ctx fault span).run supply
      ⟨.processed outcome.value.1 outcome.value.2, outcome.drawn, outcome.journal⟩ := by
  simp only [serve, Recorded.run_bind, Recorded.run_pure, Nat.add_zero, List.append_nil]

end Pipeline

/-- Calls in a row; which one comes next may depend on the replies so far. -/
inductive Session where
  | done
  | call (call : Call) (next : Reply → Session)

/-- One call of a session and what came of it; `start` identifiers were drawn before it. -/
structure Turn where
  call : Call
  start : Nat
  outcome : Outcome Reply

def Turn.stop (turn : Turn) : Nat := turn.start + turn.outcome.drawn

def Session.play (pipeline : Pipeline) : Session → Nat → Recorded (List Turn)
  | done, _ => return []
  | call made next, start => do
    let outcome ← (pipeline.serve made).observe
    let later ← (next outcome.value).play pipeline (start + outcome.drawn)
    return ⟨made, start, outcome⟩ :: later

namespace Turn

/-- The turn is what the pipeline does on the call, with what the supply has left by then. -/
def IsOf (turn : Turn) (pipeline : Pipeline) (supply : Supply) : Prop :=
  turn.outcome = (pipeline.serve turn.call).run fun n => supply (turn.start + n)

def Draws (turn : Turn) (supply : Supply) (id : Uuid) : Prop :=
  ∃ n, turn.start ≤ n ∧ n < turn.stop ∧ supply n = id

theorem draws_of_lt {turn : Turn} (supply : Supply) {n : Nat} (inside : n < turn.outcome.drawn) :
    turn.Draws supply (supply (turn.start + n)) :=
  ⟨turn.start + n, Nat.le_add_right _ _, Nat.add_lt_add_left inside _, rfl⟩

def Apart (supply : Supply) (a b : Turn) : Prop := ∀ id, a.Draws supply id → ¬b.Draws supply id

instance (supply : Supply) : Std.Symm (Apart supply) :=
  ⟨fun _ _ apart id here there => apart id there here⟩

def Sources (turn : Turn) (supply : Supply) (names : Uuid → String → Prop)
    (read : Turn → Option String) : Prop :=
  ∀ s, read turn = some s → ∃ id, turn.Draws supply id ∧ names id s

end Turn

namespace Session

variable (pipeline : Pipeline) (session : Session) (supply : Supply)

theorem run_play_call (made : Call) (next : Reply → Session) (start : Nat) :
    ((call made next).play pipeline start).run supply =
      let outcome := (pipeline.serve made).run supply
      let later := ((next outcome.value).play pipeline (start + outcome.drawn)).run
        fun n => supply (outcome.drawn + n)
      ⟨⟨made, start, outcome⟩ :: later.value, outcome.drawn + later.drawn,
        outcome.journal ++ later.journal⟩ := by
  simp only [play, Recorded.run_bind, Recorded.run_observe, Recorded.run_pure, Nat.add_zero,
    List.append_nil]

/-- The turns follow one another, each with the identifiers that those before it have left. -/
theorem turns_play (start : Nat) :
    let run := (session.play pipeline start).run fun n => supply (start + n)
    (run.value.Pairwise fun earlier later => earlier.stop ≤ later.start) ∧
      ∀ turn ∈ run.value, turn.IsOf pipeline supply ∧ start ≤ turn.start ∧
        turn.stop ≤ start + run.drawn := by
  induction session generalizing start with
  | done => simp [play]
  | call made next ih =>
    dsimp only
    rw [run_play_call]
    dsimp only
    generalize shape : (pipeline.serve made).run (fun n => supply (start + n)) = outcome
    -- the turns that follow start where this one stopped
    have rest := ih outcome.value (start + outcome.drawn)
    simp only [Nat.add_assoc start outcome.drawn] at rest
    obtain ⟨apart, inside⟩ := rest
    refine ⟨List.pairwise_cons.2 ⟨?_, apart⟩, ?_⟩
    · intro turn member
      exact (inside turn member).2.1
    · intro turn member
      rcases List.mem_cons.1 member with rfl | member
      · exact ⟨shape.symm, Nat.le_refl _, by simp only [Turn.stop]; omega⟩
      · obtain ⟨isOf, first, last⟩ := inside turn member
        exact ⟨isOf, by omega, last⟩

theorem turns_play_zero :
    let run := (session.play pipeline 0).run supply
    (run.value.Pairwise fun earlier later => earlier.stop ≤ later.start) ∧
      ∀ turn ∈ run.value, turn.IsOf pipeline supply ∧ turn.stop ≤ run.drawn := by
  have turns := turns_play pipeline session supply 0
  simp only [Nat.zero_add, Nat.zero_le, true_and] at turns
  exact turns

theorem apart_play :
    let run := (session.play pipeline 0).run supply
    Set.InjOn supply {n | n < run.drawn} → run.value.Pairwise (Turn.Apart supply) := by
  intro run noRepeats
  obtain ⟨ordered, inside⟩ := session.turns_play_zero pipeline supply
  refine ordered.imp_of_mem ?_
  rintro a b - member before id ⟨m, -, high, drawn⟩ ⟨n, low, last, again⟩
  have bound : b.stop ≤ run.drawn := (inside b member).2
  have same : m = n := noRepeats (by show m < run.drawn; omega) (by show n < run.drawn; omega)
    (drawn.trans again.symm)
  omega

end Session

namespace Turn

variable {turns : List Turn} {supply : Supply}

/-- A turn is known by any of the identifiers that it draws. -/
theorem eq_of_draws {a b : Turn} {id : Uuid} (apart : turns.Pairwise (Apart supply))
    (first : a ∈ turns) (drawn : a.Draws supply id) (second : b ∈ turns)
    (again : b.Draws supply id) : a = b := by
  by_contra different
  exact apart.forall first second different id drawn again

theorem nodup_filterMap {names : Uuid → String → Prop} {read : Turn → Option String}
    (unique : ∀ a b s, names a s → names b s → a = b) (apart : turns.Pairwise (Apart supply))
    (sourced : ∀ turn ∈ turns, turn.Sources supply names read) :
    (turns.filterMap read).Nodup := by
  refine List.pairwise_filterMap.2 (apart.imp_of_mem ?_)
  intro a b first second apart s here t there same
  subst same
  obtain ⟨id, drawn, named⟩ := sourced a first s here
  obtain ⟨other, again, alike⟩ := sourced b second s there
  exact apart id drawn (unique other id s alike named ▸ again)

end Turn
end Faultline
