import Faultline.Journal

/-!
What every run of a computation gives, whatever identifiers it draws, how many it draws, what a
computation asks, and which alarms it raises.
-/

namespace Faultline

/-- Warnings and errors call for an operator. -/
def Event.isAlarm (event : Event) : Bool := event.level.isWithin .warn

def Outcome.alarms {α : Type} (outcome : Outcome α) : List Event :=
  outcome.events.filter Event.isAlarm

namespace Entry

theorem filterMap_event?_logged (events : List Event) :
    (events.map logged).filterMap event? = events := by
  simp [event?, Function.comp_def]

theorem filterMap_question?_logged (events : List Event) :
    (events.map logged).filterMap question? = [] := by
  simp [question?, Function.comp_def]

end Entry

namespace Recorded

variable {α β : Type}

/-- Whatever identifiers are drawn, the result is as said. -/
def Ensures (action : Recorded α) (post : α → Prop) : Prop :=
  ∀ supply, post (action.run supply).value

theorem ensures_pure {post : α → Prop} {a : α} (met : post a) :
    (pure a : Recorded α).Ensures post := fun _ => met

theorem ensures_bind {action : Recorded α} {next : α → Recorded β} {post : β → Prop}
    (known : α → Prop) (first : action.Ensures known)
    (second : ∀ a, known a → (next a).Ensures post) : (action >>= next).Ensures post :=
  fun supply => second _ (first supply) _

theorem ensures_then {action : Recorded α} {next : α → Recorded β} {post : β → Prop}
    (second : ∀ a, (next a).Ensures post) : (action >>= next).Ensures post :=
  fun _ => second _ _

/-- So many identifiers are drawn, whichever they are. -/
def Draws (action : Recorded α) (count : Nat) : Prop :=
  ∀ supply, (action.run supply).drawn = count

theorem draws_pure (a : α) : (pure a : Recorded α).Draws 0 := fun _ => rfl

theorem draws_fresh : fresh.Draws 1 := fun _ => rfl

theorem draws_log (level : Level) (message : String) (fields : List (String × FieldValue)) :
    (log level message fields).Draws 0 := fun _ => rfl

theorem draws_bind {action : Recorded α} {next : α → Recorded β} {m n : Nat}
    (first : action.Draws m) (second : ∀ a, (next a).Draws n) :
    (action >>= next).Draws (m + n) := by
  intro supply
  simp only [run_bind, first supply, second _ _]

@[simp] theorem run_observe (action : Recorded α) (supply : Supply) :
    action.observe.run supply =
      ⟨action.run supply, (action.run supply).drawn, (action.run supply).journal⟩ := rfl

theorem events_bind (action : Recorded α) (next : α → Recorded β) (supply : Supply) :
    ((action >>= next).run supply).events =
      let first := action.run supply
      first.events ++ ((next first.value).run fun n => supply (first.drawn + n)).events := by
  simp only [Outcome.events, run_bind, List.filterMap_append]

theorem alarms_bind (action : Recorded α) (next : α → Recorded β) (supply : Supply) :
    ((action >>= next).run supply).alarms =
      let first := action.run supply
      first.alarms ++ ((next first.value).run fun n => supply (first.drawn + n)).alarms := by
  simp only [Outcome.alarms, events_bind, List.filter_append]

/-- These alarms are raised, whatever identifiers are drawn. -/
def Raises (action : Recorded α) (alarms : List Event) : Prop :=
  ∀ supply, (action.run supply).alarms = alarms

theorem raises_pure (a : α) : (pure a : Recorded α).Raises [] := fun _ => rfl

theorem raises_fresh : fresh.Raises [] := fun _ => rfl

theorem raises_log (level : Level) (message : String) (fields : List (String × FieldValue)) :
    (log level message fields).Raises
      (if level.isWithin .warn then [⟨level, message, fields⟩] else []) :=
  fun _ => List.filter_cons

theorem raises_then {action : Recorded α} {next : α → Recorded β} {alarms : List Event}
    (first : action.Raises []) (second : ∀ a, (next a).Raises alarms) :
    (action >>= next).Raises alarms := by
  intro supply
  rw [alarms_bind]
  dsimp only
  rw [first supply, List.nil_append, second _ _]

end Recorded
end Faultline
