import Faultline.Json.Basic
import Faultline.Telemetry.Span
import Faultline.Uuid

/-!
Computations that draw fresh identifiers and keep a journal. A computation sees a supply of
identifiers and says how many of them it drew, so those that follow it cannot draw them again, and
what it adds to the journal comes after what was there.
-/

namespace Faultline

inductive Level where
  | error
  | warn
  | info
  | debug
  | trace
  deriving DecidableEq, Repr

namespace Level

def rank : Level → Nat
  | .error => 0
  | .warn => 1
  | .info => 2
  | .debug => 3
  | .trace => 4

def isWithin (level limit : Level) : Bool := level.rank ≤ limit.rank

def name : Level → String
  | .error => "ERROR"
  | .warn => "WARN"
  | .info => "INFO"
  | .debug => "DEBUG"
  | .trace => "TRACE"

end Level

inductive FieldValue where
  | text (value : String)
  | integer (value : Int)
  | flag (value : Bool)
  deriving DecidableEq, Repr

structure Event where
  level : Level
  message : String
  fields : List (String × FieldValue)
  deriving DecidableEq, Repr

/-- What a computation leaves behind: log events, the extension members a validator was asked
about, and what was recorded on spans. -/
inductive Entry where
  | logged (event : Event)
  | asked (key : String) (value : Json)
  | spanned (span : Telemetry.SpanRecord)
  deriving DecidableEq

namespace Entry

def event? : Entry → Option Event
  | .logged event => some event
  | _ => none

def question? : Entry → Option (String × Json)
  | .asked key value => some (key, value)
  | _ => none

def span? : Entry → Option Telemetry.SpanRecord
  | .spanned span => some span
  | _ => none

end Entry

structure Outcome (α : Type) where
  value : α
  drawn : Nat
  journal : List Entry
  deriving DecidableEq

namespace Outcome

variable {α : Type}

def events (outcome : Outcome α) : List Event := outcome.journal.filterMap Entry.event?

def questions (outcome : Outcome α) : List (String × Json) :=
  outcome.journal.filterMap Entry.question?

def spans (outcome : Outcome α) : List Telemetry.SpanRecord :=
  outcome.journal.filterMap Entry.span?

end Outcome

/-- The identifiers that will be drawn, in order. -/
abbrev Supply := Nat → Uuid

def Recorded (α : Type) : Type := Supply → Outcome α

namespace Recorded

variable {α β : Type}

def run (action : Recorded α) (supply : Supply) : Outcome α := action supply

instance : Monad Recorded where
  pure a := fun _ => ⟨a, 0, []⟩
  bind action next := fun supply =>
    let first := action supply
    let second := next first.value fun n => supply (first.drawn + n)
    ⟨second.value, first.drawn + second.drawn, first.journal ++ second.journal⟩

def fresh : Recorded Uuid := fun supply => ⟨supply 0, 1, []⟩

def log (level : Level) (message : String) (fields : List (String × FieldValue)) : Recorded Unit :=
  fun _ => ⟨(), 0, [.logged ⟨level, message, fields⟩]⟩

def ask (accepts : String → Json → Bool) (key : String) (value : Json) : Recorded Bool :=
  fun _ => ⟨accepts key value, 0, [.asked key value]⟩

def span (record : Telemetry.SpanRecord) : Recorded Unit := fun _ => ⟨(), 0, [.spanned record]⟩

def observe (action : Recorded α) : Recorded (Outcome α) := fun supply =>
  let outcome := action supply
  ⟨outcome, outcome.drawn, outcome.journal⟩

def upTo (limit : Level) (action : Recorded α) : Recorded α := fun supply =>
  let outcome := action supply
  { outcome with journal := outcome.journal.filter fun entry =>
      entry.event?.all fun event => event.level.isWithin limit }

@[ext] theorem ext {a b : Recorded α} (h : ∀ supply, a.run supply = b.run supply) : a = b :=
  funext h

@[simp] theorem run_pure (a : α) (supply : Supply) : run (pure a) supply = ⟨a, 0, []⟩ := rfl

@[simp] theorem run_bind (action : Recorded α) (next : α → Recorded β) (supply : Supply) :
    run (action >>= next) supply =
      let first := action.run supply
      let second := (next first.value).run fun n => supply (first.drawn + n)
      ⟨second.value, first.drawn + second.drawn, first.journal ++ second.journal⟩ := rfl

@[simp] theorem run_fresh (supply : Supply) : fresh.run supply = ⟨supply 0, 1, []⟩ := rfl

@[simp] theorem run_log (level : Level) (message : String) (fields : List (String × FieldValue))
    (supply : Supply) :
    (log level message fields).run supply = ⟨(), 0, [.logged ⟨level, message, fields⟩]⟩ := rfl

@[simp] theorem run_ask (accepts : String → Json → Bool) (key : String) (value : Json)
    (supply : Supply) :
    (ask accepts key value).run supply = ⟨accepts key value, 0, [.asked key value]⟩ := rfl

@[simp] theorem run_span (record : Telemetry.SpanRecord) (supply : Supply) :
    (span record).run supply = ⟨(), 0, [.spanned record]⟩ := rfl

@[simp] theorem run_map (f : α → β) (action : Recorded α) (supply : Supply) :
    run (f <$> action) supply =
      let outcome := action.run supply
      ⟨f outcome.value, outcome.drawn, outcome.journal⟩ := by
  show (⟨f (action supply).value, (action supply).drawn + 0, (action supply).journal ++ []⟩ :
    Outcome _) = _
  rw [Nat.add_zero, List.append_nil]
  rfl

theorem id_map (action : Recorded α) : id <$> action = action := by
  ext supply
  exact run_map id action supply

instance : LawfulMonad Recorded := .mk' Recorded id_map
  (fun _ _ => by ext supply; simp)
  (fun _ _ _ => by ext supply; simp [Nat.add_assoc])

end Recorded
end Faultline
