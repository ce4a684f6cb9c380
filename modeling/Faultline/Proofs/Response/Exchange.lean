import Faultline.Proofs.Response.Delivery

/-!
The exchanges of a writer with a sink: what the sink is asked, and how it answers. What a sink took
and how a delivery ended is said here of the exchanges alone. Main statement: every run keeps to
this protocol.
-/

namespace Faultline.Delivery

inductive Demand where
  | take (bytes : List UInt8)
  | flush
  deriving DecidableEq, Repr

def Demand.ofBytes (left : List UInt8) : Demand := if left.isEmpty then .flush else .take left

theorem Demand.ofBytes_eq_flush {left : List UInt8} (flush : ofBytes left = .flush) :
    left = [] := by
  cases left with
  | nil => rfl
  | cons => cases flush

structure Exchange where
  demand : Demand
  poll : Poll
  deriving DecidableEq, Repr

namespace Exchange

def accepted (exchange : Exchange) : List UInt8 :=
  match exchange.demand, exchange.poll.reply with
  | .take bytes, .ready count => bytes.take count
  | _, _ => []

/-- The end of the delivery, if the answer is one: the sink fails, takes none of the bytes, or has
flushed. -/
def verdict? (exchange : Exchange) : Option Verdict :=
  match exchange.demand, exchange.poll.reply with
  | _, .failed reason => some (.failed reason)
  | .flush, .ready _ => some .complete
  | .take _, .ready 0 => some (.failed "write zero")
  | _, _ => none

theorem verdict?_ne {exchange : Exchange} {verdict : Verdict}
    (decides : exchange.verdict? = some verdict) :
    verdict ≠ .cancelled ∧ verdict ≠ .unfinished := by
  unfold verdict? at decides
  split at decides <;> cases decides <;> simp

theorem verdict?_of_pending {exchange : Exchange} (waits : exchange.poll.reply = .pending) :
    exchange.verdict? = none := by
  unfold verdict?
  rw [waits]

theorem flushed_of_complete (exchange : Exchange) (decides : exchange.verdict? = some .complete) :
    ∃ count cancels, exchange = ⟨.flush, .ready count, cancels⟩ := by
  obtain ⟨demand, reply, cancels⟩ := exchange
  unfold verdict? at decides
  split at decides <;> cases decides
  next demanded answered =>
    cases demanded
    cases answered
    exact ⟨_, cancels, rfl⟩

end Exchange

def moved (exchanges : List Exchange) : List UInt8 := exchanges.flatMap Exchange.accepted

/-- The writer looks at the request when it starts and when it has waited. -/
def Looks (exchanges : List Exchange) : Prop :=
  ∀ last, exchanges.getLast? = some last → last.poll.reply = .pending

theorem Looks.tail {first : Exchange} {rest : List Exchange} (looks : Looks (first :: rest)) :
    Looks rest := by
  intro last found
  refine looks last ?_
  rw [List.getLast?_cons, found]
  rfl

def WasCancelled (atStart : Bool) (exchanges : List Exchange) : Prop :=
  atStart = true ∨ ∃ exchange ∈ exchanges, exchange.poll.cancels = true

/-- What the exchanges of a delivery are, and what follows from them. -/
structure Protocol (body : List UInt8) (atStart : Bool) (polls : List Poll)
    (exchanges : List Exchange) (delivered : Delivered) : Prop where
  /-- The sink answers one exchange after another. -/
  answered : exchanges.map Exchange.poll <+: polls
  taken : delivered.taken = moved exchanges
  /-- At every moment the sink has taken the beginning of the body. -/
  beginning : ∀ earlier, earlier <+: exchanges → moved earlier <+: body
  /-- Offered is all that was not taken, and a flush is asked for when nothing is left. -/
  offered : ∀ earlier exchange later, exchanges = earlier ++ exchange :: later →
    ∃ left, moved earlier ++ left = body ∧ exchange.demand = .ofBytes left
  /-- An answer ends the delivery exactly if it decides it. -/
  decided : ∀ verdict, verdict ≠ .cancelled → verdict ≠ .unfinished →
    (delivered.verdict = verdict ↔
      ∃ earlier last, exchanges = earlier ++ [last] ∧ last.verdict? = some verdict)
  /-- All bytes were taken and then the flush succeeded. -/
  complete : delivered.verdict = .complete → delivered.taken = body ∧
    ∃ earlier count cancels, exchanges = earlier ++ [⟨.flush, .ready count, cancels⟩]
  cancelled : delivered.verdict = .cancelled → WasCancelled atStart exchanges
  /-- A request that is cancelled when the writer looks at it ends the delivery there. -/
  withdrawn : ∀ earlier later, exchanges = earlier ++ later → Looks earlier →
    WasCancelled atStart earlier → later = [] ∧ delivered.verdict = .cancelled
  /-- Only a sink that says nothing more leaves a delivery unfinished. -/
  unfinished : delivered.verdict = .unfinished → exchanges.map Exchange.poll = polls
  flag : delivered.cancelled = true ↔ WasCancelled atStart exchanges

namespace State

variable (state : State) (poll : Poll)

def exchange : Exchange := ⟨.ofBytes state.left, poll⟩

def next : State where
  taken := state.taken ++ (state.exchange poll).accepted
  left := state.left.drop (state.exchange poll).accepted.length
  cancelled := state.cancelled || poll.cancels
  waking := poll.reply = .pending

def exchanges (state : State) : List Poll → List Exchange
  | [] => []
  | poll :: rest =>
    if state.waking && state.cancelled then []
    else state.exchange poll ::
      if (state.exchange poll).verdict?.isSome then [] else (state.next poll).exchanges rest

theorem step_eq : state.step poll = match (state.exchange poll).verdict? with
    | some verdict => .inl ((state.next poll).stop verdict)
    | none => .inr (state.next poll) := by
  obtain ⟨reply, cancels⟩ := poll
  cases empty : state.left.isEmpty <;> cases reply with
  | failed reason =>
    simp [step, exchange, Demand.ofBytes, empty, Exchange.verdict?, next, Exchange.accepted, stop]
  | pending =>
    simp [step, exchange, Demand.ofBytes, empty, Exchange.verdict?, next, Exchange.accepted]
  | ready count =>
    cases count <;>
      simp [step, exchange, Demand.ofBytes, empty, Exchange.verdict?, next, Exchange.accepted, stop]

/-- A run with its exchanges: the writer may see at the start of a step that the request is
cancelled, the sink may say nothing more, and an exchange may decide the delivery or not. -/
inductive Runs : State → List Poll → List Exchange → Delivered → Prop
  | withdrawn {state : State} {polls : List Poll} (waking : state.waking = true)
    (cancelled : state.cancelled = true) : Runs state polls [] (state.stop .cancelled)
  | silent {state : State} (looks : (state.waking && state.cancelled) = false) :
    Runs state [] [] (state.stop .unfinished)
  | decided {state : State} {poll : Poll} {rest : List Poll} {verdict : Verdict}
    (looks : (state.waking && state.cancelled) = false)
    (decides : (state.exchange poll).verdict? = some verdict) :
    Runs state (poll :: rest) [state.exchange poll] ((state.next poll).stop verdict)
  | undecided {state : State} {poll : Poll} {rest : List Poll} {exchanges : List Exchange}
    {delivered : Delivered} (looks : (state.waking && state.cancelled) = false)
    (decides : (state.exchange poll).verdict? = none)
    (later : Runs (state.next poll) rest exchanges delivered) :
    Runs state (poll :: rest) (state.exchange poll :: exchanges) delivered

theorem runs_run (polls : List Poll) :
    Runs state polls (state.exchanges polls) (state.run polls) := by
  induction polls generalizing state with
  | nil =>
    cases looks : state.waking && state.cancelled with
    | true =>
      rw [Bool.and_eq_true] at looks
      simpa [run, exchanges, looks] using Runs.withdrawn looks.1 looks.2
    | false => simpa [run, exchanges, looks] using Runs.silent looks
  | cons poll rest ih =>
    unfold run exchanges
    cases looks : state.waking && state.cancelled with
    | true =>
      rw [Bool.and_eq_true] at looks
      simpa using Runs.withdrawn looks.1 looks.2
    | false =>
      rw [step_eq]
      cases decides : (state.exchange poll).verdict? with
      | some verdict => simpa using Runs.decided looks decides
      | none => simpa using Runs.undecided looks decides (ih (state.next poll))

theorem accepted_prefix : (state.exchange poll).accepted <+: state.left := by
  unfold exchange Exchange.accepted Demand.ofBytes
  cases state.left.isEmpty <;> cases poll.reply <;> simp [List.take_prefix]

theorem accepted_append_left :
    (state.exchange poll).accepted ++ (state.next poll).left = state.left :=
  List.prefix_iff_eq_append.1 (state.accepted_prefix poll)

namespace Runs

variable {state : State} {polls : List Poll} {exchanges earlier later : List Exchange}
  {delivered : Delivered}

theorem answered (runs : Runs state polls exchanges delivered) :
    exchanges.map Exchange.poll <+: polls := by
  induction runs with
  | withdrawn | silent => exact List.nil_prefix
  | decided => exact List.prefix_append [_] _
  | undecided _ _ _ ih => exact List.cons_prefix_cons.2 ⟨rfl, ih⟩

theorem taken (runs : Runs state polls exchanges delivered) :
    delivered.taken = state.taken ++ moved exchanges := by
  induction runs with
  | withdrawn | silent => exact (List.append_nil _).symm
  | decided => simp [moved, stop, next]
  | undecided _ _ _ ih => simpa [moved, next] using ih

theorem offered {exchange : Exchange} (runs : Runs state polls exchanges delivered)
    (split : exchanges = earlier ++ exchange :: later) :
    ∃ left, moved earlier ++ left = state.left ∧ exchange.demand = .ofBytes left := by
  induction runs generalizing earlier with
  | withdrawn | silent => simp at split
  | decided =>
    cases earlier with
    | nil =>
      obtain ⟨rfl, -⟩ := List.cons.inj split
      exact ⟨_, rfl, rfl⟩
    | cons first earlier => simp at split
  | @undecided state poll _ _ _ _ _ _ ih =>
    cases earlier with
    | nil =>
      obtain ⟨rfl, -⟩ := List.cons.inj split
      exact ⟨_, rfl, rfl⟩
    | cons first earlier =>
      rw [List.cons_append] at split
      obtain ⟨rfl, rest⟩ := List.cons.inj split
      obtain ⟨left, whole, demand⟩ := ih rest
      refine ⟨left, ?_, demand⟩
      calc
        moved (state.exchange poll :: earlier) ++ left =
            (state.exchange poll).accepted ++ (moved earlier ++ left) := by simp [moved]
        _ = state.left := by rw [whole, accepted_append_left]

theorem moved_prefix (runs : Runs state polls exchanges delivered) :
    moved exchanges <+: state.left := by
  induction runs with
  | withdrawn | silent => exact List.nil_prefix
  | @decided state poll => simpa [moved] using state.accepted_prefix poll
  | @undecided state poll _ _ _ _ _ _ ih =>
    rw [← state.accepted_append_left poll]
    exact (List.prefix_append_right_inj _).2 ih

theorem flag (runs : Runs state polls exchanges delivered) :
    delivered.cancelled = true ↔ WasCancelled state.cancelled exchanges := by
  induction runs with
  | withdrawn | silent => simp [WasCancelled, stop]
  | decided => simp [WasCancelled, stop, next, exchange]
  | undecided _ _ _ ih =>
    rw [ih]
    simp [WasCancelled, next, exchange, or_assoc]

theorem decided_iff {verdict : Verdict} (notCancelled : verdict ≠ .cancelled)
    (notUnfinished : verdict ≠ .unfinished) (runs : Runs state polls exchanges delivered) :
    delivered.verdict = verdict ↔
      ∃ earlier last, exchanges = earlier ++ [last] ∧ last.verdict? = some verdict := by
  induction runs with
  | withdrawn => simpa [stop] using notCancelled.symm
  | silent => simpa [stop] using notUnfinished.symm
  | @decided state poll _ found _ decides =>
    constructor
    · rintro rfl
      exact ⟨[], state.exchange poll, rfl, decides⟩
    · rintro ⟨earlier, last, split, other⟩
      have ends : [] ++ [state.exchange poll] = earlier ++ [last] := split
      obtain ⟨-, same⟩ := List.append_inj' ends rfl
      obtain ⟨rfl, -⟩ := List.cons.inj same
      exact Option.some.inj (decides.symm.trans other)
  | @undecided state poll _ _ _ _ decides _ ih =>
    rw [ih]
    constructor
    · rintro ⟨earlier, last, rfl, other⟩
      exact ⟨state.exchange poll :: earlier, last, rfl, other⟩
    · rintro ⟨earlier, last, split, other⟩
      cases earlier with
      | nil =>
        -- an exchange that decides nothing is not the last one
        obtain ⟨rfl, -⟩ := List.cons.inj split
        rw [decides] at other
        cases other
      | cons first earlier => exact ⟨earlier, last, (List.cons.inj split).2, other⟩

theorem undecided_cases (runs : Runs state polls exchanges delivered) :
    (delivered.verdict = .cancelled → delivered.cancelled = true) ∧
      (delivered.verdict = .unfinished → exchanges.map Exchange.poll = polls) := by
  induction runs with
  | withdrawn _ cancelled => exact ⟨fun _ => cancelled, nofun⟩
  | silent => exact ⟨nofun, fun _ => rfl⟩
  | decided _ decides =>
    obtain ⟨notCancelled, notUnfinished⟩ := Exchange.verdict?_ne decides
    exact ⟨fun ended => absurd ended notCancelled, fun ended => absurd ended notUnfinished⟩
  | @undecided state poll _ _ _ _ _ _ ih =>
    exact ⟨ih.1, fun ended => congrArg (poll :: ·) (ih.2 ended)⟩

theorem withdrawn_of_looks (runs : Runs state polls exchanges delivered)
    (split : exchanges = earlier ++ later) (start : earlier = [] → state.waking = true)
    (looks : Looks earlier) (cancelled : WasCancelled state.cancelled earlier) :
    later = [] ∧ delivered.verdict = .cancelled := by
  induction earlier generalizing state polls exchanges with
  | nil =>
    have cancelled : state.cancelled = true := by simpa [WasCancelled] using cancelled
    cases runs with
    | withdrawn => exact ⟨split.symm, rfl⟩
    | silent looks | decided looks | undecided looks =>
      rw [start rfl, cancelled] at looks
      cases looks
  | cons first earlier ih =>
    cases runs with
    | withdrawn | silent => cases split
    | @decided _ poll _ _ _ decides =>
      obtain ⟨rfl, rest⟩ := List.cons.inj split
      obtain ⟨rfl, rfl⟩ := List.append_eq_nil_iff.1 rest.symm
      -- the writer looks after it has waited, and waiting decides nothing
      have waits : (state.exchange poll).poll.reply = .pending := looks _ rfl
      rw [Exchange.verdict?_of_pending waits] at decides
      cases decides
    | undecided _ decides runs =>
      obtain ⟨rfl, rest⟩ := List.cons.inj split
      refine ih runs rest ?_ looks.tail ?_
      · rintro rfl
        exact decide_eq_true (looks _ rfl)
      · simpa [WasCancelled, next, exchange, or_assoc] using cancelled

theorem protocol {body : List UInt8} {atStart : Bool}
    (runs : Runs (start body atStart) polls exchanges delivered) :
    Protocol body atStart polls exchanges delivered where
  answered := runs.answered
  taken := runs.taken
  beginning := by
    rintro earlier ⟨later, rfl⟩
    have whole : moved (earlier ++ later) <+: body := runs.moved_prefix
    rw [moved, List.flatMap_append] at whole
    exact (List.prefix_append _ _).trans whole
  offered _ _ _ split := runs.offered split
  decided _ notCancelled notUnfinished := runs.decided_iff notCancelled notUnfinished
  complete := by
    intro ended
    obtain ⟨earlier, last, split, decides⟩ :=
      (runs.decided_iff (by decide) (by decide)).1 ended
    obtain ⟨left, whole, demand⟩ := runs.offered split
    obtain ⟨count, cancels, rfl⟩ := last.flushed_of_complete decides
    have nothing : left = [] := Demand.ofBytes_eq_flush demand.symm
    refine ⟨?_, earlier, count, cancels, split⟩
    calc
      delivered.taken = moved exchanges := runs.taken
      _ = moved earlier ++ [] := by rw [split, moved, List.flatMap_append]; rfl
      _ = body := by rw [← nothing]; exact whole
  cancelled ended := runs.flag.1 (runs.undecided_cases.1 ended)
  withdrawn _ _ split looks cancelled :=
    runs.withdrawn_of_looks split (fun _ => rfl) looks cancelled
  unfinished := runs.undecided_cases.2
  flag := runs.flag

end Runs

/-- A request cancelled while the writer waits: what the sink would still take is not offered. -/
example : (start [1, 2, 3] false).run [⟨.ready 2, false⟩, ⟨.pending, true⟩, ⟨.ready 1, false⟩] =
    ⟨.cancelled, [1, 2], true⟩ := by decide

end State
end Faultline.Delivery
