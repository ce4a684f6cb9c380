import Faultline.Proofs.Mapper.Document
import Faultline.Proofs.Pipeline.Answer
import Faultline.Proofs.Pipeline.Session
import Faultline.Proofs.Problem.Limits
import Faultline.Proofs.Request.TraceId
import Faultline.Proofs.Uuid

/-!
The identifiers of a session. Each is drawn in the call that it is made in, and mappers do not
interfere: a built-in mapper names the occurrence by an identifier of its own, and what another one
leaves blank is named by the error id. Main statement: unless the identifiers drawn repeat, no error
id and no instance is given twice, and no error id is made of a trace id.
-/

namespace Faultline

namespace Formatting

theorem errorIdOf_injective : Function.Injective errorIdOf :=
  fun _ _ same => Uuid.hex_injective ((String.append_right_inj "err-").1 same)

end Formatting

/-- The instance is called after the identifier, which may have become the error id. -/
def Uuid.NamesInstance (id : Uuid) (uri : String) : Prop :=
  uri = Problem.instanceUrn id.hyphenated ∨
    uri = Problem.instanceUrn (Formatting.errorIdOf id)

theorem Uuid.hyphenated_ne_errorIdOf (a b : Uuid) : a.hyphenated ≠ Formatting.errorIdOf b := by
  intro same
  have marked : 'r' ∈ (Formatting.errorIdOf b).toList := by
    simp [Formatting.errorIdOf]
  exact a.not_mem_hyphenated (same ▸ marked)

theorem Uuid.NamesInstance.unique {a b : Uuid} {uri : String} (first : a.NamesInstance uri)
    (second : b.NamesInstance uri) : a = b := by
  rcases first with rfl | rfl <;> rcases second with same | same <;>
    have same := Problem.instanceUrn_injective same
  · exact hyphenated_injective same
  · exact absurd same (hyphenated_ne_errorIdOf a b)
  · exact absurd same.symm (hyphenated_ne_errorIdOf b a)
  · exact Formatting.errorIdOf_injective same

/-- The mapper leaves it to the pipeline to name the occurrence. -/
def Mapper.LeavesInstance (mapper : Mapper) : Prop :=
  ∀ ctx fault supply,
    Text.isBlank ((mapper.map ctx fault).run supply).value.problem.instanceUri = true

def Registry.LeavesInstances (registry : Registry) : Prop :=
  ∀ mapper ∈ registry.mappers,
    (∃ (builtIn : BuiltInMapper) (sanitizer : Sanitizer), mapper = builtIn.toMapper sanitizer) ∨
      mapper.LeavesInstance

namespace Pipeline
open Formatting

variable {pipeline : Pipeline} (ctx : RequestContext) (fault : Fault) (span : Telemetry.Span)
  (supply : Supply)

theorem drawn_process :
    ((pipeline.process ctx fault span).run supply).drawn =
      ((pipeline.answer ctx fault).run supply).drawn + 1 +
        (pipeline.enriched ctx fault span supply).drawn := by
  have resolved : ((pipeline.registry.resolve fault).run supply).value =
      pipeline.registry.mapperFor fault := Registry.value_resolve fault supply
  rw [run_process]
  unfold settle answer
  simp only [Recorded.run_bind, Recorded.run_pure, resolved, pipeline.registry.drawn_resolve,
    (draws_format _ _ _ _) _, Nat.zero_add, Nat.add_zero]

theorem instance_answer (leaves : pipeline.registry.LeavesInstances) :
    let answer := (pipeline.answer ctx fault).run supply
    (∃ n < answer.drawn,
      answer.value.problem.instanceUri = Problem.instanceUrn (supply n).hyphenated) ∨
    Text.isBlank answer.value.problem.instanceUri = true := by
  rcases leaves _ (pipeline.registry.mapperFor_mem fault) with ⟨builtIn, sanitizer, made⟩ | blank
  · obtain ⟨row, -, earlier, drawn, value⟩ := builtIn.exists_answers sanitizer ctx fault supply
    have given : pipeline.answer ctx fault = builtIn.map sanitizer ctx fault := by
      rw [answer, made]
      rfl
    rw [given]
    refine .inl ⟨earlier, by omega, ?_⟩
    rw [value]
    rfl
  · exact .inr (blank ctx fault supply)

/-- The reply to a fault goes by identifiers that were drawn for it, and by the trace id of its
context. -/
theorem value_process_fresh (leaves : pipeline.registry.LeavesInstances) :
    let outcome := (pipeline.process ctx fault span).run supply
    let sent := outcome.value.2
    (∃ n < outcome.drawn, sent.reference.errorId = errorIdOf (supply n)) ∧
      (∃ n < outcome.drawn, (supply n).NamesInstance sent.problem.instanceUri) ∧
      sent.problem.errorId = some sent.reference.errorId ∧ sent.problem.traceId = ctx.traceId := by
  have settled := pipeline.value_settle ctx fault supply
  have named := instance_answer ctx fault supply leaves
  dsimp only at settled named ⊢
  rw [value_process, drawn_process, settled]
  dsimp only
  have inside : ((pipeline.answer ctx fault).run supply).drawn <
      ((pipeline.answer ctx fault).run supply).drawn + 1 +
        (pipeline.enriched ctx fault span supply).drawn := by omega
  refine ⟨⟨_, inside, rfl⟩, ?_, rfl, rfl⟩
  simp only [finish, identify]
  rcases named with ⟨n, drawn, uri⟩ | blank
  · rw [uri, Problem.isBlank_instanceUrn]
    exact ⟨n, by omega, .inl rfl⟩
  · rw [blank]
    exact ⟨_, inside, .inr rfl⟩

end Pipeline

namespace Turn

def errorId? (turn : Turn) : Option String :=
  match turn.outcome.value with
  | .processed _ processed => some processed.reference.errorId
  | .context _ => none

def instance? (turn : Turn) : Option String :=
  match turn.outcome.value with
  | .processed _ processed => some processed.problem.instanceUri
  | .context _ => none

def generatedTraceId? (turn : Turn) : Option String :=
  match turn.call, turn.outcome.value with
  | .context given _, .context ctx => if Text.isBlank given then some ctx.traceId else none
  | .request headers _, .context ctx =>
    if (RequestContext.incomingTraceId headers).isNone then some ctx.traceId else none
  | _, _ => none

/-- What the reply goes by is drawn in the call itself; only the trace id of a failure is that of
the context given. -/
structure Fresh (turn : Turn) (supply : Supply) : Prop where
  errorId : turn.Sources supply (fun id s => s = Formatting.errorIdOf id) errorId?
  instanceUri : turn.Sources supply Uuid.NamesInstance instance?
  traceId : turn.Sources supply (fun id s => s = id.hex) generatedTraceId?
  document : ∀ ctx fault span, turn.call = .process ctx fault span →
    ∃ after processed, turn.outcome.value = .processed after processed ∧
      processed.problem.errorId = some processed.reference.errorId ∧
      processed.problem.traceId = ctx.traceId

variable {turn : Turn} {pipeline : Pipeline} {supply : Supply}

theorem fresh_of_context (given path : String)
    (made : turn.outcome.value = .context
      ((RequestContext.new given path).run fun n => supply (turn.start + n)).value)
    (drawn : turn.outcome.drawn =
      ((RequestContext.new given path).run fun n => supply (turn.start + n)).drawn)
    (generated : ∀ s, turn.generatedTraceId? = some s → Text.isBlank given = true ∧
      s = ((RequestContext.new given path).run fun n => supply (turn.start + n)).value.traceId)
    (other : ∀ ctx fault span, turn.call ≠ .process ctx fault span) : turn.Fresh supply where
  errorId s read := by simp [errorId?, made] at read
  instanceUri s read := by simp [instance?, made] at read
  traceId s read := by
    obtain ⟨blank, rfl⟩ := generated s read
    obtain ⟨ctx, run, traceId⟩ := RequestContext.run_new_of_blank path
      (fun n => supply (turn.start + n)) blank
    rw [run] at drawn ⊢
    exact ⟨_, draws_of_lt supply (drawn ▸ Nat.zero_lt_one), traceId⟩
  document ctx fault span called := absurd called (other ctx fault span)

theorem IsOf.fresh (isOf : turn.IsOf pipeline supply)
    (leaves : pipeline.registry.LeavesInstances) : turn.Fresh supply := by
  obtain ⟨call, start, outcome⟩ := turn
  have done : outcome = (pipeline.serve call).run fun n => supply (start + n) := isOf
  cases call with
  | context given path =>
    rw [Pipeline.run_serve_context] at done
    subst done
    refine fresh_of_context given path rfl rfl ?_ (by simp)
    intro s read
    change (if Text.isBlank given then some _ else none) = some s at read
    split at read
    next blank => exact ⟨blank, (Option.some.inj read).symm⟩
    next => cases read
  | request headers path =>
    rw [Pipeline.run_serve_request] at done
    subst done
    refine fresh_of_context ((RequestContext.incomingTraceId headers).getD "") path rfl rfl ?_
      (by simp)
    intro s read
    change (if (RequestContext.incomingTraceId headers).isNone then some _ else none) = some s
      at read
    split at read
    next absent =>
      have blank : Text.isBlank ((RequestContext.incomingTraceId headers).getD "") = true := by
        rw [Option.isNone_iff_eq_none.1 absent]
        rfl
      exact ⟨blank, (Option.some.inj read).symm⟩
    next => cases read
  | process ctx fault span =>
    rw [Pipeline.run_serve_process] at done
    subst done
    obtain ⟨⟨m, errorDrawn, error⟩, ⟨n, uriDrawn, uri⟩, document⟩ :=
      Pipeline.value_process_fresh ctx fault span (fun n => supply (start + n)) leaves
    constructor
    · intro s read
      cases read
      exact ⟨_, draws_of_lt supply errorDrawn, error⟩
    · intro s read
      cases read
      exact ⟨_, draws_of_lt supply uriDrawn, uri⟩
    · intro s read
      cases read
    · intro given fault span called
      cases called
      exact ⟨_, _, rfl, document⟩

theorem errorId_ne_of_generated {turns : List Turn} (apart : turns.Pairwise (Apart supply))
    (fresh : ∀ turn ∈ turns, turn.Fresh supply) {trace error : String}
    (generated : trace ∈ turns.filterMap generatedTraceId?)
    (given : error ∈ turns.filterMap errorId?) : error ≠ "err-" ++ trace := by
  intro same
  obtain ⟨a, first, traceRead⟩ := List.mem_filterMap.1 generated
  obtain ⟨b, second, errorRead⟩ := List.mem_filterMap.1 given
  obtain ⟨id, drawn, hex⟩ := (fresh a first).traceId trace traceRead
  obtain ⟨other, again, made⟩ := (fresh b second).errorId error errorRead
  have equal : Formatting.errorIdOf other = Formatting.errorIdOf id := by
    rw [← made, same, hex, Formatting.errorIdOf]
  rw [Formatting.errorIdOf_injective equal] at again
  have one := eq_of_draws apart first drawn second again
  subst one
  simp only [errorId?] at errorRead
  split at errorRead
  next shape => simp [generatedTraceId?, shape] at traceRead
  next => cases errorRead

end Turn

/-- In a session whose identifiers do not repeat no error id and no instance is given twice, and no
error id is made of a trace id; every turn draws what its reply goes by, after the turns before it
have drawn theirs. -/
theorem Pipeline.identifiers_fresh (pipeline : Pipeline)
    (leaves : pipeline.registry.LeavesInstances) (session : Session) (supply : Supply)
    (noRepeats : Set.InjOn supply {n | n < ((session.play pipeline 0).run supply).drawn}) :
    let turns := ((session.play pipeline 0).run supply).value
    (turns.filterMap Turn.errorId?).Nodup ∧
    (turns.filterMap Turn.instance?).Nodup ∧
    (∀ uri ∈ turns.filterMap Turn.instance?, ∃ name, uri = "urn:problem:instance:" ++ name) ∧
    (∀ trace ∈ turns.filterMap Turn.generatedTraceId?, ∀ error ∈ turns.filterMap Turn.errorId?,
      error ≠ "err-" ++ trace) ∧
    (turns.Pairwise fun earlier later => earlier.stop ≤ later.start) ∧
    ∀ turn ∈ turns, turn.IsOf pipeline supply ∧ turn.Fresh supply := by
  intro turns
  have apart : turns.Pairwise (Turn.Apart supply) := session.apart_play pipeline supply noRepeats
  obtain ⟨ordered, inside⟩ := session.turns_play_zero pipeline supply
  have fresh : ∀ turn ∈ turns, turn.Fresh supply :=
    fun turn member => (inside turn member).1.fresh leaves
  -- names made of distinct identifiers are distinct, and no two turns share an identifier
  refine ⟨?_, ?_, ?_, ?_, ordered, fun turn member => ⟨(inside turn member).1, fresh turn member⟩⟩
  · refine Turn.nodup_filterMap ?_ apart fun turn member => (fresh turn member).errorId
    rintro a b s rfl same
    exact Formatting.errorIdOf_injective same
  · refine Turn.nodup_filterMap ?_ apart fun turn member => (fresh turn member).instanceUri
    exact fun _ _ _ => Uuid.NamesInstance.unique
  · intro uri given
    obtain ⟨turn, member, read⟩ := List.mem_filterMap.1 given
    obtain ⟨id, -, named | named⟩ := (fresh turn member).instanceUri uri read
    · exact ⟨_, named⟩
    · exact ⟨_, named⟩
  · exact fun trace generated error given =>
      Turn.errorId_ne_of_generated apart fresh generated given

def Pipeline.refusing : Pipeline where
  registry := ⟨[.primary (.constant "refusal" (·.kindName == "upstream_http")
      (.new .conflict "Refused" "") ⟨.default, .production, none⟩) 0],
    [.fallback (BuiltInMapper.unexpected.toMapper ⟨.default, .production, none⟩) 100],
    List.cons_ne_nil _ _⟩
  limits := .default
  enricher := Telemetry.Enricher.silent
  sanitizer := ⟨.default, .production, none⟩

def Session.twice : Session :=
  .call (.request .empty "/orders") fun
    | .context ctx =>
      .call (.process ctx (.remote none "reset") .disabled) fun _ =>
        .call (.process ctx (.database 1205 "deadlock") .disabled) fun _ => .done
    | .processed .. => .done

theorem Pipeline.identifiers_fresh_twice :
    let turns := ((Session.twice.play refusing 0).run fun n => ⟨.replicate 32 (.ofNat 16 n)⟩).value
    (turns.filterMap Turn.errorId?).Nodup ∧ (turns.filterMap Turn.instance?).Nodup ∧
      turns.map Turn.stop = [1, 2, 4] ∧
      ∀ trace ∈ turns.filterMap Turn.generatedTraceId?,
        "err-" ++ trace ∉ turns.filterMap Turn.errorId? := by
  have leaves : refusing.registry.LeavesInstances := by
    intro mapper member
    rcases List.mem_cons.1 member with rfl | member
    · exact .inr fun ctx fault supply => rfl
    · exact .inl ⟨.unexpected, _, List.mem_singleton.1 member⟩
  have noRepeats : Set.InjOn (fun n => (⟨.replicate 32 (.ofNat 16 n)⟩ : Uuid))
      {n | n < ((Session.twice.play refusing 0).run
        fun n => ⟨.replicate 32 (.ofNat 16 n)⟩).drawn} := by
    have drawn : ((Session.twice.play refusing 0).run
        fun n => ⟨.replicate 32 (.ofNat 16 n)⟩).drawn = 4 := by decide +kernel
    have few : ∀ m < 4, ∀ n < 4, (⟨.replicate 32 (.ofNat 16 m)⟩ : Uuid) =
        ⟨.replicate 32 (.ofNat 16 n)⟩ → m = n := by decide +kernel
    rw [drawn]
    exact fun m first n second => few m first n second
  obtain ⟨errors, instances, -, traces, -⟩ :=
    identifiers_fresh refusing leaves Session.twice _ noRepeats
  exact ⟨errors, instances, by decide +kernel,
    fun trace generated given => traces trace generated _ given rfl⟩

end Faultline
