import Faultline.Problem.Builder
import Faultline.Proofs.Journal
import Faultline.Proofs.Json.Members
import Faultline.Proofs.Problem.Members

/-!
What a history of calls on a builder comes to. Main statement: each member of the finished document
is the last one that was given for it, or the one at the start, and the extension members are those
at the start with the ones that were added, each name once and with its last value.
-/

namespace Faultline.ProblemBuilder

/-! ### Single calls -/

theorem withExtension_eq (builder : ProblemBuilder) (key : String) (value : Json) :
    builder.withExtension key value = { builder with
      problem.extensions := if Text.isBlank key || Problem.isReserved key then
          builder.problem.extensions
        else builder.problem.extensions.insert key value } := by
  unfold withExtension Problem.withExtension
  cases Text.isBlank key with
  | true => rfl
  | false => cases Problem.isReserved key <;> rfl

theorem run_build_eq (builder : ProblemBuilder) (supply : Supply) :
    builder.build.run supply =
      let blank := Text.isBlank builder.problem.instanceUri
      ⟨{ builder.problem with
        instanceUri := if blank then Problem.instanceUrn (supply 0).hyphenated
          else builder.problem.instanceUri
        traceId := if Text.isBlank builder.problem.traceId then builder.requestTraceId
          else builder.problem.traceId }, if blank then 1 else 0, []⟩ := by
  unfold build
  dsimp only
  cases Text.isBlank builder.problem.instanceUri <;> rfl

theorem present_build {builder : ProblemBuilder}
    (given : Text.isBlank builder.requestTraceId = false) :
    builder.build.Ensures fun problem =>
      Text.isBlank problem.instanceUri = false ∧ Text.isBlank problem.traceId = false := by
  intro supply
  rw [run_build_eq]
  constructor
  · dsimp only
    split
    next => exact Problem.isBlank_instanceUrn _
    next present => exact Bool.eq_false_iff.2 present
  · dsimp only
    split
    next => exact given
    next present => exact Bool.eq_false_iff.2 present

/-! ### Histories -/

namespace Step

/-! What a call gives for a member. A blank text is none, but for the instance and the trace id the
call counts all the same. -/

def type? : Step → Option String
  | .type uri => Text.nonBlank uri
  | _ => none

def title? : Step → Option String
  | .title text => Text.nonBlank text
  | _ => none

def detail? : Step → Option String
  | .detail text => Text.nonBlank text
  | _ => none

def status? : Step → Option Status
  | .status given => some given
  | _ => none

def code? : Step → Option String
  | .code given => Text.nonBlank given
  | _ => none

def instance? : Step → Option (Option String)
  | .instance uri => some (Text.nonBlank uri)
  | _ => none

def traceId? : Step → Option (Option String)
  | .traceId id => some (Text.nonBlank id)
  | _ => none

def extension? : Step → Option (String × Json)
  | .extension key value =>
    if Text.isBlank key || Problem.isReserved key then none else some (key, value)
  | _ => none

end Step

def lastOf {α : Type} (given? : Step → Option α) (steps : List Step) : Option α :=
  (steps.filterMap given?).getLast?

section

variable {α : Type} {given? : Step → Option α} {steps : List Step}

theorem lastOf_append (given? : Step → Option α) (steps later : List Step) :
    lastOf given? (steps ++ later) = (lastOf given? later).or (lastOf given? steps) := by
  unfold lastOf
  rw [List.filterMap_append, List.getLast?_append]

theorem lastOf_singleton (given? : Step → Option α) (step : Step) :
    lastOf given? [step] = given? step := by
  unfold lastOf
  cases given : given? step <;> simp [given]

theorem exists_of_lastOf {value : α} (last : lastOf given? steps = some value) :
    ∃ step ∈ steps, given? step = some value :=
  List.mem_filterMap.1 (List.mem_of_getLast? last)

end

/-- All that calls do to a builder, but for the instance. -/
structure Leads (builder : ProblemBuilder) (steps : List Step) (next : ProblemBuilder) : Prop where
  requestTraceId : next.requestTraceId = builder.requestTraceId
  typeUri : next.problem.typeUri = (lastOf Step.type? steps).getD builder.problem.typeUri
  title : next.problem.title = (lastOf Step.title? steps).getD builder.problem.title
  detail : next.problem.detail = (lastOf Step.detail? steps).getD builder.problem.detail
  status : next.problem.status = (lastOf Step.status? steps).getD builder.problem.status
  code : next.problem.code = (lastOf Step.code? steps).getD builder.problem.code
  traceId : next.problem.traceId = ((lastOf Step.traceId? steps).map
    (·.getD builder.requestTraceId)).getD builder.problem.traceId
  errorId : next.problem.errorId = builder.problem.errorId
  extensions : next.problem.extensions = (steps.filterMap Step.extension?).foldl
    (fun members member => members.insert member.1 member.2) builder.problem.extensions

variable {builder next last : ProblemBuilder} {steps later : List Step} {step : Step}

theorem leads_nil (builder : ProblemBuilder) : builder.Leads [] builder := by
  constructor <;> rfl

theorem Leads.trans (first : builder.Leads steps next) (second : next.Leads later last) :
    builder.Leads (steps ++ later) last := by
  constructor
  · rw [second.requestTraceId, first.requestTraceId]
  · rw [second.typeUri, first.typeUri, lastOf_append, Option.getD_or]
  · rw [second.title, first.title, lastOf_append, Option.getD_or]
  · rw [second.detail, first.detail, lastOf_append, Option.getD_or]
  · rw [second.status, first.status, lastOf_append, Option.getD_or]
  · rw [second.code, first.code, lastOf_append, Option.getD_or]
  · rw [second.traceId, first.traceId, first.requestTraceId, lastOf_append, Option.map_or,
      Option.getD_or]
  · rw [second.errorId, first.errorId]
  · rw [second.extensions, first.extensions, List.filterMap_append, List.foldl_append]

theorem leads_withExtension (builder : ProblemBuilder) (key : String) (value : Json) :
    builder.Leads [.extension key value] (builder.withExtension key value) := by
  rw [withExtension_eq]
  constructor
  case extensions =>
    cases usable : Text.isBlank key || Problem.isReserved key <;> simp [Step.extension?, usable]
  all_goals rfl

theorem leads_apply (builder : ProblemBuilder) (step : Step) :
    (builder.apply step).Ensures (builder.Leads [step]) := by
  cases step with
  | type | title | detail | status | code | traceId =>
    refine Recorded.ensures_pure ?_
    -- a call gives the member that it is for, and leaves the others as they are
    constructor <;> first | rfl | (rw [lastOf_singleton]; rfl)
  | «instance» uri =>
    show (builder.withInstance uri).Ensures _
    unfold withInstance
    split
    next => exact Recorded.ensures_pure (by constructor <;> rfl)
    next => exact Recorded.ensures_then fun _ => Recorded.ensures_pure (by constructor <;> rfl)
  | extension key value => exact Recorded.ensures_pure (leads_withExtension builder key value)

theorem leads_applyAll (builder : ProblemBuilder) (steps : List Step) :
    (builder.applyAll steps).Ensures (builder.Leads steps) := by
  induction steps generalizing builder with
  | nil => exact Recorded.ensures_pure (leads_nil builder)
  | cons step rest ih =>
    exact Recorded.ensures_bind _ (builder.leads_apply step) fun next first supply =>
      first.trans (ih next supply)

/-! ### The instance -/

/-- The instance after calls that drew so many identifiers: the last that was given, one made from
the last identifier, or the one at the start. -/
inductive InstanceAfter (steps : List Step) (start : String) (supply : Supply) (drawn : Nat) :
    String → Prop where
  | given {uri : String} (last : lastOf Step.instance? steps = some (some uri)) :
    InstanceAfter steps start supply drawn uri
  | fresh {n : Nat} (last : lastOf Step.instance? steps = some none) (count : drawn = n + 1) :
    InstanceAfter steps start supply drawn (Problem.instanceUrn (supply n).hyphenated)
  | kept (last : lastOf Step.instance? steps = none) (count : drawn = 0) :
    InstanceAfter steps start supply drawn start

theorem InstanceAfter.trans {start mid uri : String} {supply : Supply} {drawn more : Nat}
    (first : InstanceAfter steps start supply drawn mid)
    (second : InstanceAfter later mid (fun n => supply (drawn + n)) more uri) :
    InstanceAfter (steps ++ later) start supply (drawn + more) uri := by
  cases second with
  | given last => exact .given (by rw [lastOf_append, last, Option.some_or])
  | @fresh n last count =>
    exact .fresh (n := drawn + n) (by rw [lastOf_append, last, Option.some_or]) (by omega)
  | kept none count =>
    have before : lastOf Step.instance? (steps ++ later) = lastOf Step.instance? steps := by
      rw [lastOf_append, none, Option.none_or]
    cases first with
    | given last => exact .given (before.trans last)
    | fresh last first => exact .fresh (before.trans last) (by omega)
    | kept last first => exact .kept (before.trans last) (by omega)

theorem instanceAfter_apply (builder : ProblemBuilder) (step : Step) (supply : Supply) :
    let outcome := (builder.apply step).run supply
    InstanceAfter [step] builder.problem.instanceUri supply outcome.drawn
      outcome.value.problem.instanceUri := by
  cases step with
  | type | title | detail | status | code | traceId => exact .kept rfl rfl
  | «instance» uri =>
    show InstanceAfter _ _ _ ((builder.withInstance uri).run supply).drawn
      ((builder.withInstance uri).run supply).value.problem.instanceUri
    have call : lastOf Step.instance? [.instance uri] = some (Text.nonBlank uri) := rfl
    unfold withInstance
    split
    next given => exact .given (call.trans (congrArg some given))
    next blank => exact .fresh (n := 0) (call.trans (congrArg some blank)) rfl
  | extension key value =>
    show InstanceAfter _ _ _ 0 (builder.withExtension key value).problem.instanceUri
    rw [withExtension_eq]
    exact .kept rfl rfl

theorem instanceAfter_applyAll (builder : ProblemBuilder) (steps : List Step) (supply : Supply) :
    let outcome := (builder.applyAll steps).run supply
    InstanceAfter steps builder.problem.instanceUri supply outcome.drawn
      outcome.value.problem.instanceUri := by
  induction steps generalizing builder supply with
  | nil => exact .kept rfl rfl
  | cons step rest ih =>
    rw [applyAll, Recorded.run_bind]
    exact (instanceAfter_apply builder step supply).trans (ih _ _)

/-! ### The finished document -/

theorem isBlank_of_instance {uri : String}
    (last : lastOf Step.instance? steps = some (some uri)) : Text.isBlank uri = false := by
  obtain ⟨step, -, given⟩ := exists_of_lastOf last
  cases step with
  | «instance» argument => exact (Text.nonBlank_eq_some_iff.1 (Option.some.inj given)).2
  | type | title | detail | status | code | traceId | extension => cases given

theorem isBlank_of_traceId {id : String}
    (last : lastOf Step.traceId? steps = some (some id)) : Text.isBlank id = false := by
  obtain ⟨step, -, given⟩ := exists_of_lastOf last
  cases step with
  | traceId argument => exact (Text.nonBlank_eq_some_iff.1 (Option.some.inj given)).2
  | type | title | detail | status | code | «instance» | extension => cases given

def IsFresh (supply : Supply) (drawn : Nat) (uri : String) : Prop :=
  ∃ n, drawn = n + 1 ∧ uri = Problem.instanceUrn (supply n).hyphenated

/-- What a document becomes by a history of calls. -/
structure Follows (problem : Problem) (requestTraceId : String) (steps : List Step)
    (supply : Supply) (outcome : Outcome Problem) : Prop where
  typeUri : outcome.value.typeUri = (lastOf Step.type? steps).getD problem.typeUri
  title : outcome.value.title = (lastOf Step.title? steps).getD problem.title
  detail : outcome.value.detail = (lastOf Step.detail? steps).getD problem.detail
  status : outcome.value.status = (lastOf Step.status? steps).getD problem.status
  code : outcome.value.code = (lastOf Step.code? steps).getD problem.code
  errorId : outcome.value.errorId = problem.errorId
  instanceUri : match lastOf Step.instance? steps with
    | some (some uri) => outcome.value.instanceUri = uri
    | some none => IsFresh supply outcome.drawn outcome.value.instanceUri
    | none =>
      if Text.isBlank problem.instanceUri then
        IsFresh supply outcome.drawn outcome.value.instanceUri
      else outcome.value.instanceUri = problem.instanceUri
  traceId : outcome.value.traceId = match lastOf Step.traceId? steps with
    | some (some id) => id
    | some none => requestTraceId
    | none => if Text.isBlank problem.traceId then requestTraceId else problem.traceId
  present : Text.isBlank outcome.value.instanceUri = false ∧
    Text.isBlank outcome.value.traceId = false
  /-- Each name stands where it came first. -/
  names : outcome.value.extensions.entries.map Prod.fst =
    (problem.extensions.entries.map Prod.fst ++
      (steps.filterMap Step.extension?).map Prod.fst).eraseDups
  /-- Each name has the value that came last. -/
  values : ∀ key, outcome.value.extensions.get? key =
    (((steps.filterMap Step.extension?).filter (·.1 == key)).getLast?.map Prod.snd).or
      (problem.extensions.get? key)
  added : ∀ key ∈ outcome.value.extensions.entries.map Prod.fst,
    key ∈ problem.extensions.entries.map Prod.fst ∨
      Text.isBlank key = false ∧ Problem.isReserved key = false

theorem of_extension? {step : Step} {entry : String × Json} (given : step.extension? = some entry) :
    Text.isBlank entry.1 = false ∧ Problem.isReserved entry.1 = false := by
  cases step with
  | extension key value =>
    simp only [Step.extension?, Option.ite_none_left_eq_some, Bool.or_eq_true, not_or,
      Bool.not_eq_true, Option.some.injEq] at given
    obtain ⟨usable, rfl⟩ := given
    exact usable
  | type | title | detail | status | code | traceId | «instance» => cases given

theorem InstanceAfter.filled {start uri : String} {supply : Supply} {drawn : Nat}
    (after : InstanceAfter steps start supply drawn uri) :
    let blank := Text.isBlank uri
    let final := if blank then Problem.instanceUrn (supply drawn).hyphenated else uri
    let drawn := drawn + if blank then 1 else 0
    match lastOf Step.instance? steps with
    | some (some uri) => final = uri
    | some none => IsFresh supply drawn final
    | none => if Text.isBlank start then IsFresh supply drawn final else final = start := by
  cases after with
  | given last =>
    rw [last]
    simp only [isBlank_of_instance last, Bool.false_eq_true, if_false]
  | @fresh n last count =>
    rw [last]
    simp only [Problem.isBlank_instanceUrn, Bool.false_eq_true, if_false]
    exact ⟨n, count, rfl⟩
  | kept last count =>
    rw [last, count]
    cases Text.isBlank start with
    | true => exact ⟨0, rfl, rfl⟩
    | false => rfl

/-- A history of calls ends in a document whose members are the last ones given for them. -/
theorem build_follows_calls (problem : Problem) {requestTraceId : String}
    (given : Text.isBlank requestTraceId = false) (steps : List Step) (supply : Supply) :
    Follows problem requestTraceId steps supply ((do
      (← (ofProblem problem requestTraceId).applyAll steps).build).run supply) := by
  have leads := leads_applyAll (ofProblem problem requestTraceId) steps supply
  have after := instanceAfter_applyAll (ofProblem problem requestTraceId) steps supply
  rw [Recorded.run_bind]
  generalize ((ofProblem problem requestTraceId).applyAll steps).run supply = calls at leads after
  have present := present_build ((congrArg Text.isBlank leads.requestTraceId).trans given)
    (supply <| calls.drawn + ·)
  dsimp only at present ⊢
  rw [run_build_eq] at present ⊢
  have names : calls.value.problem.extensions.entries.map Prod.fst =
      (problem.extensions.entries.map Prod.fst ++
        (steps.filterMap Step.extension?).map Prod.fst).eraseDups := by
    rw [leads.extensions, Members.entries_foldl_insert]
    exact Json.names_foldl_upsert problem.extensions.distinct _
  constructor
  case typeUri => exact leads.typeUri
  case title => exact leads.title
  case detail => exact leads.detail
  case status => exact leads.status
  case code => exact leads.code
  case errorId => exact leads.errorId
  case instanceUri => exact after.filled
  case traceId =>
    dsimp only
    -- a call may ask for the trace id of the request, which is not blank
    rw [leads.traceId, leads.requestTraceId]
    cases last : lastOf Step.traceId? steps with
    | none => rfl
    | some argument =>
      cases argument with
      | none => exact ite_self _
      | some id => exact if_neg (Bool.eq_false_iff.1 (isBlank_of_traceId last))
  case present => exact present
  case names => exact names
  case values =>
    intro key
    show Json.find? calls.value.problem.extensions.entries key = _
    rw [leads.extensions, Members.entries_foldl_insert, Json.find?_foldl_upsert]
    rfl
  case added =>
    intro key member
    dsimp only at member
    rw [names, List.mem_eraseDups, List.mem_append] at member
    refine member.imp_right fun later => ?_
    obtain ⟨entry, called, rfl⟩ := List.mem_map.1 later
    obtain ⟨step, -, made⟩ := List.mem_filterMap.1 called
    exact of_extension? made

theorem build_follows_calls_renewed :
    let copied := { Problem.new .conflict "Conflict" "The order was changed." with
      instanceUri := "urn:orders:7"
      extensions := .ofList [("order", .integer 7), ("code", .bool true)] }
    let steps : List Step := [.title (some " "), .extension "retry" (.bool true), .instance none,
      .detail (some "Gone."), .extension "order" (.integer 8), .traceId (some "b2"),
      .extension "code" .null, .instance (some "\t"), .detail none, .traceId none]
    let supply : Supply := fun n => ⟨.replicate 32 (.ofNat 16 n)⟩
    let outcome := (do (← (ofProblem copied "a1").applyAll steps).build).run supply
    Text.isBlank "a1" = false ∧ Follows copied "a1" steps supply outcome ∧
      outcome.drawn = 2 ∧ outcome.value = { copied with
        detail := "Gone."
        instanceUri := Problem.instanceUrn (supply 1).hyphenated
        traceId := "a1"
        extensions := .ofList
          [("order", .integer 8), ("code", .bool true), ("retry", .bool true)] } := by
  intro copied steps supply outcome
  have given : Text.isBlank "a1" = false := by decide +kernel
  exact ⟨given, build_follows_calls copied given steps supply, by decide +kernel, by decide +kernel⟩

end Faultline.ProblemBuilder
