import Faultline.Proofs.Response.Formatting

/-!
One document formatted again and again for one request. A later call gives it another error id and
another head, which take the place of the earlier ones. Main statement: the document is under the
instance of the first call, and what else was in it and in the headers is as after that call.
-/

namespace Faultline.Formatting

/-- A call for each status, on the document and the context that the one before left. -/
def formatEach (limits : Limits) (ctx : RequestContext) (problem : Problem) :
    List Status → Recorded (RequestContext × Problem × List ErrorReference)
  | [] => return (ctx, problem, [])
  | status :: rest => do
    let (ctx, problem, reference) ← format limits ctx problem status
    let (ctx, problem, references) ← formatEach limits ctx problem rest
    return (ctx, problem, reference :: references)

/-! ### The head -/

def fieldsFor (traceId errorId : String) : List (String × String) :=
  (Headers.contentType, Problem.mediaType) :: (Headers.errorId, errorId) ::
    if Headers.isLegalValue traceId then [(Headers.traceId, traceId)] else []

theorem names_fieldsFor (traceId errorId : String) :
    (fieldsFor traceId errorId).map Prod.fst = Headers.contentType :: Headers.errorId ::
      if Headers.isLegalValue traceId then [Headers.traceId] else [] := by
  unfold fieldsFor
  cases Headers.isLegalValue traceId <;> rfl

theorem nodup_fieldsFor (traceId errorId : String) :
    ((fieldsFor traceId errorId).map Prod.fst).Nodup := by
  rw [names_fieldsFor]
  cases Headers.isLegalValue traceId <;> decide

variable (limits : Limits) (ctx : RequestContext) (problem : Problem)

theorem headFor_eq (status : Status) (errorId : String) :
    headFor ctx status errorId =
      ⟨status, ctx.response.headers.insertAll (fieldsFor ctx.traceId errorId)⟩ := by
  unfold headFor fieldsFor
  cases Headers.isLegalValue ctx.traceId <;> rfl

/-- A later call leaves nothing of the head that an earlier one made. -/
theorem headFor_again (status later : Status) (errorId another : String) :
    headFor { ctx with response := headFor ctx status errorId } later another =
      headFor ctx later another := by
  have names : (fieldsFor ctx.traceId another).map Prod.fst =
      (fieldsFor ctx.traceId errorId).map Prod.fst := by
    rw [names_fieldsFor, names_fieldsFor]
  simp only [headFor_eq, Headers.insertAll_insertAll _ names (nodup_fieldsFor _ _)]

theorem values_headFor (status : Status) (errorId : String) {name : String}
    (other : name ∉ [Headers.contentType, Headers.errorId, Headers.traceId]) :
    (headFor ctx status errorId).headers.values name = ctx.response.headers.values name := by
  rw [headFor_eq]
  refine Headers.values_insertAll_of_not_mem _ fun member => other ?_
  rw [names_fieldsFor] at member
  refine List.Sublist.subset ?_ member
  cases Headers.isLegalValue ctx.traceId <;> decide

/-! ### The document -/

theorem finish_again (head : ResponseHead) (errorId another : String) :
    finish limits { ctx with response := head } (finish limits ctx problem errorId) another =
      { finish limits ctx problem errorId with
        errorId := some another
        extensions := limits.admitted (limits.admitted problem.extensions) } := by
  have named := isBlank_instance_finish limits ctx problem errorId
  unfold finish identify at named ⊢
  simp only [named, Bool.false_eq_true, if_false]

def referencesFor (problem : Problem) (supply : Supply) (count : Nat) : List ErrorReference :=
  (List.range count).map fun n => ⟨errorIdOf (supply n), errorCodeOf problem⟩

theorem referencesFor_succ (supply : Supply) (count : Nat) :
    referencesFor problem supply (count + 1) =
      ⟨errorIdOf (supply 0), errorCodeOf problem⟩ ::
        referencesFor problem (fun n => supply (1 + n)) count := by
  unfold referencesFor
  rw [List.range_succ_eq_map, List.map_cons, List.map_map]
  simp only [Function.comp_def, Nat.add_comm 1]

theorem value_formatEach_cons (status : Status) (rest : List Status) (supply : Supply) :
    ((formatEach limits ctx problem (status :: rest)).run supply).value =
      let errorId := errorIdOf (supply 0)
      let later := ((formatEach limits { ctx with response := headFor ctx status errorId }
        (finish limits ctx problem errorId) rest).run fun n => supply (1 + n)).value
      (later.1, later.2.1, ⟨errorId, errorCodeOf problem⟩ :: later.2.2) := by
  have value := value_format limits ctx problem status supply
  have drawn := draws_format limits ctx problem status supply
  rw [formatEach, Recorded.run_bind]
  generalize (format limits ctx problem status).run supply = outcome at value drawn
  obtain ⟨_, _, journal⟩ := outcome
  cases value
  cases drawn
  rfl

/-- The document as the first call left it, but for the last error id, and the head of the last
call. -/
theorem value_formatEach (first : Status) (rest : List Status) (supply : Supply) :
    ((formatEach limits ctx problem (first :: rest)).run supply).value =
      let last := errorIdOf (supply rest.length)
      ({ ctx with response := headFor ctx (rest.getLastD first) last },
        { finish limits ctx problem (errorIdOf (supply 0)) with
          errorId := some last
          extensions := limits.admitted^[rest.length + 1] problem.extensions },
        referencesFor problem supply (rest.length + 1)) := by
  induction rest generalizing ctx problem first supply with
  | nil =>
    rw [value_formatEach_cons]
    rfl
  | cons status rest ih =>
    rw [value_formatEach_cons]
    dsimp only
    rw [ih]
    dsimp only
    rw [headFor_again, finish_again, List.length_cons,
      List.getLastD_cons, referencesFor_succ problem supply, Nat.add_comm 1 rest.length]
    rfl

/-! ### Any number of calls -/

/-- What calls on one document return, and what they leave of it and of its context, where the first
call alone left `once`. -/
structure Reformatted (limits : Limits) (ctx : RequestContext) (problem once : Problem)
    (statuses : List Status) (supply : Supply) (final : RequestContext) (sent : Problem)
    (references : List ErrorReference) : Prop where
  context : final = { ctx with response := final.response }
  status : statuses.getLast? = some final.response.status
  contentType : final.response.headers.values Headers.contentType = [Problem.mediaType]
  errorId : ∃ last, references.getLast? = some last ∧ sent.errorId = some last.errorId ∧
    final.response.headers.values Headers.errorId = [last.errorId]
  otherHeaders : ∀ name, name ∉ [Headers.contentType, Headers.errorId, Headers.traceId] →
    final.response.headers.values name = ctx.response.headers.values name
  errorIds : references.map ErrorReference.errorId =
    (List.range statuses.length).map fun n => errorIdOf (supply n)
  errorCodes : ∀ reference ∈ references, reference.errorCode = errorCodeOf problem
  /-- Type, title, status, detail and code are as they were. -/
  document : sent = { problem with
    instanceUri := sent.instanceUri
    traceId := ctx.traceId
    errorId := sent.errorId
    extensions := sent.extensions }
  instanceUri : if Text.isBlank problem.instanceUri then
      ∃ earliest, references.head? = some earliest ∧
        sent.instanceUri = Problem.instanceUrn earliest.errorId
    else sent.instanceUri = problem.instanceUri
  sameInstance : sent.instanceUri = once.instanceUri
  extensions : limits.validator = none → sent.extensions = once.extensions

/-- Calls leave the head and the error id of the last one, the instance of the first one, and all
else as one call does. -/
theorem formatEach_reformats (first : Status) (rest : List Status) (supply : Supply) :
    let once := ((format limits ctx problem first).run supply).value
    let outcome := (formatEach limits ctx problem (first :: rest)).run supply
    Reformatted limits ctx problem once.2.1 (first :: rest) supply outcome.value.1
      outcome.value.2.1 outcome.value.2.2 := by
  intro once outcome
  have before : once = _ := value_format limits ctx problem first supply
  have value : outcome.value = _ := value_formatEach limits ctx problem first rest supply
  rw [before, value]
  dsimp only
  constructor
  case context => rfl
  case status =>
    rw [List.getLast?_cons, ← List.getLastD_eq_getLast?]
    rfl
  case contentType => exact contentType_headFor ctx _ _
  case errorId =>
    refine ⟨⟨errorIdOf (supply rest.length), errorCodeOf problem⟩, ?_, rfl,
      errorId_headFor ctx _ _⟩
    unfold referencesFor
    rw [List.range_succ, List.map_append, List.map_singleton, List.getLast?_concat]
  case otherHeaders => exact fun name other => values_headFor ctx _ _ other
  case errorIds =>
    unfold referencesFor
    rw [List.map_map, List.length_cons]
    rfl
  case errorCodes =>
    intro reference member
    obtain ⟨n, -, rfl⟩ := List.mem_map.1 member
    rfl
  case document => rfl
  case instanceUri =>
    rw [referencesFor_succ]
    unfold finish identify
    cases Text.isBlank problem.instanceUri with
    | true => exact ⟨_, rfl, rfl⟩
    | false => rfl
  case sameInstance => rfl
  case extensions =>
    intro none
    -- without a validator no verdict depends on texts, so the first call has cut all there is
    refine Function.iterate_fixed ?_ rest.length
    refine Limits.admitted_admitted (Limits.accepts_shorten fun validator given => ?_) _
    rw [none] at given
    cases given

example :
    let ctx := { RequestContext.start "7f3a" (by decide) "/orders" with
      response := ⟨.ok, .ofList
        [("Set-Cookie", "cart=1"), ("X-Error-Id", "err-0"), ("Set-Cookie", "seen=2")]⟩ }
    let supply : Supply := fun n => ⟨.replicate 32 (.ofNat 16 n)⟩
    let outcome := ((formatEach .default ctx (.new .notFound "Gone" "")
      [.notFound, .conflict]).run supply).value
    outcome.1.response.headers.values "set-cookie" = ["cart=1", "seen=2"] ∧
      outcome.1.response.headers.values "x-error-id" = [errorIdOf (supply 1)] ∧
      outcome.2.1.instanceUri = Problem.instanceUrn (errorIdOf (supply 0)) := by
  decide +kernel

end Faultline.Formatting
