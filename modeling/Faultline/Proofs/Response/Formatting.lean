import Faultline.Proofs.Http.Headers
import Faultline.Proofs.Problem.Limits
import Faultline.Proofs.Text.Plain
import Faultline.Response.Formatting

/-!
What formatting makes of a document: the finished document and the response head, given the
identifier that is drawn for the failure.
-/

namespace Faultline

def IsErrorId (s : String) : Prop :=
  ∃ digits : List Char, s = "err-" ++ .ofList digits ∧ digits.length = 32 ∧
    ∀ c ∈ digits, c ∈ "0123456789abcdef".toList

namespace Formatting

theorem isErrorId_errorIdOf (id : Uuid) : IsErrorId (errorIdOf id) :=
  ⟨id.hexChars, rfl, id.length_hexChars, id.isLowerHex_hexChars⟩

theorem isPlain_errorIdOf (id : Uuid) : Text.IsPlain (errorIdOf id) := by
  have joined : errorIdOf id = .ofList (['e', 'r', 'r', '-'] ++ id.hexChars) := by
    rw [String.ofList_append]
    rfl
  have visible : ∀ c ∈ ['e', 'r', 'r', '-'],
      Headers.isReadableChar c = true ∧ Text.isSpace c = false := by
    simp [Headers.isReadableChar, Text.isSpace]
  rw [joined]
  refine Text.isPlain_ofList (List.cons_ne_nil _ _) fun c member => ?_
  rw [List.mem_append] at member
  rcases member with first | second
  · exact visible c first
  · exact id.visible_hexChars c second

def finish (limits : Limits) (ctx : RequestContext) (problem : Problem) (errorId : String) :
    Problem :=
  { identify ctx problem errorId with extensions := limits.admitted problem.extensions }

variable (limits : Limits) (ctx : RequestContext) (problem : Problem) (status : Status)

theorem value_format (supply : Supply) :
    ((format limits ctx problem status).run supply).value =
      let errorId := errorIdOf (supply 0)
      ({ ctx with response := headFor ctx status errorId }, finish limits ctx problem errorId,
        ⟨errorId, errorCodeOf problem⟩) := by
  have kept : (identify ctx problem (errorIdOf (supply 0))).extensions = problem.extensions := rfl
  unfold format finish
  cases Headers.isLegalValue ctx.traceId with
  | true =>
    simp only [Recorded.run_bind, Recorded.run_fresh, Recorded.run_pure, Limits.value_validate,
      Bool.not_true, Bool.false_eq_true, if_false, kept]
  | false =>
    simp only [Recorded.run_bind, Recorded.run_fresh, Recorded.run_pure, Limits.value_validate,
      Bool.not_false, if_true, kept]

theorem draws_format : (format limits ctx problem status).Draws 1 := by
  have finished (errorId : String) : (do
      let extensions ← limits.validate (identify ctx problem errorId).extensions
      return ({ ctx with response := headFor ctx status errorId },
        { identify ctx problem errorId with extensions := extensions },
        (⟨errorId, errorCodeOf problem⟩ : ErrorReference))).Draws 0 :=
    Recorded.draws_bind (n := 0) (limits.draws_validate _) fun _ => Recorded.draws_pure _
  refine Recorded.draws_bind (n := 0) Recorded.draws_fresh fun id => ?_
  dsimp only
  split
  next =>
    exact Recorded.draws_bind (n := 0) (Recorded.draws_log _ _ _) fun _ => finished (errorIdOf id)
  next => exact finished (errorIdOf id)

def omitted (errorId : String) : Event :=
  ⟨.warn, "trace id is not a valid header value; x-trace-id omitted", [("error_id", .text errorId)]⟩

theorem alarms_format (supply : Supply) :
    ((format limits ctx problem status).run supply).alarms =
      if Headers.isLegalValue ctx.traceId then [] else [omitted (errorIdOf (supply 0))] := by
  -- what follows the warning, if it is given
  have quiet (errorId : String) (result : Members → RequestContext × Problem × ErrorReference) :
      (do return result (← limits.validate (identify ctx problem errorId).extensions)).Raises [] :=
    Recorded.raises_then (limits.raises_validate _) fun _ => Recorded.raises_pure _
  unfold format
  cases Headers.isLegalValue ctx.traceId with
  | true =>
    exact Recorded.raises_then Recorded.raises_fresh (fun id => quiet (errorIdOf id) _) supply
  | false =>
    rw [Recorded.alarms_bind]
    dsimp only
    rw [Recorded.raises_fresh supply]
    exact congrArg ([omitted (errorIdOf (supply 0))] ++ ·) (quiet (errorIdOf (supply 0)) _ _)

theorem isBlank_instance_finish (errorId : String) :
    Text.isBlank (finish limits ctx problem errorId).instanceUri = false := by
  simp only [finish, identify]
  split
  next => exact Problem.isBlank_instanceUrn errorId
  next given => exact (Bool.not_eq_true _).mp given

theorem unreserved_finish (errorId : String) :
    Problem.Unreserved (finish limits ctx problem errorId).extensions :=
  limits.unreserved_admitted problem.extensions

/-- The text of an object whose names are distinct, with an error id, a trace id and an instance.
The object is read back from it, if a text can say all its values. -/
structure BodyTells (body errorId traceId : String) (members : List (String × Json)) : Prop where
  isText : body = (Json.object members).compact
  isRead : (∀ member ∈ members, Problem.IsPortable member.2) →
    Json.parse body = .ok (.object members)
  distinct : (members.map Prod.fst).Nodup
  memberErrorId : Json.find? members "errorId" = some (.string errorId)
  memberTraceId : Json.find? members "traceId" = some (.string traceId)
  memberInstance : ∃ uri, Json.find? members "instance" = some (.string uri) ∧
    Text.isBlank uri = false

theorem bodyTells_finish (errorId : String) :
    let sent := finish limits ctx problem errorId
    BodyTells sent.body errorId ctx.traceId sent.members where
  isText := Problem.body_eq _
  isRead :=
    Problem.parse_object (Problem.nodup_names (unreserved_finish limits ctx problem errorId))
  distinct := Problem.nodup_names (unreserved_finish limits ctx problem errorId)
  memberErrorId := Problem.find?_errorId _ rfl
  memberTraceId := Problem.find?_traceId _
  memberInstance :=
    ⟨_, Problem.find?_instance _, isBlank_instance_finish limits ctx problem errorId⟩

variable (errorId : String)

theorem contentType_headFor :
    (headFor ctx status errorId).headers.values Headers.contentType = [Problem.mediaType] := by
  have first : Headers.contentType ≠ Headers.traceId := by decide
  have second : Headers.contentType ≠ Headers.errorId := by decide
  unfold headFor
  dsimp only
  split <;> simp [first, second]

theorem errorId_headFor :
    (headFor ctx status errorId).headers.values Headers.errorId = [errorId] := by
  have other : Headers.errorId ≠ Headers.traceId := by decide
  unfold headFor
  dsimp only
  split <;> simp [other]

theorem traceId_headFor (legal : Headers.isLegalValue ctx.traceId = true) :
    (headFor ctx status errorId).headers.values Headers.traceId = [ctx.traceId] := by
  unfold headFor
  simp only [legal, if_true, Headers.values_insert]

end Formatting
end Faultline
