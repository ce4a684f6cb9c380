import Faultline.Proofs.Request.TraceId
import Faultline.Proofs.Response.Formatting

/-!
The head of a response after formatting. Main statement: it tells the trace id of the request if
that can be a header value, and otherwise it tells what it told before.
-/

namespace Faultline.Formatting

/-- The head tells the trace id, or nothing if that cannot be a header value. -/
def TellsTraceId (head : ResponseHead) (traceId : String) : Prop :=
  head.headers.values Headers.traceId =
    if Headers.isLegalValue traceId then [traceId] else []

variable (limits : Limits) (ctx : RequestContext) (problem : Problem) (status : Status)
  (errorId : String)

theorem traceId_headFor_of_illegal (illegal : Headers.isLegalValue ctx.traceId = false) :
    (headFor ctx status errorId).headers.values Headers.traceId =
      ctx.response.headers.values Headers.traceId := by
  have first : Headers.traceId ≠ Headers.contentType := by decide
  have second : Headers.traceId ≠ Headers.errorId := by decide
  unfold headFor
  simp [illegal, first, second]

theorem tellsTraceId_headFor_iff : TellsTraceId (headFor ctx status errorId) ctx.traceId ↔
    Headers.isLegalValue ctx.traceId = true ∨
      ctx.response.headers.values Headers.traceId = [] := by
  unfold TellsTraceId
  cases legal : Headers.isLegalValue ctx.traceId with
  | true => simp [traceId_headFor ctx status errorId legal]
  | false => simp [traceId_headFor_of_illegal ctx status errorId legal]

/-- The document goes by the trace id of its request, and so does the head if that can be a header
value, as one can that was taken from a request's headers. Otherwise the values that were there
stay, so that the head tells a trace id of another origin exactly if there were any. -/
theorem traceId_told_by_format (supply : Supply) :
    let formatted := ((format limits ctx problem status).run supply).value
    let told := formatted.1.response.headers.values Headers.traceId
    formatted.2.1.traceId = ctx.traceId ∧
      (Headers.isLegalValue ctx.traceId = true → told = [ctx.traceId]) ∧
      (Headers.isLegalValue ctx.traceId = false →
        told = ctx.response.headers.values Headers.traceId) ∧
      (TellsTraceId formatted.1.response ctx.traceId ↔ Headers.isLegalValue ctx.traceId = true ∨
        ctx.response.headers.values Headers.traceId = []) ∧
      ∀ headers path earlier,
        ctx.traceId = ((RequestContext.ofRequest headers path).run earlier).value.traceId →
          TellsTraceId formatted.1.response ctx.traceId := by
  intro formatted told
  have value : formatted = _ := value_format limits ctx problem status supply
  have head : formatted.1.response = headFor ctx status (errorIdOf (supply 0)) := by rw [value]
  have tells := tellsTraceId_headFor_iff ctx status (errorIdOf (supply 0))
  simp only [told, head]
  refine ⟨by rw [value]; rfl, traceId_headFor ctx status _,
    traceId_headFor_of_illegal ctx status _, tells, ?_⟩
  intro headers path earlier origin
  rw [tells, origin]
  exact .inl (RequestContext.isPlain_ofRequest headers path earlier).isLegalValue

def ringing : RequestContext :=
  { RequestContext.start "bad\x07id" (by decide) "/orders" with
    response := ⟨.ok, .ofList [("X-Trace-Id", "upstream-1")]⟩ }

theorem traceId_told_by_format_ringing :
    let formatted := ((format .default ringing (Problem.new .notFound "Gone" "") .notFound).run
      fun _ => ⟨.replicate 32 5⟩).value
    Headers.isLegalValue ringing.traceId = false ∧ formatted.2.1.traceId = "bad\x07id" ∧
      formatted.1.response.headers.values Headers.traceId = ["upstream-1"] := by
  have illegal : Headers.isLegalValue ringing.traceId = false := by decide +kernel
  obtain ⟨document, -, kept, -⟩ := traceId_told_by_format .default ringing
    (Problem.new .notFound "Gone" "") .notFound fun _ => ⟨.replicate 32 5⟩
  exact ⟨illegal, document, (kept illegal).trans rfl⟩

/-- The head tells a trace id that is not that of the request. -/
theorem format_leaves_other_traceId :
    let formatted := ((format .default ringing (Problem.new .notFound "Gone" "") .notFound).run
      fun _ => ⟨.replicate 32 5⟩).value
    ¬TellsTraceId formatted.1.response ringing.traceId := by
  intro formatted
  have value : formatted = _ := value_format .default ringing _ .notFound _
  rw [value, tellsTraceId_headFor_iff]
  decide +kernel

end Faultline.Formatting
