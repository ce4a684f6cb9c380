import Faultline.Proofs.Request.Traceparent
import Faultline.Request.Context

/-! The trace id of a request: a plain text, which is the one it comes with if it comes with any. -/

namespace Faultline

namespace RequestContext

variable {headers : Headers}

theorem isPlain_headerText {name text : String} (given : headerText headers name = some text) :
    Text.IsPlain text := by
  unfold headerText at given
  rw [Option.filter_eq_some_iff, Option.map_eq_some_iff] at given
  obtain ⟨⟨value, found, rfl⟩, nonempty⟩ := given
  rw [Option.filter_eq_some_iff] at found
  have readable := found.2
  simp only [Headers.isReadable, List.all_eq_true] at readable
  unfold Text.trim at nonempty ⊢
  refine ⟨?_, ?_, ?_⟩
  · rw [String.toList_ofList]
    intro empty
    rw [empty] at nonempty
    cases nonempty
  · rw [String.toList_ofList]
    exact Text.trimEnd_idem _
  · intro c member
    rw [String.toList_ofList] at member
    exact readable c (Text.mem_of_mem_trimChars member)

theorem isPlain_incomingTraceId {id : String} (given : incomingTraceId headers = some id) :
    Text.IsPlain id := by
  unfold incomingTraceId at given
  rw [Option.or_eq_some_iff, Option.or_eq_some_iff] at given
  rcases given with (parent | ⟨-, own⟩) | ⟨-, request⟩
  · obtain ⟨value, -, parsed⟩ := Option.bind_eq_some_iff.1 parent
    exact (Traceparent.isCanonical_of_traceId? parsed).isPlain
  · exact isPlain_headerText own
  · exact isPlain_headerText request

variable (headers) (path : String) (supply : Supply)

theorem run_new_of_blank {given : String} (blank : Text.isBlank given = true) :
    ∃ ctx, (new given path).run supply = ⟨ctx, 1, []⟩ ∧ ctx.traceId = (supply 0).hex := by
  have absent : ¬Text.isBlank given = false := by simp [blank]
  unfold new
  rw [dif_neg absent]
  exact ⟨_, rfl, rfl⟩

theorem traceId_ofRequest :
    ((ofRequest headers path).run supply).value.traceId =
      (incomingTraceId headers).getD (supply 0).hex := by
  unfold ofRequest new
  cases given : incomingTraceId headers with
  | none =>
    have blank : ¬Text.isBlank "" = false := by decide
    rw [Option.getD_none, Option.getD_none, dif_neg blank]
    rfl
  | some id =>
    have present := (isPlain_incomingTraceId given).isBlank
    rw [Option.getD_some, Option.getD_some, dif_pos present]
    rfl

theorem drawn_ofRequest :
    ((ofRequest headers path).run supply).drawn =
      if (incomingTraceId headers).isSome then 0 else 1 := by
  unfold ofRequest new
  cases given : incomingTraceId headers with
  | none =>
    have blank : ¬Text.isBlank "" = false := by decide
    rw [Option.getD_none, dif_neg blank]
    rfl
  | some id =>
    have present := (isPlain_incomingTraceId given).isBlank
    rw [Option.getD_some, dif_pos present]
    rfl

theorem journal_ofRequest : ((ofRequest headers path).run supply).journal = [] := by
  unfold ofRequest new
  split <;> rfl

theorem isPlain_ofRequest :
    Text.IsPlain ((ofRequest headers path).run supply).value.traceId := by
  rw [traceId_ofRequest]
  cases given : incomingTraceId headers with
  | none => exact (supply 0).isPlain_hex
  | some id => exact isPlain_incomingTraceId given

end RequestContext
end Faultline
