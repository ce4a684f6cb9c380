import Mathlib.Logic.Relation
import Faultline.Proofs.Http.Headers
import Faultline.Proofs.Request.TraceId

/-!
Which trace id a request goes by, and what becomes of it on the way through services that pass it
on. Main statement: it is the first that the headers give, in a fixed order of headers, it can be
sent as it is, and no number of hops changes it.
-/

namespace Faultline

theorem Text.trim_eq_empty_iff {s : String} : trim s = "" ↔ isBlank s = true := by
  rw [trim, String.ofList_eq_empty_iff, trimChars_eq_nil_iff, isBlank]

theorem Text.trim_trim (s : String) : trim (trim s) = trim s := by
  unfold trim
  rw [String.toList_ofList, trimChars_idem]

theorem Uuid.isLowerHex_hex (id : Uuid) : Traceparent.IsLowerHex id.hex := by
  constructor
  · rw [hex, String.length_ofList, length_hexChars]
  · rw [hex, String.toList_ofList]
    exact id.isLowerHex_hexChars

namespace RequestContext

def Shows (headers : Headers) (name value : String) : Prop :=
  (headers.values name).head? = some value ∧ Headers.isReadable value = true

def InParent (headers : Headers) (id : String) : Prop :=
  ∃ value, Shows headers Headers.traceparent value ∧ Traceparent.traceId? value = some id

def InHeader (headers : Headers) (name id : String) : Prop :=
  ∃ value, Shows headers name value ∧ Text.isBlank value = false ∧ Text.trim value = id

/-- The trace id that headers give. Each of them counts only if those before it give none. -/
inductive Gives (headers : Headers) : String → Prop where
  | parent {id : String} (given : InParent headers id) : Gives headers id
  | own {id : String} (noParent : ∀ other, ¬InParent headers other)
    (given : InHeader headers Headers.traceId id) : Gives headers id
  | request {id : String} (noParent : ∀ other, ¬InParent headers other)
    (noOwn : ∀ other, ¬InHeader headers Headers.traceId other)
    (given : InHeader headers Headers.requestId id) : Gives headers id

section

variable {headers : Headers} {name id : String}

theorem headerText_eq_some_iff : headerText headers name = some id ↔ InHeader headers name id := by
  have nonempty (value : String) :
      (Text.trim value).isEmpty = false ↔ Text.isBlank value = false := by
    rw [← Bool.not_eq_true, ← Bool.not_eq_true, String.isEmpty_iff, Text.trim_eq_empty_iff]
  unfold headerText InHeader Shows Headers.get?
  rw [Option.filter_eq_some_iff, Option.map_eq_some_iff]
  constructor
  · rintro ⟨⟨value, found, rfl⟩, kept⟩
    rw [Option.filter_eq_some_iff] at found
    exact ⟨value, found, (nonempty value).1 (by simpa using kept), rfl⟩
  · rintro ⟨value, shown, present, rfl⟩
    exact ⟨⟨value, Option.filter_eq_some_iff.2 shown, rfl⟩,
      by simpa using (nonempty value).2 present⟩

theorem bind_headerText_eq_some_iff :
    (headerText headers Headers.traceparent).bind Traceparent.traceId? = some id ↔
      InParent headers id := by
  rw [Option.bind_eq_some_iff]
  constructor
  · rintro ⟨text, given, parsed⟩
    obtain ⟨value, shown, -, rfl⟩ := headerText_eq_some_iff.1 given
    exact ⟨value, shown, by rw [← parsed, Traceparent.traceId?_trim]⟩
  · rintro ⟨value, shown, parsed⟩
    have present : Text.isBlank value = false := by
      by_contra blank
      rw [Bool.not_eq_false, ← Text.trim_eq_empty_iff] at blank
      rw [← Traceparent.traceId?_trim, blank] at parsed
      cases parsed
    refine ⟨Text.trim value, headerText_eq_some_iff.2 ⟨value, shown, present, rfl⟩, ?_⟩
    rw [Traceparent.traceId?_trim, parsed]

theorem headerText_eq_none_iff :
    headerText headers name = none ↔ ∀ other, ¬InHeader headers name other := by
  simp only [← headerText_eq_some_iff]
  exact Option.eq_none_iff_forall_ne_some

theorem bind_headerText_eq_none_iff :
    (headerText headers Headers.traceparent).bind Traceparent.traceId? = none ↔
      ∀ other, ¬InParent headers other := by
  simp only [← bind_headerText_eq_some_iff]
  exact Option.eq_none_iff_forall_ne_some

theorem incomingTraceId_eq_some_iff : incomingTraceId headers = some id ↔ Gives headers id := by
  unfold incomingTraceId
  rw [Option.or_eq_some_iff, Option.or_eq_some_iff, Option.or_eq_none_iff,
    bind_headerText_eq_some_iff, bind_headerText_eq_none_iff, headerText_eq_some_iff,
    headerText_eq_some_iff, headerText_eq_none_iff]
  constructor
  · rintro ((parent | ⟨noParent, own⟩) | ⟨⟨noParent, noOwn⟩, request⟩)
    · exact .parent parent
    · exact .own noParent own
    · exact .request noParent noOwn request
  · intro gives
    cases gives with
    | parent given => exact .inl (.inl given)
    | own noParent given => exact .inl (.inr ⟨noParent, given⟩)
    | request noParent noOwn given => exact .inr ⟨⟨noParent, noOwn⟩, given⟩

theorem incomingTraceId_eq_none_iff :
    incomingTraceId headers = none ↔ ∀ id, ¬Gives headers id := by
  simp only [← incomingTraceId_eq_some_iff]
  exact Option.eq_none_iff_forall_ne_some

theorem Gives.trim_eq (gives : Gives headers id) : Text.trim id = id := by
  cases gives with
  | parent given =>
    obtain ⟨value, -, parsed⟩ := given
    exact (Traceparent.isCanonical_of_traceId? parsed).trim_eq
  | own _ given | request _ _ given =>
    obtain ⟨value, -, -, rfl⟩ := given
    exact Text.trim_trim value

end

/-- Headers that pass on a trace id: under one name for it and, if another name would count before
that one, not under the other. A `traceparent` can pass on only what is a trace id to it. -/
inductive Sends (id : String) (headers : Headers) : Prop where
  | own (noParent : headers.values Headers.traceparent = [])
    (sent : (headers.values Headers.traceId).head? = some id) : Sends id headers
  | request (noParent : headers.values Headers.traceparent = [])
    (noOwn : headers.values Headers.traceId = [])
    (sent : (headers.values Headers.requestId).head? = some id) : Sends id headers
  | parent (canonical : Traceparent.IsCanonical id) (span flags : String)
    (readable : Headers.isReadable (span ++ flags) = true)
    (sent : (headers.values Headers.traceparent).head? =
      some ("00-" ++ id ++ "-" ++ span ++ "-" ++ flags)) : Sends id headers

/-- The next service makes a context of a request that was sent with the trace id of this one. -/
def Hop (ctx next : RequestContext) : Prop :=
  ∃ headers path supply, Sends ctx.traceId headers ∧
    next = ((ofRequest headers path).run supply).value

/-- A trace id that can be sent as it is, without being taken for another one. -/
structure IsSendable (id : String) : Prop where
  isBlank : Text.isBlank id = false
  trim : Text.trim id = id
  isReadable : Headers.isReadable id = true

section

variable {headers : Headers} {name id : String}

theorem not_inParent_of_values (absent : headers.values Headers.traceparent = []) (other : String) :
    ¬InParent headers other := by
  rintro ⟨value, ⟨first, -⟩, -⟩
  rw [absent] at first
  cases first

theorem not_inHeader_of_values (absent : headers.values name = []) (other : String) :
    ¬InHeader headers name other := by
  rintro ⟨value, ⟨first, -⟩, -⟩
  rw [absent] at first
  cases first

theorem IsSendable.inHeader (sendable : IsSendable id)
    (sent : (headers.values name).head? = some id) : InHeader headers name id :=
  ⟨id, ⟨sent, sendable.isReadable⟩, sendable.isBlank, sendable.trim⟩

theorem Sends.gives (sends : Sends id headers) (sendable : IsSendable id) : Gives headers id := by
  cases sends with
  | own noParent sent => exact .own (not_inParent_of_values noParent) (sendable.inHeader sent)
  | request noParent noOwn sent =>
    exact .request (not_inParent_of_values noParent) (not_inHeader_of_values noOwn)
      (sendable.inHeader sent)
  | parent canonical span flags readable sent =>
    refine .parent ⟨_, ⟨sent, ?_⟩, canonical.traceId?_value span flags⟩
    have version : Headers.isReadable "00-" = true := by decide +kernel
    have hyphen : Headers.isReadable "-" = true := by decide +kernel
    rw [Headers.isReadable_append, Bool.and_eq_true] at readable
    simp only [Headers.isReadable_append, version, hyphen, sendable.isReadable, readable,
      Bool.and_self]

theorem isSendable_ofRequest (headers : Headers) (path : String) (supply : Supply) :
    IsSendable ((ofRequest headers path).run supply).value.traceId := by
  have plain := isPlain_ofRequest headers path supply
  refine ⟨plain.isBlank, ?_, List.all_eq_true.2 plain.readable⟩
  rw [traceId_ofRequest]
  cases given : incomingTraceId headers with
  | none => exact (supply 0).isLowerHex_hex.trim_eq
  | some id => exact (incomingTraceId_eq_some_iff.1 given).trim_eq

theorem traceId_of_gives (gives : Gives headers id) (path : String) (supply : Supply) :
    ((ofRequest headers path).run supply).value.traceId = id := by
  rw [traceId_ofRequest, incomingTraceId_eq_some_iff.2 gives, Option.getD_some]

/-- A hop keeps the trace id, and the next one can send it too. -/
theorem Hop.traceId_eq {ctx next : RequestContext} (hop : Hop ctx next)
    (sendable : IsSendable ctx.traceId) : next.traceId = ctx.traceId := by
  obtain ⟨headers, path, supply, sends, rfl⟩ := hop
  exact traceId_of_gives (sends.gives sendable) path supply

theorem traceId_of_hops {ctx last : RequestContext} (sendable : IsSendable ctx.traceId)
    (hops : Relation.ReflTransGen Hop ctx last) : last.traceId = ctx.traceId := by
  induction hops with
  | refl => rfl
  | tail _ hop ih =>
    rw [← ih] at sendable
    rw [hop.traceId_eq sendable, ih]

end

/-- A request goes by the trace id that its headers give, or else by a fresh one. That can be sent
as it is, so that it stays the same over any number of hops. -/
theorem traceId_survives_hops (headers : Headers) (path : String) (supply : Supply) :
    let made := (ofRequest headers path).run supply
    let traceId := made.value.traceId
    (∀ id, Gives headers id → traceId = id ∧ made.drawn = 0) ∧
      ((∀ id, ¬Gives headers id) → traceId = (supply 0).hex ∧ made.drawn = 1 ∧
        Traceparent.IsLowerHex traceId) ∧
      (IsSendable traceId ∧ Headers.isLegalValue traceId = true) ∧
      ∀ last, Relation.ReflTransGen Hop made.value last → last.traceId = traceId := by
  intro made traceId
  have sendable : IsSendable traceId := isSendable_ofRequest headers path supply
  have drawn : made.drawn = _ := drawn_ofRequest headers path supply
  refine ⟨?_, ?_, ⟨sendable, (isPlain_ofRequest headers path supply).isLegalValue⟩,
    fun last hops => traceId_of_hops sendable hops⟩
  · intro id gives
    rw [incomingTraceId_eq_some_iff.2 gives] at drawn
    exact ⟨traceId_of_gives gives path supply, drawn⟩
  · intro none
    rw [← incomingTraceId_eq_none_iff] at none
    have fresh : traceId = (supply 0).hex := by
      show ((ofRequest headers path).run supply).value.traceId = _
      rw [traceId_ofRequest, none, Option.getD_none]
    rw [none] at drawn
    exact ⟨fresh, drawn, fresh ▸ (supply 0).isLowerHex_hex⟩

theorem traceId_survives_hops_mixed :
    let traceId := "4bf92f3577b34da6a3ce929d0e0e4736"
    let first : Headers := .ofList [("X-Trace-Id", "checkout"),
      ("traceparent", " 00-4BF92F3577B34DA6A3CE929D0E0E4736-00f067aa0ba902b7-01")]
    let second : Headers := .ofList [("X-Request-Id", traceId)]
    let third : Headers := .ofList [("traceparent", "00-" ++ traceId ++ "-a2fb4a1d1a96d312-00"),
      ("X-Trace-Id", "checkout")]
    let made (headers : Headers) :=
      ((ofRequest headers "/orders").run fun _ => ⟨.replicate 32 5⟩).value
    Gives first traceId ∧ (made first).traceId = traceId ∧ Hop (made first) (made second) ∧
      Hop (made second) (made third) ∧ (made third).traceId = traceId := by
  intro traceId first second third made
  have gives : Gives first traceId :=
    .parent ⟨" 00-4BF92F3577B34DA6A3CE929D0E0E4736-00f067aa0ba902b7-01",
      ⟨by decide +kernel, by decide +kernel⟩, by decide +kernel⟩
  obtain ⟨given, -, -, survives⟩ :=
    traceId_survives_hops first "/orders" fun _ => ⟨.replicate 32 5⟩
  have start : (made first).traceId = traceId := (given traceId gives).1
  have asRequest : Sends traceId second :=
    .request (by decide +kernel) (by decide +kernel) (by decide +kernel)
  have next : Hop (made first) (made second) :=
    ⟨second, "/orders", fun _ => ⟨.replicate 32 5⟩, start ▸ asRequest, rfl⟩
  have kept : (made second).traceId = traceId := (survives _ (.single next)).trans start
  have lower : traceId.toList.all ("0123456789abcdef".toList.contains ·) = true := by
    decide +kernel
  have canonical : Traceparent.IsCanonical traceId :=
    ⟨⟨by decide +kernel, fun c member =>
      List.contains_iff_mem.1 (List.all_eq_true.1 lower c member)⟩,
      '4', by decide +kernel, by decide⟩
  have asParent : Sends traceId third :=
    .parent canonical "a2fb4a1d1a96d312" "00" (by decide +kernel) (by decide +kernel)
  have last : Hop (made second) (made third) :=
    ⟨third, "/orders", fun _ => ⟨.replicate 32 5⟩, kept ▸ asParent, rfl⟩
  exact ⟨gives, start, next, last, (survives _ (.tail (.single next) last)).trans start⟩

end RequestContext
end Faultline
