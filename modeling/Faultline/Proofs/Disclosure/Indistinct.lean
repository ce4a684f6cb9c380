import Faultline.Proofs.Mapper.BuiltIn

/-!
Faults that a sanitizer does not tell apart: what everyone may know of them is the same, and so is
all that it lets pass. The built-in mappers answer such faults alike.
-/

namespace Faultline

/-- Two errors of one type that differ at most in their texts and in what is behind them. -/
structure AppError.SameShape (a b : AppError) : Prop where
  type : a.type = b.type
  code : a.code = b.code
  preferredStatus : a.preferredStatus = b.preferredStatus
  isTransient : a.isTransient = b.isTransient
  kind : a.kind = b.kind

namespace Fault

/-- Two faults of one sort that differ at most in their texts, in what is behind them, and in the
operation and the budget of a timeout. -/
inductive SameShape : Fault → Fault → Prop
  | app {a b : AppError} (same : a.SameShape b) : SameShape (.app a) (.app b)
  | database (number : Int) (m n : String) : SameShape (.database number m) (.database number n)
  | remote (status : Option Status) (m n : String) :
    SameShape (.remote status m) (.remote status n)
  | timeout (m n : String) (c d : Duration) : SameShape (.timeout m c) (.timeout n d)
  | unrecognized (m n : Report) : SameShape (.unrecognized m) (.unrecognized n)

def detail (fault : Fault) : Option String := fault.app?.bind AppError.detail

def fieldErrors (fault : Fault) : FieldErrors := (fault.app?.map AppError.fieldErrors).getD []

/-- All the texts of two faults but those of the errors behind them. -/
structure SameText (a b : Fault) : Prop where
  display : a.display = b.display
  detail : a.detail = b.detail
  fieldErrors : a.fieldErrors = b.fieldErrors

variable {a b : Fault}

theorem SameShape.kindName (shape : a.SameShape b) : a.kindName = b.kindName := by
  cases shape with
  | app same => exact same.kind
  | database | remote | timeout | unrecognized => rfl

theorem SameShape.ofType? (shape : a.SameShape b) (type : AppErrorType) :
    (a.ofType? type = none ∧ b.ofType? type = none) ∨
      ∃ x y, a = .app x ∧ b = .app y ∧ x.SameShape y ∧
        a.ofType? type = some x ∧ b.ofType? type = some y := by
  cases shape with
  | @app x y same =>
    rw [ofType?_app, ofType?_app, ← same.type]
    by_cases hit : x.type = type
    · exact .inr ⟨x, y, rfl, rfl, same, if_pos hit, if_pos hit⟩
    · exact .inl ⟨if_neg hit, if_neg hit⟩
  | database | remote | timeout | unrecognized => exact .inl ⟨rfl, rfl⟩

end Fault

namespace Sanitizer

/-- Neither the environment nor the list of safe kinds nor the predicate lets the details of the
fault pass. -/
structure Withholds (sanitizer : Sanitizer) (fault : Fault) : Prop where
  environment : sanitizer.environment.developer = false
  kind : ∀ safe ∈ sanitizer.settings.safeKinds, Text.sameIgnoringCase safe fault.kindName = false
  predicate : ∀ accepts, sanitizer.predicate = some accepts → accepts fault = false

theorem Withholds.allows {sanitizer : Sanitizer} {fault : Fault}
    (withholds : sanitizer.Withholds fault) : sanitizer.allows fault = false := by
  have kind : sanitizer.settings.safeKinds.any (Text.sameIgnoringCase · fault.kindName) = false :=
    List.any_eq_false.2 fun safe member => by simp [withholds.kind safe member]
  have predicate : sanitizer.predicate.any (· fault) = false := by
    cases given : sanitizer.predicate with
    | none => rfl
    | some accepts => exact withholds.predicate accepts given
  simp only [Sanitizer.allows, withholds.environment, kind, predicate, Bool.or_self]

/-- Two faults of one shape that the sanitizer allows both or none of, and if it allows them have
the same texts. -/
structure Indistinct (sanitizer : Sanitizer) (a b : Fault) : Prop where
  shape : a.SameShape b
  verdict : sanitizer.allows a = sanitizer.allows b
  text : sanitizer.allows a = true → a.SameText b

variable {sanitizer : Sanitizer} {a b : Fault}

theorem indistinct_of_withholds (shape : a.SameShape b) (first : sanitizer.Withholds a)
    (second : sanitizer.Withholds b) : sanitizer.Indistinct a b where
  shape := shape
  verdict := first.allows.trans second.allows.symm
  text allowed := by rw [first.allows] at allowed; cases allowed

theorem indistinct_of_sameText (shape : a.SameShape b) (text : a.SameText b)
    (agrees : ∀ accepts, sanitizer.predicate = some accepts → accepts a = accepts b) :
    sanitizer.Indistinct a b where
  shape := shape
  verdict := by
    have predicate : sanitizer.predicate.any (· a) = sanitizer.predicate.any (· b) := by
      cases given : sanitizer.predicate with
      | none => rfl
      | some accepts => exact agrees accepts given
    simp only [allows, shape.kindName, predicate]
  text _ := text

theorem developer_of_refused (refused : sanitizer.allows a = false) :
    sanitizer.environment.developer = false := by
  simp only [allows, Bool.or_eq_false_iff] at refused
  exact refused.1.1

theorem augment_of_refused (refused : sanitizer.allows a = false) (text : String) :
    sanitizer.augment (some text) a = text := by
  simp [augment, developer_of_refused refused]

theorem preferred_of_allowed {p q : Option String}
    (equal : sanitizer.allows a = true → p = q) :
    p = q ∨ (true = true ∧ sanitizer.allows a = false) := by
  cases allowed : sanitizer.allows a with
  | true => exact .inl (equal allowed)
  | false => exact .inr ⟨rfl, rfl⟩

namespace Indistinct

variable (same : sanitizer.Indistinct a b)

include same

theorem augment (allowed : sanitizer.allows a = true) (preferred : Option String) :
    sanitizer.augment preferred a = sanitizer.augment preferred b := by
  unfold Sanitizer.augment messageOf
  rw [(same.text allowed).display, same.shape.kindName]

theorem detail {p q : Option String} {sensitive : Bool}
    (preferred : p = q ∨ (sensitive = true ∧ sanitizer.allows a = false)) :
    sanitizer.detail a p sensitive = sanitizer.detail b q sensitive := by
  cases allowed : sanitizer.allows a with
  | true =>
    have equal : p = q := by
      rcases preferred with equal | ⟨-, refused⟩
      · exact equal
      · rw [allowed] at refused; cases refused
    have other : sanitizer.allows b = true := same.verdict ▸ allowed
    subst equal
    unfold Sanitizer.detail
    simp only [allowed, other, same.augment allowed]
  | false =>
    have other : sanitizer.allows b = false := same.verdict ▸ allowed
    rcases preferred with rfl | ⟨rfl, -⟩
    · unfold Sanitizer.detail
      cases Text.nonBlank p <;>
        simp [allowed, other, augment_of_refused allowed, augment_of_refused other]
    · -- whatever the two texts are, the redacted detail stands for them
      unfold Sanitizer.detail
      cases Text.nonBlank p <;> cases Text.nonBlank q <;> simp [allowed, other]

theorem assess {p q : Option String} {sensitive : Bool}
    (preferred : p = q ∨ (sensitive = true ∧ sanitizer.allows a = false)) :
    sanitizer.assess a p sensitive = sanitizer.assess b q sensitive := by
  unfold Sanitizer.assess
  rw [same.detail preferred, same.verdict]

/-- What follows on a decision may use it as one that is redacted just if the fault is refused. -/
theorem sanitize_bind {β : Type} (ctx : RequestContext) {p q : Option String} {sensitive : Bool}
    (preferred : p = q ∨ (sensitive = true ∧ sanitizer.allows a = false))
    {next other : Sanitization → Recorded β}
    (agree : ∀ decision, decision.isRedacted = !sanitizer.allows a →
      next decision = other decision) :
    (sanitizer.sanitize ctx a p sensitive >>= next) =
      (sanitizer.sanitize ctx b q sensitive >>= other) := by
  have decision := agree (sanitizer.assess a p sensitive) rfl
  unfold sanitize
  rw [← same.assess preferred, ← same.shape.kindName]
  dsimp only
  split <;> simp only [bind_assoc, pure_bind, decision]

end Indistinct
end Sanitizer

namespace Mapper
open Sanitizer

variable {sanitizer : Sanitizer} {a b : Fault} (same : sanitizer.Indistinct a b)
  (ctx : RequestContext)

include same

theorem unexpectedProblem_eq :
    unexpectedProblem sanitizer ctx a = unexpectedProblem sanitizer ctx b := by
  have display (allowed : sanitizer.allows a = true) : some a.display = some b.display :=
    congrArg some (same.text allowed).display
  exact same.sanitize_bind ctx (preferred_of_allowed display) fun _ _ => rfl

theorem mapUnexpected_eq (name : String) :
    mapUnexpected sanitizer name ctx a = mapUnexpected sanitizer name ctx b := by
  unfold mapUnexpected
  rw [unexpectedProblem_eq same, same.shape.kindName]

theorem mapStructured_eq {x y : AppError} (shape : x.SameShape y)
    (detail : sanitizer.allows a = true → x.detail = y.detail) (defaultStatus : Status)
    {first second : ProblemBuilder → Sanitization → ProblemBuilder}
    (agree : ∀ builder decision, decision.isRedacted = !sanitizer.allows a →
      first builder decision = second builder decision) :
    mapStructured sanitizer ctx a x defaultStatus first =
      mapStructured sanitizer ctx b y defaultStatus second := by
  unfold mapStructured
  rw [shape.preferredStatus, shape.code, shape.isTransient]
  refine same.sanitize_bind ctx (preferred_of_allowed detail) fun decision redacted => ?_
  simp only [agree _ decision redacted]

end Mapper

namespace BuiltInMapper
open Sanitizer

variable {sanitizer : Sanitizer} {a b : Fault} (same : sanitizer.Indistinct a b)

include same

theorem canHandle_eq (mapper : BuiltInMapper) : mapper.canHandle a = mapper.canHandle b := by
  have isSome (type : AppErrorType) : (a.ofType? type).isSome = (b.ofType? type).isSome := by
    rcases same.shape.ofType? type with ⟨first, second⟩ | ⟨x, y, -, -, -, first, second⟩
    · rw [first, second]
    · rw [first, second]
      rfl
  cases mapper with
  | validation => exact isSome .validation
  | structured type => exact isSome type
  | database | remoteHttp | remoteTimeout | appFallback | unexpected => cases same.shape <;> rfl

theorem extendWithErrors_eq {x y : AppError} (isFirst : a = .app x) (isSecond : b = .app y)
    (builder : ProblemBuilder) (decision : Sanitization)
    (redacted : decision.isRedacted = !sanitizer.allows a) :
    extendWithErrors x.fieldErrors builder decision =
      extendWithErrors y.fieldErrors builder decision := by
  cases allowed : sanitizer.allows a with
  | true =>
    have errors := (same.text allowed).fieldErrors
    subst isFirst isSecond
    exact congrArg (extendWithErrors · builder decision) errors
  | false =>
    rw [allowed] at redacted
    simp [extendWithErrors, redacted]

theorem mapDatabase_eq (classifier : Classifier) (ctx : RequestContext) (number : Int) :
    mapDatabase sanitizer classifier ctx a number =
      mapDatabase sanitizer classifier ctx b number := by
  unfold mapDatabase
  refine congrArg (classifier number >>= ·) (funext fun classification => ?_)
  exact same.sanitize_bind ctx (.inl rfl) fun _ _ => rfl

theorem mapRemote_eq (ctx : RequestContext) (answer : Option Status) :
    mapRemote sanitizer ctx a answer = mapRemote sanitizer ctx b answer := by
  unfold mapRemote
  exact same.sanitize_bind ctx (.inl rfl) fun _ _ => rfl

theorem mapTimeout_eq (ctx : RequestContext) :
    mapTimeout sanitizer ctx a = mapTimeout sanitizer ctx b := by
  unfold mapTimeout
  exact same.sanitize_bind ctx (.inl rfl) fun _ _ => rfl

theorem map_eq (mapper : BuiltInMapper) (ctx : RequestContext) :
    mapper.map sanitizer ctx a = mapper.map sanitizer ctx b := by
  have detail {x y : AppError} (isFirst : a = .app x) (isSecond : b = .app y)
      (allowed : sanitizer.allows a = true) : x.detail = y.detail := by
    have equal := (same.text allowed).detail
    subst isFirst isSecond
    exact equal
  have unhandled (name : String) := Mapper.mapUnexpected_eq same ctx name
  cases mapper with
  | validation =>
    rw [map_validation, map_validation]
    rcases same.shape.ofType? .validation with ⟨first, second⟩ |
      ⟨x, y, isFirst, isSecond, shape, first, second⟩
    · rw [first, second]
      exact unhandled _
    · rw [first, second]
      exact Mapper.mapStructured_eq same ctx shape (detail isFirst isSecond) _
        (extendWithErrors_eq same isFirst isSecond)
  | structured type =>
    rw [map_structured, map_structured]
    rcases same.shape.ofType? type with ⟨first, second⟩ |
      ⟨x, y, isFirst, isSecond, shape, first, second⟩
    · rw [first, second]
      exact unhandled _
    · rw [first, second]
      exact Mapper.mapStructured_eq same ctx shape (detail isFirst isSecond) _ fun _ _ _ => rfl
  | database classifier =>
    cases same.shape with
    | database number => exact mapDatabase_eq same classifier ctx number
    | app | remote | timeout | unrecognized => exact unhandled "database"
  | remoteHttp =>
    cases same.shape with
    | remote status => exact mapRemote_eq same ctx status
    | app | database | timeout | unrecognized => exact unhandled "upstream_http"
  | remoteTimeout =>
    cases same.shape with
    | timeout => exact mapTimeout_eq same ctx
    | app | database | remote | unrecognized => exact unhandled "upstream_timeout"
  | appFallback =>
    cases same.shape with
    | app shape =>
      rw [map_appFallback, map_appFallback]
      exact Mapper.mapStructured_eq same ctx shape (detail rfl rfl) _ fun _ _ _ => rfl
    | database | remote | timeout | unrecognized => exact unhandled "app_fallback"
  | unexpected => exact Mapper.unexpectedProblem_eq same ctx

end BuiltInMapper
end Faultline
