import Faultline.Proofs.Mapper.Degradation

/-!
The alarms that a mapper raises. Main statement: a built-in mapper raises one for each fault that it
cannot handle, and otherwise only those of the classifier that it consults.
-/

namespace Faultline
open Recorded

theorem Sanitizer.raises_sanitize (sanitizer : Sanitizer) (ctx : RequestContext) (fault : Fault)
    (preferred : Option String) (sensitive : Bool) :
    (sanitizer.sanitize ctx fault preferred sensitive).Raises [] := by
  unfold sanitize
  dsimp only
  split
  next => exact raises_then (raises_log _ _ _) fun _ => raises_pure _
  next => exact raises_pure _

def Classifier.IsSilent (classifier : Classifier) : Prop := ∀ number, (classifier number).Raises []

namespace Classification

/-- A number that is not known is only noted for debugging. -/
theorem isSilent_sqlServer : Classifier.IsSilent sqlServer := by
  intro number
  unfold sqlServer
  split
  next => exact raises_pure _
  next => exact raises_then (raises_log _ _ _) fun _ => raises_pure _

theorem isSilent_ofTable (rows : List (Int × Classification)) :
    Classifier.IsSilent (ofTable rows) := by
  intro number
  unfold ofTable
  split
  next => exact raises_pure _
  next => exact isSilent_sqlServer number

end Classification

namespace Mapper

def IsSilent (mapper : Mapper) : Prop := ∀ ctx fault, (mapper.map ctx fault).Raises []

def IsBuiltIn (mapper : Mapper) : Prop :=
  ∃ (origin : BuiltInMapper) (sanitizer : Sanitizer), mapper = origin.toMapper sanitizer

variable (sanitizer : Sanitizer) (ctx : RequestContext) (fault : Fault)

theorem raises_document (preferred : Option String) (sensitive : Bool) (code : ErrorCode)
    (status : Status) (extend : ProblemBuilder → Sanitization → ProblemBuilder) :
    Raises (do
      let decision ← sanitizer.sanitize ctx fault preferred sensitive
      let builder ← start ctx code status decision.detail
      let problem ← (extend builder decision).build
      return (⟨status, problem, decision⟩ : Mapped)) [] := by
  refine raises_then (sanitizer.raises_sanitize ctx fault preferred sensitive) fun decision => ?_
  have started : (start ctx code status decision.detail).Raises [] := fun _ => rfl
  refine raises_then started fun builder => ?_
  have built (builder : ProblemBuilder) : builder.build.Raises [] := by
    intro supply
    rw [ProblemBuilder.run_build_eq]
    rfl
  exact raises_then (built _) fun _ => raises_pure _

theorem raises_unexpectedProblem : (unexpectedProblem sanitizer ctx fault).Raises [] :=
  raises_document sanitizer ctx fault _ _ _ _
    fun builder _ => builder.withExtension "category" (.string "Unhandled")

theorem raises_mapUnexpected (name : String) :
    (mapUnexpected sanitizer name ctx fault).Raises [misplaced name fault] := by
  intro supply
  have none := raises_unexpectedProblem sanitizer ctx fault supply
  rw [run_mapUnexpected]
  exact congrArg (misplaced name fault :: ·) none

theorem raises_mapStructured (error : AppError) (defaultStatus : Status)
    (extend : ProblemBuilder → Sanitization → ProblemBuilder) :
    (mapStructured sanitizer ctx fault error defaultStatus extend).Raises [] :=
  raises_document sanitizer ctx fault _ _ _ _ fun builder decision =>
    extend (if error.isTransient then builder.withExtension "transient" (.bool true) else builder)
      decision

end Mapper

namespace BuiltInMapper

def consulted (mapper : BuiltInMapper) (fault : Fault) (supply : Supply) : List Event :=
  (mapper.consults fault).elim [] fun answer => (answer.run supply).alarms

/-- The classifier that the mapper has, if any, raises no alarm. -/
def ConsultsSilently : BuiltInMapper → Prop
  | database classifier => classifier.IsSilent
  | _ => True

theorem consulted_eq_nil {mapper : BuiltInMapper} (silent : mapper.ConsultsSilently)
    (fault : Fault) (supply : Supply) : mapper.consulted fault supply = [] := by
  cases mapper with
  | database classifier =>
    cases fault with
    | database number message => exact silent number supply
    | app | remote | timeout | unrecognized => rfl
  | _ => rfl

variable (sanitizer : Sanitizer) (ctx : RequestContext) (fault : Fault)

theorem alarms_mapDatabase (classifier : Classifier) (number : Int) (supply : Supply) :
    ((mapDatabase sanitizer classifier ctx fault number).run supply).alarms =
      ((classifier number).run supply).alarms := by
  have quiet (classification : Classification) : Raises _ [] :=
    Mapper.raises_document sanitizer ctx fault (some "A database error occurred.") false
      classification.code classification.status fun builder _ =>
        let numbered := builder.withExtension "sqlErrorNumber" (.integer number)
        if classification.transient then numbered.withExtension "transient" (.bool true)
        else numbered
  unfold mapDatabase
  rw [alarms_bind]
  exact (congrArg (_ ++ ·) (quiet _ _)).trans (List.append_nil _)

theorem raises_mapRemote (answer : Option Status) :
    (mapRemote sanitizer ctx fault answer).Raises [] :=
  Mapper.raises_document sanitizer ctx fault _ _ _ _ fun builder _ =>
    builder.withExtension "upstreamStatus" (.integer ((answer.map Status.code).getD 0 : Nat))

theorem raises_mapTimeout : (mapTimeout sanitizer ctx fault).Raises [] :=
  Mapper.raises_document sanitizer ctx fault _ _ _ _ fun builder _ => builder

variable {sanitizer ctx fault} {mapper : BuiltInMapper}

theorem alarms_of_canHandle (handled : mapper.canHandle fault = true) (supply : Supply) :
    ((mapper.map sanitizer ctx fault).run supply).alarms = mapper.consulted fault supply := by
  unfold consulted
  cases handling_of_canHandle sanitizer ctx handled with
  | error error defaultStatus extend known alone answer =>
    rw [answer, alone]
    exact Mapper.raises_mapStructured sanitizer ctx fault error defaultStatus extend supply
  | database classifier number consults answer =>
    rw [answer, consults]
    exact alarms_mapDatabase sanitizer ctx fault classifier number supply
  | remote status alone answer =>
    rw [answer, alone]
    exact raises_mapRemote sanitizer ctx fault status supply
  | timeout alone answer =>
    rw [answer, alone]
    exact raises_mapTimeout sanitizer ctx fault supply
  | unexpected alone answer =>
    rw [answer, alone]
    exact Mapper.raises_unexpectedProblem sanitizer ctx fault supply

theorem alarms_of_not_canHandle (refused : mapper.canHandle fault = false) (supply : Supply) :
    ((mapper.map sanitizer ctx fault).run supply).alarms =
      [Mapper.misplaced mapper.name fault] := by
  rw [map_of_not_canHandle sanitizer ctx refused]
  exact Mapper.raises_mapUnexpected sanitizer ctx fault mapper.name supply

end BuiltInMapper

/-- The mapper raises no alarm but that it is misplaced, which a built-in one may be. -/
def Mapper.IsQuiet (mapper : Mapper) : Prop :=
  mapper.IsSilent ∨ ∃ (origin : BuiltInMapper) (sanitizer : Sanitizer),
    mapper = origin.toMapper sanitizer ∧ origin.ConsultsSilently

theorem Mapper.IsQuiet.known {mapper : Mapper} (quiet : mapper.IsQuiet) :
    mapper.IsBuiltIn ∨ mapper.IsSilent := by
  rcases quiet with silent | ⟨origin, sanitizer, made, -⟩
  · exact .inr silent
  · exact .inl ⟨origin, sanitizer, made⟩

theorem Mapper.IsQuiet.alarms_of_canHandle {mapper : Mapper} (quiet : mapper.IsQuiet)
    {fault : Fault} (handled : mapper.canHandle fault = true) (ctx : RequestContext)
    (supply : Supply) : ((mapper.map ctx fault).run supply).alarms = [] := by
  rcases quiet with silent | ⟨origin, sanitizer, rfl, silent⟩
  · exact silent ctx fault supply
  · exact (BuiltInMapper.alarms_of_canHandle handled supply).trans
      (BuiltInMapper.consulted_eq_nil silent fault supply)

end Faultline
