import Faultline.Proofs.Journal
import Faultline.Proofs.Mapper.Document

/-!
The status of a mapper's answer, which is given beside the document and in it. Main statement: the
built-in mappers give the same one twice. So does a mapper that extends the documents of application
errors, unless what it adds is another status.
-/

namespace Faultline
open Recorded

namespace ProblemBuilder

variable (builder : ProblemBuilder)

theorem status_withExtension (key : String) (value : Json) :
    (builder.withExtension key value).problem.status = builder.problem.status := by
  rw [withExtension_eq]

theorem status_build :
    builder.build.Ensures fun problem => problem.status = builder.problem.status := by
  intro supply
  rw [run_build_eq]

end ProblemBuilder

def Mapped.IsCoherent (mapped : Mapped) : Prop := mapped.problem.status = mapped.status

theorem Mapped.isCoherent_build {builder : ProblemBuilder} {status : Status}
    (decision : Sanitization) (same : builder.problem.status = status) :
    (do return (⟨status, ← builder.build, decision⟩ : Mapped)).Ensures Mapped.IsCoherent :=
  ensures_bind _ builder.status_build fun _ built => ensures_pure (built.trans same)

namespace Mapper

variable (sanitizer : Sanitizer) (ctx : RequestContext) (fault : Fault)

theorem status_start (code : ErrorCode) (status : Status) (detail : String) :
    (start ctx code status detail).Ensures fun builder => builder.problem.status = status :=
  fun _ => rfl

def KeepsStatus (extend : ProblemBuilder → Sanitization → ProblemBuilder) : Prop :=
  ∀ builder decision, (extend builder decision).problem.status = builder.problem.status

theorem isCoherent_mapStructured (error : AppError) (defaultStatus : Status)
    {extend : ProblemBuilder → Sanitization → ProblemBuilder} (keeps : KeepsStatus extend) :
    (mapStructured sanitizer ctx fault error defaultStatus extend).Ensures
      Mapped.IsCoherent := by
  unfold mapStructured
  refine ensures_then fun decision => ?_
  refine ensures_bind _ (status_start ctx _ _ _) fun builder started => ?_
  refine Mapped.isCoherent_build decision ((keeps _ decision).trans ?_)
  split
  next => exact (builder.status_withExtension _ _).trans started
  next => exact started

end Mapper

theorem BuiltInMapper.isCoherent_map (sanitizer : Sanitizer) (ctx : RequestContext)
    (mapper : BuiltInMapper) (fault : Fault) :
    (mapper.map sanitizer ctx fault).Ensures Mapped.IsCoherent := by
  intro supply
  obtain ⟨row, -, earlier, -, value⟩ := mapper.exists_answers sanitizer ctx fault supply
  rw [value]
  rfl

end Faultline
