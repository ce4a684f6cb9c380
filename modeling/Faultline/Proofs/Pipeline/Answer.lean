import Faultline.Proofs.Mapper.Resolution
import Faultline.Proofs.Pipeline.Process
import Faultline.Proofs.Response.Formatting

/-!
What a fault becomes, told by the answer of the mapper in charge of it.
-/

namespace Faultline

theorem Registry.drawn_resolve (registry : Registry) (fault : Fault) (supply : Supply) :
    ((registry.resolve fault).run supply).drawn = 0 := by
  unfold resolve
  split <;> rfl

namespace Pipeline
open Formatting

variable (pipeline : Pipeline) (ctx : RequestContext) (fault : Fault) (supply : Supply)

def answer : Recorded Mapped := (pipeline.registry.mapperFor fault).map ctx fault

theorem value_settle :
    let answer := (pipeline.answer ctx fault).run supply
    let mapped := answer.value
    let errorId := errorIdOf (supply answer.drawn)
    ((pipeline.settle ctx fault).run supply).value =
      ⟨{ ctx with response := headFor ctx mapped.status errorId },
        (pipeline.registry.mapperFor fault).name,
        ⟨mapped.status, finish pipeline.limits ctx mapped.problem errorId,
          ⟨errorId, errorCodeOf mapped.problem⟩, mapped.sanitization⟩⟩ := by
  have resolved : ((pipeline.registry.resolve fault).run supply).value =
      pipeline.registry.mapperFor fault := Registry.value_resolve fault supply
  have drawn := pipeline.registry.drawn_resolve fault supply
  unfold settle answer
  simp only [Recorded.run_bind, Recorded.run_pure, value_format, resolved, drawn, Nat.zero_add,
    Nat.add_zero]

end Pipeline
end Faultline
