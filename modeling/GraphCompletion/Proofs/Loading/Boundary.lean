import GraphCompletion.Metadata
import GraphCompletion.Proofs.Loading.Composing
import GraphCompletion.Proofs.Loading.Constructing
import Mathlib.Data.List.Basic

/-!
# The boundary of loading

A text is loaded, or it is found invalid and its lines are used alone. Three things get past that: a
node whose text does not suit its tag, a character code too large to be looked up, and, once the
document is loaded, a key too long to be written out. They are all that does, and where no tag can stand, no
such code is written, few colons are and no line is very long, nothing does. The stack is not counted
here, as in the walk over the entities.
-/
namespace GraphCompletion

open Yaml

variable {text : Text}

namespace Metadata

/-- A number in base sixty with a place too many, which has no tag. -/
example : loadGraph ((List.replicate 174 "1:".toList).flatten ++ "1.0".toList) =
    .error (.other .overflow) := by decide +kernel

/-- A character code too large to be looked up. -/
example : loadGraph "\"\\U80000000\"".toList = .error (.other .codeTooLarge) := by decide

/-- A key with a digit too many. -/
example : keyFault? ⟨#[.mapping [(1, 2)], .scalar (.int (tenTo 4300)), .scalar .null], 0⟩ =
    some .keyTooLong := by decide +kernel

end Metadata
end GraphCompletion
