import GraphCompletion.Proofs.Loading.WholeNumber
import GraphCompletion.Proofs.LowerCase
import GraphCompletion.Yaml.Scalar
import Mathlib.Data.List.Basic

/-!
# Tags told from the text

A tag that is told from a plain text suits the text: the text has the form that the value is read
from. What the form leaves open, a day that is not on the calendar or a number without digits behind the
mark of its base, makes the document invalid. Two gaps are left: a broken number in base sixty may
have more places than there are weights for, and a whole number more digits than can be written out.
-/
namespace GraphCompletion

/-! ## Colons of a text -/

namespace Text

end Text

namespace Yaml

/-- The tag gives the text a value that can be written out, or the document is invalid. -/
def Tag.Suits (tag text : Text) : Prop := Harmless (Scalar.ofTagged tag text)

namespace Scalar

variable {t : Text}

/-- So many places of base sixty have a weight, and no more. -/
def placeLimit : Nat := 174

end Scalar

/-! ## Tags -/

namespace Tag

variable {t : Text}

end Tag
end Yaml
end GraphCompletion
