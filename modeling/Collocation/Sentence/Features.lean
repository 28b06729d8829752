import Collocation.Dictionary
import Collocation.Text.Fields

/-!
# Morphological features

A feature has a key and a value, such as `Case` and `Nom`.  The features of a token form a dictionary,
so the order in which they are written makes no difference.
-/

namespace Collocation

/-- The values of the features of a token. -/
abbrev Features := Dictionary String

namespace Features

/-- The key and the value of a written feature; a piece without an equals sign is no feature. -/
def pairOf? (piece : List Char) : Option (String × String) :=
  (Text.cut? '=' piece).map fun sides => (String.ofList sides.1, String.ofList sides.2)

/-- The features of a text such as `Case=Nom|Number=Sing`; an underscore alone stands for none. -/
def ofText (text : String) : Features :=
  if text = "_" ∨ text = "" then .empty
  else .ofList ((Text.fields '|' text.toList).filterMap pairOf?)

end Features
end Collocation
