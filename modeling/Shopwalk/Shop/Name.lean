import Shopwalk.Fault
import Shopwalk.Text
import Shopwalk.Text.Lowercase
import Shopwalk.Value

/-!
Product names, brought to a form in which names from different pages can be compared.
-/

namespace Shopwalk.Shop

/-- Hyphens as spaces. -/
def unhyphened (cs : List Char) : List Char := cs.map fun c => if c = '-' then ' ' else c

/-- Each pair of spaces, from the left, as one space. -/
def halved : List Char → List Char
  | ' ' :: ' ' :: cs => ' ' :: halved cs
  | c :: cs => c :: halved cs
  | [] => []

/-- Lowercase, hyphens as spaces, pairs of spaces as one, no blanks at the ends. -/
def normalized (cs : List Char) : List Char :=
  Text.trimmed (halved (unhyphened (Text.lowered cs)))

/-- The normalised form of a string; see `normalized`. -/
def normalizedName (s : String) : String := String.ofList (normalized s.toList)

/-- Only texts can be names. -/
def normalizedNameOf : Value → Except Fault String
  | .str s => .ok (normalizedName s)
  | v => .error (.noMember v.kindName "lower")

end Shopwalk.Shop
