import Shopwalk.Fault
import Shopwalk.Text.Lowercase
import Shopwalk.World

/-!
The pages of the shop by name; case is ignored.
-/

namespace Shopwalk

inductive PageName where
  | home
  | product
  | cart
  | payment
  deriving DecidableEq, Repr

namespace PageName

def all : List (String × PageName) :=
  [("home", home), ("product", product), ("cart", cart), ("payment", payment)]

def ofText (s : String) : Except Fault PageName :=
  match Keyed.find? all (Text.lower s) with
  | some p => .ok p
  | none => .error (.unknownPage s)

/-- As `ofText`, of any value. -/
def ofValue : Value → Except Fault PageName
  | .str s => ofText s
  | v => .error (.noMember v.kindName "lower")

end PageName

end Shopwalk
