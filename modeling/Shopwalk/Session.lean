import Shopwalk.Keyed
import Shopwalk.Value

/-!
What scenarios tell the ones after them.
-/

namespace Shopwalk

structure Session where
  temperature : Value := .none
  productType : Value := .none
  addedItems : Value := .list []
  totalPrice : Option Value := none
  /-- Anything else that has been put in, by name. -/
  extra : List (String × Value) := []

namespace Session

/-- Puts a value in by name. -/
def put (s : Session) (name : String) (v : Value) : Session :=
  if name = "temperature" then { s with temperature := v }
  else if name = "product_type" then { s with productType := v }
  else if name = "added_items" then { s with addedItems := v }
  else if name = "total_price" then { s with totalPrice := some v }
  else { s with extra := Keyed.insert s.extra name v }

/-- All values by name; the browser's own entries are not shown. -/
def entries (s : Session) : List (String × Value) :=
  [("temperature", s.temperature), ("product_type", s.productType),
    ("added_items", s.addedItems)] ++
  (match s.totalPrice with
    | none => []
    | some v => [("total_price", v)]) ++
  s.extra.filter fun e => e.1 ≠ "page" && e.1 ≠ "pages"

/-- The total price, or the missing value. -/
def total (s : Session) : Value := s.totalPrice.getD .none

end Session

end Shopwalk
