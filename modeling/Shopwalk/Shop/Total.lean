import Shopwalk.Value.Access

/-!
Totals of priced items of any shape. Prices are added from the left, starting with the whole number
zero; a sum of whole numbers is exact, and becomes a floating-point number with the first one that
is added to it.
-/

namespace Shopwalk

namespace Value

/-- The smallest whole number that is too big to be rounded to a floating-point number. -/
def floatLimit : Nat := Nat.pow 2 1024 - Nat.pow 2 970

def toFloat (n : Int) : Except Fault Float :=
  if n.natAbs < floatLimit then .ok (Float.ofInt n) else .error .numberTooBig

/-- The sum of two numbers; truth values count as zero and one. -/
def add (a b : Value) : Except Fault Value :=
  match a, b with
  | float x, float y => .ok (float (x + y))
  | float x, v =>
    match v.int? with
    | some n => do return float (x + (← toFloat n))
    | Option.none => .error (.notAddable "float" v.kindName)
  | v, float y =>
    match v.int? with
    | some n => do return float ((← toFloat n) + y)
    | Option.none => .error (.notAddable v.kindName "float")
  | v, w =>
    match v.int?, w.int? with
    | some m, some n => .ok (int (m + n))
    | _, _ => .error (.notAddable v.kindName w.kindName)

end Value

namespace Shop

/-- Adds the prices of items to a sum, in order. -/
def addPrices : Value → List Value → Except Fault Value
  | sum, [] => .ok sum
  | sum, item :: rest => do
    let price ← item.field "price"
    addPrices (← sum.add price) rest

/-- The total of priced items. -/
def totalOf (v : Value) : Except Fault Value := do addPrices (.int 0) (← v.items)

end Shop

end Shopwalk
