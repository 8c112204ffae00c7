import Shopwalk.Fault
import Shopwalk.Keyed
import Shopwalk.Value

/-!
What is inside a value: its items, its entries, its length.
-/

namespace Shopwalk.Value

/-- The values that iteration over a value yields. -/
def items : Value → Except Fault (List Value)
  | list xs | tuple xs => .ok xs
  | str s => .ok (s.toList.map fun c => str (String.singleton c))
  | dict es => .ok (es.map fun e => str e.1)
  | v => .error (.notIterable v.kindName)

/-- The entry of a value under a name. -/
def field (name : String) : Value → Except Fault Value
  | dict es =>
    match Keyed.find? es name with
    | some v => .ok v
    | Option.none => .error (.missingKey name)
  | str _ => .error (.textIndex "str")
  | list _ => .error (.listIndex "list" "str")
  | tuple _ => .error (.listIndex "tuple" "str")
  | v => .error (.notSubscriptable v.kindName)

/-- How many items a value holds. -/
def length : Value → Except Fault Nat
  | str s => .ok s.length
  | list xs | tuple xs => .ok xs.length
  | dict es => .ok es.length
  | v => .error (.noLength v.kindName)

/-- The item at a position of a sequence. -/
def pick {α : Type} (kind : Fault.Sequence) (xs : List α) (i : Nat) : Except Fault α :=
  match xs[i]? with
  | some x => .ok x
  | Option.none => .error (.outOfRange kind)

/-- The item of a value at a position. -/
def itemAt (i : Nat) : Value → Except Fault Value
  | list xs => pick .list xs i
  | tuple xs => pick .tuple xs i
  | str s => (fun c => str (String.singleton c)) <$> pick .text s.toList i
  | dict _ => .error (.missingIndex i)
  | v => .error (.notSubscriptable v.kindName)

end Shopwalk.Value
