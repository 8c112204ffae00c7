import Shopwalk.Decimal.Shortest
import Shopwalk.Fault
import Shopwalk.Keyed
import Shopwalk.Value

/-!
Equality and order of values. Numbers are compared by what they are worth, whatever their kind;
sequences of one kind are compared item by item. When a whole number is compared with a binary
floating-point number nothing is rounded, so that two whole numbers that round to one float still
differ from it.
-/

namespace Shopwalk.Decimal

/-- How a whole number stands to the double with the given bits, if that is a number. -/
def compareBits (n : Int) (bits : Nat) : Option Ordering :=
  let negative := signOfBits bits
  match magnitudeOfBits bits with
  | .notANumber => none
  | .infinite => some (if negative then .gt else .lt)
  | .zero => some (compare n 0)
  | .finite b =>
    let m : Int := b.mantissa * Nat.pow 2 (Int.toNat b.exponent)
    some (compare (n * Nat.pow 2 (Int.toNat (-b.exponent))) (if negative then -m else m))

/-- Whether a whole number is equal to a float. -/
def isEqual (n : Int) (x : Float) : Bool := compareBits n x.toBits.toNat == some .eq

/-- Whether a whole number is less than a float. -/
def isBelow (n : Int) (x : Float) : Bool := compareBits n x.toBits.toNat == some .lt

/-- Whether a whole number is greater than a float. -/
def isAbove (n : Int) (x : Float) : Bool := compareBits n x.toBits.toNat == some .gt

end Shopwalk.Decimal

namespace Shopwalk.Value

mutual

/-- Whether two values are equal. -/
def same : Value → Value → Bool
  | list xs, list ys | tuple xs, tuple ys => sameAll xs ys
  | dict es, dict fs => es.length == fs.length && sameEntries es fs
  | str s, str t => s == t
  | none, none => true
  | float x, float y => x == y
  | float x, v | v, float x =>
    match v.int? with
    | some n => Decimal.isEqual n x
    | Option.none => false
  | v, w =>
    match v.int?, w.int? with
    | some m, some n => m == n
    | _, _ => false

/-- Whether two lists have equal items in the same order. -/
def sameAll : List Value → List Value → Bool
  | [], [] => true
  | v :: vs, w :: ws => v.same w && sameAll vs ws
  | _, _ => false

/-- Whether every entry stands in the other list, too. -/
def sameEntries : List (String × Value) → List (String × Value) → Bool
  | [], _ => true
  | (k, v) :: es, fs =>
    (match Keyed.find? fs k with
      | some w => v.same w
      | Option.none => false) && sameEntries es fs

end

mutual

/-- Whether a value is greater than another; not all can be compared. -/
def isGreater : Value → Value → Except Fault Bool
  | list xs, list ys | tuple xs, tuple ys => isGreaterList xs ys
  | str s, str t => .ok (t < s)
  | float x, float y => .ok (y < x)
  | float x, v =>
    match v.int? with
    | some n => .ok (Decimal.isBelow n x)
    | Option.none => .error (.notComparable ">" "float" v.kindName)
  | v, float y =>
    match v.int? with
    | some n => .ok (Decimal.isAbove n y)
    | Option.none => .error (.notComparable ">" v.kindName "float")
  | v, w =>
    match v.int?, w.int? with
    | some m, some n => .ok (n < m)
    | _, _ => .error (.notComparable ">" v.kindName w.kindName)

/-- The first items that differ decide, and then the lengths. -/
def isGreaterList : List Value → List Value → Except Fault Bool
  | [], _ => .ok false
  | _ :: _, [] => .ok true
  | v :: vs, w :: ws => if v.same w then isGreaterList vs ws else v.isGreater w

end

end Shopwalk.Value
