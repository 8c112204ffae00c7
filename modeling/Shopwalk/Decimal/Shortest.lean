/-!
The shortest decimal that reads back as a given binary floating-point number.

A finite positive number is `m * 2 ^ q`. The reals that round to it form an interval around it,
whose ends belong to it when `m` is even. For one digit, two digits and so on, the two decimals next
to the number are tried; the first length with a decimal inside the interval wins, the nearer of
two, the even one of two equally near.
-/

namespace Shopwalk.Decimal

/-- A finite binary number `mantissa * 2 ^ exponent`; `narrow` says that the gap below it is half
the gap above it. -/
structure Binary where
  mantissa : Nat
  exponent : Int
  narrow : Bool
  deriving DecidableEq, Repr

/-- A decimal `0.d₁d₂… * 10 ^ point`, its digits first to last. -/
structure Digits where
  digits : List Nat
  point : Int
  deriving DecidableEq, Repr

/-- What the bits of a double stand for, its sign apart. -/
inductive Magnitude where
  | zero
  | infinite
  | notANumber
  | finite (b : Binary)
  deriving DecidableEq, Repr

def magnitudeOfBits (bits : Nat) : Magnitude :=
  let fraction : Nat := bits % Nat.pow 2 52
  let biased : Nat := bits / Nat.pow 2 52 % Nat.pow 2 11
  if biased = 2047 then
    if fraction = 0 then .infinite else .notANumber
  else if biased = 0 then
    if fraction = 0 then .zero else .finite ⟨fraction, -1074, false⟩
  else
    .finite ⟨Nat.pow 2 52 + fraction, (biased : Int) - 1075, fraction = 0 && biased ≠ 1⟩

def signOfBits (bits : Nat) : Bool := bits / Nat.pow 2 63 % 2 = 1

/-- A number over a common denominator, with the distances to the ends of its interval. -/
structure Interval where
  num : Nat
  den : Nat
  below : Nat
  above : Nat
  closed : Bool

def Binary.interval (b : Binary) : Interval :=
  let up := Nat.pow 2 (Int.toNat (b.exponent - 2))
  { num := 4 * b.mantissa * up
    den := Nat.pow 2 (Int.toNat (2 - b.exponent))
    below := (if b.narrow then 1 else 2) * up
    above := 2 * up
    closed := b.mantissa % 2 = 0 }

/-- The same number in units of `10 ^ s`. -/
def Interval.inUnits (v : Interval) (s : Int) : Interval :=
  let k := Nat.pow 10 (Int.toNat (-s))
  { v with num := v.num * k, below := v.below * k, above := v.above * k,
           den := v.den * Nat.pow 10 (Int.toNat s) }

def Interval.has (v : Interval) (n : Nat) : Bool :=
  if v.closed then v.num ≤ n * v.den + v.below && n * v.den ≤ v.num + v.above
  else v.num < n * v.den + v.below && n * v.den < v.num + v.above

/-- The whole number inside the interval that is nearest to the number, if there is one. -/
def Interval.nearest? (v : Interval) : Option Nat :=
  let lo := v.num / v.den
  let rest := v.num % v.den
  match v.has lo, v.has (lo + 1) with
  | false, false => none
  | true, false => some lo
  | false, true => some (lo + 1)
  | true, true =>
    if 2 * rest < v.den then some lo
    else if v.den < 2 * rest then some (lo + 1)
    else if lo % 2 = 0 then some lo else some (lo + 1)

/-- The exponent `e` with `10 ^ e ≤ num / den < 10 ^ (e + 1)`. -/
def Interval.magnitude (v : Interval) : Int :=
  let t : Int := (Nat.toDigits 10 v.num).length - (Nat.toDigits 10 v.den).length
  let w := v.inUnits t
  if w.den ≤ w.num then t else t - 1

def digitsOf (n : Nat) : List Nat := (Nat.toDigits 10 n).map fun c => c.toNat - 48

def dropTrailingZeros (ds : List Nat) : List Nat := (ds.reverse.dropWhile (· == 0)).reverse

/-- Tries lengths from `len` on; seventeen digits always suffice. -/
def Interval.shortestFrom (v : Interval) (e : Int) (len : Nat) : Nat → Digits
  | 0 => ⟨[], 0⟩
  | tries + 1 =>
    let s := e - len + 1
    match (v.inUnits s).nearest? with
    | some n =>
      let ds := digitsOf n
      ⟨dropTrailingZeros ds, s + ds.length⟩
    | none => v.shortestFrom e (len + 1) tries

def Binary.shortest (b : Binary) : Digits :=
  let v := b.interval
  v.shortestFrom v.magnitude 1 18

end Shopwalk.Decimal
