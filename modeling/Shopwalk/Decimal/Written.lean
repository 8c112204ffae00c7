import Shopwalk.Decimal.Shortest

/-!
How decimals are written: positionally while the point stands near the digits, with an exponent
otherwise.
-/

namespace Shopwalk.Decimal

/-- The choices a written decimal leaves open. -/
structure Format where
  /-- A positional decimal has its point right of this place, counted from the first digit. -/
  leastPoint : Int
  /-- A positional decimal has its point at this place or left of it. -/
  mostPoint : Int
  /-- Least number of digits of an exponent. -/
  exponentWidth : Nat

/-- Numbers from 0.0001 up to 10¹⁶ are positional and always show a fraction; exponents have a sign
and at least two digits. -/
def amount : Format := ⟨-4, 16, 2⟩

def digitText (ds : List Nat) : String := String.ofList (ds.map fun d => Char.ofNat (48 + d))

def zerosText (n : Nat) : String := String.ofList (List.replicate n '0')

def positional (d : Digits) : String :=
  if d.point ≤ 0 then
    "0." ++ zerosText (Int.toNat (-d.point)) ++ digitText d.digits
  else
    let k := d.point.toNat
    let whole := d.digits.take k
    let fraction := d.digits.drop k
    digitText whole ++ zerosText (k - whole.length) ++ "." ++
      (if fraction.isEmpty then "0" else digitText fraction)

def Format.scientific (f : Format) (d : Digits) : String :=
  let e := d.point - 1
  let ds := Nat.repr e.natAbs
  let head := digitText (d.digits.take 1)
  let tail := d.digits.drop 1
  head ++ (if tail.isEmpty then "" else "." ++ digitText tail) ++
    "e" ++ (if e < 0 then "-" else "+") ++ zerosText (f.exponentWidth - ds.length) ++ ds

def Format.write (f : Format) (d : Digits) : String :=
  if f.leastPoint < d.point ∧ d.point ≤ f.mostPoint then positional d else f.scientific d

def Format.writeMagnitude (f : Format) : Magnitude → String
  | .zero => "0.0"
  | .infinite => "inf"
  | .notANumber => "nan"
  | .finite b => f.write b.shortest

/-- The text of a floating-point number. -/
def text (x : Float) : String :=
  let bits := x.toBits.toNat
  match magnitudeOfBits bits with
  | .notANumber => "nan"
  | m => (if signOfBits bits then "-" else "") ++ amount.writeMagnitude m

end Shopwalk.Decimal
