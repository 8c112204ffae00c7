import Shopwalk.Template.Flaw
import Shopwalk.Text.Digit

/-!
Layouts: how a text or a whole number is to be set in a field.

A layout is a text such as `*>+#12,.3f`: a filling and the side to which the value goes, a sign for
numbers that have none, whether zero loses its sign, whether the kind of numeral is told, zeros in
front, a width, a separator of digits, a precision, and a letter for the kind of numeral. Each of
them may be missing.
-/

namespace Shopwalk.Template

/-- The greatest number of a template. -/
def numberLimit : Nat := 9223372036854775807

/-- The number at the start of a text, with `n` before it, and the rest. A number that is too great
is refused as soon as it gets there. -/
def numeral (n : Nat) : List Char → Except Flaw (Nat × List Char)
  | [] => .ok (n, [])
  | c :: cs =>
    match Text.digit? c with
    | none => .ok (n, c :: cs)
    | some d => if numberLimit < 10 * n + d then .error .numberTooLong else numeral (10 * n + d) cs

structure Layout where
  fill : Char
  /-- To the left `<`, to the right `>`, to the middle `^`, or with the filling inside `=`. -/
  side : Char
  sign : Option Char
  isZeroPlain : Bool
  isAlternate : Bool
  width : Nat
  separator : Option Char
  precision : Option Nat
  letter : Char
  deriving DecidableEq, Repr

namespace Layout

def isSide (c : Char) : Bool := c == '<' || c == '>' || c == '=' || c == '^'

/-- The filling and the side at the start of a layout, and the rest. -/
def readSide : List Char → Option Char × Option Char × List Char
  | fill :: side :: cs =>
    if isSide side then (some fill, some side, cs)
    else if isSide fill then (none, some fill, side :: cs)
    else (none, none, fill :: side :: cs)
  | [side] => if isSide side then (none, some side, []) else (none, none, [side])
  | [] => (none, none, [])

/-- Whether a character stands at the start, and what is behind it. -/
def readMark (c : Char) : List Char → Bool × List Char
  | [] => (false, [])
  | d :: cs => if d = c then (true, cs) else (false, d :: cs)

def readSign : List Char → Option Char × List Char
  | [] => (none, [])
  | c :: cs => if c = '+' || c = '-' || c = ' ' then (some c, cs) else (none, c :: cs)

/-- The separator at the start, and the rest. -/
def readSeparator (cs : List Char) : Except Flaw (Option Char × List Char) :=
  match cs with
  | ',' :: '_' :: _ | '_' :: ',' :: _ => .error .bothSeparators
  | ',' :: cs => .ok (some ',', cs)
  | '_' :: cs => .ok (some '_', cs)
  | cs => .ok (none, cs)

def readPrecision (cs : List Char) : Except Flaw (Option Nat × List Char) :=
  match cs with
  | '.' :: cs => do
    let (n, rest) ← numeral 0 cs
    if rest.length = cs.length then .error .noPrecision else .ok (some n, rest)
  | cs => .ok (none, cs)

/-- Whether digits can be separated in a kind of numeral. -/
def takesSeparator (separator letter : Char) : Bool :=
  "defgEG%F".toList.contains letter || (separator == '_' && "boxX".toList.contains letter)

/-- Reads a layout for a kind of value, with the side and the letter that it has by itself. -/
def read (kind : String) (side letter : Char) (layout : List Char) : Except Flaw Layout := do
  let (fill, chosen, cs) := readSide layout
  let (sign, cs) := readSign cs
  let (isZeroPlain, cs) := readMark 'z' cs
  let (isAlternate, cs) := readMark '#' cs
  let (hasZero, cs) := if fill.isNone then readMark '0' cs else (false, cs)
  let (width, cs) ← numeral 0 cs
  let (separator, cs) ← readSeparator cs
  let (precision, cs) ← readPrecision cs
  let letter ←
    match cs with
    | [] => pure letter
    | [c] => pure c
    | _ => throw (.badLayout (String.ofList layout) kind)
  if let some s := separator then
    if !takesSeparator s letter then throw (.separatorWith s letter)
  return {
    fill := fill.getD (if hasZero then '0' else ' ')
    side := chosen.getD (if hasZero && side == '>' then '=' else side)
    sign, isZeroPlain, isAlternate, width, separator, precision, letter }

/-- A value with the filling around it that a layout asks for: `front` is its sign and what tells
the kind of numeral, behind which filling can go. -/
def pad (l : Layout) (front value : List Char) : List Char :=
  let n := l.width - (front.length + value.length)
  let filling (n : Nat) : List Char := List.replicate n l.fill
  if l.side = '<' then front ++ value ++ filling n
  else if l.side = '^' then filling (n / 2) ++ front ++ value ++ filling (n - n / 2)
  else if l.side = '=' then front ++ filling n ++ value
  else filling n ++ front ++ value

/-- A text in a layout; a precision cuts it. -/
def text (layout : List Char) (value : List Char) : Except Flaw (List Char) := do
  if layout.isEmpty then return value
  let l ← read "str" '<' 's' layout
  if l.letter ≠ 's' then throw (.unknownLetter l.letter "str")
  if let some s := l.sign then throw (.notForText (if s = ' ' then .blankSign else .sign))
  if l.isZeroPlain then throw (.notForText .plainZero)
  if l.isAlternate then throw (.notForText .alternate)
  if l.side = '=' then throw (.notForText .inside)
  return l.pad [] (match l.precision with | none => value | some n => value.take n)

/-- Digits, last first, in groups of `size` with a separator between them, and with zeros in front
until they take `least` places. The result is in order. -/
def grouped (separator : Char) (size : Nat) : Nat → List Char → Int → List Char
  | 0, digits, _ => digits.reverse
  | fuel + 1, digits, least =>
    let n := min size (max (max digits.length least.toNat) 1)
    let group := List.replicate (n - digits.length) '0' ++ (digits.take n).reverse
    let rest := digits.drop n
    if rest.isEmpty && least ≤ n then group
    else grouped separator size fuel rest (least - n - 1) ++ separator :: group

/-- A numeral in a layout: its sign and what tells its kind, its digits, and what is behind them. -/
def numeralText (l : Layout) (size : Nat) (front digits behind : List Char) : List Char :=
  let zeros := l.fill == '0' && l.side == '='
  let least : Nat := if zeros then l.width - (front.length + behind.length) else 0
  let digits :=
    match l.separator with
    | some s => grouped s size (digits.length + least + 1) digits.reverse least
    | none => List.replicate (least - digits.length) '0' ++ digits
  l.pad front (digits ++ behind)

/-- The sign of a number in a layout. -/
def signOf (l : Layout) (n : Int) : List Char :=
  if n < 0 then ['-']
  else
    match l.sign with
    | some '+' => ['+']
    | some ' ' => [' ']
    | _ => []

/-- A numeral of whole numbers: the base and what tells it. -/
def base (letter : Char) : Nat × String :=
  match letter with
  | 'b' => (2, "0b")
  | 'o' => (8, "0o")
  | 'x' => (16, "0x")
  | 'X' => (16, "0X")
  | _ => (10, "")

/-- A whole number as such. -/
def plain (l : Layout) (n : Int) : List Char :=
  let (b, told) := base l.letter
  let digits := Nat.toDigits b n.natAbs
  let digits := if l.letter = 'X' then digits.map Char.toUpper else digits
  let front := l.signOf n ++ if l.isAlternate then told.toList else []
  l.numeralText (if b = 10 then 3 else 4) front digits []

/-- The character with a number. -/
def character (l : Layout) (n : Int) : Except Flaw (List Char) := do
  if l.sign.isSome then throw (.notForCharacter .sign)
  if l.isAlternate then throw (.notForCharacter .alternate)
  if n < 0 || 1114111 < n then throw .noCharacter
  return l.pad [] [Char.ofNat n.toNat]

/-- The first `count` digits of a number, with halves to the even side, and the power of ten of the
first of them. -/
def leading (n count : Nat) : Nat × Nat :=
  let size := (Nat.repr n).length
  if n = 0 then (0, 0)
  else if size ≤ count then (n * Nat.pow 10 (count - size), size - 1)
  else
    let unit := Nat.pow 10 (size - count)
    let (q, r) := (n / unit, n % unit)
    let q := if unit < 2 * r || (unit = 2 * r && q % 2 = 1) then q + 1 else q
    if q = Nat.pow 10 count then (q / 10, size) else (q, size - 1)

/-- Digits behind the point, with the point; it is missing when there are none and nobody asks. -/
def fraction (isAlternate : Bool) (digits : List Char) : List Char :=
  if digits.isEmpty && !isAlternate then [] else '.' :: digits

/-- Digits without the zeros at their end. -/
def withoutZeros (digits : List Char) : List Char :=
  (digits.reverse.dropWhile (· == '0')).reverse

/-- The power of ten behind a numeral, with two digits at least. -/
def power (n : Nat) : List Char :=
  let digits := Nat.toDigits 10 n
  "e+".toList ++ List.replicate (2 - digits.length) '0' ++ digits

/-- The digits of a number in a layout with a point: those before it, and all that is behind. -/
def pointed (l : Layout) (n : Nat) : List Char × List Char :=
  let places := l.precision.getD 6
  let kind := l.letter.toLower
  if kind = 'f' then
    (Nat.toDigits 10 n, fraction l.isAlternate (List.replicate places '0'))
  else if kind = '%' then
    (Nat.toDigits 10 (100 * n), fraction l.isAlternate (List.replicate places '0') ++ ['%'])
  else
    let count := if kind = 'e' then places + 1 else max places 1
    let (first, exponent) := leading n count
    let digits := Nat.toDigits 10 first
    let digits := List.replicate (count - digits.length) '0' ++ digits
    let trimmed (cs : List Char) : List Char :=
      if kind = 'e' || l.isAlternate then cs else withoutZeros cs
    if kind = 'g' && exponent < count then
      (digits.take (exponent + 1), fraction l.isAlternate (trimmed (digits.drop (exponent + 1))))
    else
      let behind := fraction l.isAlternate (trimmed (digits.drop 1)) ++ power exponent
      (digits.take 1, if l.letter = kind then behind else behind.map Char.toUpper)

/-- A whole number in a layout. -/
def number (layout : List Char) (n : Int) : Except Flaw (List Char) := do
  if layout.isEmpty then return (toString n).toList
  let l ← read "int" '>' 'd' layout
  if "bcdoxXn".toList.contains l.letter then
    if l.precision.isSome then throw (.notForWhole .precision)
    if l.isZeroPlain then throw (.notForWhole .plainZero)
    if l.letter = 'c' then l.character n else return l.plain n
  else if "eEfFgG%".toList.contains l.letter then
    if 2147483647 < l.precision.getD 0 then throw .hugePrecision
    let (digits, behind) := l.pointed n.natAbs
    return l.numeralText 3 (l.signOf n) digits behind
  else throw (.unknownLetter l.letter "int")

end Layout

end Shopwalk.Template
