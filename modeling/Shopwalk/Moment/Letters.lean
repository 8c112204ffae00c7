import Shopwalk.Moment

/-!
Moments in formats of letters: runs of a letter stand for parts of the moment, and between square
brackets such a run stands for itself.
-/

namespace Shopwalk.Moment

open Clock

/-- What a run of `n` letters stands for. The moment is one of universal time. -/
def part? (m : Moment) (letter : Char) (n : Nat) : Option String :=
  let c := m.clock
  match letter, n with
  | 'Y', 4 => some (digits 4 c.year)
  | 'Y', 2 => some (digits 2 (c.year % 100))
  | 'Q', 1 => some (digits 1 ((c.month - 1) / 3 + 1))
  | 'M', 4 => some c.monthName
  | 'M', 3 => some (short c.monthName)
  | 'M', 2 => some (digits 2 c.month)
  | 'M', 1 => some (digits 1 c.month)
  | 'D', 4 => some (digits 3 c.dayOfYear)
  | 'D', 3 => some (digits 1 c.dayOfYear)
  | 'D', 2 => some (digits 2 c.day)
  | 'D', 1 => some (digits 1 c.day)
  | 'd', 4 => some c.dayName
  | 'd', 3 => some (short c.dayName)
  | 'd', 1 => some (digits 1 c.weekday)
  | 'E', 1 => some (digits 1 (c.weekday + 1))
  | 'H', 2 => some (digits 2 c.hour)
  | 'H', 1 => some (digits 1 c.hour)
  | 'h', 2 => some (digits 2 c.hourOfHalf)
  | 'h', 1 => some (digits 1 c.hourOfHalf)
  | 'm', 2 => some (digits 2 c.minute)
  | 'm', 1 => some (digits 1 c.minute)
  | 's', 2 => some (digits 2 c.second)
  | 's', 1 => some (digits 1 c.second)
  | 'S', n + 1 => some (digits (n + 1) (m.micro / Nat.pow 10 (5 - n)))
  | 'A', 1 => some c.half
  | 'Z', 2 => some "+0000"
  | 'Z', 1 => some "+00:00"
  | 'z', 2 => some "UTC"
  | 'X', 1 => some (toString c.seconds)
  | 'x', 1 => some (toString (c.seconds * 1000000 + 2 * m.micro))
  | _, _ => none

/-- The longest run at the start of `n` equal letters that stands for something: how long it is, and
what it stands for. -/
def longestPart? (m : Moment) (letter : Char) : Nat → Option (Nat × String)
  | 0 => none
  | n + 1 =>
    match m.part? letter (n + 1) with
    | some s => some (n + 1, s)
    | none => m.longestPart? letter n

/-- Whether what stands between brackets stands for itself. -/
def isBracketed (m : Moment) (cs : List Char) : Bool :=
  match cs with
  | [] => false
  | letter :: rest =>
    cs = "!UTC".toList || (rest.all (· == letter) && (m.part? letter cs.length).isSome)

/-- Writes a format of letters piece by piece. -/
def letters (m : Moment) : Nat → List Char → List Char
  | 0, _ => []
  | _, [] => []
  | fuel + 1, letter :: cs =>
    let inside := cs.takeWhile (· != ']')
    if letter = '[' && inside.length < cs.length && m.isBracketed inside then
      inside ++ m.letters fuel (cs.drop (inside.length + 1))
    else
      match m.longestPart? letter ((cs.takeWhile (· == letter)).length + 1) with
      | some (n, s) => s.toList ++ m.letters fuel (cs.drop (n - 1))
      | none => letter :: m.letters fuel cs

/-- A moment in a format of letters. -/
def inLetters (m : Moment) (format : List Char) : List Char := m.letters format.length format

end Shopwalk.Moment
