import Shopwalk.Moment
import Shopwalk.Text.Caseless

/-!
Moments in formats with percent signs.

Behind a percent sign stand flags, a width, a modifier and a letter, of which only the letter is
needed. A letter stands for a number, which is filled up with zeros or spaces, or for a text. What
stands for nothing is left as it is, filled up to its width like any text.
-/

namespace Shopwalk.Moment

/-- What stands behind a percent sign. -/
structure Directive where
  /-- `0` fills up with zeros, an underscore with spaces, and a minus sign asks for no zeros. -/
  pad : Option Char
  isRaised : Bool
  isSwapped : Bool
  width : Nat
  modifier : Option Char
  /-- Missing at the end of a format. -/
  letter : Option Char
  /-- As it was written, with the percent sign. -/
  source : List Char
  deriving DecidableEq, Repr

namespace Directive

def isPad (c : Char) : Bool := c == '_' || c == '-' || c == '0'

def isFlag (c : Char) : Bool := isPad c || c == '^' || c == '#'

/-- The directive at the start of what follows a percent sign. No width is greater than `limit`. -/
def read (limit : Nat) (cs : List Char) : Directive :=
  let flags := cs.takeWhile isFlag
  let cs := cs.drop flags.length
  let width := cs.takeWhile Char.isDigit
  let cs := cs.drop width.length
  let modifier := (cs.take 1).filter fun c => c == 'E' || c == 'O'
  let letter := (cs.drop modifier.length).take 1
  { pad := (flags.filter isPad).getLast?
    isRaised := flags.contains '^'
    isSwapped := flags.contains '#'
    width := width.foldl (fun n c => min limit (10 * n + (c.toNat - 48))) 0
    modifier := modifier.head?
    letter := letter.head?
    source := '%' :: flags ++ width ++ modifier ++ letter }

/-- How a directive that stands for nothing is shown: from its last percent sign on. -/
def shown (d : Directive) : List Char := if d.letter = some '%' then ['%'] else d.source

/-- A text, filled up to the width. -/
def filled (d : Directive) (cs : List Char) : List Char :=
  List.replicate (d.width - cs.length) (if d.pad = some '0' then '0' else ' ') ++ cs

/-- A text in the letters that the directive asks for. -/
def text (d : Directive) (s : String) : List Char :=
  d.filled (if d.isRaised then s.toList.map Text.raised else s.toList)

/-- A name; a swap raises it. -/
def name (d : Directive) (s : String) : List Char :=
  { d with isRaised := d.isRaised || d.isSwapped }.text s

/-- A mark; a swap lowers it. -/
def mark (d : Directive) (s : String) : List Char :=
  if d.isSwapped then d.filled (s.toList.map Char.toLower) else d.text s

/-- A number with at least `least` digits. -/
def number (d : Directive) (least n : Nat) : List Char :=
  let ds := Nat.toDigits 10 n
  let missing := max least d.width - ds.length
  match d.pad with
  | some '-' => d.filled ds
  | some '_' => List.replicate missing ' ' ++ ds
  | _ => List.replicate missing '0' ++ ds

/-- A number that is filled up with spaces unless something else is asked for. -/
def spacedNumber (d : Directive) (least n : Nat) : List Char :=
  { d with pad := some (d.pad.getD '_') }.number least n

end Directive

open Clock

/-- Hours, minutes and seconds. -/
def timeOfDay (c : Clock) : String :=
  digits 2 c.hour ++ ":" ++ digits 2 c.minute ++ ":" ++ digits 2 c.second

/-- Month, day and year. -/
def shortDate (c : Clock) : String :=
  digits 2 c.month ++ "/" ++ digits 2 c.day ++ "/" ++ digits 2 (c.year % 100)

/-- The day in two places, the first of which may be blank. -/
def blankDay (c : Clock) : String := (if c.day < 10 then " " else "") ++ digits 1 c.day

def dateAndTime (c : Clock) : String :=
  short c.dayName ++ " " ++ short c.monthName ++ " " ++ blankDay c ++ " " ++ timeOfDay c ++ " " ++
    digits 1 c.year

/-- The day of the week, counted from Sunday. -/
def dayFromSunday (c : Clock) : Nat := (c.weekday + 1) % 7

/-- What a letter stands for when a modifier does not matter or is missing. -/
def plainCode? (c : Clock) (d : Directive) : Char → Option (List Char)
  | 'a' => some (d.name (short c.dayName))
  | 'A' => some (d.name c.dayName)
  | 'b' | 'h' => some (d.name (short c.monthName))
  | 'B' => some (d.name c.monthName)
  | 'c' => some (d.text (dateAndTime c))
  | 'C' => some (d.number 1 (c.year / 100))
  | 'd' => some (d.number 2 c.day)
  | 'D' | 'x' => some (d.text (shortDate c))
  | 'e' => some (d.spacedNumber 2 c.day)
  | 'F' => some (d.text c.date)
  | 'g' => some (d.number 2 (c.wholeWeek.1 % 100))
  | 'G' => some (d.number 1 c.wholeWeek.1)
  | 'H' => some (d.number 2 c.hour)
  | 'I' => some (d.number 2 c.hourOfHalf)
  | 'j' => some (d.number 3 c.dayOfYear)
  | 'k' => some (d.spacedNumber 2 c.hour)
  | 'l' => some (d.spacedNumber 2 c.hourOfHalf)
  | 'm' => some (d.number 2 c.month)
  | 'M' => some (d.number 2 c.minute)
  | 'n' => some (d.filled ['\n'])
  | 'p' => some (d.mark c.half)
  | 'P' => some ({ d with isSwapped := true }.mark c.half)
  | 'r' => some (d.text (digits 2 c.hourOfHalf ++ ":" ++ digits 2 c.minute ++ ":" ++
      digits 2 c.second ++ " " ++ c.half))
  | 'R' => some (d.text (digits 2 c.hour ++ ":" ++ digits 2 c.minute))
  | 's' => some (d.filled (toString c.seconds).toList)
  | 'S' => some (d.number 2 c.second)
  | 't' => some (d.filled ['\t'])
  | 'T' | 'X' => some (d.text (timeOfDay c))
  | 'u' => some (d.number 1 (c.weekday + 1))
  | 'U' => some (d.number 2 ((c.dayOfYear + 6 - dayFromSunday c) / 7))
  | 'V' => some (d.number 2 c.wholeWeek.2)
  | 'w' => some (d.number 1 (dayFromSunday c))
  | 'W' => some (d.number 2 ((c.dayOfYear + 6 - c.weekday) / 7))
  | 'y' => some (d.number 2 (c.year % 100))
  | 'Y' => some (d.number 1 c.year)
  | 'z' => some []
  | 'Z' => some (if d.pad = some '-' then [] else d.filled [])
  | '%' => some (d.filled ['%'])
  | _ => none

/-- Whether a letter can have a modifier. -/
def takesModifier (modifier letter : Char) : Bool :=
  if modifier = 'E' then "cCnpPrRstTuxXyYzZ".toList.contains letter
  else !"aAcDFxXY%".toList.contains letter

/-- What a directive stands for. -/
def code (c : Clock) (d : Directive) : List Char :=
  let known :=
    match d.letter with
    | none => none
    | some l => if d.modifier.all (takesModifier · l) then plainCode? c d l else none
  known.getD
    (match d.letter with
      | some 'b' | some 'h' => d.name (String.ofList d.shown)
      | _ => d.text (String.ofList d.shown))

/-- Writes a format piece by piece. -/
def codes (c : Clock) (limit : Nat) : Nat → List Char → List Char
  | 0, _ => []
  | _, [] => []
  | fuel + 1, '%' :: cs =>
    let d := Directive.read limit cs
    code c d ++ codes c limit fuel (cs.drop (d.source.length - 1))
  | fuel + 1, x :: cs => x :: codes c limit fuel cs

/-- The zone and the microseconds, which stand without flags or a width. -/
def expanded (m : Moment) : List Char → List Char
  | '%' :: 'z' :: cs => (if m.isUniversal then "+0000" else "").toList ++ m.expanded cs
  | '%' :: 'Z' :: cs => (if m.isUniversal then "UTC" else "").toList ++ m.expanded cs
  | '%' :: 'f' :: cs => (digits 6 m.micro).toList ++ m.expanded cs
  | '%' :: c :: cs => '%' :: c :: m.expanded cs
  | c :: cs => c :: m.expanded cs
  | [] => []

/-- Room that is doubled until there is enough of it. -/
def doubled (enough : Nat) : Nat → Nat → Nat
  | 0, room => room
  | fuel + 1, room => if enough ≤ room then room else doubled enough fuel (2 * room)

/-- A moment in a format with percent signs. There is room for 256 characters for each one of the
format, and 1024 at least; nothing is written when that is not enough. -/
def inCodes (m : Moment) (format : List Char) : List Char :=
  let format := m.expanded format
  let room := doubled (256 * format.length) format.length 1024
  let written := codes m.clock room format.length format
  if room ≤ written.length then [] else written

end Shopwalk.Moment
