import Shopwalk.Fault
import Shopwalk.Text.Digit
import Shopwalk.Value

/-!
Numbers in texts: prices, counts, temperatures and totals are the first run of decimal digits.
-/

namespace Shopwalk.Shop

/-- What the first run of digits of a text says. -/
inductive Reading where
  | absent
  | tooLong (digits : Nat)
  | number (n : Nat)
  deriving DecidableEq, Repr

def Reading.ofChars (cs : List Char) : Reading :=
  let run := Text.firstRun cs
  if run.isEmpty then .absent
  else if Text.digitLimit < run.length then .tooLong run.length
  else .number (Text.decimalValue run)

def Reading.of (s : String) : Reading := Reading.ofChars s.toList

/-- A price, or any number that is zero when the text has no digit. -/
def numberOrZero (s : String) : Except Fault Nat :=
  match Reading.of s with
  | .absent => .ok 0
  | .tooLong n => .error (.numeralTooLong n)
  | .number n => .ok n

/-- The count on the cart button, if it shows one. -/
def count? (s : String) : Except Fault (Option Nat) :=
  match Reading.of s with
  | .absent => .ok none
  | .tooLong n => .error (.numeralTooLong n)
  | .number n => .ok (some n)

/-- A number that has to be there. -/
def numberIn (s : String) : Except Fault Nat :=
  match Reading.of s with
  | .absent => .error (.noNumber s)
  | .tooLong n => .error (.numeralTooLong n)
  | .number n => .ok n

/-- Only texts can be searched for digits. -/
def searchable : Value → Except Fault String
  | .str s => .ok s
  | v => .error (.notSearchable v.kindName)

def numberOrZeroOf (v : Value) : Except Fault Nat := do numberOrZero (← searchable v)

/-- As `count?`; a value that counts as false has no count. -/
def countOf? (v : Value) : Except Fault (Option Nat) :=
  if v.truthy then do count? (← searchable v) else .ok none

/-- The text of an element, which may be missing, as a value. -/
def textValue : Option String → Value
  | none => .none
  | some s => .str s

end Shopwalk.Shop
