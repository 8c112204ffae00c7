/-!
Decimal digits of every script and the numerals they form.

A text is cut as `before ++ run ++ after`, where `run` is its first run of digits
(`split_firstRun`): `before` has no digit and `after` does not start with one.
-/

namespace Shopwalk.Text

/-- Code points of the digit zero in each script; the nine that follow are one to nine. -/
def zeros : List Nat := [
  48, 1632, 1776, 1984, 2406, 2534, 2662, 2790, 2918, 3046, 3174, 3302, 3430, 3558, 3664, 3792,
  3872, 4160, 4240, 6112, 6160, 6470, 6608, 6784, 6800, 6992, 7088, 7232, 7248, 42528, 43216,
  43264, 43472, 43504, 43600, 44016, 65296, 66720, 68912, 69734, 69872, 69942, 70096, 70384, 70736,
  70864, 71248, 71360, 71472, 71904, 72016, 72784, 73040, 73120, 92768, 92864, 93008, 120782,
  120792, 120802, 120812, 120822, 123200, 123632, 125264, 130032]

/-- What a decimal digit stands for. -/
def digit? (c : Char) : Option Nat :=
  if c.toNat < 128 then
    if 48 ≤ c.toNat ∧ c.toNat ≤ 57 then some (c.toNat - 48) else none
  else
    (zeros.find? fun z => z ≤ c.toNat && c.toNat ≤ z + 9).map (c.toNat - ·)

def isDigit (c : Char) : Bool := (digit? c).isSome

/-- The text in front of the first digit. -/
def beforeRun (cs : List Char) : List Char := cs.takeWhile fun c => !isDigit c

/-- The first maximal run of digits; empty when there is no digit. -/
def firstRun (cs : List Char) : List Char := (cs.dropWhile fun c => !isDigit c).takeWhile isDigit

/-- The text behind the first run of digits. -/
def afterRun (cs : List Char) : List Char := (cs.dropWhile fun c => !isDigit c).dropWhile isDigit

/-- The number that a run of digits writes in base ten; scripts may be mixed. -/
def decimalValue (ds : List Char) : Nat :=
  ds.foldl (fun n c => 10 * n + (digit? c).getD 0) 0

/-- The greatest number of digits with which a number is read or written. -/
def digitLimit : Nat := 4300

/-- The report of a numeral that is longer than that. -/
def numeralTooLong (digits : Nat) : String :=
  "Exceeds the limit (4300 digits) for integer string conversion: value has " ++ Nat.repr digits ++
    " digits; use sys.set_int_max_str_digits() to increase the limit"

theorem split_firstRun (cs : List Char) : beforeRun cs ++ firstRun cs ++ afterRun cs = cs := by
  simp [beforeRun, firstRun, afterRun]

theorem isDigit_of_mem_firstRun {cs : List Char} {c : Char} (h : c ∈ firstRun cs) :
    isDigit c = true :=
  List.all_eq_true.1 (List.all_takeWhile) c h

theorem not_isDigit_of_mem_beforeRun {cs : List Char} {c : Char} (h : c ∈ beforeRun cs) :
    isDigit c = false := by
  have all := List.all_eq_true.1 (List.all_takeWhile (p := fun c => !isDigit c)) c h
  simpa using all

theorem not_isDigit_of_afterRun_eq_cons {cs rest : List Char} {c : Char}
    (h : afterRun cs = c :: rest) : isDigit c = false := by
  have stop := List.head?_dropWhile_not isDigit (cs.dropWhile fun c => !isDigit c)
  rw [show List.dropWhile isDigit _ = c :: rest from h] at stop
  simpa using stop

end Shopwalk.Text
