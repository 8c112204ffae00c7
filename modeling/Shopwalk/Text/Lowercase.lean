import Shopwalk.Text.CaseTable

/-!
Lowercase texts. Each character is replaced by its lowercase form, with two exceptions: a capital I
with a dot becomes two characters, and a capital sigma at the end of a word takes its final form.
-/

namespace Shopwalk.Text

/-- The other case of `n`, if the run has it. -/
def CaseRun.map? (r : CaseRun) (n : Nat) : Option Nat :=
  if r.first ≤ n ∧ n ≤ r.last ∧ (n - r.first) % r.step = 0 then some (Int.toNat (n + r.offset))
  else none

/-- The code point of the lowercase form of `n`, out of context. -/
def lowerCode (n : Nat) : Nat :=
  if n < 128 then if 65 ≤ n ∧ n ≤ 90 then n + 32 else n
  else (lowercaseRuns.findSome? (·.map? n)).getD n

/-- The lowercase form of one character, out of context. -/
def lowerChar (c : Char) : Char := Char.ofNat (lowerCode c.toNat)

def isCased (c : Char) : Bool :=
  if c.toNat < 128 then c.isAlpha else casedRanges.has c

def isSkipped (c : Char) : Bool := skippedRanges.has c

/-- Whether the nearest character that is not skipped has case. -/
def nearestIsCased (cs : List Char) : Bool :=
  match cs.dropWhile isSkipped with
  | [] => false
  | c :: _ => isCased c

/-- The lowercase form of `c` between `before`, nearest character first, and `after`. -/
def lowerAt (before : List Char) (c : Char) (after : List Char) : List Char :=
  if c = 'Σ' then
    if nearestIsCased before && !nearestIsCased after then ['ς'] else ['σ']
  else if c = 'İ' then ['i', '\u0307']
  else [lowerChar c]

/-- The lowercase of a text that follows `before`, nearest character first. -/
def lowerFrom (before : List Char) : List Char → List Char
  | [] => []
  | c :: cs => lowerAt before c cs ++ lowerFrom (c :: before) cs

def lowered (cs : List Char) : List Char := lowerFrom [] cs

/-- The lowercase form of a string; see `lowered`. -/
def lower (s : String) : String := String.ofList (lowered s.toList)

end Shopwalk.Text
