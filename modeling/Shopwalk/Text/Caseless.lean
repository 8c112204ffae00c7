import Shopwalk.Text.Lowercase

/-!
Letters when case is ignored. Two characters are one letter if their lowercase forms are, and a few
lowercase forms that share an uppercase form count as one letter, too.
-/

namespace Shopwalk.Text

/-- The code point of the uppercase form of `n`. -/
def upperCode (n : Nat) : Nat :=
  if n < 128 then if 97 ≤ n ∧ n ≤ 122 then n - 32 else n
  else (uppercaseRuns.findSome? (·.map? n)).getD n

/-- The uppercase form of a character. -/
def raised (c : Char) : Char := Char.ofNat (upperCode c.toNat)

/-- Lowercase code points that count as one letter with `l`. -/
def letterClass (l : Nat) : List Nat := (sharedUppercase.find? (·.contains l)).getD [l]

/-- Lowercases ASCII letters only. -/
def asciiLowerCode (n : Nat) : Nat := if 65 ≤ n ∧ n ≤ 90 then n + 32 else n

def asciiCapitals : CaseRun := ⟨65, 90, 1, 32⟩

/-- Every capital that has a lowercase form. -/
def capitals : List CaseRun := asciiCapitals :: lowercaseRuns

/-- The members of the run from `low` to `high`, as their other case. -/
def CaseRun.image? (r : CaseRun) (low high : Nat) : Option CaseRun :=
  let first := r.first + (low - r.first + r.step - 1) / r.step * r.step
  let last := min r.last high
  if first ≤ last then
    some ⟨Int.toNat (first + r.offset), Int.toNat (last + r.offset), r.step, 0⟩
  else none

def CaseRun.has (r : CaseRun) (n : Nat) : Bool :=
  r.first ≤ n && n ≤ r.last && (n - r.first) % r.step == 0

/-- The code points from `low` to `high` and the lowercase forms of those among them that are in
`runs`. -/
def loweredRange (runs : List CaseRun) (low high : Nat) : List CaseRun :=
  ⟨low, high, 1, 0⟩ :: runs.filterMap (·.image? low high)

end Shopwalk.Text
