/-!
Texts as lists of characters: sets of characters given by the runs of their code points, blanks of
every script, texts without the blanks at their two ends, and occurrences of one text in another.
-/

namespace Shopwalk.Text

/-- A set of code points as a list of runs, each with its first and its last member. -/
abbrev Ranges := List (Nat × Nat)

def Ranges.has (rs : Ranges) (c : Char) : Bool :=
  rs.any fun r => r.1 ≤ c.toNat && c.toNat ≤ r.2

/-- Line and field separators, tabs and spaces; zero-width characters are not among them. -/
def blankRanges : Ranges := [
  (9, 13), (28, 32), (133, 133), (160, 160), (5760, 5760), (8192, 8202), (8232, 8233), (8239, 8239),
  (8287, 8287), (12288, 12288)]

def isBlank (c : Char) : Bool := blankRanges.has c

def trimStart (cs : List Char) : List Char := cs.dropWhile isBlank

def trimEnd (cs : List Char) : List Char := (cs.reverse.dropWhile isBlank).reverse

/-- The text from its first to its last character that is not a blank. -/
def trimmed (cs : List Char) : List Char := trimEnd (trimStart cs)

/-- A string without the blanks at its ends; see `trimmed`. -/
def strip (s : String) : String := String.ofList (trimmed s.toList)

theorem split_trimmed (cs : List Char) :
    ∃ front behind, (∀ c ∈ front, isBlank c = true) ∧ (∀ c ∈ behind, isBlank c = true) ∧
      front ++ trimmed cs ++ behind = cs := by
  refine ⟨cs.takeWhile isBlank, ((trimStart cs).reverse.takeWhile isBlank).reverse, ?_, ?_, ?_⟩
  · exact List.all_eq_true.1 List.all_takeWhile
  · intro c there
    exact List.all_eq_true.1 List.all_takeWhile c (List.mem_reverse.1 there)
  · rw [trimmed, trimEnd, List.append_assoc, ← List.reverse_append, List.takeWhile_append_dropWhile,
      List.reverse_reverse, trimStart, List.takeWhile_append_dropWhile]

/-- Whether `needle` stands somewhere in the text; the empty text stands everywhere. -/
def occursIn (needle : List Char) : List Char → Bool
  | [] => needle.isEmpty
  | c :: cs => needle.isPrefixOf (c :: cs) || occursIn needle cs

/-- Whether a string has another one in it; see `occursIn`. -/
def contains (s needle : String) : Bool := occursIn needle.toList s.toList

theorem occursIn_iff {needle cs : List Char} : occursIn needle cs = true ↔ needle <:+: cs := by
  induction cs with
  | nil => simp [occursIn]
  | cons c cs ih =>
    rw [occursIn, Bool.or_eq_true, ih, List.infix_cons_iff, List.isPrefixOf_iff_prefix]

end Shopwalk.Text
