import Mathlib.Data.List.Forall2
import Mathlib.Data.List.Induction
import Shopwalk.Proofs.Checks
import Shopwalk.Proofs.Numeral

/-!
Words that are found when case is ignored. A pattern with a word in it is found exactly in the texts
that have the letters of the word one after the other, be they capitals or other forms of them. The
lowercase form of such a text has the word itself, if its letters have no relatives but their
capitals.
-/

namespace Shopwalk

namespace Text

/-- Two characters are one letter when case is ignored. -/
def SameLetter (c x : Char) : Prop := lowerCode x.toNat ∈ letterClass (lowerCode c.toNat)

/-- The text has the letters of the word in it, one after the other. -/
def HasCaseless (word text : String) : Prop :=
  ∃ found, found <:+: text.toList ∧ List.Forall₂ SameLetter word.toList found

/-- Where the last line of a text starts: at the start of the text, or behind a line break. -/
theorem exists_last_line (cs : List Char) :
    ∃ front row, cs = front ++ row ∧ '\n' ∉ row ∧
      (front = [] ∨ ∃ rest, front = rest ++ ['\n']) := by
  induction cs using List.reverseRecOn with
  | nil => exact ⟨[], [], rfl, List.not_mem_nil, .inl rfl⟩
  | append_singleton cs c ih =>
    by_cases ends : c = '\n'
    · subst ends
      exact ⟨cs ++ ['\n'], [], (List.append_nil _).symm, List.not_mem_nil, .inr ⟨cs, rfl⟩⟩
    · obtain ⟨front, row, rfl, unbroken, start⟩ := ih
      refine ⟨front, row ++ [c], List.append_assoc _ _ _, ?_, start⟩
      rw [List.mem_append, List.mem_singleton, not_or]
      exact ⟨unbroken, Ne.symm ends⟩

end Text

namespace Pattern

/-- The rest is tried at each place, from the last one down. -/
theorem isSome_downFrom_iff {k : Rest} {cs : Captures} {i n : Nat} :
    (downFrom k cs i n).isSome = true ↔ ∃ j, i ≤ j ∧ j ≤ i + n ∧ (k j cs).isSome = true := by
  induction n with
  | zero =>
    constructor
    · intro here
      exact ⟨i, Nat.le_refl i, Nat.le_refl i, here⟩
    · rintro ⟨j, low, high, here⟩
      obtain rfl := Nat.le_antisymm low high
      exact here
  | succ n ih =>
    unfold downFrom
    split
    · next r last => exact ⟨fun _ => ⟨i + n + 1, by omega, by omega, by simp [last]⟩, fun _ => rfl⟩
    · next last =>
      rw [ih]
      constructor
      · rintro ⟨j, low, high, here⟩
        exact ⟨j, low, by omega, here⟩
      · rintro ⟨j, low, high, here⟩
        have before : j ≠ i + n + 1 := by
          rintro rfl
          simp [last] at here
        exact ⟨j, low, by omega, here⟩

/-- A run goes on as far as the characters pass the test. -/
theorem le_runEnd_of_passes {text : Array Letter} {test : CharTest} {limit i j : Nat}
    (bound : j ≤ i + limit)
    (passes : ∀ m, i ≤ m → m < j → ∃ c, text[m]? = some c ∧ test.has c = true) :
    j ≤ runEnd text test limit i := by
  induction limit generalizing i with
  | zero => exact bound
  | succ limit ih =>
    by_cases reached : j ≤ i
    · exact Nat.le_trans reached (le_runEnd text test _ i)
    · obtain ⟨c, there, has⟩ := passes i (Nat.le_refl i) (by omega)
      simp only [runEnd, there, has, ↓reduceIte]
      exact ih (by omega) fun m low high => passes m (by omega) high

/-- Behind any number of any characters a tree matches at some place of the same line. -/
theorem isSome_first_behind_any_iff {text : Array Letter} {f : Flags} {n : Node} {i : Nat} :
    (((Node.seq (.rep .greedy 0 none .any) n).matcher text f none).first i []).isSome = true ↔
      ∃ j, i ≤ j ∧ j ≤ runEnd text (anyTest f) (text.size - i) i ∧
        mayFollow text (n.firstTest? f) j = true ∧
        ((n.matcher text f none).first j []).isSome = true := by
  have low := le_runEnd text (anyTest f) (text.size - i) i
  simp only [Matcher.first, Node.matcher, Node.test?, Matcher.chars, Option.getD_none, Nat.min_self,
    Nat.not_lt_zero, ↓reduceIte, Nat.add_zero, Nat.sub_zero, isSome_downFrom_iff]
  refine exists_congr fun j => and_congr_right fun _ => ?_
  rw [Nat.add_sub_cancel' low]
  refine and_congr_right fun _ => ?_
  split
  · next follows => simp [follows]
  · next barred => simp [barred]

/-- The letters of a word with anything behind them. -/
def wordAndMore (word : List Char) : Node :=
  .ofList (word.map (fun c => .lit c.toNat) ++ [.rep .greedy 0 none .any])

theorem wordAndMore_cons (c : Char) (word : List Char) :
    wordAndMore (c :: word) = .seq (.lit c.toNat) (wordAndMore word) := by
  cases word <;> rfl

/-- The letters of a word are matched where they stand one after the other. -/
theorem isSome_first_wordAndMore_iff {text : Array Letter} {f : Flags} {word : List Char}
    {i : Nat} :
    ((((wordAndMore word).matcher text f none).first i []).isSome = true) ↔
      ∃ found rest, text.toList.drop i = found ++ rest ∧
        List.Forall₂ (fun c x => (codeTest f true c.toNat).has x = true) word found := by
  induction word generalizing i with
  | nil =>
    have run := isSome_downFrom (k := fun j ds => some (j, ds)) [] (fun _ => rfl) i
      (runEnd text (anyTest f) (text.size - i) i - i)
    simp only [wordAndMore, List.map_nil, List.nil_append, Node.ofList, Matcher.first, Node.matcher,
      Node.test?, Matcher.chars, Option.getD_none, Nat.min_self, Nat.not_lt_zero, ↓reduceIte,
      mayFollow, Nat.add_zero, Nat.sub_zero, run, true_iff]
    exact ⟨[], _, rfl, .nil⟩
  | cons c word ih =>
    rw [wordAndMore_cons]
    simp only [Matcher.first, Node.matcher, Matcher.char] at ih ⊢
    cases here : text[i]? with
    | none =>
      rw [← Array.getElem?_toList] at here
      have past := List.drop_eq_nil_of_le (List.getElem?_eq_none_iff.1 here)
      simp only [Option.isSome_none, Bool.false_eq_true, past, List.nil_eq_append_iff, false_iff]
      rintro ⟨found, rest, ⟨rfl, rfl⟩, ⟨⟩⟩
    | some x =>
      rw [← Array.getElem?_toList] at here
      obtain ⟨bound, rfl⟩ := List.getElem?_eq_some_iff.1 here
      rw [List.drop_eq_getElem_cons bound]
      dsimp only
      split
      · next passes =>
        rw [ih]
        constructor
        · rintro ⟨found, rest, split, matched⟩
          exact ⟨_ :: found, rest, by rw [split]; rfl, .cons passes matched⟩
        · rintro ⟨_, rest, split, letters⟩
          obtain ⟨x, found, -, matched, rfl⟩ := List.forall₂_cons_left_iff.1 letters
          exact ⟨found, rest, (List.cons.inj split).2, matched⟩
      · next fails =>
        simp only [Option.isSome_none, Bool.false_eq_true, false_iff]
        rintro ⟨_, rest, split, letters⟩
        obtain ⟨x, found, first, -, rfl⟩ := List.forall₂_cons_left_iff.1 letters
        obtain ⟨rfl, -⟩ := List.cons.inj split
        exact fails first

/-- The letters of a word are not passed over where they stand. -/
theorem mayFollow_wordAndMore {text : Array Letter} {f : Flags} {word : List Char} {j : Nat}
    {found rest : List Letter} (split : text.toList.drop j = found ++ rest)
    (letters : List.Forall₂ (fun c x => (codeTest f true c.toNat).has x = true) word found) :
    mayFollow text ((wordAndMore word).firstTest? f) j = true := by
  cases letters with
  | nil => rfl
  | @cons c x _ _ first _ =>
    have there : text[j]? = some x := by
      rw [← Array.getElem?_toList, ← List.head?_drop, split]
      rfl
    simp only [wordAndMore_cons, Node.firstTest?, Node.test?, mayFollow, there]
    exact first

end Pattern

namespace Check

open Pattern

theorem wordPattern_node (word : String) :
    (wordPattern word).node = .seq (.rep .greedy 0 none .any) (wordAndMore word.toList) := by
  cases h : word.toList <;> simp [wordPattern, wordAndMore, Node.ofList, h]

theorem not_isPossessive_wordAndMore (word : List Char) :
    (wordAndMore word).isPossessive = false := by
  induction word with
  | nil => rfl
  | cons c word ih =>
    rw [wordAndMore_cons]
    simpa [Node.isPossessive] using ih

theorem codeTest_has_ofChar (word : String) (c x : Char) :
    (codeTest (wordPattern word).flags true c.toNat).has (.ofChar x) = true ↔
      Text.SameLetter c x := by
  simp [codeTest, Flags.letters, Flags.lowered, wordPattern, Letter.ofChar, Text.SameLetter]

/-- The characters of a text as patterns see them. -/
abbrev lettersOf (text : String) : Array Letter := (text.toList.map Letter.ofChar).toArray

/-- The letters of a word stand in a text from a place on, as the pattern of the word sees it. -/
theorem standing_iff {word text : String} {j : Nat} :
    (∃ found rest, (text.toList.map Letter.ofChar).drop j = found ++ rest ∧
      List.Forall₂ (fun c x => (codeTest (wordPattern word).flags true c.toNat).has x = true)
        word.toList found) ↔
    ∃ found rest, text.toList.drop j = found ++ rest ∧
      List.Forall₂ Text.SameLetter word.toList found := by
  rw [← List.map_drop]
  constructor
  · rintro ⟨_, _, split, letters⟩
    obtain ⟨found, rest, cut, rfl, -⟩ := List.map_eq_append_iff.1 split
    rw [List.forall₂_map_right_iff] at letters
    exact ⟨found, rest, cut, letters.imp fun c x => (codeTest_has_ofChar word c x).1⟩
  · rintro ⟨found, rest, cut, letters⟩
    refine ⟨found.map Letter.ofChar, rest.map Letter.ofChar, by rw [cut, List.map_append], ?_⟩
    rw [List.forall₂_map_right_iff]
    exact letters.imp fun c x => (codeTest_has_ofChar word c x).2

/-- A word is looked for behind any number of characters of a line. -/
theorem wordPattern_found_iff {word text : String} :
    (wordPattern word).found text = true ↔
      ∃ i, i ≤ (lettersOf text).size ∧
        (wordPattern word).node.mayStart (lettersOf text) (wordPattern word).flags i = true ∧
        ∃ j, i ≤ j ∧
          j ≤ runEnd (lettersOf text) (anyTest (wordPattern word).flags)
            ((lettersOf text).size - i) i ∧
          mayFollow (lettersOf text)
            ((wordAndMore word.toList).firstTest? (wordPattern word).flags) j = true ∧
          ∃ found rest, text.toList.drop j = found ++ rest ∧
            List.Forall₂ Text.SameLetter word.toList found := by
  have greedy : (wordPattern word).node.isPossessive = false := by
    rw [wordPattern_node]
    simp [Node.isPossessive, not_isPossessive_wordAndMore]
  have lead (f : Flags) : (wordPattern word).node.leadTest? f f = none := by
    rw [wordPattern_node]
    rfl
  unfold Pattern.found
  simp only [greedy, lead, mayFollow_none, Bool.true_and, Bool.false_eq_true, ↓reduceIte,
    foundFrom_iff, Nat.zero_le, Nat.zero_add, true_and]
  simp only [wordPattern_node, isSome_first_behind_any_iff, isSome_first_wordAndMore_iff,
    standing_iff]

/-- A line starts at the start of the text and behind a line break. -/
theorem mayStart_of_front {word text : String} {front rest : List Char}
    (whole : text.toList = front ++ rest)
    (start : front = [] ∨ ∃ more, front = more ++ ['\n']) :
    (wordPattern word).node.mayStart (lettersOf text) (wordPattern word).flags front.length =
      true := by
  rcases start with rfl | ⟨more, rfl⟩
  · simp [Node.mayStart]
  · have broken : isBreak (lettersOf text) more.length = true := by
      simp [isBreak, lettersOf, whole, Letter.ofChar]
    simp [Node.mayStart, wordPattern, broken]

/-- Any number of characters reaches to the end of a line. -/
theorem le_runEnd_of_line {word text : String} {front row rest : List Char}
    (whole : text.toList = front ++ row ++ rest) (unbroken : '\n' ∉ row) :
    (front ++ row).length ≤
      runEnd (lettersOf text) (anyTest (wordPattern word).flags)
        ((lettersOf text).size - front.length) front.length := by
  apply le_runEnd_of_passes
  · simp only [lettersOf, whole, List.size_toArray, List.length_map, List.length_append]
    omega
  · intro m low high
    rw [List.length_append] at high
    have there : m - front.length < row.length := by omega
    refine ⟨.ofChar row[m - front.length], ?_, ?_⟩
    · rw [lettersOf, List.getElem?_toArray, List.getElem?_map, whole, List.append_assoc,
        List.getElem?_append_right low, List.getElem?_append_left there,
        List.getElem?_eq_getElem there, Option.map_some]
    · have other : row[m - front.length] ≠ '\n' := fun same =>
        unbroken (same ▸ List.getElem_mem there)
      simp [anyTest, Letter.ofChar, other]

/-- A word is found exactly in the texts that have its letters. -/
theorem wordPattern_found_iff_hasCaseless {word text : String} :
    (wordPattern word).found text = true ↔ Text.HasCaseless word text := by
  rw [wordPattern_found_iff]
  constructor
  · rintro ⟨i, -, -, j, -, -, -, found, rest, cut, letters⟩
    refine ⟨found, ⟨text.toList.take j, rest, ?_⟩, letters⟩
    rw [List.append_assoc, ← cut, List.take_append_drop]
  · rintro ⟨found, ⟨before, after, whole⟩, letters⟩
    -- The search starts with the line in which the letters stand, and goes on to their place.
    obtain ⟨front, row, rfl, unbroken, start⟩ := Text.exists_last_line before
    have cut : text.toList.drop (front ++ row).length = found ++ after := by
      rw [← whole, List.append_assoc, List.drop_left]
    obtain ⟨_, _, seen, tested⟩ := standing_iff.2 ⟨found, after, cut, letters⟩
    rw [List.append_assoc] at whole
    refine ⟨front.length, ?_, mayStart_of_front (whole.symm.trans (List.append_assoc _ _ _)) start,
      (front ++ row).length, ?_, le_runEnd_of_line whole.symm unbroken,
      mayFollow_wordAndMore seen tested, found, after, cut, letters⟩
    · simp [lettersOf, ← whole]
    · simp

instance (word text : String) : Decidable (Text.HasCaseless word text) :=
  decidable_of_iff _ wordPattern_found_iff_hasCaseless

/-- The long s is one letter with the others, and a line break ends no search. -/
example : Text.HasCaseless "sunscreen" "a\nSunſcreen" ∧ ¬ Text.HasCaseless "cart" "ca rt" := by
  decide

end Check

namespace Text

/-- A letter that only its capital is one with when case is ignored, and that comes from no other
character than these two when a text is lowered. -/
def Lone (c : Char) : Prop := letterClass (lowerCode c.toNat) = [c.toNat] ∧ c ≠ 'σ' ∧ c ≠ 'i'

instance (c : Char) : Decidable (Lone c) := inferInstanceAs (Decidable (_ ∧ _))

theorem lowerAt_of_lone {c x : Char} (lone : Lone c)
    (same : lowerCode x.toNat ∈ letterClass (lowerCode c.toNat)) (before after : List Char) :
    lowerAt before x after = [c] := by
  obtain ⟨only, not_sigma, not_i⟩ := lone
  rw [only, List.mem_singleton] at same
  have sigma : x ≠ 'Σ' := by
    rintro rfl
    have code : lowerCode 'Σ'.toNat = 'σ'.toNat := by decide
    exact not_sigma (Char.toNat_inj.1 (same.symm.trans code))
  have dotted : x ≠ 'İ' := by
    rintro rfl
    have code : lowerCode 'İ'.toNat = 'i'.toNat := by decide
    exact not_i (Char.toNat_inj.1 (same.symm.trans code))
  rw [lowerAt, if_neg sigma, if_neg dotted, lowerChar, same, Char.ofNat_toNat]

/-- What stands in front changes nothing but the context. -/
theorem lowerFrom_append (before cs ds : List Char) :
    ∃ front, lowerFrom before (cs ++ ds) = front ++ lowerFrom (cs.reverse ++ before) ds := by
  induction cs generalizing before with
  | nil => exact ⟨[], rfl⟩
  | cons c cs ih =>
    obtain ⟨front, rest⟩ := ih (c :: before)
    refine ⟨lowerAt before c (cs ++ ds) ++ front, ?_⟩
    rw [List.cons_append, lowerFrom, rest]
    simp

theorem lowerFrom_letters {word found : List Char} (lone : ∀ c ∈ word, Lone c)
    (letters : List.Forall₂ SameLetter word found) (before after : List Char) :
    ∃ rest, lowerFrom before (found ++ after) = word ++ rest := by
  induction letters generalizing before with
  | nil => exact ⟨_, rfl⟩
  | @cons c x word found same _ ih =>
    rw [List.forall_mem_cons] at lone
    obtain ⟨rest, lowers⟩ := ih lone.2 (x :: before)
    refine ⟨rest, ?_⟩
    rw [List.cons_append, lowerFrom, lowers, lowerAt_of_lone lone.1 same]
    rfl

end Text

/-- A url that has a word in it when case is ignored has it in its lowercase form. -/
theorem Check.occursIn_of_urlHas {word : String} {s : Site}
    (lone : word.toList.all (Text.Lone ·) = true) (has : UrlHas word s) :
    Text.occursIn word.toList (Text.lowered s.url.toList) = true := by
  have lone : ∀ c ∈ word.toList, Text.Lone c := by simpa using lone
  obtain ⟨found, ⟨before, after, split⟩, letters⟩ := wordPattern_found_iff_hasCaseless.1 has
  obtain ⟨front, rest⟩ := Text.lowerFrom_append [] before (found ++ after)
  obtain ⟨behind, lowers⟩ := Text.lowerFrom_letters lone letters (before.reverse ++ []) after
  rw [Text.occursIn_iff, Text.lowered, ← split, List.append_assoc, rest, lowers]
  exact ⟨front, behind, by simp⟩

end Shopwalk
