import Shopwalk.Proofs.UrlWord

/-!
Whether a pattern matches. Whether a tree matches at a place depends on what follows only in so far
as that matches, too, so that what always matches can be put behind a tree or taken away. And where
a tree has to begin with a certain character, a look at that character does no harm; neither does it
to begin with a line where a tree begins with any number of any characters. Only where a part of a
pattern has flags of its own can the look go wrong: then the search passes over matches.
-/

namespace Shopwalk.Pattern

/-- What follows matches at the same places with the same captures. -/
def Alike (k k' : Rest) : Prop := ∀ j ds, (k j ds).isSome = (k' j ds).isSome

/-- A matcher for which it counts only where the rest matches. -/
def Fair (m : Matcher) : Prop := ∀ {k k'}, Alike k k' → Alike (m.run k) (m.run k')

section Matchers

variable {text : Array Letter} {k k' : Rest}

theorem downFrom_succ (k : Rest) (cs : Captures) (i n : Nat) :
    downFrom k cs i (n + 1) = (k (i + n + 1) cs).or (downFrom k cs i n) := by
  conv => lhs; unfold downFrom
  cases k (i + n + 1) cs <;> rfl

theorem upFrom_succ (k : Rest) (cs : Captures) (n i : Nat) :
    upFrom k cs (n + 1) i = (k i cs).or (upFrom k cs n (i + 1)) := by
  conv => lhs; unfold upFrom
  cases k i cs <;> rfl

theorem many_succ (m : Matcher) (k : Rest) (n : Nat) (last : Option Nat) (i : Nat)
    (cs : Captures) :
    m.many k (n + 1) last i cs =
      if last = some i then k i cs
      else (m.run (fun j ds => m.many k n (some i) j ds) i cs).or (k i cs) := by
  conv => lhs; unfold Matcher.many
  cases m.run (fun j ds => m.many k n (some i) j ds) i cs <;> rfl

theorem few_succ (m : Matcher) (k : Rest) (n : Nat) (last : Option Nat) (i : Nat)
    (cs : Captures) :
    m.few k (n + 1) last i cs =
      (k i cs).or
        (if last = some i then none else m.run (fun j ds => m.few k n (some i) j ds) i cs) := by
  conv => lhs; unfold Matcher.few
  cases k i cs <;> rfl

theorem matcher_alt (a b : Node) (f : Flags) (next : Option CharTest) (k : Rest) (i : Nat)
    (cs : Captures) :
    ((Node.alt a b).matcher text f next).run k i cs =
      ((a.matcher text f next).run k i cs).or ((b.matcher text f next).run k i cs) := by
  simp only [Node.matcher]
  cases (a.matcher text f next).run k i cs <;> rfl

theorem Alike.downFrom (same : Alike k k') (cs : Captures) (i n : Nat) :
    (downFrom k cs i n).isSome = (downFrom k' cs i n).isSome := by
  induction n with
  | zero => exact same i cs
  | succ n ih => rw [downFrom_succ, downFrom_succ, Option.isSome_or, Option.isSome_or, same, ih]

theorem Alike.upFrom (same : Alike k k') (cs : Captures) (n i : Nat) :
    (upFrom k cs n i).isSome = (upFrom k' cs n i).isSome := by
  induction n generalizing i with
  | zero => exact same i cs
  | succ n ih => rw [upFrom_succ, upFrom_succ, Option.isSome_or, Option.isSome_or, same, ih]

/-- The rest is tried at each place, from the first one up. -/
theorem isSome_upFrom_iff {cs : Captures} {n i : Nat} :
    (upFrom k cs n i).isSome = true ↔ ∃ j, i ≤ j ∧ j ≤ i + n ∧ (k j cs).isSome = true := by
  induction n generalizing i with
  | zero =>
    constructor
    · intro here
      exact ⟨i, Nat.le_refl i, Nat.le_refl i, here⟩
    · rintro ⟨j, low, high, here⟩
      obtain rfl := Nat.le_antisymm low high
      exact here
  | succ n ih =>
    rw [upFrom_succ, Option.isSome_or, Bool.or_eq_true, ih]
    constructor
    · rintro (here | ⟨j, low, high, there⟩)
      · exact ⟨i, Nat.le_refl i, by omega, here⟩
      · exact ⟨j, by omega, by omega, there⟩
    · rintro ⟨j, low, high, here⟩
      rcases Nat.eq_or_lt_of_le low with rfl | later
      · exact .inl here
      · exact .inr ⟨j, later, by omega, here⟩

namespace Fair

theorem char (test : CharTest) : Fair (.char text test) := by
  intro k k' same i cs
  simp only [Matcher.char]
  split
  · rfl
  · split
    · exact same _ _
    · rfl

theorem chars (test : CharTest) (greed : Greed) (least : Nat) (most : Option Nat)
    (next : Option CharTest) : Fair (.chars text test greed least most next) := by
  intro k k' same i cs
  have followed : Alike (fun j ds => if mayFollow text next j then k j ds else none)
      (fun j ds => if mayFollow text next j then k' j ds else none) := by
    intro j ds
    dsimp only
    split
    · exact same j ds
    · rfl
  simp only [Matcher.chars]
  split
  · rfl
  · cases greed with
    | greedy => exact followed.downFrom _ _ _
    | lazy => exact followed.upFrom _ _ _
    | possessive => exact same _ _

variable {m : Matcher}

theorem copies (fair : Fair m) (same : Alike k k') (n : Nat) :
    Alike (m.copies k n) (m.copies k' n) := by
  induction n with
  | zero => exact same
  | succ n ih => exact fair ih

theorem many (fair : Fair m) (same : Alike k k') (n : Nat) (last : Option Nat) :
    Alike (m.many k n last) (m.many k' n last) := by
  induction n generalizing last with
  | zero => exact same
  | succ n ih =>
    intro i cs
    rw [many_succ, many_succ]
    split
    · exact same i cs
    · rw [Option.isSome_or, Option.isSome_or, fair (ih (some i)) i cs, same i cs]

theorem few (fair : Fair m) (same : Alike k k') (n : Nat) (last : Option Nat) :
    Alike (m.few k n last) (m.few k' n last) := by
  induction n generalizing last with
  | zero => exact same
  | succ n ih =>
    intro i cs
    rw [few_succ, few_succ, Option.isSome_or, Option.isSome_or, same i cs]
    split
    · rfl
    · rw [fair (ih (some i)) i cs]

theorem firsts (same : Alike k k') (n : Nat) : Alike (m.firsts k n) (m.firsts k' n) := by
  induction n with
  | zero => exact same
  | succ n ih =>
    intro i cs
    unfold Matcher.firsts
    split
    · rfl
    · exact ih _ _

theorem allFirsts (same : Alike k k') (n : Nat) : Alike (m.allFirsts k n) (m.allFirsts k' n) := by
  induction n with
  | zero => exact same
  | succ n ih =>
    intro i cs
    unfold Matcher.allFirsts
    split
    · exact same i cs
    · split
      · exact same _ _
      · exact ih _ _

theorem repeated (fair : Fair m) (greed : Greed) (least : Nat) (most : Option Nat) :
    Fair (.repeated text m greed least most) := by
  intro k k' same i cs
  simp only [Matcher.repeated]
  cases greed with
  | greedy => exact fair.copies (fun j ds => fair.many same _ none j ds) least i cs
  | lazy => exact fair.copies (fun j ds => fair.few same _ none j ds) least i cs
  | possessive => exact firsts (fun j ds => allFirsts same _ j ds) least i cs

end Fair

theorem fair_matcher (n : Node) (f : Flags) (next : Option CharTest) :
    Fair (n.matcher text f next) := by
  induction n generalizing f next with
  | empty => exact fun same => same
  | any | lit | notLit | set => exact Fair.char _
  | anchor a =>
    intro k k' same i cs
    simp only [Node.matcher]
    split
    · exact same i cs
    · rfl
  | seq a b first second => exact fun same => first f _ (second f next same)
  | alt a b first second =>
    intro k k' same i cs
    rw [matcher_alt, matcher_alt, Option.isSome_or, Option.isSome_or, first f next same,
      second f next same]
  | rep greed least most body ih =>
    unfold Node.matcher
    split
    · exact Fair.chars _ _ _ _ _
    · exact Fair.repeated (ih f none) _ _ _
  | capture group body ih => exact fun same i cs => ih f next (fun j ds => same j _) i _
  | atomic body =>
    intro k k' same i cs
    simp only [Node.matcher]
    split
    · rfl
    · exact same _ _
  | again group =>
    intro k k' same i cs
    simp only [Node.matcher]
    split
    · rfl
    · split
      · exact same _ _
      · rfl
  | ifHeld group yes no first second =>
    intro k k' same i cs
    simp only [Node.matcher]
    split
    · exact first f next same i cs
    · exact second f next same i cs
  | ahead positive body =>
    intro k k' same i cs
    simp only [Node.matcher]
    split
    · exact same _ _
    · exact same _ _
    · rfl
  | behind positive width body =>
    intro k k' same i cs
    simp only [Node.matcher]
    split
    · exact same _ _
    · exact same _ _
    · rfl
  | «scoped» on off body ih => exact ih _ next

/-- One character that passes a test. -/
theorem isSome_char_iff {test : CharTest} {i : Nat} {cs : Captures} :
    ((Matcher.char text test).run k i cs).isSome = true ↔
      ∃ c, text[i]? = some c ∧ test.has c = true ∧ (k (i + 1) cs).isSome = true := by
  simp only [Matcher.char]
  cases text[i]? with
  | none => simp
  | some c => by_cases passes : test.has c = true <;> simp [passes]

theorem mayFollow_of_char {test : CharTest} {i : Nat} {cs : Captures}
    (hit : ((Matcher.char text test).run k i cs).isSome = true) :
    mayFollow text (some test) i = true := by
  obtain ⟨c, there, passes, -⟩ := isSome_char_iff.1 hit
  simp [mayFollow, there, passes]

/-- A tree that begins with a certain character matches only where it stands. -/
theorem mayFollow_firstTest {n : Node} {f : Flags} {next : Option CharTest} {i : Nat}
    {cs : Captures} (hit : ((n.matcher text f next).run k i cs).isSome = true) :
    mayFollow text (n.firstTest? f) i = true := by
  induction n generalizing f next k cs with
  | empty | anchor | alt | rep | again | ifHeld | ahead | behind => rfl
  | any | lit | notLit | set => exact mayFollow_of_char hit
  | seq a b first => exact first hit
  | capture group body ih => exact ih hit
  | atomic body ih =>
    simp only [Node.matcher] at hit
    split at hit
    · cases hit
    · next j ds found =>
      have inner : ((body.matcher text f none).first i cs).isSome = true := by rw [found]; rfl
      exact ih inner
  | «scoped» on off body ih => exact ih hit

/-! ### Where a search begins -/

/-- Whether a part of a tree has flags of its own. -/
def Node.isScoped : Node → Bool
  | .empty | .any | .lit _ | .notLit _ | .set _ _ | .anchor _ | .again _ => false
  | .seq a b | .alt a b | .ifHeld _ a b => a.isScoped || b.isScoped
  | .rep _ _ _ body | .capture _ body | .atomic body | .ahead _ body | .behind _ _ body =>
    body.isScoped
  | .scoped _ _ _ => true

/-- With the flags of the whole pattern a member of a set is looked for as it is read. -/
theorem leadTest_self (f : Flags) (it : SetItem) : it.leadTest f f = it.test f := by
  cases it <;> rfl

/-- Without flags of its own a tree is looked for by its first character, if it is at all. -/
theorem leadTest?_cases {n : Node} (unscoped : n.isScoped = false) (f : Flags) :
    n.leadTest? f f = none ∨ n.leadTest? f f = n.firstTest? f := by
  induction n with
  | seq a b first => exact first (Bool.or_eq_false_iff.1 unscoped).1
  | capture group body ih => exact ih unscoped
  | «scoped» on off body => cases unscoped
  | set positive items =>
    simp only [Node.leadTest?, leadTest_self]
    split
    · exact .inl rfl
    · exact .inr rfl
  | _ => exact .inl rfl

/-- A tree without flags of its own matches only where the search tries it. -/
theorem mayFollow_leadTest {n : Node} (unscoped : n.isScoped = false) {f : Flags}
    {next : Option CharTest} {i : Nat} {cs : Captures}
    (hit : ((n.matcher text f next).run k i cs).isSome = true) :
    mayFollow text (n.leadTest? f f) i = true := by
  rcases leadTest?_cases unscoped f with unlooked | looked
  · rw [unlooked, mayFollow_none]
  · rw [looked]
    exact mayFollow_firstTest hit

/-- A set inside flags of its own is looked for with other kinds of characters than it is read with:
`(?a:\W)` matches an accented letter, but is not found where it stands. -/
example :
    let n : Node := .scoped { ascii := true } {} (.set true [.kind .word false])
    ((n.matcher #[.ofChar 'é'] {} none).first 0 []).isSome = true ∧
      (⟨"(?a:\\W)", {}, n⟩ : Pattern).found "é" = false := by
  decide

/-- Any number of any characters, many or few first. -/
theorem isSome_chars_iff {test : CharTest} {greed : Greed} (moderate : greed ≠ .possessive)
    {next : Option CharTest} {i : Nat} {cs : Captures} :
    ((Matcher.chars text test greed 0 none next).run k i cs).isSome = true ↔
      ∃ j, i ≤ j ∧ j ≤ runEnd text test (text.size - i) i ∧ mayFollow text next j = true ∧
        (k j cs).isSome = true := by
  have low := le_runEnd text test (text.size - i) i
  have tried (j : Nat) : ((if mayFollow text next j = true then k j cs else none).isSome = true) ↔
      mayFollow text next j = true ∧ (k j cs).isSome = true := by
    by_cases follows : mayFollow text next j = true <;> simp [follows]
  cases greed with
  | possessive => exact absurd rfl moderate
  | greedy =>
    simp only [Matcher.chars, Option.getD_none, Nat.min_self, Nat.not_lt_zero, ↓reduceIte,
      Nat.add_zero, Nat.sub_zero, isSome_downFrom_iff, tried, Nat.add_sub_cancel' low]
  | lazy =>
    simp only [Matcher.chars, Option.getD_none, Nat.min_self, Nat.not_lt_zero, ↓reduceIte,
      Nat.add_zero, Nat.sub_zero, isSome_upFrom_iff, tried, Nat.add_sub_cancel' low]

/-- The characters from one place to another pass a test. -/
def PassesBetween (text : Array Letter) (test : CharTest) (i j : Nat) : Prop :=
  ∀ m, i ≤ m → m < j → ∃ c, text[m]? = some c ∧ test.has c = true

theorem PassesBetween.le_size {test : CharTest} {i j : Nat} (passes : PassesBetween text test i j)
    (later : i < j) : j ≤ text.size := by
  obtain ⟨c, there, -⟩ := passes (j - 1) (by omega) (by omega)
  have := (Array.getElem?_eq_some_iff.1 there).1
  omega

theorem passesBetween_runEnd (test : CharTest) (limit i : Nat) :
    PassesBetween text test i (runEnd text test limit i) := by
  induction limit generalizing i with
  | zero => exact fun m low high => absurd low (Nat.not_le.2 high)
  | succ limit ih =>
    intro m low high
    unfold runEnd at high
    split at high
    · omega
    · next c there =>
      split at high
      · next passes =>
        rcases Nat.eq_or_lt_of_le low with rfl | later
        · exact ⟨c, there, passes⟩
        · exact ih (i + 1) m later high
      · omega

/-- A run reaches a place if all characters before it pass. -/
theorem le_runEnd_iff {test : CharTest} {i j : Nat} (low : i ≤ j) :
    j ≤ runEnd text test (text.size - i) i ↔ PassesBetween text test i j := by
  constructor
  · intro reached m from_ high
    exact passesBetween_runEnd test _ i m from_ (Nat.lt_of_lt_of_le high reached)
  · intro passes
    refine le_runEnd_of_passes ?_ passes
    rcases Nat.eq_or_lt_of_le low with rfl | later
    · omega
    · have := passes.le_size later
      omega

/-- Any number of any characters can be taken where the characters up to there can. -/
theorem isSome_anything_iff {f : Flags} {greed : Greed} (moderate : greed ≠ .possessive)
    {next : Option CharTest} {i : Nat} {cs : Captures} :
    (((Node.rep greed 0 none .any).matcher text f next).run k i cs).isSome = true ↔
      ∃ j, i ≤ j ∧ PassesBetween text (anyTest f) i j ∧ mayFollow text next j = true ∧
        (k j cs).isSome = true := by
  refine (isSome_chars_iff moderate).trans (exists_congr fun j => and_congr_right fun low => ?_)
  rw [le_runEnd_iff low]

/-- A tree that begins with any number of any characters also matches from further ahead. -/
theorem isSome_of_beginsAnywhere {n : Node} (anywhere : n.beginsAnywhere = true) {f : Flags}
    {next : Option CharTest} {i j : Nat} {cs : Captures} (low : i ≤ j)
    (passes : PassesBetween text (anyTest f) i j)
    (hit : ((n.matcher text f next).run k j cs).isSome = true) :
    ((n.matcher text f next).run k i cs).isSome = true := by
  have earlier {greed : Greed} (moderate : greed ≠ .possessive) {k : Rest}
      {next : Option CharTest}
      (hit : (((Node.rep greed 0 none .any).matcher text f next).run k j cs).isSome = true) :
      (((Node.rep greed 0 none .any).matcher text f next).run k i cs).isSome = true := by
    obtain ⟨l, later, between, follows, matched⟩ := (isSome_anything_iff moderate).1 hit
    refine (isSome_anything_iff moderate).2 ⟨l, Nat.le_trans low later, ?_, follows, matched⟩
    intro m from_ high
    by_cases before : m < j
    · exact passes m from_ before
    · exact between m (Nat.not_lt.1 before) high
  induction n generalizing k next with
  | seq a b first => exact first anywhere hit
  | rep greed least most body =>
    unfold Node.beginsAnywhere at anywhere
    split at anywhere
    · next same => cases same
    · next same => cases same; exact earlier (by decide) hit
    · next same => cases same; exact earlier (by decide) hit
    · cases anywhere
  | _ => cases anywhere

/-- Every place has a place before it where a search has to begin, with no break between. -/
theorem exists_mayStart (n : Node) (f : Flags) {i : Nat} (bound : i ≤ text.size) :
    ∃ j, j ≤ i ∧ n.mayStart text f j = true ∧ PassesBetween text (anyTest f) j i := by
  induction i with
  | zero =>
    exact ⟨0, Nat.le_refl 0, by simp [Node.mayStart], fun m _ high => absurd high (by omega)⟩
  | succ i ih =>
    obtain ⟨j, low, starts, passes⟩ := ih (Nat.le_of_succ_le bound)
    have there : text[i]? = some text[i] := Array.getElem?_eq_getElem bound
    by_cases goes : (anyTest f).has text[i] = true
    · refine ⟨j, Nat.le_succ_of_le low, starts, fun m from_ high => ?_⟩
      rcases Nat.eq_or_lt_of_le (Nat.le_of_lt_succ high) with rfl | before
      · exact ⟨text[m], there, goes⟩
      · exact passes m from_ before
    · refine ⟨i + 1, Nat.le_refl _, ?_, fun m from_ high => absurd high (by omega)⟩
      have break_ : f.dotAll = false ∧ text[i].char = '\n' := by simpa [anyTest] using goes
      simp [Node.mayStart, isBreak, there, break_]

end Matchers

/-- There is a match somewhere in the text. -/
def HasMatch (text : Array Letter) (f : Flags) (n : Node) : Prop :=
  ∃ i, i ≤ text.size ∧ ((n.matcher text f none).first i []).isSome = true

/-- A pattern is found where it matches. -/
theorem found_iff {source text : String} {f : Flags} {n : Node} (greedy : n.isPossessive = false)
    (unscoped : n.isScoped = false) :
    (⟨source, f, n⟩ : Pattern).found text = true ↔ HasMatch (Check.lettersOf text) f n := by
  unfold Pattern.found HasMatch
  simp only [greedy, Bool.false_eq_true, ↓reduceIte, foundFrom_iff, Nat.zero_le, Nat.zero_add,
    true_and, Bool.and_eq_true]
  constructor
  · rintro ⟨i, bound, -, hit⟩
    exact ⟨i, bound, hit⟩
  · rintro ⟨i, bound, hit⟩
    by_cases anywhere : n.beginsAnywhere = true
    · obtain ⟨j, low, starts, passes⟩ := exists_mayStart n f bound
      have earlier := isSome_of_beginsAnywhere anywhere low passes hit
      exact ⟨j, Nat.le_trans low bound, ⟨mayFollow_leadTest unscoped earlier, starts⟩, earlier⟩
    · have starts : n.mayStart (Check.lettersOf text) f i = true := by
        simp [Node.mayStart, anywhere]
      exact ⟨i, bound, ⟨mayFollow_leadTest unscoped hit, starts⟩, hit⟩

end Shopwalk.Pattern
