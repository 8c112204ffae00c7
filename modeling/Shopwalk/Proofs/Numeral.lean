import Shopwalk.Check

/-!
Numerals in texts: the first run of digits is found where it stands, the numeral of a number reads
as that number, its sign apart, and the pattern of digits is found in the texts that have a digit.
-/

namespace Shopwalk

namespace Text

/-- The smallest number whose numeral is too long to be read or written. -/
def longNumber : Nat := Nat.pow 10 digitLimit

theorem digit?_of_isDigit {c : Char} (h : c.isDigit = true) : digit? c = some (c.toNat - 48) := by
  have bounds : 48 ≤ c.toNat ∧ c.toNat ≤ 57 := by
    simp only [Char.isDigit, Bool.and_eq_true, decide_eq_true_eq] at h
    exact h
  rw [digit?, if_pos (by omega), if_pos bounds]

/-- The run that a text is cut at is its first one. -/
theorem firstRun_append {before run after : List Char} (free : ∀ c ∈ before, isDigit c = false)
    (digits : ∀ c ∈ run, isDigit c = true) (some_digit : run ≠ [])
    (stops : ∀ c rest, after = c :: rest → isDigit c = false) :
    firstRun (before ++ run ++ after) = run := by
  obtain ⟨d, ds, rfl⟩ := List.exists_cons_of_ne_nil some_digit
  have skipped : (before ++ (d :: ds) ++ after).dropWhile (fun c => !isDigit c) =
      d :: ds ++ after := by
    rw [List.append_assoc, List.dropWhile_append_of_pos (by simpa using free), List.cons_append,
      List.dropWhile_cons_of_neg (by simp [digits d List.mem_cons_self])]
  rw [firstRun, skipped, List.takeWhile_append_of_pos digits]
  cases after with
  | nil => simp
  | cons c rest => rw [List.takeWhile_cons_of_neg (by simp [stops c rest rfl]), List.append_nil]

theorem foldl_digit? {ds : List Char} (digits : ∀ c ∈ ds, c.isDigit = true) (start : Nat) :
    ds.foldl (fun n c => 10 * n + (digit? c).getD 0) start = Nat.ofDigitChars 10 ds start := by
  induction ds generalizing start with
  | nil => rw [List.foldl_nil, Nat.ofDigitChars_nil]
  | cons d ds ih =>
    rw [List.foldl_cons, digit?_of_isDigit (digits d List.mem_cons_self), Nat.ofDigitChars_cons]
    exact ih (fun c hc => digits c (List.mem_cons_of_mem d hc)) _

theorem isDigit_of_mem_toDigits {n : Nat} {c : Char} (h : c ∈ Nat.toDigits 10 n) :
    c.isDigit = true :=
  Nat.isDigit_of_mem_toDigits (by decide) (by decide) h

theorem decimalValue_toDigits (n : Nat) : decimalValue (Nat.toDigits 10 n) = n := by
  rw [decimalValue, foldl_digit? fun _ => isDigit_of_mem_toDigits, Nat.ofDigitChars_ten_toDigits]

theorem length_toDigits_le_iff (n : Nat) :
    (Nat.toDigits 10 n).length ≤ digitLimit ↔ n < longNumber := by
  have positive : 0 < digitLimit := by decide
  unfold longNumber
  generalize digitLimit = limit at positive
  exact Nat.length_toDigits_le_iff (by decide) positive

theorem digit?_getD_lt (c : Char) : (digit? c).getD 0 < 10 := by
  unfold digit?
  split
  · split
    · rw [Option.getD_some]
      omega
    · decide
  · cases found : zeros.find? fun z => z ≤ c.toNat && c.toNat ≤ z + 9 with
    | none => exact Nat.succ_pos 9
    | some z =>
      have bounds := List.find?_some found
      simp only [Bool.and_eq_true, decide_eq_true_eq] at bounds
      rw [Option.map_some, Option.getD_some]
      omega

theorem foldl_digit?_lt (ds : List Char) (start : Nat) :
    ds.foldl (fun n c => 10 * n + (digit? c).getD 0) start <
      (start + 1) * Nat.pow 10 ds.length := by
  induction ds generalizing start with
  | nil =>
    change start < (start + 1) * 1
    omega
  | cons c ds ih =>
    have small := digit?_getD_lt c
    calc (c :: ds).foldl (fun n c => 10 * n + (digit? c).getD 0) start
        < (10 * start + (digit? c).getD 0 + 1) * Nat.pow 10 ds.length := ih _
      _ ≤ (start + 1) * 10 * Nat.pow 10 ds.length := Nat.mul_le_mul_right _ (by omega)
      _ = (start + 1) * (Nat.pow 10 ds.length * 10) := by rw [Nat.mul_assoc, Nat.mul_comm 10]

/-- What is short enough to be read is short enough to be written. -/
theorem decimalValue_lt_longNumber {ds : List Char} (short : ds.length ≤ digitLimit) :
    decimalValue ds < longNumber := by
  have bound := foldl_digit?_lt ds 0
  rw [Nat.zero_add, Nat.one_mul] at bound
  unfold longNumber
  generalize digitLimit = limit at short
  exact Nat.lt_of_lt_of_le bound (Nat.pow_le_pow_right (by decide) short)

/-- A numeral is the digits of the number behind its sign, if it has one. -/
theorem toList_toString_int (t : Int) :
    ∃ sign, (∀ c ∈ sign, isDigit c = false) ∧
      (toString t).toList = sign ++ Nat.toDigits 10 t.natAbs := by
  cases t with
  | ofNat n => exact ⟨[], by simp, Nat.toList_repr⟩
  | negSucc n =>
    have minus : isDigit '-' = false := by decide
    refine ⟨['-'], by simp [minus], ?_⟩
    change ("-" ++ Nat.repr (n + 1)).toList = _
    rw [String.toList_append, Nat.toList_repr]
    rfl

/-- No blank is a digit: the runs of the ones and the others are apart. -/
theorem blankRanges_apart : ∀ r ∈ blankRanges, ∀ z ∈ zeros, r.2 < z ∨ z + 9 < r.1 := by decide

theorem not_isDigit_of_isBlank {c : Char} (blank : isBlank c = true) : isDigit c = false := by
  obtain ⟨r, member, bounds⟩ := List.any_eq_true.1 blank
  simp only [Bool.and_eq_true, decide_eq_true_eq] at bounds
  have apart := blankRanges_apart r member
  have none_such : digit? c = none := by
    unfold digit?
    split
    · have ascii := apart 48 (by decide)
      rw [if_neg (by omega)]
    · rw [Option.map_eq_none_iff, List.find?_eq_none]
      intro z zero
      have other := apart z zero
      simp only [Bool.and_eq_true, decide_eq_true_eq]
      omega
  rw [isDigit, none_such]
  rfl

/-- What stands in front of a text and has no digit does not change its first run. -/
theorem firstRun_free_append {free cs : List Char} (h : ∀ c ∈ free, isDigit c = false) :
    firstRun (free ++ cs) = firstRun cs := by
  rw [firstRun, List.dropWhile_append_of_pos (by simpa using h), firstRun]

theorem firstRun_ne_nil {cs : List Char} {c : Char} (there : c ∈ cs) (digit : isDigit c = true) :
    firstRun cs ≠ [] := by
  induction cs with
  | nil => cases there
  | cons d cs ih =>
    by_cases first : isDigit d = true
    · simp [firstRun, first]
    · have later : c ∈ cs := by
        rcases List.mem_cons.1 there with rfl | later
        · exact absurd digit first
        · exact later
      have rest := ih later
      simpa [firstRun, first] using rest

/-- What stands behind a text and has no digit does not change its first run. -/
theorem firstRun_append_free {cs free : List Char} (h : ∀ c ∈ free, isDigit c = false) :
    firstRun (cs ++ free) = firstRun cs := by
  have skipped : free.dropWhile (fun c => !isDigit c) = [] := by
    rw [← List.append_nil free, List.dropWhile_append_of_pos (by simpa using h), List.dropWhile_nil]
  have stops : free.takeWhile isDigit = [] := by
    cases free with
    | nil => rfl
    | cons c rest => rw [List.takeWhile_cons_of_neg (by simp [h c List.mem_cons_self])]
  unfold firstRun
  rw [List.dropWhile_append]
  split
  · next none_there =>
    rw [skipped, List.isEmpty_iff.1 none_there]
  · rw [List.takeWhile_append, stops, List.append_nil]
    split
    · next whole => exact ((List.takeWhile_prefix isDigit).eq_of_length whole).symm
    · rfl

theorem firstRun_trimmed (cs : List Char) : firstRun (trimmed cs) = firstRun cs := by
  obtain ⟨front, behind, blank, blank', split⟩ := split_trimmed cs
  have whole : firstRun (front ++ trimmed cs ++ behind) = firstRun (trimmed cs) := by
    rw [firstRun_append_free fun c there => not_isDigit_of_isBlank (blank' c there),
      firstRun_free_append fun c there => not_isDigit_of_isBlank (blank c there)]
  rw [← whole, split]

end Text

namespace Shop

open Text

theorem numberIn_eq_ok_iff {text : String} {n : Nat} :
    numberIn text = .ok n ↔ Reading.of text = .number n := by
  unfold numberIn
  split <;> simp_all

theorem textValue_eq_str_iff {text : Option String} {s : String} :
    textValue text = .str s ↔ text = some s := by
  cases text <;> simp [textValue]

/-- What a text can say: nothing, something too long, or a number. -/
theorem reading_cases (text : String) :
    (firstRun text.toList = [] ∧ Reading.of text = .absent) ∨
    (digitLimit < (firstRun text.toList).length ∧
      Reading.of text = .tooLong (firstRun text.toList).length) ∨
    (firstRun text.toList ≠ [] ∧ (firstRun text.toList).length ≤ digitLimit ∧
      Reading.of text = .number (decimalValue (firstRun text.toList))) := by
  unfold Reading.of Reading.ofChars
  dsimp only
  split
  · next empty => exact .inl ⟨List.isEmpty_iff.1 empty, rfl⟩
  · next some_digit =>
    split
    · next long => exact .inr (.inl ⟨long, rfl⟩)
    · next fits => exact .inr (.inr ⟨mt List.isEmpty_iff.2 some_digit, Nat.not_lt.1 fits, rfl⟩)

theorem reading_eq_number_iff {text : String} {n : Nat} :
    Reading.of text = .number n ↔ firstRun text.toList ≠ [] ∧
      (firstRun text.toList).length ≤ digitLimit ∧ decimalValue (firstRun text.toList) = n := by
  rcases reading_cases text with ⟨empty, read⟩ | ⟨long, read⟩ | ⟨there, fits, read⟩
  · simp [read, empty]
  · simp [read, Nat.not_le.2 long]
  · simp [read, there, fits]

/-- A price can be read unless its first run of digits is too long; without any it is zero. -/
theorem numberOrZero_eq_ok_iff {text : String} {n : Nat} :
    numberOrZero text = .ok n ↔
      (firstRun text.toList).length ≤ digitLimit ∧ decimalValue (firstRun text.toList) = n := by
  have zero : decimalValue [] = 0 := rfl
  unfold numberOrZero
  rcases reading_cases text with ⟨empty, read⟩ | ⟨long, read⟩ | ⟨-, fits, read⟩
  · simp [read, empty, zero]
  · simp [read, Nat.not_le.2 long]
  · simp [read, fits]

/-- Blanks at its ends do not change what a text says. -/
theorem numberOrZero_strip (s : String) : numberOrZero (Text.strip s) = numberOrZero s := by
  unfold numberOrZero Reading.of Text.strip Reading.ofChars
  rw [String.toList_ofList, Text.firstRun_trimmed]

/-- How a temperature is written. -/
def degrees (t : Int) : String := toString t ++ " ℃"

theorem firstRun_degrees (t : Int) :
    firstRun (degrees t).toList = Nat.toDigits 10 t.natAbs := by
  obtain ⟨sign, free, numeral⟩ := toList_toString_int t
  rw [degrees, String.toList_append, numeral]
  refine firstRun_append free ?_ Nat.toDigits_ne_nil ?_
  · intro c hc
    rw [isDigit, digit?_of_isDigit (isDigit_of_mem_toDigits hc)]
    rfl
  · rintro c rest h
    cases h
    decide

/-- A temperature is read without its sign. -/
theorem reading_degrees (t : Int) :
    Reading.of (degrees t) =
      if t.natAbs < longNumber then .number t.natAbs
      else .tooLong (Nat.toDigits 10 t.natAbs).length := by
  have short := length_toDigits_le_iff t.natAbs
  rw [Reading.of, Reading.ofChars, firstRun_degrees, decimalValue_toDigits]
  by_cases h : t.natAbs < longNumber
  · rw [if_pos h]
    simp [Nat.not_lt.2 (short.2 h)]
  · rw [if_neg h]
    have long : digitLimit < (Nat.toDigits 10 t.natAbs).length := by
      rw [← Nat.not_le, short]
      exact h
    simp [long]

end Shop

theorem Value.text_int {t : Int} (short : t.natAbs < Text.longNumber) :
    Value.text (.int t) = .ok (Value.int t).display := by
  have printable : (Value.int t).printable = true := by
    unfold Text.longNumber at short
    unfold Value.printable Value.writable
    exact decide_eq_true short
  rw [Value.text, if_pos printable]

namespace Pattern

theorem le_runEnd (text : Array Letter) (test : CharTest) (limit i : Nat) :
    i ≤ runEnd text test limit i := by
  induction limit generalizing i with
  | zero => exact Nat.le_refl i
  | succ limit ih =>
    unfold runEnd
    split
    · exact Nat.le_refl i
    · split
      · exact Nat.le_trans (Nat.le_succ i) (ih (i + 1))
      · exact Nat.le_refl i

/-- There is a run at `i` when a character that passes the test stands there. -/
theorem lt_runEnd_iff {text : Array Letter} {test : CharTest} {i : Nat} :
    i < runEnd text test (text.size - i) i ↔ ∃ c, text[i]? = some c ∧ test.has c = true := by
  cases h : text[i]? with
  | none =>
    have past : text.size - i = 0 := by
      have := Array.getElem?_eq_none_iff.1 h
      omega
    rw [past]
    simp [runEnd]
  | some c =>
    obtain ⟨bound, _⟩ := Array.getElem?_eq_some_iff.1 h
    obtain ⟨limit, left⟩ : ∃ limit, text.size - i = limit + 1 := ⟨text.size - i - 1, by omega⟩
    rw [left]
    unfold runEnd
    simp only [h, Option.some.injEq, exists_eq_left']
    split
    · next passes =>
      have := le_runEnd text test limit (i + 1)
      exact ⟨fun _ => passes, fun _ => by omega⟩
    · next fails => simp [fails]

theorem isSome_downFrom {k : Rest} (cs : Captures) (always : ∀ j, (k j cs).isSome = true)
    (i n : Nat) : (downFrom k cs i n).isSome = true := by
  cases n with
  | zero => exact always i
  | succ n =>
    unfold downFrom
    obtain ⟨r, hr⟩ := Option.isSome_iff_exists.1 (always (i + n + 1))
    rw [hr]
    rfl

theorem foundFrom_iff {m : Matcher} {mayStart : Nat → Bool} {n i : Nat} :
    m.foundFrom mayStart n i = true ↔
      ∃ j, i ≤ j ∧ j ≤ i + n ∧ mayStart j = true ∧ (m.first j []).isSome = true := by
  induction n generalizing i with
  | zero =>
    simp only [Matcher.foundFrom, Bool.and_eq_true, Nat.add_zero]
    constructor
    · exact fun h => ⟨i, Nat.le_refl i, Nat.le_refl i, h⟩
    · rintro ⟨j, low, high, h⟩
      obtain rfl := Nat.le_antisymm low high
      exact h
  | succ n ih =>
    simp only [Matcher.foundFrom, Bool.or_eq_true, Bool.and_eq_true, ih]
    constructor
    · rintro (h | ⟨j, low, high, h⟩)
      · exact ⟨i, Nat.le_refl i, by omega, h⟩
      · exact ⟨j, by omega, by omega, h⟩
    · rintro ⟨j, low, high, h⟩
      by_cases here : i = j
      · exact .inl (here ▸ h)
      · exact .inr ⟨j, by omega, by omega, h⟩

/-- A run of one character or more is matched where a character stands that passes the test. -/
theorem isSome_first_chars {text : Array Letter} {test : CharTest} {i : Nat} :
    (((Matcher.chars text test .greedy 1 none none).first i []).isSome = true) ↔
      ∃ c, text[i]? = some c ∧ test.has c = true := by
  rw [← lt_runEnd_iff]
  simp only [Matcher.first, Matcher.chars, Option.getD_none, Nat.min_self, mayFollow, ↓reduceIte]
  split
  · next short => simp; omega
  · next long =>
    have run := isSome_downFrom (k := fun j ds => some (j, ds)) [] (fun _ => rfl) (i + 1)
      (runEnd text test (text.size - i) i - i - 1)
    exact ⟨fun _ => by omega, fun _ => run⟩

end Pattern

namespace Check

/-- The test that the pattern of digits makes of a character. -/
def digitTest : Pattern.CharTest := Pattern.setTest {} true [.kind .digit true]

theorem digitTest_has (c : Char) :
    digitTest.has (.ofChar c) = Text.isDigit c := by
  simp [digitTest, Pattern.setTest, Pattern.SetItem.test, Pattern.CharKind.has,
    Pattern.Letter.ofChar]

/-- The pattern of digits is found in the texts that have one. -/
theorem digits_found_iff {s : String} :
    digits.found s = true ↔ ∃ c ∈ s.toList, Text.isDigit c = true := by
  change (Pattern.Matcher.chars (s.toList.map Pattern.Letter.ofChar).toArray digitTest .greedy 1
    none none).foundFrom _ _ _ = true ↔ _
  rw [Pattern.foundFrom_iff]
  simp only [Pattern.isSome_first_chars, List.getElem?_toArray, List.getElem?_map]
  constructor
  · rintro ⟨j, _, _, _, x, there, passes⟩
    obtain ⟨c, at_j, rfl⟩ := Option.map_eq_some_iff.1 there
    exact ⟨c, List.mem_of_getElem? at_j, digitTest_has c ▸ passes⟩
  · rintro ⟨c, there, digit⟩
    obtain ⟨j, at_j⟩ := List.getElem?_of_mem there
    have bound := (List.getElem?_eq_some_iff.1 at_j).1
    refine ⟨j, Nat.zero_le j, ?_, ?_, .ofChar c, ?_, ?_⟩
    · simp only [List.size_toArray, List.length_map]
      omega
    · simp [Pattern.Node.mayStart, digits, Pattern.Node.beginsAnywhere, Pattern.Node.leadTest?]
    · rw [at_j, Option.map_some]
    · rw [digitTest_has]
      exact digit

/-- The pattern of digits is found in the texts that say a number, be it too long to be read. -/
theorem digits_found_iff_reading {s : String} :
    digits.found s = true ↔ Shop.Reading.of s ≠ .absent := by
  rw [digits_found_iff]
  unfold Shop.Reading.of Shop.Reading.ofChars
  constructor
  · rintro ⟨c, there, digit⟩
    have run := Text.firstRun_ne_nil there digit
    simp only [List.isEmpty_iff, run, ↓reduceIte]
    split <;> simp
  · intro read
    cases run : Text.firstRun s.toList with
    | nil => simp [run] at read
    | cons c rest =>
      have there : c ∈ Text.firstRun s.toList := run ▸ List.mem_cons_self
      refine ⟨c, ?_, Text.isDigit_of_mem_firstRun there⟩
      rw [← Text.split_firstRun s.toList]
      simp [there]

theorem digits_found_degrees (t : Int) : digits.found (Shop.degrees t) = true := by
  have run := Shop.firstRun_degrees t
  obtain ⟨c, there⟩ := List.exists_mem_of_ne_nil _ (Nat.toDigits_ne_nil (n := t.natAbs) (b := 10))
  rw [← run] at there
  refine digits_found_iff.2 ⟨c, ?_, Text.isDigit_of_mem_firstRun there⟩
  rw [← Text.split_firstRun (Shop.degrees t).toList]
  simp [there]

end Check

end Shopwalk
