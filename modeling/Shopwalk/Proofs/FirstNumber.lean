import Mathlib.Data.Nat.Digits.Defs
import Shopwalk.Proofs.Course
import Shopwalk.Proofs.Numeral

/-!
One rule for all numbers in texts. A text with a digit is cut in one way only into a part without
digits, its first run of digits and a rest that does not go on with a digit; prices, counts and
numbers that have to be there are all the number that this run writes in base ten, and all are
refused when the run is too long. Only a text without a digit is taken differently by each.
-/

namespace Shopwalk

namespace Text

/-- A text cut at its first run of digits. -/
structure Cut (cs before run after : List Char) : Prop where
  whole : before ++ run ++ after = cs
  free : ∀ c ∈ before, isDigit c = false
  digits : ∀ c ∈ run, isDigit c = true
  some_digit : run ≠ []
  stops : ∀ c rest, after = c :: rest → isDigit c = false

theorem digitFree_of_any {cs : List Char} (none_there : cs.any isDigit = false) :
    ∀ c ∈ cs, isDigit c = false := by
  simpa using none_there

theorem cut_at_firstRun {cs : List Char} (some_digit : ∃ c ∈ cs, isDigit c = true) :
    Cut cs (beforeRun cs) (firstRun cs) (afterRun cs) := by
  obtain ⟨c, there, digit⟩ := some_digit
  exact { whole := split_firstRun cs
          free := fun _ => not_isDigit_of_mem_beforeRun
          digits := fun _ => isDigit_of_mem_firstRun
          some_digit := firstRun_ne_nil there digit
          stops := fun _ _ => not_isDigit_of_afterRun_eq_cons }

section
variable {cs before run after before' run' after' : List Char}

theorem Cut.firstRun_eq (cut : Cut cs before run after) : firstRun cs = run := by
  rw [← cut.whole]
  exact firstRun_append cut.free cut.digits cut.some_digit cut.stops

theorem Cut.beforeRun_eq (cut : Cut cs before run after) : beforeRun cs = before := by
  obtain ⟨d, ds, split⟩ := List.exists_cons_of_ne_nil cut.some_digit
  have digit : isDigit d = true := cut.digits d (by rw [split]; exact List.mem_cons_self)
  rw [beforeRun, ← cut.whole, split, List.append_assoc,
    List.takeWhile_append_of_pos (by simpa using cut.free), List.cons_append,
    List.takeWhile_cons_of_neg (by simp [digit]), List.append_nil]

/-- There is one way only to cut a text at its first run of digits. -/
theorem Cut.unique (cut : Cut cs before run after) (other : Cut cs before' run' after') :
    before' = before ∧ run' = run ∧ after' = after := by
  have front : before' = before := by rw [← other.beforeRun_eq, cut.beforeRun_eq]
  have middle : run' = run := by rw [← other.firstRun_eq, cut.firstRun_eq]
  subst front middle
  exact ⟨rfl, rfl, List.append_cancel_left (other.whole.trans cut.whole.symm)⟩

end

theorem filterMap_digit? {ds : List Char} (digits : ∀ c ∈ ds, isDigit c = true) :
    ds.filterMap digit? = ds.map fun c => (digit? c).getD 0 := by
  induction ds with
  | nil => rfl
  | cons c ds ih =>
    rw [List.forall_mem_cons] at digits
    obtain ⟨d, value⟩ := Option.isSome_iff_exists.1 digits.1
    rw [List.filterMap_cons, value, ih digits.2, List.map_cons, value]
    rfl

/-- A run of digits is read in base ten, with the last digit as the least one. -/
theorem decimalValue_eq_ofDigits {ds : List Char} (digits : ∀ c ∈ ds, isDigit c = true) :
    decimalValue ds = Nat.ofDigits 10 (ds.filterMap digit?).reverse := by
  rw [filterMap_digit? digits, Nat.ofDigits_eq_foldr, List.foldr_reverse, List.foldl_map,
    decimalValue]
  congr
  funext n c
  rw [Nat.cast_id, Nat.add_comm]

/-- The numeral of a number is cut out of a text by what stands around it. -/
theorem cut_at_numeral (n : Nat) {before after : List Char}
    (free : ∀ c ∈ before, isDigit c = false)
    (stops : ∀ c rest, after = c :: rest → isDigit c = false) :
    Cut (before ++ Nat.toDigits 10 n ++ after) before (Nat.toDigits 10 n) after where
  whole := rfl
  free := free
  digits c there := by
    rw [isDigit, digit?_of_isDigit (isDigit_of_mem_toDigits there)]
    rfl
  some_digit := Nat.toDigits_ne_nil
  stops := stops

end Text

namespace Shop

open Text

theorem reading_of_cut {text : String} {before run after : List Char}
    (cut : Cut text.toList before run after) :
    Reading.of text =
      if digitLimit < run.length then .tooLong run.length else .number (decimalValue run) := by
  rw [Reading.of, Reading.ofChars, cut.firstRun_eq]
  simp only [List.isEmpty_iff, cut.some_digit, ↓reduceIte]

theorem reading_of_free {text : String} (free : ∀ c ∈ text.toList, isDigit c = false) :
    Reading.of text = .absent := by
  have none_there : firstRun text.toList = [] := by
    rw [← List.append_nil text.toList, firstRun_free_append free]
    rfl
  rw [Reading.of, Reading.ofChars, none_there]
  rfl

/-- The first run of digits of a text is short enough to be read, and it writes `n` in base ten. -/
def Writes (text : String) (n : Nat) : Prop :=
  ∃ before run after, Cut text.toList before run after ∧ run.length ≤ digitLimit ∧
    Nat.ofDigits 10 (run.filterMap digit?).reverse = n

theorem writes_iff {text : String} {n : Nat} : Writes text n ↔ Reading.of text = .number n := by
  constructor
  · rintro ⟨before, run, after, cut, short, value⟩
    rw [reading_of_cut cut, if_neg (Nat.not_lt.2 short), decimalValue_eq_ofDigits cut.digits, value]
  · intro read
    obtain ⟨there, short, value⟩ := reading_eq_number_iff.1 read
    obtain ⟨c, run⟩ := List.exists_mem_of_ne_nil _ there
    have inside : c ∈ text.toList := by
      rw [← split_firstRun text.toList]
      simp [run]
    have cut := cut_at_firstRun ⟨c, inside, isDigit_of_mem_firstRun run⟩
    exact ⟨_, _, _, cut, short, by rw [← decimalValue_eq_ofDigits cut.digits, value]⟩

end Shop

/-- The number that has to be in a text, whatever the log and the rules are. -/
theorem Check.number_run (text : String) (w : World) :
    ∃ after, Check.number (.str text) w = World.ending after (Shop.numberIn text) := by
  have found (u : World) : ∃ after, (do
      let n ← Walk.settle (Shop.numberIn text)
      Walk.note .debug s!"Extracted number: {n}"
      return n : Walk Nat) u = World.ending after (Shop.numberIn text) := by
    cases Shop.numberIn text with
    | ok n => exact ⟨_, rfl⟩
    | error f => exact ⟨u, rfl⟩
  change ∃ after, (do
    if Shop.Reading.of text = .absent then
      Walk.note .error s!"Failed to extract numeric value from text: {text}"
    let n ← Walk.settle (Shop.numberIn text)
    Walk.note .debug s!"Extracted number: {n}"
    return n : Walk Nat)
      { w with journal := w.journal ++ [⟨.debug, s!"Extracting number from text: {text}"⟩] } = _
  split
  · exact found _
  · exact found _

namespace Shop

open Text

/-- Every reader of numbers makes the same of a text: prices and other numbers that may be missing,
counts, and numbers that have to be there. -/
structure AllRead (text : String) (r : Except Fault Nat) : Prop where
  optional : numberOrZeroOf (.str text) = r
  counted : countOf? (.str text) = r.map some
  required : ∀ w, ∃ after, Check.number (.str text) w = World.ending after r

theorem numberOrZeroOf_str (text : String) : numberOrZeroOf (.str text) = numberOrZero text := rfl

/-- The empty text needs no exception: it has no count either way. -/
theorem countOf?_str (text : String) : countOf? (.str text) = count? text := by
  by_cases empty : text = ""
  · subst empty
    rfl
  · have worded : (Value.str text).truthy = true := by simpa [Value.truthy] using empty
    rw [countOf?, if_pos worded]
    rfl

/-- Where there is a number, all readers take it as the one that has to be there. -/
theorem allRead_numberIn {text : String} (present : Reading.of text ≠ .absent) :
    AllRead text (numberIn text) where
  optional := by
    rw [numberOrZeroOf_str, numberOrZero, numberIn]
    cases reading : Reading.of text with
    | absent => exact absurd reading present
    | _ => rfl
  counted := by
    rw [countOf?_str, count?, numberIn]
    cases reading : Reading.of text with
    | absent => exact absurd reading present
    | _ => rfl
  required := Check.number_run text

/-- What the first run of digits says is read by all. -/
theorem allRead_of_cut {text : String} {before run after : List Char}
    (cut : Cut text.toList before run after) :
    AllRead text (if digitLimit < run.length then .error (.numeralTooLong run.length)
      else .ok (Nat.ofDigits 10 (run.filterMap digit?).reverse)) := by
  have present : Reading.of text ≠ .absent := by
    rw [reading_of_cut cut]
    split <;> exact Reading.noConfusion
  have read : AllRead text (numberIn text) := allRead_numberIn present
  rw [numberIn, reading_of_cut cut, decimalValue_eq_ofDigits cut.digits] at read
  split
  · next long => rwa [if_pos long] at read
  · next short => rwa [if_neg short] at read

/-- All numbers in texts follow one rule. A text with a digit can be cut in one way only into a part
without digits, a run of digits and a rest that does not start with one; the run is what is read, in
base ten, unless it is too long, and then it is refused. A text without a digit is zero, has no
count and lacks the number that has to be there. So the numeral of a number is read back from
between any texts that do not touch it with a digit. -/
theorem numbers_read_from_first_run (text : String) :
    ((∃ c ∈ text.toList, isDigit c = true) →
      ∃ before run after, Cut text.toList before run after ∧
        (∀ before' run' after', Cut text.toList before' run' after' →
          before' = before ∧ run' = run ∧ after' = after) ∧
        (run.length ≤ digitLimit →
          AllRead text (.ok (Nat.ofDigits 10 (run.filterMap digit?).reverse))) ∧
        (digitLimit < run.length → AllRead text (.error (.numeralTooLong run.length)) ∧
          (Fault.numeralTooLong run.length).kind = .value)) ∧
    ((∀ c ∈ text.toList, isDigit c = false) →
      numberOrZeroOf (.str text) = .ok 0 ∧ countOf? (.str text) = .ok none ∧
        (∀ w, ∃ after, Check.number (.str text) w = .error (.noNumber text) after) ∧
        (Fault.noNumber text).kind = .value ∧
        (Fault.noNumber text).message = "Could not extract numeric value from: " ++ text) ∧
    ∀ (n : Nat) (before after : String), (Nat.repr n).length ≤ digitLimit →
      (∀ c ∈ before.toList, isDigit c = false) →
      (∀ c rest, after.toList = c :: rest → isDigit c = false) →
      AllRead (before ++ Nat.repr n ++ after) (.ok n) := by
  refine ⟨fun some_digit => ?_, fun free => ?_, fun n before after short free stops => ?_⟩
  · have cut := cut_at_firstRun some_digit
    have read := allRead_of_cut cut
    refine ⟨_, _, _, cut, fun _ _ _ other => cut.unique other, fun short => ?_, fun long => ?_⟩
    · rwa [if_neg (Nat.not_lt.2 short)] at read
    · rw [if_pos long] at read
      exact ⟨read, rfl⟩
  · have absent := reading_of_free free
    refine ⟨?_, ?_, fun w => ?_, rfl, rfl⟩
    · rw [numberOrZeroOf_str, numberOrZero, absent]
    · rw [countOf?_str, count?, absent]
    · have run := Check.number_run text w
      rw [numberIn, absent] at run
      exact run
  · have cut := cut_at_numeral n free stops
    have whole : before.toList ++ Nat.toDigits 10 n ++ after.toList =
        (before ++ Nat.repr n ++ after).toList := by
      rw [String.toList_append, String.toList_append, Nat.toList_repr]
    rw [whole] at cut
    have value : Nat.ofDigits 10 ((Nat.toDigits 10 n).filterMap digit?).reverse = n := by
      rw [← decimalValue_eq_ofDigits cut.digits, decimalValue_toDigits]
    rw [← String.length_toList, Nat.toList_repr] at short
    have read := allRead_of_cut cut
    rwa [if_neg (Nat.not_lt.2 short), value] at read

/-- Digits of two scripts, one digit more than can be read, no digit, and a numeral among words. -/
theorem numbers_read_from_first_run_mixed :
    AllRead "No. ٣7 of 90" (.ok 37) ∧
      AllRead (String.ofList (List.replicate 4301 '7')) (.error (.numeralTooLong 4301)) ∧
      numberOrZeroOf (.str "sold out") = .ok 0 ∧ countOf? (.str "sold out") = .ok none ∧
      AllRead ("Price: " ++ Nat.repr 410 ++ " Rs.") (.ok 410) := by
  refine ⟨?_, ?_, ?_⟩
  · have known : Cut "No. ٣7 of 90".toList "No. ".toList ['٣', '7'] " of 90".toList :=
      ⟨by decide, digitFree_of_any (by decide), List.all_eq_true.1 (by decide), by decide,
        by rintro c rest ⟨⟩; decide⟩
    obtain ⟨_, _, _, -, unique, read, -⟩ :=
      (numbers_read_from_first_run "No. ٣7 of 90").1 ⟨'7', by decide, by decide⟩
    obtain ⟨rfl, rfl, rfl⟩ := unique _ _ _ known
    exact read (by decide)
  · let sevens := List.replicate 4301 '7'
    have digits : ∀ c ∈ sevens, isDigit c = true := by
      intro c there
      rw [List.eq_of_mem_replicate there]
      decide
    have length : sevens.length = 4301 := List.length_replicate
    have some_digit : sevens ≠ [] := fun none_there => by simp [none_there] at length
    have known : Cut (String.ofList sevens).toList [] sevens [] :=
      ⟨by simp, by simp, digits, some_digit, by simp⟩
    obtain ⟨_, _, _, -, unique, -, refused⟩ :=
      (numbers_read_from_first_run (String.ofList sevens)).1
        ⟨'7', by rw [String.toList_ofList]; exact List.mem_replicate.2 ⟨by decide, rfl⟩, by decide⟩
    obtain ⟨rfl, rfl, rfl⟩ := unique _ _ _ known
    have long := (refused (by rw [length]; decide)).1
    rwa [length] at long
  · obtain ⟨-, free, numeral⟩ := numbers_read_from_first_run "sold out"
    obtain ⟨zero, uncounted, -⟩ := free (digitFree_of_any (by decide))
    refine ⟨zero, uncounted,
      numeral 410 "Price: " " Rs." (by decide) (digitFree_of_any (by decide)) ?_⟩
    rintro c rest ⟨⟩
    decide

end Shop

end Shopwalk
