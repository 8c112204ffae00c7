import Shopwalk.Proofs.FailuresTold
import Shopwalk.Proofs.FoundAgain

/-!
The check that items are in the cart, exactly. It compares names when there is something to compare:
the table, a row that can be read, and a name in each of these. Then it passes when every expected
item is listed, and otherwise the log has those that are not, in the order in which they were
expected. In all other cases it fails, unless nothing was expected.
-/

namespace Shopwalk.Cart

open Shop

/-- There are names to compare with: the table is there, some row can be read, and every row that
can has a name. -/
structure Comparable (s : Site) : Prop where
  table : TableShown s
  some_row : ∃ row ∈ rowsOf s, (rowPrice? row).isSome = true
  named : AllNamed s

instance (s : Site) (x : String) : Decidable (Listed s x) := decidable_of_iff _ listed_iff.symm

/-- The expected items that are not listed, in order. -/
def unlisted (s : Site) (expected : List String) : List String :=
  expected.filter fun x => ¬ Listed s x

theorem missingFrom_namesIn (s : Site) (expected : List String) :
    missingFrom (namesIn s) expected = unlisted s expected := by
  unfold missingFrom unlisted
  apply List.filter_congr
  intro x _
  simp [listed_iff]

theorem unlisted_eq_nil_iff {s : Site} {expected : List String} :
    unlisted s expected = [] ↔ ∀ x ∈ expected, Listed s x := by
  rw [unlisted, List.filter_eq_nil_iff]
  simp

/-- What the report of a failed comparison opens with. -/
def failureWords : List String := ["Failed to verify the following items: "]

/-- The report of a comparison in which these items have no match. -/
def failureReport (missing : List String) : List LogEntry :=
  if missing = [] then []
  else [⟨.error,
    s!"Failed to verify the following items: {(Value.list (missing.map .str)).display}"⟩]

theorem rowNotes_untold (s : Site) (numbers : List Nat) :
    (rowNotes s numbers).filter (LogEntry.opens failureWords) = [] := by
  have listed : Apart failureWords "Cart item " := by decide
  have left : Apart failureWords "Error processing cart row " := by decide
  rw [List.filter_eq_nil_iff, rowNotes, List.forall_mem_map]
  intro i _
  rw [Bool.not_eq_true]
  cases rowItem s (rowAt i) with
  | ok item => exact (((((listed.append _).append _).append _).append _).append _).untold
  | error f => exact (((left.append _).append _).append _).untold

theorem comparisonNotes_untold (names : List Value) (normal texts : List String) :
    (comparisonNotes names normal texts).filter (LogEntry.opens failureWords) = [] := by
  have begun : Apart failureWords "Verifying cart items" := by decide
  have expected : Apart failureWords "Expected items: " := by decide
  have actual : Apart failureWords "Actual items in cart: " := by decide
  have found : Apart failureWords "✓ Found match for: " := by decide
  have failed : Apart failureWords "❌ Failed to find match for: " := by decide
  rw [List.filter_eq_nil_iff]
  intro n noted
  simp only [comparisonNotes, List.mem_cons, List.mem_map] at noted
  rw [Bool.not_eq_true]
  rcases noted with rfl | rfl | rfl | ⟨x, -, rfl⟩
  · exact begun.untold
  · exact (expected.append _).untold
  · exact (actual.append _).untold
  · unfold matchNote
    split
    · exact (found.append _).untold
    · exact (failed.append _).untold

theorem items_unsaid {s : Site} (table : TableShown s) :
    Tells (LogEntry.opens failureWords) s items []
      (.ok (rowItems s (List.range (rowsOf s).length))) := by
  have tells : Tells (LogEntry.opens failureWords) s items _ _ :=
    items_tells (by decide) (by decide) (by decide) (by decide) table
  rw [rowNotes_untold] at tells
  exact tells

/-- The last part of a comparison says what is missing, if anything is, and captures evidence of
that. -/
theorem conclude_run (missing : List String) {w : World} (keepable : Evidence.Keepable w.disk) :
    ∃ after notes, conclude (missing.map .str) w = .ok (decide (missing = [])) after ∧
      after.journal = w.journal ++ notes ∧
      notes.filter (LogEntry.opens failureWords) = failureReport missing := by
  have passed : Apart failureWords "Successfully verified all items in cart" := by decide
  have failed : Opens failureWords "Failed to verify the following items: " := by decide
  cases missing with
  | nil =>
    refine ⟨_, [⟨.success, "Successfully verified all items in cart"⟩], rfl, rfl, ?_⟩
    simp [failureReport, passed.untold]
  | cons x rest =>
    let report : LogEntry := ⟨.error,
      s!"Failed to verify the following items: {(Value.list ((x :: rest).map .str)).display}"⟩
    let noted : World := { w with journal := w.journal ++ [report] }
    have told : LogEntry.opens failureWords report = true := (failed.append _).told
    obtain ⟨after, _, captured, -⟩ :=
      Evidence.capture_of_keepable "cart_verification_error" (w := noted) keepable
    have unsaid : Stays (Unmentioned (LogEntry.opens failureWords))
        (Evidence.capture "cart_verification_error") :=
      Unmentioned.capture (by decide) (by decide) (by decide) _
    obtain ⟨more, added, silent⟩ := (unsaid.of_ok captured).silent
    have run : conclude ((x :: rest).map .str) w =
        (Evidence.capture "cart_verification_error" >>= fun _ => pure false) noted := by
      have words : Walk.textOf (.list ((x :: rest).map .str)) w = .ok _ w :=
        settle_ok_iff.2 ⟨text_texts (x :: rest), rfl⟩
      exact bind_of_ok words
    refine ⟨after, report :: more, ?_, ?_, ?_⟩
    · rw [run, bind_of_ok captured]
      rfl
    · rw [added, List.append_assoc]
      rfl
    · rw [List.filter_cons_of_pos told, silent]
      rfl

theorem truthy_texts {expected : List String} (some_expected : expected ≠ []) :
    (Value.list (expected.map .str)).truthy = true := by
  cases expected with
  | nil => exact absurd rfl some_expected
  | cons x rest => rfl

/-- Where there are names to compare with, the comparison passes when nothing is unlisted, and says
what is. -/
theorem compareItems_run {w : World} {expected : List String} (unscripted : w.rules = [])
    (keepable : Evidence.Keepable w.disk) (some_expected : expected ≠ [])
    (comparable : Comparable w.site) :
    ∃ after notes, compareItems (.list (expected.map .str)) w =
        .ok (decide (unlisted w.site expected = [])) after ∧
      after.journal = w.journal ++ notes ∧
      notes.filter (LogEntry.opens failureWords) = failureReport (unlisted w.site expected) := by
  have some_item : ¬ (rowItems w.site (List.range (rowsOf w.site).length)).isEmpty = true := by
    obtain ⟨row, there, readable⟩ := comparable.some_row
    obtain ⟨item, shows⟩ := isSome_rowPrice?_iff.1 readable
    rw [rowItems_eq, List.isEmpty_iff]
    exact List.ne_nil_of_mem (List.mem_filterMap.2 ⟨row, there, shows⟩)
  -- The list, the comparison and its conclusion, one after the other; only the last one reports.
  obtain ⟨events, notes, told, listed⟩ := items_unsaid comparable.table w rfl unscripted
  obtain ⟨events', notes', told', compared⟩ :=
    findMissing_tells (LogEntry.opens failureWords) (names_normalized comparable.named) expected
      { w with trace := w.trace ++ events, journal := w.journal ++ notes } rfl unscripted
  rw [missingFrom_namesIn] at compared
  rw [comparisonNotes_untold] at told'
  obtain ⟨after, notes'', concluded, journal, told''⟩ :=
    conclude_run (unlisted w.site expected) (w := { w with
      trace := w.trace ++ events ++ events', journal := w.journal ++ notes ++ notes' }) keepable
  refine ⟨after, notes ++ notes' ++ notes'', ?_, ?_, ?_⟩
  · unfold compareItems
    rw [truthy_texts some_expected]
    refine (bind_of_ok listed).trans ?_
    rw [if_neg some_item, compareNames_eq]
    exact (bind_of_ok compared).trans concluded
  · rw [journal]
    simp only [List.append_assoc]
  · rw [List.filter_append, List.filter_append, told, told', told'']
    rfl

/-- A check that passes has had names to compare with, if something was expected. -/
theorem comparable_of_verified {w after : World} {expected : Value} (unscripted : w.rules = [])
    (some_expected : expected.truthy = true) (run : verifyItems expected w = .ok true after) :
    Comparable w.site := by
  have compared : compareItems expected w = .ok true after :=
    (Evidence.recovering_ok_iff_of_ne fun _ => Bool.false_ne_true).1 run
  unfold compareItems at compared
  rw [some_expected] at compared
  obtain ⟨found, w₁, listed, rest⟩ := bind_ok_iff.1 compared
  have table := tableShown_of_items unscripted listed
  obtain ⟨rfl, -⟩ := items_ok unscripted listed
  rw [rowItems_eq] at rest
  split at rest
  · -- A cart without items has failed the check.
    obtain ⟨_, _, -, rest⟩ := bind_ok_iff.1 rest
    obtain ⟨_, _, -, returned⟩ := bind_ok_iff.1 rest
    cases returned
  · next some_item =>
    obtain ⟨_, -, normal, normalised, -⟩ := compareNames_true rest
    refine ⟨table, ?_, ?_⟩
    · obtain ⟨item, member⟩ := List.exists_mem_of_ne_nil _ (mt List.isEmpty_iff.2 some_item)
      obtain ⟨row, there, shows⟩ := List.mem_filterMap.1 member
      exact ⟨row, there, isSome_rowPrice?_iff.2 ⟨item, shows⟩⟩
    · intro row there readable
      obtain ⟨item, shows⟩ := isSome_rowPrice?_iff.1 readable
      obtain ⟨texts, worded, -⟩ := mapM_normalizedNameOf_iff.1 normalised
      have listed := List.mem_map_of_mem (f := fun item => textValue item.name)
        (List.mem_filterMap.2 ⟨row, there, shows⟩)
      rw [worded] at listed
      obtain ⟨name, -, same⟩ := List.mem_map.1 listed
      exact ⟨name, named_of_rowItem? shows (textValue_eq_str_iff.1 same.symm)⟩

/-- The check of the items of a cart has an answer wherever evidence can be kept. It passes exactly
when nothing is expected, or there are names to compare with and every expected item is listed; and
when it compares, it reports exactly the expected items that are not listed. -/
theorem items_found_iff_listed {w : World} (expected : List String) (unscripted : w.rules = [])
    (home : w.disk.isDirectory "." = true)
    (free : ∀ content, w.disk.lookup "./errors" ≠ some (.file content)) :
    ∃ verdict after, verifyItems (.list (expected.map .str)) w = .ok verdict after ∧
      (verdict = true ↔
        expected = [] ∨ (Comparable w.site ∧ ∀ x ∈ expected, Listed w.site x)) ∧
      (expected ≠ [] → Comparable w.site → ∃ notes, after.journal = w.journal ++ notes ∧
        notes.filter (LogEntry.opens ["Failed to verify the following items: "]) =
          failureReport (unlisted w.site expected)) := by
  have keepable : Evidence.Keepable w.disk := (Evidence.keepable_iff home).2 free
  by_cases nothing : expected = []
  · rw [nothing]
    exact ⟨true, _, rfl, by simp, fun some_expected => absurd rfl some_expected⟩
  · by_cases comparable : Comparable w.site
    · obtain ⟨after, notes, run, journal, told⟩ :=
        compareItems_run unscripted keepable nothing comparable
      refine ⟨_, after, Evidence.recovering_of_ok run, ?_, fun _ _ => ⟨notes, journal, told⟩⟩
      rw [decide_eq_true_iff, unlisted_eq_nil_iff]
      simp [nothing, comparable]
    · -- The check answers all the same, and it cannot have passed.
      obtain ⟨verdict, after, run⟩ :=
        (Telling.verifyItems (.list (expected.map .str))).tells.answers w keepable
      refine ⟨verdict, after, run, ?_, fun _ there => absurd there comparable⟩
      constructor
      · rintro rfl
        exact absurd (comparable_of_verified unscripted (truthy_texts nothing) run) comparable
      · rintro (empty | ⟨there, -⟩)
        · exact absurd empty nothing
        · exact absurd there comparable

/-- Of three expected items the second is not in the cart, and that is what is reported; on an empty
page the answer is no. -/
theorem items_found_iff_listed_partly :
    let cart := cartOf ["Rose Water", "ALOE-Vera"]
    cart.rules = [] ∧ cart.disk.isDirectory "." = true ∧ cart.disk.lookup "./errors" = none ∧
    (∃ after notes,
      verifyItems (.list (["aloe vera", "Almond", "rose"].map .str)) cart = .ok false after ∧
      after.journal = cart.journal ++ notes ∧
      notes.filter (LogEntry.opens ["Failed to verify the following items: "]) =
        [⟨.error, "Failed to verify the following items: ['Almond']"⟩]) ∧
    ∃ after, verifyItems (.list (["Almond"].map .str)) {} = .ok false after := by
  intro cart
  have home : Disk.fresh.isDirectory "." = true := by decide
  have vacant : Disk.fresh.lookup "./errors" = none := by decide
  have free : ∀ content, Disk.fresh.lookup "./errors" ≠ some (.file content) := by simp [vacant]
  have comparable : Comparable cart.site := by
    refine ⟨⟨_, rfl, rfl⟩, ⟨_, List.mem_cons_self, rfl⟩, ?_⟩
    intro row there _
    obtain ⟨name, -, rfl⟩ := List.mem_map.1 there
    exact ⟨name, rfl, _, rfl, rfl⟩
  have missing : unlisted cart.site ["aloe vera", "Almond", "rose"] = ["Almond"] := by
    rw [← missingFrom_namesIn]
    decide +kernel
  obtain ⟨verdict, after, run, passes, reports⟩ :=
    items_found_iff_listed (w := cart) ["aloe vera", "Almond", "rose"] rfl home free
  obtain ⟨notes, journal, told⟩ := reports (by simp) comparable
  obtain ⟨answer, later, run', passes', -⟩ :=
    items_found_iff_listed (w := {}) ["Almond"] rfl home free
  have refused : verdict = false := by
    rw [Bool.eq_false_iff, Ne, passes, ← unlisted_eq_nil_iff, missing]
    simp
  have refused' : answer = false := by
    rw [Bool.eq_false_iff, Ne, passes']
    rintro (nothing | ⟨⟨⟨e, found, -⟩, -, -⟩, -⟩)
    · cases nothing
    · cases found
  rw [missing] at told
  rw [refused] at run
  rw [refused'] at run'
  exact ⟨rfl, home, vacant, ⟨after, notes, run, journal, told⟩, later, run'⟩

end Shopwalk.Cart
