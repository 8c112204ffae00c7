import Shopwalk.Proofs.CartTotal

/-!
The list of the cart, row by row, and its total. A row that can be read gives one item, whatever the
other rows are like, and each other row one error in the log. The total is found right exactly when
it is the sum of that list.
-/

namespace Shopwalk.Cart

open Shop

/-- What the report of a row that cannot be read opens with. -/
def rowWords : List String := ["Error processing cart row "]

theorem rowReport_opens (i : Nat) (f : Fault) :
    LogEntry.opens rowWords (rowReport i f) = true := by
  have words : Opens rowWords "Error processing cart row " := by decide
  exact (((words.append _).append _).append _).told

theorem rowNote_opens_not (i : Nat) (item : CartItem) :
    LogEntry.opens rowWords (rowNote i (.ok item)) = false := by
  have words : Apart rowWords "Cart item " := by decide
  exact (((((words.append _).append _).append _).append _).append _).untold

/-- The items of the readable rows are returned, and the log reports the others. -/
theorem items_reported {s : Site} (table : TableShown s) :
    Tells (LogEntry.opens rowWords) s items (rowReports s (List.range (rowsOf s).length))
      (.ok ((rowsOf s).filterMap rowItem?)) := by
  have tells : Tells (LogEntry.opens rowWords) s items _ _ :=
    items_tells (by decide) (by decide) (by decide) (by decide) table
  rw [rowNotes_filter rowNote_opens_not rowReport_opens, rowItems_eq] at tells
  exact tells

/-- A row is listed or left out. -/
theorem length_leftOut (faults : Nat → Fault) (rows : List Element) :
    (rows.filterMap rowItem?).length + (leftOut faults rows).length = rows.length := by
  unfold leftOut
  -- The number that the first row has does not matter.
  generalize 0 = k
  induction rows generalizing k with
  | nil => rfl
  | cons row rest ih =>
    have later := ih (k + 1)
    have price := rowItem?_price row
    rw [List.zipIdx_cons, List.filterMap_cons, List.filterMap_cons]
    cases shows : rowItem? row with
    | none =>
      rw [shows] at price
      simp only [← price, Option.map_none, Option.isSome_none, Bool.false_eq_true, ↓reduceIte,
        List.length_cons] at later ⊢
      omega
    | some item =>
      rw [shows] at price
      simp only [← price, Option.map_some, Option.isSome_some, ↓reduceIte,
        List.length_cons] at later ⊢
      omega

theorem items_of_shown {w : World} (unscripted : w.rules = []) (table : TableShown w.site) :
    ∃ after, items w = .ok ((rowsOf w.site).filterMap rowItem?) after := by
  obtain ⟨_, _, -, run⟩ := items_reported table w rfl unscripted
  exact ⟨_, run⟩

/-- What a row shows is told by its cells for the name and the price. -/
theorem rowItem?_congr {row other : Element}
    (name : Catalog.get row.children Selector.itemName =
      Catalog.get other.children Selector.itemName)
    (price : Catalog.get row.children Selector.itemPrice =
      Catalog.get other.children Selector.itemPrice) : rowItem? row = rowItem? other := by
  rw [rowItem?, name, price, rowItem?]

/-- One row among others gives its own item, in its place. -/
theorem items_of_split {w : World} {before behind : List Element} {row : Element}
    (unscripted : w.rules = []) (table : TableShown w.site)
    (split : rowsOf w.site = before ++ row :: behind) :
    ∃ after, items w = .ok (before.filterMap rowItem? ++
      ((rowItem? row).toList ++ behind.filterMap rowItem?)) after := by
  obtain ⟨after, run⟩ := items_of_shown unscripted table
  refine ⟨after, run.trans ?_⟩
  rw [split, List.filterMap_append, ← List.singleton_append, List.filterMap_append]
  cases shows : rowItem? row <;> simp [shows]

/-- The list of the cart has the item of each row that can be read, in row order, and for each other
row the log has an error. What a row gives is told by its own cells: where two carts differ in one
row, they list the same items in front of it and behind it. -/
theorem items_listed_row_by_row {w : World} (unscripted : w.rules = [])
    (table : TableShown w.site) :
    (∀ row item, rowItem? row = some item ↔ Reads row item) ∧
    (∃ faults after notes, items w = .ok ((rowsOf w.site).filterMap rowItem?) after ∧
      after.journal = w.journal ++ notes ∧
      notes.filter (LogEntry.opens ["Error processing cart row "]) =
        leftOut faults (rowsOf w.site) ∧
      ((rowsOf w.site).filterMap rowItem?).length +
        (notes.filter (LogEntry.opens ["Error processing cart row "])).length =
          (rowsOf w.site).length) ∧
    (∀ row other : Element,
      Catalog.get row.children Selector.itemName =
        Catalog.get other.children Selector.itemName →
      Catalog.get row.children Selector.itemPrice =
        Catalog.get other.children Selector.itemPrice → rowItem? row = rowItem? other) ∧
    ∀ before row behind (changed : World) row', rowsOf w.site = before ++ row :: behind →
      changed.rules = [] → TableShown changed.site →
      rowsOf changed.site = before ++ row' :: behind →
      ∃ after after', items w = .ok (before.filterMap rowItem? ++
          ((rowItem? row).toList ++ behind.filterMap rowItem?)) after ∧
        items changed = .ok (before.filterMap rowItem? ++
          ((rowItem? row').toList ++ behind.filterMap rowItem?)) after' := by
  refine ⟨fun _ _ => rowItem?_eq_some_iff, ?_, fun _ _ => rowItem?_congr, ?_⟩
  · obtain ⟨events, notes, told, run⟩ := items_reported table w rfl unscripted
    obtain ⟨faults, reports⟩ := rowReports_eq_leftOut w.site
    rw [reports] at told
    have told : notes.filter (LogEntry.opens ["Error processing cart row "]) =
      leftOut faults (rowsOf w.site) := told
    refine ⟨faults, _, notes, run, rfl, told, ?_⟩
    rw [told, length_leftOut]
  · intro before row behind changed row' split unscripted' table' split'
    obtain ⟨after, run⟩ := items_of_split unscripted table split
    obtain ⟨after', run'⟩ := items_of_split unscripted' table' split'
    exact ⟨after, after', run, run'⟩

/-- A cart of three rows, of which the first has no text for its name and no digit in its price. -/
def patchyCart (second : Element) : World where
  site := { elements :=
    [(Selector.cartTable, [.mk (some "") true true [] []]),
     (Selector.cartRows,
       [.mk (some "") true true
          [(Selector.itemName, [.mk none true true [] []]),
           (Selector.itemPrice, [.mk (some "free") true true [] []])] [],
        second,
        .mk (some "") true true
          [(Selector.itemName, [.mk (some " Almond ") true true [] []]),
           (Selector.itemPrice, [.mk (some "Rs. 150") true true [] []])] []]),
     (Selector.total, [.mk (some "Total: Rupees 150") true true [] []])] }

/-- A row with two prices. -/
def twicePriced : Element :=
  .mk (some "") true true
    [(Selector.itemName, [.mk (some "Aloe") true true [] []]),
     (Selector.itemPrice, [.mk (some "100") true true [] [], .mk (some "200") true true [] []])] []

/-- With two prices the second row is left out, and the others stay as they are when nothing is left
of it. -/
theorem items_listed_row_by_row_patchy :
    (patchyCart twicePriced).rules = [] ∧ TableShown (patchyCart twicePriced).site ∧
    (∃ after notes, items (patchyCart twicePriced) =
        .ok [⟨none, 0⟩, ⟨some " Almond ", 150⟩] after ∧
      after.journal = (patchyCart twicePriced).journal ++ notes ∧
      2 + (notes.filter (LogEntry.opens ["Error processing cart row "])).length = 3) ∧
    ∃ after, items (patchyCart (.mk none false false [] [])) =
      .ok [⟨none, 0⟩, ⟨some " Almond ", 150⟩] after := by
  have table (second : Element) : TableShown (patchyCart second).site := ⟨_, rfl, rfl⟩
  obtain ⟨-, ⟨faults, after, notes, listed, journal, -, count⟩, -, changed⟩ :=
    items_listed_row_by_row (w := patchyCart twicePriced) rfl (table _)
  obtain ⟨-, after', -, listed'⟩ :=
    changed [_] _ [_] (patchyCart (.mk none false false [] [])) _ rfl rfl (table _) rfl
  exact ⟨rfl, table _, ⟨after, notes, listed, journal, count⟩, after', listed'⟩

/-- What makes `n` the right total: the table is there, the total that is shown has `n` as its first
run of digits, which is not too long, and `n` is the sum of the prices that the cart lists. -/
structure RightTotal (w : World) (n : Nat) : Prop where
  table : ∃ e, w.site.resolve (.top Selector.cartTable) = [e] ∧ e.visible = true
  shown : ∃ e text, w.site.resolve (.top Selector.total) = [e] ∧ e.visible = true ∧
    e.text = some text ∧ Text.firstRun text.toList ≠ [] ∧
    (Text.firstRun text.toList).length ≤ Text.digitLimit ∧
    Text.decimalValue (Text.firstRun text.toList) = n
  sum : ∃ found after, items w = .ok found after ∧ n = (found.map CartItem.price).sum

theorem rightTotal_iff {w : World} {n : Nat} (unscripted : w.rules = []) :
    RightTotal w n ↔ TableShown w.site ∧ TotalShown w.site n ∧
      n = ((rowsOf w.site).filterMap rowPrice?).sum := by
  have prices : (fun row => (rowItem? row).map CartItem.price) = rowPrice? :=
    funext rowItem?_price
  constructor
  · rintro ⟨table, ⟨e, text, found, visible, worded, reads⟩, listed, after, run, sum⟩
    refine ⟨table, ⟨e, text, found, visible, worded, reading_eq_number_iff.2 reads⟩, ?_⟩
    obtain ⟨rfl, -⟩ := items_ok unscripted run
    rw [sum, rowItems_eq, List.map_filterMap, prices]
  · rintro ⟨table, ⟨e, text, found, visible, worded, reads⟩, sum⟩
    obtain ⟨after, run⟩ := items_of_shown unscripted table
    refine ⟨table, ⟨e, text, found, visible, worded, reading_eq_number_iff.1 reads⟩, _, after,
      run, ?_⟩
    rw [sum, List.map_filterMap, prices]

/-- The check of the total returns a number exactly when that is the right total, which is zero for
a table without rows, and fails when there is none. -/
theorem total_verified_iff_right {w : World} (unscripted : w.rules = []) :
    (∀ n, (∃ after, verifyTotal w = .ok n after) ↔ RightTotal w n) ∧
    (rowsOf w.site = [] → ∀ n, RightTotal w n → n = 0) ∧
    ((∀ n, ¬ RightTotal w n) → ∃ f after, verifyTotal w = .error f after) := by
  have verified (n : Nat) : (∃ after, verifyTotal w = .ok n after) ↔ RightTotal w n := by
    rw [verifyTotal_ok_iff unscripted, rightTotal_iff unscripted]
  refine ⟨verified, ?_, ?_⟩
  · intro none_there n right
    obtain ⟨-, -, sum⟩ := (rightTotal_iff unscripted).1 right
    rw [sum, none_there]
    rfl
  · intro wrong
    cases run : verifyTotal w with
    | ok n after => exact absurd ((verified n).1 ⟨after, run⟩) (wrong n)
    | error f after => exact ⟨f, after, rfl⟩

theorem total_verified_iff_right_patchy :
    (patchyCart twicePriced).rules = [] ∧ RightTotal (patchyCart twicePriced) 150 ∧
    (∃ after, verifyTotal (patchyCart twicePriced) = .ok 150 after) ∧
    (∀ n, ¬ RightTotal {} n) ∧ ∃ f after, verifyTotal {} = .error f after := by
  obtain ⟨verified, -, -⟩ := total_verified_iff_right (w := patchyCart twicePriced) rfl
  obtain ⟨-, -, failed⟩ := total_verified_iff_right (w := {}) rfl
  have right : RightTotal (patchyCart twicePriced) 150 := by
    refine ⟨⟨_, rfl, rfl⟩, ⟨_, _, rfl, rfl, rfl, ?_⟩, _, _, rfl, rfl⟩
    decide
  have wrong : ∀ n, ¬ RightTotal {} n := by
    intro n right
    obtain ⟨e, found, -⟩ := right.table
    cases found
  exact ⟨rfl, right, (verified 150).2 right, wrong, failed wrong⟩

end Shopwalk.Cart
