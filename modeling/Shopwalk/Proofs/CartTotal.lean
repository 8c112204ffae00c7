import Mathlib.Algebra.Ring.Nat
import Mathlib.Data.List.Basic
import Shopwalk.Cart
import Shopwalk.Proofs.Evidence
import Shopwalk.Proofs.Numeral
import Shopwalk.Proofs.Told

/-!
What the check of the cart's total covers. A row that cannot be read is reported and left out of the
sum, so that a total stands for all rows when no row has been reported.
-/

namespace Shopwalk.Cart

open Shop

/-- What the price cell of a row shows, when the row can be read: its name and its price have one
cell each, and the price has a text whose number is not too long. -/
def rowPrice? (row : Element) : Option Nat :=
  match Catalog.get row.children Selector.itemName, Catalog.get row.children Selector.itemPrice with
  | [_], [cell] => cell.text.bind fun text => (numberOrZero text).toOption
  | _, _ => none

/-- The report of a row that cannot be read. -/
def rowReport (i : Nat) (f : Fault) : LogEntry :=
  ⟨.error, s!"Error processing cart row {i}: {f.message}"⟩

/-- The reports of the rows that are left out, one for each, by its number. -/
def leftOut (faults : Nat → Fault) (rows : List Element) : List LogEntry :=
  rows.zipIdx.filterMap fun (row, i) =>
    if (rowPrice? row).isSome then none else some (rowReport i (faults i))

/-- The rows of the cart. -/
def rowsOf (s : Site) : List Element := s.resolve (.top Selector.cartRows)

/-- Where row `i` stands. -/
def rowAt (i : Nat) : Locator := .nth (.top Selector.cartRows) (Int.ofNat i)

/-- What reading a row comes to. -/
def rowItem (s : Site) (row : Locator) : Except Fault CartItem := do
  let name ← (s.one (row.inside Selector.itemName)).map Element.text
  let priceText ← (s.one (row.inside Selector.itemPrice)).map Element.text
  let price ← numberOrZeroOf (textValue priceText)
  return ⟨name, price⟩

/-- The items of the readable ones among some rows. -/
def rowItems (s : Site) (numbers : List Nat) : List CartItem :=
  numbers.filterMap fun i => (rowItem s (rowAt i)).toOption

def rowReports (s : Site) (numbers : List Nat) : List LogEntry :=
  numbers.filterMap fun i => (faultOf (rowItem s (rowAt i))).map (rowReport i)

theorem readRow_yields (s : Site) (row : Locator) :
    Yields s (readRow row) [] (rowItem s row) := by
  refine (Follows.textContent _).yields.andThen fun name => ?_
  refine (Follows.textContent _).yields.andThen fun priceText => ?_
  refine (Follows.settle _).yields.andThen fun price => ?_
  exact (Follows.pure _).yields

/-- What is noted of row `i`. -/
def rowNote (i : Nat) : Except Fault CartItem → LogEntry
  | .ok item => ⟨.debug, s!"Cart item {i + 1}: {(textValue item.name).display} = {item.price}"⟩
  | .error f => rowReport i f

/-- What is noted of some rows. -/
def rowNotes (s : Site) (numbers : List Nat) : List LogEntry :=
  numbers.map fun i => rowNote i (rowItem s (rowAt i))

/-- The reports are the notes of the rows that cannot be read. -/
theorem rowNotes_filter {kind : LogEntry → Bool}
    (read : ∀ i item, kind (rowNote i (.ok item)) = false)
    (unread : ∀ i f, kind (rowReport i f) = true) (s : Site) (numbers : List Nat) :
    (rowNotes s numbers).filter kind = rowReports s numbers := by
  induction numbers with
  | nil => rfl
  | cons i rest ih =>
    have head : List.filter kind [rowNote i (rowItem s (rowAt i))] =
        ((faultOf (rowItem s (rowAt i))).map (rowReport i)).toList := by
      cases rowItem s (rowAt i) with
      | ok item => simp [read, faultOf]
      | error f => simp [rowNote, unread, faultOf]
    rw [rowNotes, List.map_cons, ← List.singleton_append, List.filter_append, head]
    change _ ++ (rowNotes s rest).filter kind = _
    rw [ih]
    simp only [rowReports, List.filterMap_cons]
    cases (faultOf (rowItem s (rowAt i))).map (rowReport i) <;> rfl

theorem readRow_unsaid {kind : LogEntry → Bool} (row : Locator) :
    Stays (Unmentioned kind) (readRow row) := by
  refine (Stays.textContent _).bind fun _ => (Stays.textContent _).bind fun _ => ?_
  exact (Stays.settle _).bind fun _ => Stays.pure _

/-- A row that cannot be read costs that row only. Each one is noted by itself. -/
theorem readRows_tells (kind : LogEntry → Bool) (s : Site) (k n : Nat) :
    Tells kind s (readRows k ((List.range' k n).map rowAt))
      ((rowNotes s (List.range' k n)).filter kind) (.ok (rowItems s (List.range' k n))) := by
  induction n generalizing k with
  | zero => exact .pure _
  | succ n ih =>
    rw [List.range'_succ, List.map_cons, rowNotes, List.map_cons, rowItems, List.filterMap_cons]
    refine .after (readRow_yields s (rowAt k)).attempt (readRow_unsaid _).attempt ?_
    cases rowItem s (rowAt k) with
    | ok item => exact .note_bind (.before (ih (k + 1)) (.pure _))
    | error f => exact .note_bind (ih (k + 1))

/-- The table of the cart is there. -/
def TableShown (s : Site) : Prop :=
  ∃ e, s.resolve (.top Selector.cartTable) = [e] ∧ e.visible = true

/-- The total on the page is this number. -/
def TotalShown (s : Site) (n : Nat) : Prop :=
  ∃ e text, s.resolve (.top Selector.total) = [e] ∧ e.visible = true ∧ e.text = some text ∧
    Reading.of text = .number n

theorem readTable_tells {kind : LogEntry → Bool} {s : Site}
    (visible : ∀ place timeout, Stays (Unmentioned kind) (Check.visible place timeout))
    (none_there : kind ⟨.warning, "No items found in cart"⟩ = false)
    (some_there : ∀ n : Nat, kind ⟨.info, s!"Found {n} items in cart"⟩ = false)
    (shown : TableShown s) :
    Tells kind s readTable ((rowNotes s (List.range (rowsOf s).length)).filter kind)
      (.ok (rowItems s (List.range (rowsOf s).length))) := by
  refine .after (Yields.visible shown) (visible _ _) ?_
  refine .after (Follows.count _).yields (Stays.count _) ?_
  change Tells kind s (if (rowsOf s).length = 0 then _ else _) _ _
  split
  · next empty =>
    rw [empty]
    exact .after (Follows.note _ _).yields (Unmentioned.note none_there) (.pure _)
  · refine .after (Follows.note _ _).yields (Unmentioned.note (some_there _)) ?_
    have rows := readRows_tells kind s 0 (rowsOf s).length
    rw [← List.range_eq_range'] at rows
    exact rows

/-- What the list of the cart says in some words that only the notes of its rows may open with. -/
theorem items_tells {words : List String} {s : Site}
    (asked : Apart words "Verifying element is visible: ")
    (seen : Apart words "Element visible: ") (none_there : Apart words "No items found in cart")
    (some_there : Apart words "Found ") (shown : TableShown s) :
    Tells (LogEntry.opens words) s items
      ((rowNotes s (List.range (rowsOf s).length)).filter (LogEntry.opens words))
      (.ok (rowItems s (List.range (rowsOf s).length))) := by
  have tells := readTable_tells (Unmentioned.visible_of_apart asked seen) none_there.untold
    (fun n => ((some_there.append (toString n)).append " items in cart").untold) shown
  exact tells.reporting _ _

theorem readTable_yields {s : Site} (shown : TableShown s) :
    Yields s readTable (rowReports s (List.range (rowsOf s).length))
      (.ok (rowItems s (List.range (rowsOf s).length))) := by
  have tells := readTable_tells Unmentioned.visible_calm rfl (fun _ => rfl) shown
  rw [rowNotes_filter (fun _ _ => rfl) fun _ _ => rfl] at tells
  exact tells

theorem readTable_refused {s : Site} (hidden : ¬ TableShown s) :
    ∃ f, Yields s readTable [] (.error f) := by
  obtain ⟨f, refused⟩ := Yields.visible_refused hidden
  exact ⟨f, refused.bind_error⟩

theorem displayedTotal_yields {s : Site} {e : Element}
    (found : s.resolve (.top Selector.total) = [e]) (visible : e.visible = true)
    {errors : List LogEntry} {r : Except Fault Nat}
    (reads : Yields s (Check.number (textValue e.text)) errors r) :
    Yields s displayedTotal errors r := by
  refine (Follows.note _ _).yields.bind_calm ?_
  refine (Yields.visible ⟨e, found, visible⟩).bind_calm ?_
  refine (Yields.textContent found).bind_calm ?_
  refine (Follows.note _ _).yields.bind_calm ?_
  cases r with
  | error f => exact reads.bind_error
  | ok n =>
    have rest := reads.bind (f := fun n => do
        Walk.note .debug s!"Extracted total: {n}"
        pure n)
      ((Follows.note _ _).yields.bind_calm (Follows.pure n).yields)
    rwa [List.append_nil] at rest

theorem displayedTotal_of_shown {s : Site} {n : Nat} (shown : TotalShown s n) :
    Yields s displayedTotal [] (.ok n) := by
  obtain ⟨e, text, found, visible, worded, reads⟩ := shown
  apply displayedTotal_yields found visible
  have number := Check.number_yields s text
  rw [numberIn_eq_ok_iff.2 reads, Check.numberReports, reads] at number
  rw [worded]
  exact number

/-- Where no total is shown, none is returned. -/
theorem displayedTotal_refused {s : Site} (unshown : ∀ n, ¬ TotalShown s n) :
    ∃ errors f, Yields s displayedTotal errors (.error f) := by
  by_cases there : ∃ e, s.resolve (.top Selector.total) = [e] ∧ e.visible = true
  · obtain ⟨e, found, visible⟩ := there
    cases worded : e.text with
    | none =>
      have number : Yields s (Check.number (textValue e.text)) []
          (.error (.notSearchable "NoneType")) := by
        rw [worded]
        exact Check.number_none_yields s
      exact ⟨[], _, displayedTotal_yields found visible number⟩
    | some text =>
      have number : Yields s (Check.number (textValue e.text)) (Check.numberReports text)
          (numberIn text) := by
        rw [worded]
        exact Check.number_yields s text
      cases read : numberIn text with
      | ok n =>
        exact absurd ⟨e, text, found, visible, worded, numberIn_eq_ok_iff.1 read⟩ (unshown n)
      | error f => exact ⟨_, f, displayedTotal_yields found visible (read ▸ number)⟩
  · obtain ⟨f, refused⟩ := Yields.visible_refused there
    exact ⟨[], f, (Follows.note _ _).yields.bind_calm refused.bind_error⟩

/-- What a row shows, when it can be read: the text of its name, if that has one, and its price. -/
def rowItem? (row : Element) : Option CartItem :=
  match Catalog.get row.children Selector.itemName, Catalog.get row.children Selector.itemPrice with
  | [name], [cell] =>
    cell.text.bind fun text => (numberOrZero text).toOption.map (CartItem.mk name.text)
  | _, _ => none

theorem rowItem?_price (row : Element) : (rowItem? row).map CartItem.price = rowPrice? row := by
  unfold rowItem? rowPrice?
  split
  · next cell _ _ =>
    cases cell.text with
    | none => rfl
    | some text => cases read : numberOrZero text <;> simp [read, Except.toOption]
  · rfl

/-- A row has a price when it has an item. -/
theorem isSome_rowPrice?_iff {row : Element} :
    (rowPrice? row).isSome = true ↔ ∃ item, rowItem? row = some item := by
  rw [← rowItem?_price, Option.isSome_map, Option.isSome_iff_exists]

/-- A row that can be read, and its item: the name and the price have one cell each, the first run
of digits in the text of the price is not too long, and what the name says is taken as it is. -/
structure Reads (row : Element) (item : CartItem) : Prop where
  name : ∃ cell, Catalog.get row.children Selector.itemName = [cell] ∧ item.name = cell.text
  price : ∃ cell text, Catalog.get row.children Selector.itemPrice = [cell] ∧
    cell.text = some text ∧ (Text.firstRun text.toList).length ≤ Text.digitLimit ∧
    item.price = Text.decimalValue (Text.firstRun text.toList)

theorem rowItem?_eq_some_iff {row : Element} {item : CartItem} :
    rowItem? row = some item ↔ Reads row item := by
  constructor
  · intro shows
    unfold rowItem? at shows
    split at shows
    · next name cell named priced =>
      obtain ⟨text, worded, shows⟩ := Option.bind_eq_some_iff.1 shows
      obtain ⟨n, number, rfl⟩ := Option.map_eq_some_iff.1 shows
      obtain ⟨short, value⟩ := numberOrZero_eq_ok_iff.1 (toOption_eq_some_iff.1 number)
      exact ⟨⟨name, named, rfl⟩, cell, text, priced, worded, short, value.symm⟩
    · cases shows
  · rintro ⟨⟨name, named, same⟩, cell, text, priced, worded, short, value⟩
    have read := numberOrZero_eq_ok_iff.2 ⟨short, value.symm⟩
    rw [rowItem?, named, priced]
    simp only [worded, Option.bind_some, toOption_eq_some_iff.2 read, Option.map_some, ← same]

/-- A row reads as what its cells show. -/
theorem rowItem_toOption {s : Site} {i : Nat} {row : Element} (there : (rowsOf s)[i]? = some row) :
    (rowItem s (rowAt i)).toOption = rowItem? row := by
  have cells (selector : String) :
      s.resolve ((rowAt i).inside selector) = Catalog.get row.children selector :=
    Site.resolve_nth_inside there selector
  unfold rowItem rowItem? Site.one
  rw [cells, cells]
  rcases Catalog.get row.children Selector.itemName with _ | ⟨name, _ | ⟨_, _⟩⟩
  · rfl
  · rcases Catalog.get row.children Selector.itemPrice with _ | ⟨cell, _ | ⟨_, _⟩⟩
    · rfl
    · cases text : cell.text with
      | none => simp only [Except.map, text]; rfl
      | some t =>
        simp only [Except.map, text]
        change (do return CartItem.mk name.text (← numberOrZero t) : Except _ _).toOption =
          (numberOrZero t).toOption.map (CartItem.mk name.text)
        cases numberOrZero t <;> rfl
    · rfl
  · rfl

theorem rowItem_price {s : Site} {i : Nat} {row : Element} (there : (rowsOf s)[i]? = some row) :
    (rowItem s (rowAt i)).toOption.map CartItem.price = rowPrice? row := by
  rw [rowItem_toOption there, rowItem?_price]

theorem totalPrice_eq_sum (items : List CartItem) :
    totalPrice items = (items.map CartItem.price).sum := by
  induction items with
  | nil => rfl
  | cons item rest ih => rw [totalPrice, ih, List.map_cons, List.sum_cons]

theorem range_eq_map_zipIdx (rows : List Element) :
    List.range rows.length = rows.zipIdx.map Prod.snd := by
  rw [List.zipIdx_map_snd, List.range_eq_range']

/-- The items of a cart are what its rows show, each by itself and in row order. -/
theorem rowItems_eq (s : Site) :
    rowItems s (List.range (rowsOf s).length) = (rowsOf s).filterMap rowItem? := by
  have same : (rowsOf s).zipIdx.filterMap
        ((fun i => (rowItem s (rowAt i)).toOption) ∘ Prod.snd) =
      (rowsOf s).zipIdx.filterMap (rowItem? ∘ Prod.fst) := by
    apply List.filterMap_congr
    rintro ⟨row, i⟩ there
    exact rowItem_toOption (List.mem_zipIdx_iff_getElem?.1 there)
  rw [rowItems, range_eq_map_zipIdx, List.filterMap_map, same, ← List.filterMap_map,
    List.zipIdx_map_fst]

theorem totalPrice_rowItems (s : Site) :
    totalPrice (rowItems s (List.range (rowsOf s).length)) =
      ((rowsOf s).filterMap rowPrice?).sum := by
  have prices : (fun row => (rowItem? row).map CartItem.price) = rowPrice? :=
    funext rowItem?_price
  rw [totalPrice_eq_sum, rowItems_eq, List.map_filterMap, prices]

theorem rowReports_eq_leftOut (s : Site) :
    ∃ faults, rowReports s (List.range (rowsOf s).length) = leftOut faults (rowsOf s) := by
  refine ⟨fun i => (faultOf (rowItem s (rowAt i))).getD .timeout, ?_⟩
  rw [rowReports, range_eq_map_zipIdx, List.filterMap_map]
  apply List.filterMap_congr
  rintro ⟨row, i⟩ there
  have price := rowItem_price (List.mem_zipIdx_iff_getElem?.1 there)
  simp only [Function.comp_apply, ← price]
  cases rowItem s (rowAt i) <;> rfl

/-- No row is left out exactly when none is reported, and then each one counts. -/
theorem prices_of_leftOut_eq_nil {faults : Nat → Fault} {rows : List Element}
    (all : leftOut faults rows = []) :
    rows.map rowPrice? = (rows.filterMap rowPrice?).map some := by
  have readable : ∀ row ∈ rows, (rowPrice? row).isSome = true := by
    intro row there
    obtain ⟨i, at_i⟩ := List.getElem?_of_mem there
    have unreported := List.filterMap_eq_nil_iff.1 all (row, i)
      (List.mem_zipIdx_iff_getElem?.2 at_i)
    simpa [Option.isSome_iff_ne_none] using unreported
  rw [List.map_filterMap_some_eq_filter_map_isSome, List.filter_eq_self.2]
  intro price there
  obtain ⟨row, row_there, rfl⟩ := List.mem_map.1 there
  exact readable row row_there

theorem tableShown_of_items {w after : World} {found : List CartItem} (unscripted : w.rules = [])
    (run : items w = .ok found after) : TableShown w.site := by
  rw [items, Evidence.reporting_ok_iff] at run
  apply Classical.byContradiction
  intro hidden
  obtain ⟨f, refused⟩ := readTable_refused hidden
  cases (refused.of_run rfl unscripted run).1

/-- The items that are returned are those of the readable rows, and the others are reported. -/
theorem items_ok {w after : World} {found : List CartItem} (unscripted : w.rules = [])
    (run : items w = .ok found after) :
    found = rowItems w.site (List.range (rowsOf w.site).length) ∧
      Later w after w.site (rowReports w.site (List.range (rowsOf w.site).length)) := by
  have shown := tableShown_of_items unscripted run
  rw [items, Evidence.reporting_ok_iff] at run
  obtain ⟨same, later⟩ := (readTable_yields shown).of_run rfl unscripted run
  cases same
  exact ⟨rfl, later⟩

theorem displayedTotal_ok {w after : World} {n : Nat} (unscripted : w.rules = [])
    (run : displayedTotal w = .ok n after) : TotalShown w.site n ∧ Later w after w.site [] := by
  obtain ⟨m, total⟩ : ∃ m, TotalShown w.site m := by
    apply Classical.byContradiction
    intro unshown
    obtain ⟨_, f, refused⟩ := displayedTotal_refused (not_exists.1 unshown)
    cases (refused.of_run rfl unscripted run).1
  obtain ⟨same, later⟩ := (displayedTotal_of_shown total).of_run rfl unscripted run
  cases same
  exact ⟨total, later⟩

/-- What a total that has been found right stands for. -/
theorem verifyTotal_ok {w after : World} {n : Nat} (unscripted : w.rules = [])
    (run : verifyTotal w = .ok n after) :
    TotalShown w.site n ∧ n = totalPrice (rowItems w.site (List.range (rowsOf w.site).length)) ∧
      Later w after w.site (rowReports w.site (List.range (rowsOf w.site).length)) := by
  obtain ⟨_, w₁, noted, rest⟩ := bind_ok_iff.1 run
  obtain ⟨found, w₂, listed, rest⟩ := bind_ok_iff.1 rest
  obtain ⟨displayed, w₃, read, rest⟩ := bind_ok_iff.1 rest
  obtain ⟨_, later₁⟩ := (Follows.note _ _).yields.of_run rfl unscripted noted
  obtain ⟨rfl, later₂⟩ := items_ok later₁.rules listed
  obtain ⟨total, later₃⟩ := displayedTotal_ok later₂.rules read
  have later := (later₁.trans later₂).trans later₃
  rw [later₂.site, later₁.site] at later total
  rw [later₁.site] at rest
  split at rest
  · next equal =>
    have said : Yields w₃.site (do
          Walk.note .success s!"Cart total verified: {displayed}"
          return displayed) [] (.ok displayed) :=
      (Follows.note _ _).yields.bind_calm (Follows.pure displayed).yields
    obtain ⟨same, later₄⟩ := said.of_run rfl later₃.rules rest
    cases same
    have whole := later.trans later₄
    rw [later.site, List.append_nil, List.append_nil, List.nil_append] at whole
    exact ⟨total, equal, whole⟩
  · obtain ⟨_, _, _, rest⟩ := bind_ok_iff.1 rest
    obtain ⟨_, _, _, rest⟩ := bind_ok_iff.1 rest
    obtain ⟨_, _, _, thrown⟩ := bind_ok_iff.1 rest
    cases thrown

theorem items_yields {s : Site} (table : TableShown s) :
    Yields s items (rowReports s (List.range (rowsOf s).length))
      (.ok (rowItems s (List.range (rowsOf s).length))) :=
  Tells.reporting (readTable_yields table) _ _

/-- Without rules, the total is found right exactly when the table is there and the total that is
shown is the sum of what its readable rows show. -/
theorem verifyTotal_ok_iff {w : World} {n : Nat} (unscripted : w.rules = []) :
    (∃ after, verifyTotal w = .ok n after) ↔
      TableShown w.site ∧ TotalShown w.site n ∧ n = ((rowsOf w.site).filterMap rowPrice?).sum := by
  rw [← totalPrice_rowItems]
  constructor
  · rintro ⟨after, run⟩
    obtain ⟨shown, sum, -⟩ := verifyTotal_ok unscripted run
    obtain ⟨_, w₁, noted, rest⟩ := bind_ok_iff.1 run
    obtain ⟨_, _, listed, -⟩ := bind_ok_iff.1 rest
    obtain ⟨-, later⟩ := (Follows.note _ _).yields.of_run rfl unscripted noted
    have table := tableShown_of_items later.rules listed
    rw [later.site] at table
    exact ⟨table, shown, sum⟩
  · rintro ⟨table, shown, sum⟩
    have verified : Yields w.site verifyTotal
        (rowReports w.site (List.range (rowsOf w.site).length) ++ []) (.ok n) := by
      refine (Follows.note _ _).yields.bind_calm ?_
      refine (items_yields table).bind ?_
      refine (displayedTotal_of_shown shown).bind_calm ?_
      rw [if_pos sum]
      exact (Follows.note _ _).yields.bind_calm (Follows.pure n).yields
    obtain ⟨after, run, -⟩ := verified.run rfl unscripted
    exact ⟨after, run⟩

/-- How a total and the errors in the log account for rows: the total is the sum of what the
readable rows show, and each other row has its error. When there is no error, every row has been
read, and the total is that of all rows. -/
structure Accounts (rows : List Element) (n : Nat) (errors : List LogEntry) : Prop where
  sum : n = (rows.filterMap rowPrice?).sum
  reported : ∃ faults, errors = leftOut faults rows
  whole : errors = [] → ∃ prices : List Nat, rows.map rowPrice? = prices.map some ∧ n = prices.sum

/-- A total that has been found right accounts for the rows of the cart, together with the errors
that have been reported meanwhile. -/
theorem verified_total_accounts {w after : World} {n : Nat} (unscripted : w.rules = [])
    (run : verifyTotal w = .ok n after) :
    ∃ notes, after.journal = w.journal ++ notes ∧
      Accounts (rowsOf w.site) n (complaints notes) := by
  obtain ⟨_, total, later⟩ := verifyTotal_ok unscripted run
  obtain ⟨notes, journal, reported⟩ := later.journal
  obtain ⟨faults, reports⟩ := rowReports_eq_leftOut w.site
  rw [totalPrice_rowItems] at total
  rw [reports] at reported
  refine ⟨notes, journal, total, ⟨faults, reported⟩, ?_⟩
  intro unreported
  rw [reported] at unreported
  exact ⟨_, prices_of_leftOut_eq_nil unreported, total⟩

/-- A cart of two rows. The second one has a price, but no name. -/
def namelessRowCart : World where
  site := { elements :=
    [(Selector.cartTable, [.mk (some "") true true [] []]),
     (Selector.cartRows,
       [.mk (some "") true true
          [(Selector.itemName, [.mk (some "Aloe") true true [] []]),
           (Selector.itemPrice, [.mk (some "100") true true [] []])] [],
        .mk (some "") true true [(Selector.itemPrice, [.mk (some "50") true true [] []])] []]),
     (Selector.total, [.mk (some "Total: Rupees 100") true true [] []])] }

theorem verified_total_accounts_nameless :
    namelessRowCart.rules = [] ∧ ∃ after, verifyTotal namelessRowCart = .ok 100 after ∧
      ∃ notes, after.journal = namelessRowCart.journal ++ notes ∧
        Accounts (rowsOf namelessRowCart.site) 100 (complaints notes) :=
  ⟨rfl, _, rfl, verified_total_accounts rfl rfl⟩

/-- The total of that cart is found right although its second row, which shows a price, is not in
it. -/
theorem nameless_row_escapes_total :
    namelessRowCart.rules = [] ∧ (∃ after, verifyTotal namelessRowCart = .ok 100 after) ∧
      (rowsOf namelessRowCart.site).map rowPrice? = [some 100, none] ∧
      ((rowsOf namelessRowCart.site).map fun row =>
        (Catalog.get row.children Selector.itemPrice).map Element.text) =
          [[some "100"], [some "50"]] :=
  ⟨rfl, ⟨_, rfl⟩, by decide +kernel, rfl⟩

end Shopwalk.Cart
