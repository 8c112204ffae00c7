import Mathlib.Data.List.Perm.Subperm
import Shopwalk.Proofs.CartItems

/-!
What a cart check that passes says of the names in the cart. Each expected item is looked up by
itself, so that one row may do for several of them; they are counted only where no name stands in
another one and none is expected twice.
-/

namespace Shopwalk.Cart

open Shop

/-- The name of a row, when the row can be read and has one. -/
def rowName? (row : Element) : Option String :=
  match (rowPrice? row).isSome, Catalog.get row.children Selector.itemName with
  | true, [cell] => cell.text
  | _, _ => none

/-- The normalised names of the readable rows, in row order. -/
def namesIn (s : Site) : List String := ((rowsOf s).filterMap rowName?).map normalizedName

theorem Named.rowName? {row : Element} {name : String} (named : Named row name) :
    rowName? row = some name := by
  obtain ⟨readable, cell, found, worded⟩ := named
  rw [Cart.rowName?, readable, found]
  exact worded

/-- An item that is listed has a name to stand in. -/
theorem Listed.stands_in {s : Site} {x : String} (listed : Listed s x) :
    ∃ n ∈ namesIn s, Text.contains n (normalizedName x) = true := by
  obtain ⟨row, there, full, named, stands⟩ := listed
  refine ⟨normalizedName full, List.mem_map_of_mem ?_, stands⟩
  exact List.mem_filterMap.2 ⟨row, there, named.rowName?⟩

theorem rowName?_eq_some_iff {row : Element} {name : String} :
    rowName? row = some name ↔ Named row name := by
  constructor
  · intro shows
    unfold rowName? at shows
    split at shows
    · next readable found => exact ⟨readable, _, found, shows⟩
    · cases shows
  · exact Named.rowName?

/-- An item is listed when its normalised name stands in one of the names of the cart. -/
theorem listed_iff {s : Site} {x : String} :
    Listed s x ↔ hasItem (namesIn s) (normalizedName x) = true := by
  constructor
  · intro listed
    exact List.any_eq_true.2 listed.stands_in
  · intro found
    obtain ⟨n, member, stands⟩ := List.any_eq_true.1 found
    obtain ⟨full, shows, rfl⟩ := List.mem_map.1 member
    obtain ⟨row, there, named⟩ := List.mem_filterMap.1 shows
    exact ⟨row, there, full, rowName?_eq_some_iff.1 named, stands⟩

/-- An item stands only in names that are its own. -/
def StandsAlone (names : List String) (x : String) : Prop :=
  ∀ n ∈ names, Text.contains n x = true → n = x

/-- When all expected items are found in the cart, each of them stands in the name of a readable
row. When no two of them are the same, and each stands in no name but its own, they are among the
names of the rows with their number. -/
theorem expected_items_stand_in_rows {w after : World} {expected : List String}
    (unscripted : w.rules = [])
    (run : verifyItems (.list (expected.map .str)) w = .ok true after) :
    (∀ x ∈ expected, ∃ n ∈ namesIn w.site, Text.contains n (normalizedName x) = true) ∧
      ((expected.map normalizedName).Nodup →
        (∀ x ∈ expected, StandsAlone (namesIn w.site) (normalizedName x)) →
          (expected.map normalizedName).Subperm (namesIn w.site)) := by
  have stand : ∀ x ∈ expected, ∃ n ∈ namesIn w.site,
      Text.contains n (normalizedName x) = true := by
    intro x there
    have some_expected : (Value.list (expected.map .str)).truthy = true := by
      simp [Value.truthy, List.ne_nil_of_mem there]
    exact (verifyItems_true unscripted some_expected rfl run x there).stands_in
  refine ⟨stand, fun distinct alone => distinct.subperm ?_⟩
  intro name listed
  obtain ⟨x, there, rfl⟩ := List.mem_map.1 listed
  obtain ⟨n, member, stands⟩ := stand x there
  rwa [← alone x there n member stands]

/-- A cart with rows of these names. -/
def cartOf (names : List String) : World where
  site := { elements :=
    [(Selector.cartTable, [.mk (some "") true true [] []]),
     (Selector.cartRows, names.map fun name =>
       .mk (some "") true true
         [(Selector.itemName, [.mk (some name) true true [] []]),
          (Selector.itemPrice, [.mk (some "100") true true [] []])] [])] }

theorem expected_items_stand_in_rows_pair :
    (cartOf ["Almond", "Rose", "aloe vera"]).rules = [] ∧
      ∃ after, verifyItems (.list (["Aloe-Vera", "almond"].map .str))
          (cartOf ["Almond", "Rose", "aloe vera"]) = .ok true after ∧
        (["Aloe-Vera", "almond"].map normalizedName).Subperm
          (namesIn (cartOf ["Almond", "Rose", "aloe vera"]).site) := by
  have passes : answer? (verifyItems (.list (["Aloe-Vera", "almond"].map .str))
      (cartOf ["Almond", "Rose", "aloe vera"])) = some true := by decide +kernel
  obtain ⟨after, run⟩ := answer?_eq_some_iff.1 passes
  refine ⟨rfl, after, run, (expected_items_stand_in_rows rfl run).2 (by decide +kernel) ?_⟩
  unfold StandsAlone
  decide +kernel

/-- One row does for an item that is expected twice, and another one for an item that is only a part
of its name. -/
theorem one_row_does_for_several :
    ((∃ after, verifyItems (.list (["Aloe", "Aloe"].map .str)) (cartOf ["Aloe"]) =
        .ok true after) ∧
      ¬ (["Aloe", "Aloe"].map normalizedName).Subperm (namesIn (cartOf ["Aloe"]).site)) ∧
    ((∃ after, verifyItems (.list (["Aloe"].map .str)) (cartOf ["Aloe Vera"]) =
        .ok true after) ∧
      ¬ (["Aloe"].map normalizedName).Subperm (namesIn (cartOf ["Aloe Vera"]).site)) := by
  refine ⟨⟨answer?_eq_some_iff.1 (by decide +kernel), fun counted => ?_⟩,
    answer?_eq_some_iff.1 (by decide +kernel), fun counted => ?_⟩
  · exact absurd counted.length_le (by decide +kernel)
  · exact absurd (counted.subset List.mem_cons_self) (by decide +kernel)

end Shopwalk.Cart
