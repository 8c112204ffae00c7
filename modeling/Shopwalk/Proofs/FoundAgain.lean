import Shopwalk.Proofs.Additions
import Shopwalk.Proofs.CartNames
import Shopwalk.Proofs.NormalName

/-!
Names from the product page are found again in the cart. The product page reports the text of a name
without the blanks at its ends, the cart keeps them and may show spaces for hyphens; since neither
counts in a normalised name, the check of the cart passes.
-/

namespace Shopwalk

namespace Products

open Shop

/-- The name of container `i` has one cell, and this is its text. -/
def NameReads (s : Site) (i : Nat) (text : String) : Prop :=
  ∃ c cell, (containersOf s)[i]? = some c ∧
    Catalog.get c.children Selector.productName = [cell] ∧ cell.text = some text

theorem readContainer_ok {container : Locator} {w after : World} {p : Product}
    (run : readContainer container w = .ok p after) :
    ∃ cell text, w.site.resolve (container.inside Selector.productName) = [cell] ∧
      cell.text = some text ∧ p.name = Text.strip text ∧
      p.addButton = container.inside Selector.addButton := by
  obtain ⟨_, w₁, -, rest, looked₁⟩ := (Stays.visible (R := Looked) _ _).bind_ok run
  obtain ⟨_, w₂, -, rest, looked₂⟩ := (Stays.visible (R := Looked) _ _).bind_ok rest
  obtain ⟨_, w₃, -, rest, looked₃⟩ := (Stays.visible (R := Looked) _ _).bind_ok rest
  obtain ⟨name, w₄, read, rest⟩ := bind_ok_iff.1 rest
  obtain ⟨_, w₅, -, rest⟩ := bind_ok_iff.1 rest
  obtain ⟨_, w₆, -, returned⟩ := bind_ok_iff.1 rest
  cases returned
  have same : w₃.site = w.site := by rw [looked₃.site, looked₂.site, looked₁.site]
  have text : Follows w.site (Page.textAt (container.inside Selector.productName)) _ _ :=
    (Follows.textContent _).andThen fun _ => Follows.settle _
  have answer := Makes.answer text same read
  cases one : w.site.one (container.inside Selector.productName) with
  | error f =>
    rw [one] at answer
    cases answer
  | ok cell =>
    rw [one] at answer
    change Page.stripped cell.text = .ok name at answer
    cases worded : cell.text with
    | none =>
      rw [worded] at answer
      cases answer
    | some text =>
      rw [worded] at answer
      cases answer
      exact ⟨cell, text, Site.one_eq_ok_iff.1 one, worded, rfl, rfl⟩

/-- What is listed has been read from one of the containers, on the same site. -/
theorem readContainers_ok {k : Nat} {containers : List Locator} {w after : World}
    {products : List Product} (run : readContainers k containers w = .ok products after)
    {p : Product} (listed : p ∈ products) :
    ∃ container ∈ containers, ∃ u v, u.site = w.site ∧ readContainer container u = .ok p v := by
  induction containers generalizing k w products with
  | nil =>
    cases run
    cases listed
  | cons container rest ih =>
    obtain ⟨outcome, w₁, tried, run, looked₁⟩ :=
      (readContainer_stays (R := Looked) container).attempt.bind_ok run
    cases outcome with
    | error e =>
      obtain ⟨_, w₂, -, run, looked₂⟩ := (Stays.note (R := Looked) _ _).bind_ok run
      obtain ⟨other, there, u, v, same, read⟩ := ih run listed
      exact ⟨other, List.mem_cons_of_mem _ there, u, v,
        by rw [same, looked₂.site, looked₁.site], read⟩
    | ok q =>
      obtain ⟨_, w₂, -, run, looked₂⟩ := (Stays.note (R := Looked) _ _).bind_ok run
      obtain ⟨others, w₃, run, returned⟩ := bind_ok_iff.1 run
      cases returned
      rcases List.mem_cons.1 listed with rfl | later
      · exact ⟨container, List.mem_cons_self, w, w₁, rfl, attempt_ok_iff.1 tried⟩
      · obtain ⟨other, there, u, v, same, read⟩ := ih run later
        exact ⟨other, List.mem_cons_of_mem _ there, u, v,
          by rw [same, looked₂.site, looked₁.site], read⟩

/-- Whatever the rules do, a product is reported under the name that its container shows, without
the blanks at its ends. -/
theorem list_names {w after : World} {products : List Product}
    (run : list w = .ok products after) {p : Product} (listed : p ∈ products) :
    ∃ i text, NameReads w.site i text ∧ p.addButton = addButtonAt i ∧
      p.name = Text.strip text := by
  rw [list, Evidence.reporting_ok_iff] at run
  obtain ⟨_, w₁, -, rest, looked₁⟩ := (Stays.site (R := Looked)).bind_ok run
  obtain ⟨_, w₂, -, rest, looked₂⟩ := (Stays.note (R := Looked) _ _).bind_ok rest
  obtain ⟨_, w₃, -, rest, looked₃⟩ := (Stays.leastCount (R := Looked) _ _).bind_ok rest
  obtain ⟨_, w₄, -, rest, looked₄⟩ := (Stays.note (R := Looked) _ _).bind_ok rest
  obtain ⟨_, w₅, -, rest, looked₅⟩ := (Stays.waitForLoad (R := Looked) _ _).bind_ok rest
  obtain ⟨containers, w₆, located, rest, looked₆⟩ := (Stays.all (R := Looked) _).bind_ok rest
  obtain ⟨_, w₇, read, rest⟩ := bind_ok_iff.1 rest
  obtain ⟨_, _, -, returned⟩ := bind_ok_iff.1 rest
  cases returned
  have same₅ : w₅.site = w.site := by
    rw [looked₅.site, looked₄.site, looked₃.site, looked₂.site, looked₁.site]
  have same₆ : w₆.site = w.site := by rw [looked₆.site, same₅]
  have counted := Makes.answer (Follows.all _) same₅ located
  cases counted
  obtain ⟨container, member, u, v, same, read⟩ := readContainers_ok read listed
  obtain ⟨i, numbered, rfl⟩ := List.mem_map.1 member
  obtain ⟨cell, text, found, worded, named, button⟩ := readContainer_ok read
  have there : (containersOf w.site)[i]? = some _ :=
    List.getElem?_eq_getElem (List.mem_range.1 numbered)
  have cells : w.site.resolve ((containerAt i).inside Selector.productName) = _ :=
    resolve_inside there Selector.productName
  rw [same, same₆] at found
  have found : w.site.resolve ((containerAt i).inside Selector.productName) = [cell] := found
  rw [cells] at found
  exact ⟨i, text, ⟨_, cell, there, found, worded⟩, button, named⟩

end Products

namespace Cart

open Shop

/-- Every row that can be read has a name. -/
def AllNamed (s : Site) : Prop :=
  ∀ row ∈ rowsOf s, (rowPrice? row).isSome = true → ∃ name, Named row name

/-- The item of a row has the name of the row. -/
theorem rowItem?_name {s : Site} (named : AllNamed s) {row : Element} (there : row ∈ rowsOf s) :
    (rowItem? row).map CartItem.name = (rowName? row).map some := by
  cases shows : rowItem? row with
  | none =>
    have unread : rowPrice? row = none := by rw [← rowItem?_price, shows]; rfl
    have unnamed : rowName? row = none := by rw [rowName?, unread]; rfl
    rw [unnamed]
    rfl
  | some item =>
    obtain ⟨name, known⟩ := named row there (isSome_rowPrice?_iff.2 ⟨item, shows⟩)
    obtain ⟨cell, found, same⟩ := (rowItem?_eq_some_iff.1 shows).name
    obtain ⟨-, cell', found', worded⟩ := id known
    obtain rfl : cell = cell' := by simpa [found] using found'
    rw [known.rowName?]
    exact congrArg some (same.trans worded)

theorem rowItems_names {s : Site} (named : AllNamed s) :
    (rowItems s (List.range (rowsOf s).length)).map CartItem.name =
      ((rowsOf s).filterMap rowName?).map some := by
  rw [rowItems_eq, List.map_filterMap, List.map_filterMap]
  apply List.filterMap_congr
  intro row there
  exact rowItem?_name named there

/-- Where every readable row has a name, all names can be compared. -/
theorem names_normalized {s : Site} (named : AllNamed s) :
    ((rowItems s (List.range (rowsOf s).length)).map fun item => textValue item.name).mapM
      normalizedNameOf = .ok (namesIn s) := by
  have texts : ((rowItems s (List.range (rowsOf s).length)).map fun item => textValue item.name) =
      ((rowsOf s).filterMap rowName?).map Value.str := by
    change (rowItems s _).map (textValue ∘ CartItem.name) = _
    rw [← List.map_map, rowItems_names named, List.map_map]
    rfl
  exact mapM_normalizedNameOf_iff.2 ⟨_, texts, rfl⟩

theorem missingFrom_eq_nil_iff {names texts : List String} :
    missingFrom names texts = [] ↔ ∀ x ∈ texts, hasItem names (normalizedName x) = true := by
  rw [missingFrom, List.filter_eq_nil_iff]
  simp

/-- Names compare well when each expected text stands in one of them, all normalised. -/
theorem compareNames_yields {s : Site} {names : List Value} {normal texts : List String}
    (normalised : names.mapM normalizedNameOf = .ok normal)
    (found : ∀ x ∈ texts, hasItem normal (normalizedName x) = true) :
    Yields s (compareNames (.list (texts.map .str)) names) [] (.ok true) := by
  have calm : (comparisonNotes names normal texts).filter (·.level = .error) = [] := by
    rw [List.filter_eq_nil_iff]
    intro n noted
    simp only [comparisonNotes, List.mem_cons, List.mem_map] at noted
    rcases noted with rfl | rfl | rfl | ⟨x, there, rfl⟩
    · exact nofun
    · exact nofun
    · exact nofun
    · simp [matchNote, found x there]
  have tells := findMissing_tells (·.level = .error) (s := s) normalised texts
  rw [calm, missingFrom_eq_nil_iff.2 found] at tells
  rw [compareNames_eq]
  refine tells.bind (a := []) ?_
  exact (Follows.note _ _).yields.bind_calm (Follows.pure true).yields

/-- Without rules, expected texts are found in the cart when its table is there, every readable row
has a name, and each text is listed. -/
theorem verifyItems_of_listed {w : World} {texts : List String} (unscripted : w.rules = [])
    (table : TableShown w.site) (named : AllNamed w.site)
    (listed : ∀ x ∈ texts, Listed w.site x) :
    ∃ after, verifyItems (.list (texts.map .str)) w = .ok true after := by
  have found : ∀ x ∈ texts, hasItem (namesIn w.site) (normalizedName x) = true :=
    fun x there => listed_iff.1 (listed x there)
  have compared : ∃ reports, Yields w.site (compareItems (.list (texts.map .str))) reports
      (.ok true) := by
    unfold compareItems
    cases texts with
    | nil => exact ⟨[], (Follows.note _ _).yields.bind_calm (Follows.pure true).yields⟩
    | cons x texts =>
      have some_item : ¬ (rowItems w.site (List.range (rowsOf w.site).length)).isEmpty = true := by
        intro none_there
        obtain ⟨n, member, -⟩ := (listed x List.mem_cons_self).stands_in
        have names := rowItems_names named
        rw [List.isEmpty_iff.1 none_there, List.map_nil] at names
        rw [namesIn, List.map_eq_nil_iff.1 names.symm] at member
        cases member
      refine ⟨_, (items_yields table).bind (b := []) ?_⟩
      rw [if_neg some_item]
      exact compareNames_yields (names_normalized named) found
  obtain ⟨reports, yields⟩ := compared
  obtain ⟨after, run, -⟩ := yields.run rfl unscripted
  exact ⟨after, Evidence.recovering_of_ok run⟩

/-- A name without the blanks at its ends is listed where it stands with some of its hyphens as
spaces. -/
theorem listed_of_loosened {s : Site} {text shown : String} (loose : Loosened text shown)
    (there : ∃ row ∈ rowsOf s, Named row shown) : Listed s (Text.strip text) := by
  obtain ⟨row, member, named⟩ := there
  refine ⟨row, member, shown, named, ?_⟩
  rw [normalizedName_of_loosened loose, normalizedName_strip, Text.contains]
  exact Text.occursIn_iff.2 (List.infix_refl _)

/-- Neither blanks at the ends of a name nor hyphens in the place of spaces count when names are
compared. So each product that the product page reports, under the name that its container shows
without the blanks at its ends, is found in every cart that lists this name, however it is
hyphened. -/
theorem reported_name_found_again :
    (∀ text, normalizedName (Text.strip text) = normalizedName text) ∧
    (∀ text shown, Loosened text shown → normalizedName shown = normalizedName text) ∧
    ∀ shop after products p, Products.list shop = .ok products after → p ∈ products →
      ∃ i text, Products.NameReads shop.site i text ∧ p.addButton = Products.addButtonAt i ∧
        p.name = Text.strip text ∧
        ∀ cart shown, Loosened text shown → cart.rules = [] → TableShown cart.site →
          AllNamed cart.site → (∃ row ∈ rowsOf cart.site, Named row shown) →
            ∃ later, verifyItems (.list [.str p.name]) cart = .ok true later := by
  refine ⟨normalizedName_strip, fun _ _ => normalizedName_of_loosened, ?_⟩
  intro shop after products p run listed
  obtain ⟨i, text, reads, button, named⟩ := Products.list_names run listed
  refine ⟨i, text, reads, button, named, ?_⟩
  intro cart shown loose unscripted table allNamed there
  have expected : ∀ x ∈ [p.name], Listed cart.site x := by
    rw [List.forall_mem_singleton, named]
    exact listed_of_loosened loose there
  exact verifyItems_of_listed unscripted table allNamed expected

/-- A product page whose one product has blanks around its name and hyphens in it. -/
def hyphenedShop : World where
  site := { elements :=
    [(Selector.containers, [Products.containerOf " ΑΛΟΗΣ-50 - Gel\t" "Price: 100" []])] }

theorem reported_name_found_again_hyphened :
    (∃ after, Products.list hyphenedShop =
      .ok [⟨"ΑΛΟΗΣ-50 - Gel", 100, Products.addButtonAt 0⟩] after) ∧
    ∃ later, verifyItems (.list [.str "ΑΛΟΗΣ-50 - Gel"])
      (cartOf ["Rose", " ΑΛΟΗΣ 50 - Gel\t"]) = .ok true later := by
  have answered : answer? (Products.list hyphenedShop) =
      some [⟨"ΑΛΟΗΣ-50 - Gel", 100, Products.addButtonAt 0⟩] := by decide +kernel
  obtain ⟨after, run⟩ := answer?_eq_some_iff.1 answered
  obtain ⟨i, text, ⟨c, cell, there, found, worded⟩, button, -, again⟩ :=
    reported_name_found_again.2.2 _ _ _ _ run List.mem_cons_self
  obtain rfl : i = 0 := by simpa [Products.addButtonAt, Products.containerAt] using button.symm
  cases there
  cases found
  cases worded
  refine ⟨⟨after, run⟩, again (cartOf ["Rose", " ΑΛΟΗΣ 50 - Gel\t"]) " ΑΛΟΗΣ 50 - Gel\t" ?_ rfl
    ⟨_, rfl, rfl⟩ ?_ ?_⟩
  · unfold Loosened
    decide
  · intro row there _
    obtain ⟨name, -, rfl⟩ := List.mem_map.1 there
    exact ⟨name, rfl, _, rfl, rfl⟩
  · exact ⟨_, List.mem_cons_of_mem _ List.mem_cons_self, rfl, _, rfl, rfl⟩

end Cart

end Shopwalk
