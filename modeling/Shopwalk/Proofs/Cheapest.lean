import Shopwalk.Proofs.Additions
import Shopwalk.Proofs.FirstNumber

/-!
Which of the listed products is found, and what its price cell may show. Of those that fit a
criterion the first one of the least price is found, whatever the rules do once the list is there;
nothing is found exactly when none fits. A price without a digit counts as nothing to pay, so that
such a product is found unless a product that fits is offered for nothing before it.
-/

namespace Shopwalk.Products

open Shop Text

instance (criterion name : String) : Decidable (Fits criterion name) :=
  inferInstanceAs (Decidable (_ = true))

/-- A product of the list that fits a criterion, and costs less than all that fit before it and no
more than those behind it. -/
def Best (criterion : String) (ps : List Product) (p : Product) : Prop :=
  ∃ before behind, ps = before ++ p :: behind ∧ Fits criterion p.name ∧
    (∀ q ∈ before, Fits criterion q.name → p.price < q.price) ∧
    ∀ q ∈ behind, Fits criterion q.name → p.price ≤ q.price

theorem cheapest_eq_none_iff {ps : List Product} : cheapest ps = none ↔ ps = [] := by
  cases ps <;> simp [cheapest]

/-- The products that do not fit can be put back between those that do. -/
theorem best_of_cheapest {criterion : String} {ps : List Product} {p : Product}
    (h : cheapest (ps.filter (meets criterion)) = some p) : Best criterion ps p := by
  obtain ⟨before, behind, split, dearer, rest⟩ := cheapest_eq_some h
  obtain ⟨front, others, rfl, rfl, kept⟩ := List.filter_eq_append_iff.1 split
  obtain ⟨skipped, back, rfl, unfit, fits, rfl⟩ := List.filter_eq_cons_iff.1 kept
  refine ⟨front ++ skipped, back, (List.append_assoc ..).symm, fits, ?_, ?_⟩
  · intro q there met
    rcases List.mem_append.1 there with early | late
    · exact dearer q (List.mem_filter.2 ⟨early, met⟩)
    · exact absurd met (unfit q late)
  · intro q there met
    exact rest q (List.mem_filter.2 ⟨there, met⟩)

/-- Of two products with these properties neither stands before the other. -/
theorem Best.unique {criterion : String} {ps : List Product} {p q : Product}
    (one : Best criterion ps p) (other : Best criterion ps q) : p = q := by
  obtain ⟨before, behind, rfl, fits, dearer, rest⟩ := one
  obtain ⟨before', behind', split, fits', dearer', rest'⟩ := other
  rcases List.append_eq_append_iff.1 split with ⟨gap, rfl, tail⟩ | ⟨gap, rfl, tail⟩
  · cases gap with
    | nil => exact (List.cons.inj tail).1
    | cons g gap =>
      obtain ⟨rfl, rfl⟩ := List.cons.inj tail
      have less := dearer' p (by simp) fits
      have least := rest q (by simp) fits'
      omega
  · cases gap with
    | nil => exact (List.cons.inj tail).1.symm
    | cons g gap =>
      obtain ⟨rfl, rfl⟩ := List.cons.inj tail
      have less := dearer q (by simp) fits'
      have least := rest' p (by simp) fits
      omega

theorem Best.fits {criterion : String} {ps : List Product} {p : Product}
    (best : Best criterion ps p) : ∃ q ∈ ps, Fits criterion q.name := by
  obtain ⟨before, behind, rfl, fits, -⟩ := best
  exact ⟨p, by simp, fits⟩

theorem cheapest_meeting_eq_none_iff {criterion : String} {ps : List Product} :
    cheapest (ps.filter (meets criterion)) = none ↔ ∀ q ∈ ps, ¬ Fits criterion q.name :=
  cheapest_eq_none_iff.trans List.filter_eq_nil_iff

theorem cheapest_meeting_eq_some_iff {criterion : String} {ps : List Product} {p : Product} :
    cheapest (ps.filter (meets criterion)) = some p ↔ Best criterion ps p := by
  refine ⟨best_of_cheapest, fun best => ?_⟩
  cases least : cheapest (ps.filter (meets criterion)) with
  | none =>
    obtain ⟨q, there, fits⟩ := best.fits
    exact absurd fits (cheapest_meeting_eq_none_iff.1 least q there)
  | some q => rw [best.unique (best_of_cheapest least)]

/-- Where something fits, something is the best. -/
theorem exists_best_iff {criterion : String} {ps : List Product} :
    (∃ p, Best criterion ps p) ↔ ∃ q ∈ ps, Fits criterion q.name := by
  refine ⟨fun ⟨p, best⟩ => best.fits, fun ⟨q, there, fits⟩ => ?_⟩
  cases least : cheapest (ps.filter (meets criterion)) with
  | none => exact absurd fits (cheapest_meeting_eq_none_iff.1 least q there)
  | some p => exact ⟨p, best_of_cheapest least⟩

section
variable {w u : World} {ps : List Product}

/-- Once the products are listed, the cheapest one that meets the criterion is the answer. -/
theorem findCheapest_of_list (criterion kind : String) (listed : list w = .ok ps u) :
    ∃ after, findCheapest (.str criterion) (.str kind) w = World.ending after
      ((cheapest (ps.filter (meets criterion))).elim (.error (.noProduct kind criterion)) .ok) := by
  have run : findCheapest (.str criterion) (.str kind) w = _ :=
    (bind_of_ok listed).trans <| (bind_of_ok rfl).trans <| (bind_of_ok rfl).trans <|
      (bind_of_ok rfl).trans <| (bind_of_ok rfl).trans <| (bind_of_ok rfl).trans (bind_of_ok rfl)
  rw [run]
  cases cheapest (ps.filter (meets criterion)) with
  | none => exact ⟨_, rfl⟩
  | some p => exact ⟨_, rfl⟩

theorem findCheapest_ok_iff {criterion kind : String} {p : Product} (listed : list w = .ok ps u) :
    (∃ after, findCheapest (.str criterion) (.str kind) w = .ok p after) ↔
      Best criterion ps p := by
  obtain ⟨after, run⟩ := findCheapest_of_list criterion kind listed
  rw [← cheapest_meeting_eq_some_iff, run]
  cases cheapest (ps.filter (meets criterion)) <;> simp [World.ending]

theorem findCheapest_error_iff {criterion kind : String} (listed : list w = .ok ps u) :
    (∃ after,
        findCheapest (.str criterion) (.str kind) w = .error (.noProduct kind criterion) after) ↔
      ∀ q ∈ ps, ¬ Fits criterion q.name := by
  obtain ⟨after, run⟩ := findCheapest_of_list criterion kind listed
  rw [← cheapest_meeting_eq_none_iff, run]
  cases cheapest (ps.filter (meets criterion)) <;> simp [World.ending]

end

/-- When the products are listed, the first of the cheapest that fit is found; none is found, and
that is said, exactly when none fits. When they cannot be listed, the fault is that of listing them.
Without rules the list is what is on offer, in the order of the page. -/
theorem findCheapest_finds_first_of_least (criterion kind : String) (w : World) :
    (∀ f u, list w = .error f u → findCheapest (.str criterion) (.str kind) w = .error f u) ∧
    ∀ ps u, list w = .ok ps u →
      (w.rules = [] → ps = offered w.site) ∧
      ((∃ p after, findCheapest (.str criterion) (.str kind) w = .ok p after) ↔
        ∃ q ∈ ps, Fits criterion q.name) ∧
      (∀ p, (∃ after, findCheapest (.str criterion) (.str kind) w = .ok p after) ↔
        Best criterion ps p) ∧
      ((∃ after,
          findCheapest (.str criterion) (.str kind) w = .error (.noProduct kind criterion) after) ↔
        ∀ q ∈ ps, ¬ Fits criterion q.name) ∧
      (Fault.noProduct kind criterion).kind = .value ∧
      (Fault.noProduct kind criterion).message =
        "No products found matching " ++ kind ++ "=" ++ criterion := by
  refine ⟨fun f u refused => bind_of_error refused, fun ps u listed => ?_⟩
  have found (p : Product) : (∃ after, findCheapest (.str criterion) (.str kind) w = .ok p after) ↔
      Best criterion ps p := findCheapest_ok_iff listed
  refine ⟨fun unscripted => list_ok unscripted listed, ?_, found, findCheapest_error_iff listed,
    rfl, rfl⟩
  simp only [found, exists_best_iff]

/-- A product page with several cheap aloes: one of them is not complete, and of two that cost the
same the first is taken. -/
def aloeShop : World where
  site := { elements := [(Selector.containers,
    [containerOf "Aloe Gel" "Price: 300" [],
     .mk (some "") true true [(Selector.productName, [.mk (some "Aloe") true true [] []])] [],
     containerOf " PURE ALOE " "Price: Rs. 200" [],
     containerOf "Almond Oil" "Price: 150" [],
     containerOf "Aloe Cream" "Price: 200" []])] }

theorem findCheapest_finds_first_of_least_aloe :
    aloeShop.rules = [] ∧
      (∃ after, findCheapest (.str "aloe") (.str "ingredient") aloeShop =
        .ok ⟨"PURE ALOE", 200, addButtonAt 2⟩ after) ∧
      (∃ after, findCheapest (.str "SPF") (.str "spf") aloeShop =
        .error (.noProduct "spf" "SPF") after) ∧
      ∃ after, findCheapest (.str "aloe") (.str "ingredient") {} =
        .error (.tooFew "1" Selector.containers 0) after := by
  have answered : answer? (list aloeShop) = some
      [⟨"Aloe Gel", 300, addButtonAt 0⟩, ⟨"PURE ALOE", 200, addButtonAt 2⟩,
        ⟨"Almond Oil", 150, addButtonAt 3⟩, ⟨"Aloe Cream", 200, addButtonAt 4⟩] := by
    decide +kernel
  obtain ⟨u, listed⟩ := answer?_eq_some_iff.1 answered
  refine ⟨rfl, ?_, ?_, ?_⟩
  · obtain ⟨-, -, found, -⟩ :=
      (findCheapest_finds_first_of_least "aloe" "ingredient" aloeShop).2 _ u listed
    exact (found _).2 ⟨[_], [_, _], rfl, by decide +kernel, by decide +kernel, by decide +kernel⟩
  · obtain ⟨-, -, -, missing, -⟩ :=
      (findCheapest_finds_first_of_least "SPF" "spf" aloeShop).2 _ u listed
    exact missing.2 (by decide +kernel)
  · have empty : fault? (list {}) = some (.tooFew "1" Selector.containers 0) := by decide +kernel
    obtain ⟨after, refused⟩ := fault?_eq_some_iff.1 empty
    exact ⟨after, (findCheapest_finds_first_of_least "aloe" "ingredient" {}).1 _ _ refused⟩

/-- Container `i` makes an offer that fits a criterion, and its price cell shows this text. -/
structure Priced (criterion : String) (s : Site) (i : Nat) (o : Offer) (text : String) : Prop where
  offered : offerAt s i = some o
  fits : Fits criterion o.name
  shown : ∃ c cell, (containersOf s)[i]? = some c ∧
    shownIn? c Selector.productPrice = some cell ∧ cell.text = some text

/-- The price of an offer is read from the price cell. -/
theorem offer?_price {c : Element} {o : Offer} (h : offer? c = some o) :
    ∃ cell text, shownIn? c Selector.productPrice = some cell ∧ cell.text = some text ∧
      numberOrZero text = .ok o.price := by
  obtain ⟨name, -, h⟩ := Option.bind_eq_some_iff.1 h
  obtain ⟨cell, shown, h⟩ := Option.bind_eq_some_iff.1 h
  obtain ⟨button, -, h⟩ := Option.bind_eq_some_iff.1 h
  obtain ⟨words, -, h⟩ := Option.bind_eq_some_iff.1 h
  obtain ⟨text, worded, h⟩ := Option.bind_eq_some_iff.1 h
  obtain ⟨n, read, made⟩ := Option.bind_eq_some_iff.1 h
  cases made
  exact ⟨cell, text, shown, worded, toOption_eq_some_iff.1 read⟩

section
variable {criterion : String} {s : Site} {i : Nat} {o : Offer} {text : String}

theorem priced_of_offerAt (offer : offerAt s i = some o) (fits : Fits criterion o.name) :
    ∃ text, Priced criterion s i o text := by
  obtain ⟨c, there, complete⟩ := Option.bind_eq_some_iff.1 offer
  obtain ⟨cell, text, shown, worded, -⟩ := offer?_price complete
  exact ⟨text, offer, fits, c, cell, there, shown, worded⟩

theorem Priced.price (priced : Priced criterion s i o text) : numberOrZero text = .ok o.price := by
  obtain ⟨c, cell, there, shown, worded⟩ := priced.shown
  obtain ⟨c', there', complete⟩ := Option.bind_eq_some_iff.1 priced.offered
  cases there.symm.trans there'
  obtain ⟨cell', text', shown', worded', read⟩ := offer?_price complete
  cases shown.symm.trans shown'
  cases worded.symm.trans worded'
  exact read

/-- A price without a digit counts as nothing to pay. -/
theorem Priced.free (priced : Priced criterion s i o text)
    (free : ∀ c ∈ text.toList, isDigit c = false) : o.price = 0 := by
  have read := priced.price
  rw [numberOrZero, reading_of_free free] at read
  exact (Except.ok.inj read).symm

theorem Priced.unique {p : Offer} {text' : String} (priced : Priced criterion s i o text)
    (other : Priced criterion s i p text') : o = p ∧ text = text' := by
  obtain ⟨c, cell, there, shown, worded⟩ := priced.shown
  obtain ⟨c', cell', there', shown', worded'⟩ := other.shown
  cases there.symm.trans there'
  cases shown.symm.trans shown'
  exact ⟨Option.some.inj (priced.offered.symm.trans other.offered),
    Option.some.inj (worded.symm.trans worded')⟩

end

/-- The price cell of the product that is found has a digit in it exactly when each one of those
that fit and have no digit stands behind an offer that fits and is for nothing. Otherwise what is
found is the first one of those without a digit, for nothing. -/
theorem found_price_has_digit_iff {criterion : String} {criterionKind : Value} {w after : World}
    {p : Product} (unscripted : w.rules = [])
    (run : findCheapest (.str criterion) criterionKind w = .ok p after) :
    ∃ i o text, Priced criterion w.site i o text ∧ p = o.product i ∧
      ((∃ c ∈ text.toList, isDigit c = true) ↔
        ∀ k q words, Priced criterion w.site k q words → (∀ c ∈ words.toList, isDigit c = false) →
          ∃ j r figures, j < k ∧ Priced criterion w.site j r figures ∧ r.price = 0) ∧
      ((∀ c ∈ text.toList, isDigit c = false) → p.price = 0 ∧
        ∀ k q words, k < i → Priced criterion w.site k q words →
          ∃ c ∈ words.toList, isDigit c = true) := by
  obtain ⟨i, o, chosen, rfl⟩ := findCheapest_ok unscripted run
  obtain ⟨text, priced⟩ := priced_of_offerAt chosen.offered chosen.fits
  refine ⟨i, o, text, priced, rfl, ⟨?_, ?_⟩, ?_⟩
  · rintro ⟨c, there, digit⟩ k q words unpriced free
    have nothing : q.price = 0 := unpriced.free free
    have least := chosen.least k q unpriced.offered unpriced.fits
    have behind : i < k := by
      rcases Nat.lt_trichotomy k i with before | rfl | behind
      · have cheaper := chosen.first k q before unpriced.offered unpriced.fits
        omega
      · obtain ⟨-, rfl⟩ := priced.unique unpriced
        rw [free c there] at digit
        cases digit
      · exact behind
    exact ⟨i, o, text, behind, priced, by omega⟩
  · intro preceded
    by_contra no_digit
    have free : ∀ c ∈ text.toList, isDigit c = false := by simpa using no_digit
    obtain ⟨j, r, figures, before, fitting, nothing⟩ := preceded i o text priced free
    have cheaper := chosen.first j r before fitting.offered fitting.fits
    omega
  · intro free
    refine ⟨priced.free free, fun k q words before fitting => ?_⟩
    have cheaper := chosen.first k q before fitting.offered fitting.fits
    by_contra no_digit
    have nothing : q.price = 0 := fitting.free (by simpa using no_digit)
    omega

/-- A product page where one aloe has no price, and one before it is for nothing. -/
def samplesShop : World where
  site := { elements := [(Selector.containers,
    [containerOf "Aloe Cream" "Price: 200" [], containerOf "Aloe Sample" "Price: 0" [],
     containerOf "Aloe Gel" "Price: sold out" []])] }

theorem found_price_has_digit_iff_samples :
    samplesShop.rules = [] ∧ ∃ p after,
      findCheapest (.str "Aloe") (.str "ingredient") samplesShop = .ok p after ∧
      p = ⟨"Aloe Sample", 0, addButtonAt 1⟩ ∧
      ∃ i o text, Priced "Aloe" samplesShop.site i o text ∧ p = o.product i ∧
        ((∃ c ∈ text.toList, isDigit c = true) ↔
          ∀ k q words, Priced "Aloe" samplesShop.site k q words →
            (∀ c ∈ words.toList, isDigit c = false) →
            ∃ j r figures, j < k ∧ Priced "Aloe" samplesShop.site j r figures ∧ r.price = 0) ∧
        ((∀ c ∈ text.toList, isDigit c = false) → p.price = 0 ∧
          ∀ k q words, k < i → Priced "Aloe" samplesShop.site k q words →
            ∃ c ∈ words.toList, isDigit c = true) := by
  have answered : answer? (findCheapest (.str "Aloe") (.str "ingredient") samplesShop) =
      some ⟨"Aloe Sample", 0, addButtonAt 1⟩ := by decide +kernel
  obtain ⟨after, run⟩ := answer?_eq_some_iff.1 answered
  exact ⟨rfl, _, after, run, rfl, found_price_has_digit_iff rfl run⟩

/-- A product page with an aloe that has no price and one that has. -/
def soldOutShop : World where
  site := { elements := [(Selector.containers,
    [containerOf "Aloe Gel" "Price: sold out" [], containerOf "Aloe Cream" "Price: 200" []])] }

/-- A product that has no price is found as the cheapest although another one has a price. -/
theorem sold_out_found_as_cheapest :
    soldOutShop.rules = [] ∧
      (∃ after, findCheapest (.str "Aloe") (.str "ingredient") soldOutShop =
        .ok ⟨"Aloe Gel", 0, addButtonAt 0⟩ after) ∧
      Priced "Aloe" soldOutShop.site 0 ⟨"Aloe Gel", 0⟩ "Price: sold out" ∧
      (∀ c ∈ "Price: sold out".toList, isDigit c = false) ∧
      Priced "Aloe" soldOutShop.site 1 ⟨"Aloe Cream", 200⟩ "Price: 200" ∧
      ∃ c ∈ "Price: 200".toList, isDigit c = true := by
  refine ⟨rfl, answer?_eq_some_iff.1 (by decide +kernel), ?_, digitFree_of_any (by decide), ?_,
    '2', ?_⟩
  · exact ⟨by decide +kernel, by decide +kernel, _, _, rfl, rfl, rfl⟩
  · exact ⟨by decide +kernel, by decide +kernel, _, _, rfl, rfl, rfl⟩
  · exact ⟨by decide, by decide⟩

end Shopwalk.Products
