import Mathlib.Data.List.Basic
import Shopwalk.Products
import Shopwalk.Proofs.Evidence
import Shopwalk.Proofs.Numeral
import Shopwalk.Proofs.Operations
import Shopwalk.Proofs.Told

/-!
What is on offer on the product page, and which offer is chosen: among the complete containers whose
name meets a criterion the cheapest, and of several such the first on the page. Containers that are
not complete are passed over, and the others keep their places.
-/

namespace Shopwalk

namespace Site

/-- A locator, when it finds one element and that is visible. -/
def shown (s : Site) (l : Locator) : Except Fault Locator :=
  (s.hasQuality .visible l).map fun _ => l

end Site

namespace Products

open Shop

structure Offer where
  name : String
  price : Nat
  deriving DecidableEq, Repr

/-- The one element of a selector inside a container, when it is visible. -/
def shownIn? (container : Element) (selector : String) : Option Element :=
  match Catalog.get container.children selector with
  | [e] => if e.visible then some e else none
  | _ => none

/-- What a container offers when it is complete: its name, its price and its button are one visible
element each, name and price have a text, and the price is not too long to be read. -/
def offer? (container : Element) : Option Offer := do
  let name ← shownIn? container Selector.productName
  let price ← shownIn? container Selector.productPrice
  let _ ← shownIn? container Selector.addButton
  let words ← name.text
  let figures ← price.text
  let n ← (numberOrZero figures).toOption
  return ⟨Text.strip words, n⟩

/-- The containers of the page. -/
def containersOf (s : Site) : List Element := s.resolve (.top Selector.containers)

/-- Where container `i` stands. -/
def containerAt (i : Nat) : Locator := .nth (.top Selector.containers) (Int.ofNat i)

/-- Where the button of container `i` stands. -/
def addButtonAt (i : Nat) : Locator := (containerAt i).inside Selector.addButton

/-- What container `i` offers, if it is there and complete. -/
def offerAt (s : Site) (i : Nat) : Option Offer := (containersOf s)[i]?.bind offer?

/-- A name has a criterion in it when case is ignored. -/
def Fits (criterion name : String) : Prop :=
  Text.occursIn (Text.lowered criterion.toList) (Text.lowered name.toList) = true

/-- Container `i` offers the cheapest of what fits a criterion, and no container before it offers
anything that fits for as little. -/
structure Chosen (criterion : String) (s : Site) (i : Nat) (o : Offer) : Prop where
  offered : offerAt s i = some o
  fits : Fits criterion o.name
  least : ∀ j p, offerAt s j = some p → Fits criterion p.name → o.price ≤ p.price
  first : ∀ j p, j < i → offerAt s j = some p → Fits criterion p.name → o.price < p.price

/-- A criterion chooses one container at most. -/
theorem Chosen.unique {criterion : String} {s : Site} {i j : Nat} {o p : Offer}
    (one : Chosen criterion s i o) (other : Chosen criterion s j p) : i = j ∧ o = p := by
  have below := one.least j p other.offered other.fits
  have above := other.least i o one.offered one.fits
  have same : i = j := by
    rcases Nat.lt_trichotomy i j with before | same | behind
    · have cheaper := other.first i o before one.offered one.fits
      omega
    · exact same
    · have cheaper := one.first j p behind other.offered other.fits
      omega
  subst same
  have found := one.offered.symm.trans other.offered
  exact ⟨rfl, Option.some.inj found⟩

/-- An offer as the product of container `i`. -/
def Offer.product (i : Nat) (o : Offer) : Product := ⟨o.name, o.price, addButtonAt i⟩

/-- What reading a container comes to. -/
def reading (s : Site) (container : Locator) : Except Fault Product := do
  let nameAt := container.inside Selector.productName
  let priceAt := container.inside Selector.productPrice
  let buttonAt := container.inside Selector.addButton
  let _ ← s.shown nameAt
  let _ ← s.shown priceAt
  let _ ← s.shown buttonAt
  let name ← (s.one nameAt).map Element.text >>= Page.stripped
  let priceText ← (s.one priceAt).map Element.text >>= Page.stripped
  let price ← numberOrZero priceText
  return ⟨name, price, buttonAt⟩

end Products

namespace Yields

variable {s : Site}

/-- The check that an element is visible, as an answer. -/
theorem shown (label : String) (l : Locator) (timeout : Option String) :
    Yields s (Check.visible ⟨label, .ok l⟩ timeout) [] (s.shown l) := by
  have looks := Follows.visible (s := s) label l timeout
  unfold Site.shown
  cases quality : s.hasQuality .visible l with
  | ok u => exact looks.yields_of_granted (by simp [Step.quality, quality, faultOf])
  | error f => exact Makes.refused looks (by simp [Step.quality, quality, faultOf])

theorem textAt (l : Locator) :
    Yields s (Page.textAt l) [] ((s.one l).map Element.text >>= Page.stripped) :=
  (Follows.textContent l).yields.andThen fun _ => (Follows.settle _).yields

theorem all (l : Locator) :
    Yields s (Browser.all l) [] (.ok (Browser.positions l (s.resolve l).length)) :=
  (Follows.all l).yields

end Yields

namespace Products

open Shop

theorem readContainer_yields (s : Site) (container : Locator) :
    Yields s (readContainer container) [] (reading s container) := by
  refine (Yields.shown _ _ _).andThen fun _ => ?_
  refine (Yields.shown _ _ _).andThen fun _ => ?_
  refine (Yields.shown _ _ _).andThen fun _ => ?_
  refine (Yields.textAt _).andThen fun _ => ?_
  refine (Yields.textAt _).andThen fun _ => ?_
  refine (Follows.settle _).yields.andThen fun _ => ?_
  exact (Follows.pure _).yields

/-- The elements of a selector inside container `i`. -/
theorem resolve_inside {s : Site} {i : Nat} {c : Element} (there : (containersOf s)[i]? = some c)
    (selector : String) :
    s.resolve ((containerAt i).inside selector) = Catalog.get c.children selector :=
  Site.resolve_nth_inside there selector

theorem shown_of_shownIn? {s : Site} {l : Locator} {c e : Element} {selector : String}
    (cells : s.resolve l = Catalog.get c.children selector) (found : shownIn? c selector = some e) :
    s.shown l = .ok l ∧ s.one l = .ok e := by
  unfold shownIn? at found
  rw [← cells] at found
  split at found
  · next only =>
    split at found
    · next visible =>
      cases found
      refine ⟨?_, Site.one_eq_ok_iff.2 only⟩
      simp only [Site.shown, Site.hasQuality, only, Browser.has, visible, ↓reduceIte]
      rfl
    · cases found
  · cases found

theorem not_shown_of_shownIn? {s : Site} {l : Locator} {c : Element} {selector : String}
    (cells : s.resolve l = Catalog.get c.children selector) (missing : shownIn? c selector = none) :
    ∃ f, s.shown l = .error f := by
  unfold Site.shown
  cases quality : s.hasQuality .visible l with
  | error f => exact ⟨f, rfl⟩
  | ok u =>
    obtain ⟨e, only, visible⟩ := Site.faultOf_hasQuality_iff.1 (congrArg faultOf quality)
    have visible : e.visible = true := visible
    rw [shownIn?, ← cells, only] at missing
    simp [visible] at missing

/-- The texts of a container that has all its parts. -/
theorem reading_of_shown {s : Site} {i : Nat} {c name price button : Element}
    (there : (containersOf s)[i]? = some c)
    (named : shownIn? c Selector.productName = some name)
    (priced : shownIn? c Selector.productPrice = some price)
    (buttoned : shownIn? c Selector.addButton = some button) :
    (reading s (containerAt i)).toOption = (offer? c).map (Offer.product i) := by
  obtain ⟨nameShown, nameRead⟩ := shown_of_shownIn? (resolve_inside there _) named
  obtain ⟨priceShown, priceRead⟩ := shown_of_shownIn? (resolve_inside there _) priced
  obtain ⟨buttonShown, -⟩ := shown_of_shownIn? (resolve_inside there _) buttoned
  have read : reading s (containerAt i) = (do
      let words ← Page.stripped name.text
      let figures ← Page.stripped price.text
      let n ← numberOrZero figures
      return ⟨words, n, addButtonAt i⟩) := by
    unfold reading
    dsimp only
    rw [nameShown, priceShown, buttonShown, nameRead, priceRead]
    rfl
  have offer : offer? c = (do
      let words ← name.text
      let figures ← price.text
      let n ← (numberOrZero figures).toOption
      return ⟨Text.strip words, n⟩) := by
    unfold offer?
    rw [named, priced, buttoned]
    rfl
  rw [read, offer]
  cases name.text with
  | none => rfl
  | some t =>
    cases price.text with
    | none => rfl
    | some u =>
      simp only [Page.stripped, bind, Except.bind, Option.bind, numberOrZero_strip]
      cases numberOrZero u <;> rfl

/-- A container reads as what it offers, and one that is not complete cannot be read. -/
theorem reading_toOption {s : Site} {i : Nat} {c : Element}
    (there : (containersOf s)[i]? = some c) :
    (reading s (containerAt i)).toOption = (offer? c).map (Offer.product i) := by
  have cells := resolve_inside there
  cases named : shownIn? c Selector.productName with
  | none =>
    obtain ⟨f, refused⟩ := not_shown_of_shownIn? (cells _) named
    rw [reading, offer?, refused, named]
    rfl
  | some name =>
    cases priced : shownIn? c Selector.productPrice with
    | none =>
      obtain ⟨nameShown, -⟩ := shown_of_shownIn? (cells _) named
      obtain ⟨f, refused⟩ := not_shown_of_shownIn? (cells _) priced
      rw [reading, offer?, nameShown, refused, named, priced]
      rfl
    | some price =>
      cases buttoned : shownIn? c Selector.addButton with
      | none =>
        obtain ⟨nameShown, -⟩ := shown_of_shownIn? (cells _) named
        obtain ⟨priceShown, -⟩ := shown_of_shownIn? (cells _) priced
        obtain ⟨f, refused⟩ := not_shown_of_shownIn? (cells _) buttoned
        rw [reading, offer?, nameShown, priceShown, refused, named, priced, buttoned]
        rfl
      | some button => exact reading_of_shown there named priced buttoned

/-- What is on offer, in page order, each with the button of its container. -/
def offered (s : Site) : List Product :=
  (containersOf s).zipIdx.filterMap fun (c, i) => (offer? c).map (Offer.product i)

/-- What is noted of container `i`. -/
def report (i : Nat) : Except Fault Product → LogEntry
  | .ok p => ⟨.debug, s!"Product {i + 1}: {p.name}, ${p.price}"⟩
  | .error f => ⟨.warning, s!"Skipping incomplete product {i + 1}: {f.message}"⟩

theorem readContainer_unsaid {kind : LogEntry → Bool}
    (visible : ∀ place timeout, Stays (Unmentioned kind) (Check.visible place timeout))
    (container : Locator) : Stays (Unmentioned kind) (readContainer container) := by
  refine (visible _ _).bind fun _ => (visible _ _).bind fun _ => (visible _ _).bind fun _ => ?_
  refine (Stays.textAt _).bind fun _ => (Stays.textAt _).bind fun _ => ?_
  exact (Stays.settle _).bind fun _ => Stays.pure _

/-- A container that is not complete costs that container only. Each one is reported by itself. -/
theorem readContainers_tells {kind : LogEntry → Bool}
    (visible : ∀ place timeout, Stays (Unmentioned kind) (Check.visible place timeout))
    (s : Site) (k n : Nat) :
    Tells kind s (readContainers (k + 1) ((List.range' k n).map containerAt))
      (((List.range' k n).map fun i => report i (reading s (containerAt i))).filter kind)
      (.ok ((List.range' k n).filterMap fun i => (reading s (containerAt i)).toOption)) := by
  induction n generalizing k with
  | zero => exact .pure _
  | succ n ih =>
    rw [List.range'_succ, List.map_cons, List.map_cons, List.filterMap_cons]
    refine .after (readContainer_yields s (containerAt k)).attempt
      (readContainer_unsaid visible _).attempt ?_
    cases reading s (containerAt k) with
    | ok p => exact .note_bind (.before (ih (k + 1)) (.pure _))
    | error f => exact .note_bind (ih (k + 1))

theorem readContainers_yields (s : Site) (k n : Nat) :
    Yields s (readContainers (k + 1) ((List.range' k n).map containerAt)) []
      (.ok ((List.range' k n).filterMap fun i => (reading s (containerAt i)).toOption)) := by
  have tells := readContainers_tells Unmentioned.visible_calm s k n
  have calm : ((List.range' k n).map fun i => report i (reading s (containerAt i))).filter
      (·.level = .error) = [] := by
    rw [List.filter_eq_nil_iff, List.forall_mem_map]
    intro i _
    cases reading s (containerAt i) <;> simp [report]
  rw [calm] at tells
  exact tells

theorem readings_eq_offered (s : Site) :
    ((List.range (containersOf s).length).filterMap fun i =>
      (reading s (containerAt i)).toOption) = offered s := by
  rw [List.range_eq_range', ← List.zipIdx_map_snd 0 (containersOf s), List.filterMap_map]
  apply List.filterMap_congr
  rintro ⟨c, i⟩ there
  exact reading_toOption (List.mem_zipIdx_iff_getElem?.1 there)

/-- The products that are returned are those on offer. -/
theorem list_ok {w after : World} {products : List Product} (unscripted : w.rules = [])
    (run : list w = .ok products after) : products = offered w.site := by
  rw [list, Evidence.reporting_ok_iff] at run
  obtain ⟨_, w₁, -, rest, site₁, rules₁⟩ := Stays.site.look_ok unscripted run
  obtain ⟨_, w₂, -, rest, site₂, rules₂⟩ := (Stays.note _ _).look_ok rules₁ rest
  obtain ⟨_, w₃, -, rest, site₃, rules₃⟩ := (Stays.leastCount _ _).look_ok rules₂ rest
  obtain ⟨_, w₄, -, rest, site₄, rules₄⟩ := (Stays.note _ _).look_ok rules₃ rest
  obtain ⟨_, w₅, -, rest, site₅, rules₅⟩ := (Stays.waitForLoad _ _).look_ok rules₄ rest
  obtain ⟨containers, w₆, located, rest, site₆, rules₆⟩ := (Stays.all _).look_ok rules₅ rest
  obtain ⟨found, w₇, read, rest, -, rules₇⟩ := (readContainers_stays _ _).look_ok rules₆ rest
  obtain ⟨_, _, -, returned, -, -⟩ := (Stays.note _ _).look_ok rules₇ rest
  obtain ⟨rfl, -⟩ := EStateM.Result.ok.inj returned
  have same : w₆.site = w.site := by rw [site₆, site₅, site₄, site₃, site₂, site₁]
  have counted := ((Yields.all (.top Selector.containers)).of_run rfl rules₅ located).1
  rw [← site₆, same] at counted
  cases counted
  have readings := readContainers_yields w₆.site 0 (containersOf w.site).length
  rw [← List.range_eq_range', same, readings_eq_offered] at readings
  have answer := (readings.of_run same rules₆ read).1
  cases answer
  rfl

/-- The first of the cheapest: what stands before it costs more, and what stands behind it does not
cost less. -/
theorem foldl_cheaper (best : Product) (ps : List Product) :
    ∃ before p behind, best :: ps = before ++ p :: behind ∧
      ps.foldl (fun best q => if q.price < best.price then q else best) best = p ∧
      (∀ q ∈ before, p.price < q.price) ∧ ∀ q ∈ behind, p.price ≤ q.price := by
  induction ps generalizing best with
  | nil => exact ⟨[], best, [], rfl, rfl, by simp, by simp⟩
  | cons q ps ih =>
    rw [List.foldl_cons]
    split
    · next cheaper =>
      obtain ⟨before, p, behind, split, least, dearer, rest⟩ := ih q
      have below : p.price ≤ q.price := by
        have there : q ∈ before ++ p :: behind := split ▸ List.mem_cons_self
        rcases List.mem_append.1 there with early | late
        · exact Nat.le_of_lt (dearer q early)
        · rcases List.mem_cons.1 late with rfl | later
          · exact Nat.le_refl _
          · exact rest q later
      refine ⟨best :: before, p, behind, by rw [split]; rfl, least, ?_, rest⟩
      simp only [List.forall_mem_cons]
      exact ⟨by omega, dearer⟩
    · next dear =>
      obtain ⟨before, p, behind, split, least, dearer, rest⟩ := ih best
      cases before with
      | nil =>
        obtain ⟨rfl, rfl⟩ := List.cons.inj split
        refine ⟨[], best, q :: ps, rfl, least, by simp, ?_⟩
        simp only [List.forall_mem_cons]
        exact ⟨by omega, rest⟩
      | cons b before =>
        obtain ⟨rfl, rfl⟩ := List.cons.inj split
        have first := dearer best List.mem_cons_self
        refine ⟨best :: q :: before, p, behind, rfl, least, ?_, rest⟩
        simp only [List.forall_mem_cons] at dearer ⊢
        exact ⟨first, by omega, dearer.2⟩

theorem cheapest_eq_some {ps : List Product} {p : Product} (h : cheapest ps = some p) :
    ∃ before behind, ps = before ++ p :: behind ∧ (∀ q ∈ before, p.price < q.price) ∧
      ∀ q ∈ behind, p.price ≤ q.price := by
  cases ps with
  | nil => cases h
  | cons best ps =>
    obtain ⟨before, q, behind, split, least, rest⟩ := foldl_cheaper best ps
    rw [cheapest, least] at h
    cases h
    exact ⟨before, behind, split, rest⟩

/-- What container `i` offers when it meets a criterion. -/
def suited (criterion : String) : Element × Nat → Option Product
  | (c, i) => ((offer? c).map (Offer.product i)).filter (meets criterion)

theorem suited_eq_some {criterion : String} {c : Element} {i : Nat} {p : Product}
    (h : suited criterion (c, i) = some p) :
    ∃ o, offer? c = some o ∧ Fits criterion o.name ∧ p = o.product i := by
  obtain ⟨read, met⟩ := Option.filter_eq_some_iff.1 h
  obtain ⟨o, offer, rfl⟩ := Option.map_eq_some_iff.1 read
  exact ⟨o, offer, met, rfl⟩

theorem suited_of_offerAt {criterion : String} {s : Site} {j : Nat} {o : Offer}
    (offer : offerAt s j = some o) (fits : Fits criterion o.name) :
    ∃ c, (c, j) ∈ (containersOf s).zipIdx ∧ suited criterion (c, j) = some (o.product j) := by
  obtain ⟨c, there, complete⟩ := Option.bind_eq_some_iff.1 offer
  refine ⟨c, List.mk_mem_zipIdx_iff_getElem?.2 there, Option.filter_eq_some_iff.2 ⟨?_, fits⟩⟩
  rw [complete]
  rfl

theorem zipIdx_pairwise (cs : List Element) : cs.zipIdx.Pairwise fun a b => a.2 < b.2 := by
  rw [← List.pairwise_map (f := Prod.snd) (R := (· < ·)), List.zipIdx_map_snd]
  exact List.pairwise_lt_range'

/-- The first of the cheapest products that meet a criterion is in the container that the criterion
chooses. -/
theorem chosen_of_cheapest {criterion : String} {s : Site} {p : Product}
    (h : cheapest ((offered s).filter (meets criterion)) = some p) :
    ∃ i o, Chosen criterion s i o ∧ p = o.product i := by
  obtain ⟨before, behind, split, dearer, rest⟩ := cheapest_eq_some h
  rw [offered, List.filter_filterMap] at split
  change (containersOf s).zipIdx.filterMap (suited criterion) = _ at split
  obtain ⟨front, others, whole, read, read'⟩ := List.filterMap_eq_append_iff.1 split
  obtain ⟨skipped, ⟨c, i⟩, back, rfl, unsuited, here, back_read⟩ :=
    List.filterMap_eq_cons_iff.1 read'
  obtain ⟨o, offer, fits, rfl⟩ := suited_eq_some here
  have there : (containersOf s)[i]? = some c := by
    rw [← List.mk_mem_zipIdx_iff_getElem?, whole]
    simp
  have ordered := zipIdx_pairwise (containersOf s)
  rw [whole, List.pairwise_append, List.pairwise_append, List.pairwise_cons] at ordered
  have later := ordered.2.1.2.1.1
  -- Where another container stands that offers something suitable.
  have place (j : Nat) (q : Offer) (other : offerAt s j = some q) (met : Fits criterion q.name) :
      o.price < q.price ∨ (i ≤ j ∧ o.price ≤ q.price) := by
    obtain ⟨d, member, suits⟩ := suited_of_offerAt other met
    rw [whole, List.mem_append, List.mem_append, List.mem_cons] at member
    rcases member with early | early | this | late
    · have listed : q.product j ∈ before := by
        rw [← read]
        exact List.mem_filterMap.2 ⟨_, early, suits⟩
      exact .inl (dearer _ listed)
    · rw [unsuited _ early] at suits
      cases suits
    · obtain ⟨rfl, rfl⟩ := Prod.mk.inj this
      have same := Option.some.inj (here.symm.trans suits)
      exact .inr ⟨Nat.le_refl _, Nat.le_of_eq (congrArg Product.price same)⟩
    · have listed : q.product j ∈ behind := by
        rw [← back_read]
        exact List.mem_filterMap.2 ⟨_, late, suits⟩
      exact .inr ⟨Nat.le_of_lt (later _ late), rest _ listed⟩
  refine ⟨i, o, ⟨?_, fits, ?_, ?_⟩, rfl⟩
  · rw [offerAt, there]
    exact offer
  · intro j q other met
    rcases place j q other met with _ | _ <;> omega
  · intro j q early other met
    rcases place j q other met with _ | _ <;> omega

/-- What is found is the first of the cheapest that are listed and meet the criterion. -/
theorem findCheapest_from_list {criterion : String} {criterionKind : Value} {w after : World}
    {p : Product} (run : findCheapest (.str criterion) criterionKind w = .ok p after) :
    ∃ products u, list w = .ok products u ∧
      cheapest (products.filter (meets criterion)) = some p := by
  obtain ⟨products, w₁, listed, rest⟩ := bind_ok_iff.1 run
  obtain ⟨_, w₂, -, rest⟩ := bind_ok_iff.1 rest
  obtain ⟨_, w₃, -, rest⟩ := bind_ok_iff.1 rest
  obtain ⟨_, w₄, -, rest⟩ := bind_ok_iff.1 rest
  obtain ⟨_, w₅, -, rest⟩ := bind_ok_iff.1 rest
  obtain ⟨suitable, w₆, met, rest⟩ := bind_ok_iff.1 rest
  obtain ⟨_, w₇, -, rest⟩ := bind_ok_iff.1 rest
  obtain ⟨rfl, -⟩ := EStateM.Result.ok.inj met
  cases least : cheapest (products.filter (meets criterion)) with
  | none =>
    simp only [least] at rest
    obtain ⟨_, _, -, thrown⟩ := bind_ok_iff.1 rest
    cases thrown
  | some q =>
    simp only [least] at rest
    obtain ⟨_, _, -, returned⟩ := bind_ok_iff.1 rest
    obtain ⟨rfl, -⟩ := EStateM.Result.ok.inj returned
    exact ⟨products, w₁, listed, least⟩

/-- The cheapest product that meets a criterion is in the container that the criterion chooses. -/
theorem findCheapest_ok {criterion : String} {criterionKind : Value} {w after : World} {p : Product}
    (unscripted : w.rules = [])
    (run : findCheapest (.str criterion) criterionKind w = .ok p after) :
    ∃ i o, Chosen criterion w.site i o ∧ p = o.product i := by
  obtain ⟨products, u, listed, least⟩ := findCheapest_from_list run
  obtain rfl := list_ok unscripted listed
  exact chosen_of_cheapest least

/-- Whatever the rules do, a product that is found fits the criterion. -/
theorem findCheapest_fits {criterion : String} {criterionKind : Value} {w after : World}
    {p : Product} (run : findCheapest (.str criterion) criterionKind w = .ok p after) :
    Fits criterion p.name := by
  obtain ⟨products, -, -, least⟩ := findCheapest_from_list run
  obtain ⟨before, behind, split, -⟩ := cheapest_eq_some least
  have there : p ∈ products.filter (meets criterion) := by simp [split]
  exact (List.mem_filter.1 there).2

theorem addCheapest_fits {criterion criterionKind name : String} {w after : World}
    (run : addCheapest criterion criterionKind w = .ok name after) : Fits criterion name := by
  obtain ⟨p, _, found, rest⟩ := bind_ok_iff.1 run
  obtain ⟨_, _, -, rest⟩ := bind_ok_iff.1 rest
  obtain ⟨_, _, -, returned⟩ := bind_ok_iff.1 rest
  cases returned
  exact findCheapest_fits found

theorem addPair_fits {k : ProductKind} {a b : String} {w after : World}
    (run : addPair k w = .ok (a, b) after) : Fits k.criteria.1 a ∧ Fits k.criteria.2 b := by
  obtain ⟨_, _, -, rest⟩ := bind_ok_iff.1 run
  obtain ⟨_, _, first, rest⟩ := bind_ok_iff.1 rest
  obtain ⟨_, _, second, returned⟩ := bind_ok_iff.1 rest
  cases returned
  exact ⟨addCheapest_fits first, addCheapest_fits second⟩

end Products

end Shopwalk
