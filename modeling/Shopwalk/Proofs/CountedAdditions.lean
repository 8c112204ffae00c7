import Shopwalk.Proofs.Additions
import Shopwalk.Proofs.FirstNumber

/-!
Additions one after the other, by buttons that each count one more item. The label that a press
writes on the cart button is read back before the next one, so that every addition is told to have
worked, however many there are, as long as their number can be read.
-/

namespace Shopwalk

/-- The two elements differ in their texts at most. -/
def Element.Alike (e e' : Element) : Prop :=
  e'.visible = e.visible ∧ e'.enabled = e.enabled ∧ e'.children = e.children ∧
    e'.onClick = e.onClick

theorem Element.alike_withText (e : Element) (t : Option String) : e.Alike (e.withText t) :=
  ⟨rfl, rfl, rfl, rfl⟩

namespace Site

/-- Counting an item changes no more than texts, wherever one looks. -/
theorem resolve_bump (s : Site) (selector : String) (l : Locator) :
    ∃ relabel : Element → Element, (∀ e : Element, e.Alike (relabel e)) ∧
      (s.act (.bump selector)).resolve l = (s.resolve l).map relabel := by
  induction l with
  | top t =>
    by_cases same : selector = t
    · refine ⟨(·.withText (some (cartLabel (s.bumps + 1)))), fun e => e.alike_withText _, ?_⟩
      simp [resolve, act, same]
    · exact ⟨id, fun _ => ⟨rfl, rfl, rfl, rfl⟩, by simp [resolve, act, same]⟩
  | inside base t ih =>
    obtain ⟨relabel, alike, mapped⟩ := ih
    refine ⟨id, fun _ => ⟨rfl, rfl, rfl, rfl⟩, ?_⟩
    have children : ∀ e, (relabel e).children = e.children := fun e => (alike e).2.2.1
    simp [resolve, mapped, List.flatMap_map, children]
  | nth base i ih =>
    obtain ⟨relabel, alike, mapped⟩ := ih
    refine ⟨relabel, alike, ?_⟩
    simp only [resolve, mapped, List.getElem?_map]
    split
    · cases (s.resolve base)[i.toNat]? <;> rfl
    · rfl
  | framed f t => exact ⟨id, fun _ => ⟨rfl, rfl, rfl, rfl⟩, by simp [resolve, act]⟩

theorem resolve_bump_top {s : Site} {selector : String} {e : Element}
    (found : s.resolve (.top selector) = [e]) :
    (s.act (.bump selector)).resolve (.top selector) =
      [e.withText (some (cartLabel (s.bumps + 1)))] := by
  simp only [resolve] at found
  simp [resolve, act, found]

end Site

namespace Shop

open Text

/-- The label of a cart reads as the number of its items. -/
theorem numberOrZero_cartLabel {n : Nat} (short : n < longNumber) :
    numberOrZero (Site.cartLabel n) = .ok n := by
  have free : ∀ c ∈ "Cart - ".toList, isDigit c = false := digitFree_of_any (by decide)
  have stops : ∀ c rest, " item(s)".toList = c :: rest → isDigit c = false := by
    rintro c rest split
    cases split
    decide
  have written : (Site.cartLabel n).toList =
      "Cart - ".toList ++ Nat.toDigits 10 n ++ " item(s)".toList := by
    simp only [Site.cartLabel, String.toList_append, Nat.toList_repr]
  rw [numberOrZero_eq_ok_iff, written, (cut_at_numeral n free stops).firstRun_eq]
  exact ⟨(length_toDigits_le_iff n).2 short, decimalValue_toDigits n⟩

end Shop

namespace Products

open Shop Text

/-- A button that can be pressed and counts one more item on the cart button. -/
def Counts (s : Site) (button : Locator) : Prop :=
  ∃ e, s.resolve button = [e] ∧ e.visible = true ∧ e.enabled = true ∧
    e.onClick = [.bump Selector.cartButton]

/-- So many items have been counted, and the one cart button says so; it shows no digit before the
first of them. -/
structure Tally (k : Nat) (s : Site) : Prop where
  bumps : s.bumps = k
  shown : ∃ e, s.resolve (.top Selector.cartButton) = [e] ∧ e.visible = true ∧
    if k = 0 then ∀ text, e.text = some text → ∀ c ∈ text.toList, isDigit c = false
    else e.text = some (Site.cartLabel k)

variable {k : Nat} {s : Site} {b : Locator}

theorem Tally.countOn? (tally : Tally k s) (short : k < longNumber) : countOn? s = some k := by
  obtain ⟨e, found, -, label⟩ := tally.shown
  have read : numberOrZero (e.text.getD "") = .ok k := by
    split at label
    · next none_yet =>
      subst none_yet
      cases worded : e.text with
      | none => rfl
      | some text => rw [Option.getD_some, numberOrZero, reading_of_free (label text worded)]
    · rw [label]
      exact numberOrZero_cartLabel short
  rw [Products.countOn?, found]
  simp only [read]
  rfl

theorem Counts.pressing (counts : Counts s b) :
    s.pressing b = .ok (s.act (.bump Selector.cartButton)) := by
  obtain ⟨e, found, visible, enabled, onClick⟩ := counts
  exact Site.pressing_eq_ok_iff.2 ⟨e, found, visible, enabled, by rw [onClick]; rfl⟩

/-- A button that counts does so still when another one has been pressed. -/
theorem Counts.bump (counts : Counts s b) : Counts (s.act (.bump Selector.cartButton)) b := by
  obtain ⟨e, found, visible, enabled, onClick⟩ := counts
  obtain ⟨relabel, alike, mapped⟩ := s.resolve_bump Selector.cartButton b
  obtain ⟨visible', enabled', -, onClick'⟩ := alike e
  rw [found, List.map_singleton] at mapped
  exact ⟨relabel e, mapped, visible'.trans visible, enabled'.trans enabled, onClick'.trans onClick⟩

theorem Tally.bump (tally : Tally k s) : Tally (k + 1) (s.act (.bump Selector.cartButton)) := by
  obtain ⟨e, found, visible, -⟩ := tally.shown
  refine ⟨?_, _, Site.resolve_bump_top found, visible, ?_⟩
  · rw [← tally.bumps]
    rfl
  · rw [if_neg (Nat.succ_ne_zero k), Element.text_withText, tally.bumps]

/-- One more addition is told to have worked. -/
theorem addToCart_counts {w : World} (unscripted : w.rules = []) (tally : Tally k w.site)
    (short : k + 1 < longNumber) (counts : Counts w.site b) :
    ∃ after, addToCart (.locator b) w = .ok true after ∧ after.rules = [] ∧
      after.site = w.site.act (.bump Selector.cartButton) := by
  have before := tally.countOn? (Nat.lt_of_succ_lt short)
  have up : CountsUp w.site b := by
    obtain ⟨e, found, visible, -⟩ := tally.bump.shown
    exact ⟨_, k, k + 1, counts.pressing, before, tally.bump.countOn? short, Nat.lt_succ_self k, e,
      found, visible⟩
  obtain ⟨after, pressed⟩ := (pressAdd_true_iff b unscripted).2 up
  have run : addToCart (.locator b) w = .ok true after := Evidence.recovering_of_ok pressed
  obtain ⟨acted, -⟩ := addToCart_ok unscripted run
  refine ⟨after, run, acted.rules, ?_⟩
  rw [acted.site, tried, before, Option.isSome_some, if_pos rfl, Site.pressed, counts.pressing]

/-- So are any number of them, one after the other. -/
theorem mapM_addToCart_counts (buttons : List Locator) {w : World} (unscripted : w.rules = [])
    (tally : Tally k w.site) (short : k + buttons.length < longNumber)
    (counts : ∀ b ∈ buttons, Counts w.site b) :
    ∃ after, buttons.mapM (fun b => addToCart (.locator b)) w =
        .ok (List.replicate buttons.length true) after ∧
      Tally (k + buttons.length) after.site := by
  induction buttons generalizing k w with
  | nil => exact ⟨w, rfl, tally⟩
  | cons b rest ih =>
    rw [List.forall_mem_cons] at counts
    rw [List.length_cons] at short ⊢
    obtain ⟨next, first, rules, site⟩ :=
      addToCart_counts unscripted tally (by omega) counts.1
    have tally' : Tally (k + 1) next.site := site ▸ tally.bump
    have counts' : ∀ b ∈ rest, Counts next.site b := fun b there => site ▸ (counts.2 b there).bump
    obtain ⟨after, others, last⟩ := ih rules tally' (by omega) counts'
    refine ⟨after, ?_, ?_⟩
    · rw [List.mapM_cons, bind_of_ok first]
      exact bind_of_ok others
    · rw [Nat.add_comm rest.length 1, ← Nat.add_assoc]
      exact last

/-- Any number of additions that can be written, each by a button that counts one more item: every
one of them is told to have worked, and the cart button shows their number after each. -/
theorem repeated_additions_counted {w : World} {cart : Element} {buttons : List Locator}
    (unscripted : w.rules = []) (found : w.site.resolve (.top Selector.cartButton) = [cart])
    (visible : cart.visible = true)
    (free : ∀ text, cart.text = some text → ∀ c ∈ text.toList, isDigit c = false)
    (uncounted : w.site.bumps = 0)
    (short : (Nat.repr buttons.length).length ≤ digitLimit)
    (counts : ∀ b ∈ buttons, ∃ e, w.site.resolve b = [e] ∧ e.visible = true ∧ e.enabled = true ∧
      e.onClick = [.bump Selector.cartButton])
    {n : Nat} (bound : n ≤ buttons.length) :
    ∃ after, (buttons.take n).mapM (fun b => addToCart (.locator b)) w =
        .ok (List.replicate n true) after ∧
      (0 < n → ∃ e, after.site.resolve (.top Selector.cartButton) = [e] ∧
        e.text = some ("Cart - " ++ Nat.repr n ++ " item(s)")) := by
  have readable : buttons.length < longNumber := by
    rw [← length_toDigits_le_iff, ← Nat.toList_repr, String.length_toList]
    exact short
  have length : (buttons.take n).length = n := List.length_take_of_le bound
  have tally : Tally 0 w.site := ⟨uncounted, cart, found, visible, free⟩
  obtain ⟨after, run, last⟩ := mapM_addToCart_counts (buttons.take n) unscripted tally (by omega)
    fun b there => counts b (List.mem_of_mem_take there)
  rw [length] at run last
  refine ⟨after, run, fun some_call => ?_⟩
  rw [Nat.zero_add] at last
  obtain ⟨e, found', -, label⟩ := last.shown
  rw [if_neg (by omega)] at label
  exact ⟨e, found', label⟩

/-- A shop whose cart button has no text yet and counts an item itself when it is pressed. -/
def countingShop : World where
  site := { elements :=
    [(Selector.cartButton, [.mk none true true [] [.bump Selector.cartButton]]),
     (Selector.containers, [containerOf "Aloe" "Price: 300" [.bump Selector.cartButton]])] }

theorem repeated_additions_counted_thrice :
    ∃ after, [addButtonAt 0, .top Selector.cartButton, addButtonAt 0].mapM
        (fun b => addToCart (.locator b)) countingShop = .ok [true, true, true] after ∧
      ∃ e, after.site.resolve (.top Selector.cartButton) = [e] ∧
        e.text = some "Cart - 3 item(s)" := by
  have counts : ∀ b ∈ [addButtonAt 0, .top Selector.cartButton, addButtonAt 0],
      ∃ e, countingShop.site.resolve b = [e] ∧ e.visible = true ∧ e.enabled = true ∧
        e.onClick = [.bump Selector.cartButton] := by
    simp only [List.forall_mem_cons, List.not_mem_nil, false_implies, implies_true, and_true]
    exact ⟨⟨_, rfl, rfl, rfl, rfl⟩, ⟨_, rfl, rfl, rfl, rfl⟩, ⟨_, rfl, rfl, rfl, rfl⟩⟩
  obtain ⟨after, run, label⟩ := repeated_additions_counted (w := countingShop) rfl rfl rfl nofun rfl
    (by decide) counts (Nat.le_refl 3)
  exact ⟨after, run, label (by decide)⟩

end Products

end Shopwalk
