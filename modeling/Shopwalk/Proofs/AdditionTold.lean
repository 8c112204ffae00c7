import Shopwalk.Proofs.CountedAdditions
import Shopwalk.Proofs.EvidencePlace

/-!
What the answer of an addition means. An addition always comes to an answer where evidence can be
kept, and it answers that it worked exactly when the cart button counts more after the press than
before. The button is pressed once if the count before could be read, and else not at all.
-/

namespace Shopwalk

theorem count_deeds {e : Event} (acts : e.acts = true) (events : List Event) :
    (deeds events).count e = events.count e :=
  List.count_filter acts

namespace Products

open Shop Text

/-- What the text of a cart button counts: the number that its first run of digits writes, and
nothing if it has no digit or there is no text. -/
def Counted (text : Option String) (n : Nat) : Prop :=
  ((∀ t, text = some t → ∀ c ∈ t.toList, isDigit c = false) ∧ n = 0) ∨
    ∃ t, text = some t ∧ Writes t n

theorem counted_none_iff {n : Nat} : Counted none n ↔ n = 0 := by
  simp [Counted]

theorem counted_some_iff {t : String} {n : Nat} :
    Counted (some t) n ↔ numberOrZero t = .ok n := by
  have split : Counted (some t) n ↔
      ((∀ c ∈ t.toList, isDigit c = false) ∧ n = 0) ∨ Writes t n := by
    simp only [Counted, Option.some.injEq, forall_eq', exists_eq_left']
  rw [split, writes_iff]
  by_cases free : ∀ c ∈ t.toList, isDigit c = false
  · have absent := reading_of_free free
    have zero : numberOrZero t = .ok 0 := by rw [numberOrZero, absent]
    rw [absent, zero, Except.ok.injEq, eq_comm]
    constructor
    · rintro (⟨-, nothing⟩ | number)
      · exact nothing
      · cases number
    · exact fun nothing => .inl ⟨free, nothing⟩
  · have present : Reading.of t ≠ .absent := by
      rw [← Check.digits_found_iff_reading, Check.digits_found_iff]
      simpa using free
    rw [← numberOrZeroOf_str, (allRead_numberIn present).optional, numberIn_eq_ok_iff]
    exact or_iff_right fun counted => free counted.1

theorem counted_iff {text : Option String} {n : Nat} :
    Counted text n ↔ numberOrZero (text.getD "") = .ok n := by
  cases text with
  | none =>
    have nothing : numberOrZero "" = .ok 0 := rfl
    rw [counted_none_iff, Option.getD_none, nothing, Except.ok.injEq, eq_comm]
  | some t => rw [counted_some_iff, Option.getD_some]

/-- There is one cart button, and it counts so many items. -/
def CartCounts (s : Site) (n : Nat) : Prop :=
  ∃ cart, s.resolve (.top Selector.cartButton) = [cart] ∧ Counted cart.text n

theorem countOn?_eq_some_iff {s : Site} {n : Nat} : countOn? s = some n ↔ CartCounts s n := by
  unfold countOn? CartCounts
  split
  · next cart found => simp [found, counted_iff, toOption_eq_some_iff]
  · next other =>
    constructor
    · exact nofun
    · rintro ⟨cart, found, -⟩
      exact absurd found (other cart)

/-- The press of a button makes the cart button show a number above `n`, where it can be seen. -/
def ShowsMore (s : Site) (button : Locator) (n : Nat) : Prop :=
  ∃ e cart text m, s.resolve button = [e] ∧ e.visible = true ∧ e.enabled = true ∧
    (s.actAll e.onClick).resolve (.top Selector.cartButton) = [cart] ∧ cart.visible = true ∧
    cart.text = some text ∧ Writes text m ∧ n < m

theorem countsUp_iff {s : Site} {b : Locator} :
    CountsUp s b ↔ ∃ n, CartCounts s n ∧ ShowsMore s b n := by
  constructor
  · rintro ⟨t, n, m, press, before, after, greater, cart, found, visible⟩
    obtain ⟨e, there, seen, enabled, rfl⟩ := Site.pressing_eq_ok_iff.1 press
    obtain ⟨cart', found', counted⟩ := countOn?_eq_some_iff.1 after
    obtain rfl : cart = cart' := by simpa [found] using found'
    obtain ⟨-, rfl⟩ | ⟨text, worded, written⟩ := counted
    · omega
    · exact ⟨n, countOn?_eq_some_iff.1 before,
        e, cart, text, m, there, seen, enabled, found, visible, worded, written, greater⟩
  · rintro ⟨n, before, e, cart, text, m, there, seen, enabled, found, visible, worded, written,
      greater⟩
    have press := Site.pressing_eq_ok_iff.2 ⟨e, there, seen, enabled, rfl⟩
    have after : CartCounts (s.actAll e.onClick) m := ⟨cart, found, .inr ⟨text, worded, written⟩⟩
    exact ⟨_, n, m, press, countOn?_eq_some_iff.2 before, countOn?_eq_some_iff.2 after, greater,
      cart, found, visible⟩

/-- Without rules, and with no file in the place of the directory of evidence, an addition has an
answer. It says that the addition worked exactly when the count on the cart button could be read,
the button could be pressed, and the cart button then shows a greater number and can be seen. The
button is clicked on once if the count could be read, and else not at all. -/
theorem addition_told_exactly {w : World} {b : Locator} (unscripted : w.rules = [])
    (home : w.disk.isDirectory "." = true)
    (free : ∀ content, w.disk.lookup "./errors" ≠ some (.file content)) :
    ∃ told after events, addToCart (.locator b) w = .ok told after ∧
      after.trace = w.trace ++ events ∧
      (told = true ↔ ∃ n, CartCounts w.site n ∧ ShowsMore w.site b n) ∧
      ((∃ n, CartCounts w.site n) → events.count (.click b.selector) = 1) ∧
      ((¬ ∃ n, CartCounts w.site n) → events.count (.click b.selector) = 0) := by
  have tells : Evidence.TellsFailures (addToCart (.locator b)) :=
    .recovering _ _ _ (pressAdd_stays _)
  obtain ⟨told, after, run⟩ := tells.answers w ((Evidence.keepable_iff home).2 free)
  obtain ⟨⟨-, -, events, trace, done⟩, up⟩ := addToCart_ok unscripted run
  have clicked := count_deeds (e := .click b.selector) rfl events
  rw [done, clicks] at clicked
  refine ⟨told, after, events, run, trace, up.trans countsUp_iff, ?_, ?_⟩
  · rintro ⟨n, counts⟩
    rw [countOn?_eq_some_iff.2 counts] at clicked
    rw [← clicked]
    simp
  · intro uncounted
    have unread : countOn? w.site = none := by
      apply Option.eq_none_iff_forall_ne_some.2
      intro n shown
      exact uncounted ⟨n, countOn?_eq_some_iff.1 shown⟩
    rw [unread] at clicked
    rw [← clicked]
    simp

/-- An addition to a cart button without a text works; without a cart button nothing is pressed. -/
theorem addition_told_exactly_counting :
    (∃ after events, addToCart (.locator (addButtonAt 0)) countingShop = .ok true after ∧
      after.trace = events ∧ events.count (.click (addButtonAt 0).selector) = 1) ∧
    ∃ after events, addToCart (.locator (addButtonAt 0)) {} = .ok false after ∧
      after.trace = events ∧ events.count (.click (addButtonAt 0).selector) = 0 := by
  have home : Disk.fresh.isDirectory "." = true := by decide
  have vacant : Disk.fresh.lookup "./errors" = none := by decide
  have free : ∀ content, Disk.fresh.lookup "./errors" ≠ some (.file content) := by simp [vacant]
  constructor
  · have before : CartCounts countingShop.site 0 := ⟨_, rfl, counted_none_iff.2 rfl⟩
    have more : ShowsMore countingShop.site (addButtonAt 0) 0 :=
      ⟨_, _, _, 1, rfl, rfl, rfl, rfl, rfl, rfl, writes_iff.2 (by decide), by decide⟩
    obtain ⟨told, after, events, run, trace, worked, once, -⟩ :=
      addition_told_exactly (w := countingShop) (b := addButtonAt 0) rfl home free
    obtain rfl := worked.2 ⟨0, before, more⟩
    exact ⟨after, events, run, trace, once ⟨0, before⟩⟩
  · have uncounted : ¬ ∃ n, CartCounts {} n := by
      rintro ⟨n, cart, found, -⟩
      cases found
    obtain ⟨told, after, events, run, trace, worked, -, never⟩ :=
      addition_told_exactly (w := {}) (b := addButtonAt 0) rfl home free
    obtain rfl : told = false := by
      rw [← Bool.not_eq_true, worked]
      rintro ⟨n, counts, -⟩
      exact uncounted ⟨n, counts⟩
    exact ⟨after, events, run, trace, never uncounted⟩

end Products

end Shopwalk
