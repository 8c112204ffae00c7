import Shopwalk.Proofs.EvidencePlace
import Shopwalk.Proofs.TripToCart

/-!
The choice of products by a temperature. It clicks on one button, that of the products chosen, and
its answer tells whether this led to their page. Without a temperature none is read from the page:
the choice then fails before any click, which counts as moisturizers that were not reached.
-/

namespace Shopwalk.Home

open Shop

theorem pickKind_looks (temperature : Value) : Looks (pickKind temperature) := by
  refine (Stays.textOf _).bind fun _ => (Stays.note _ _).bind fun _ =>
    (Stays.settle _).bind fun below => ?_
  split
  · exact (Stays.note _ _).bind fun _ => Stays.pure _
  · refine (Stays.settle _).bind fun above => ?_
    split
    · exact (Stays.note _ _).bind fun _ => Stays.pure _
    · exact (Stays.note _ _).bind fun _ => Stays.pure _

/-- The calls that act on the site when the button of a kind of products is followed. -/
def buttonCalls (k : ProductKind) : List Event := [.expectNavigation none, .pageClick k.button]

theorem press_acted (k : ProductKind) {w : World} (unscripted : w.rules = []) :
    Acted w (lastState (Browser.expectNavigation none (Browser.pageClick k.button) w))
      (w.site.pressed (.top k.button)) (buttonCalls k) := by
  have acted := (press_makes k w.site).acted unscripted fun f refused =>
    Site.pressed_of_error (by simpa using refused)
  -- The click happens whether the site refuses it or not.
  have happened : deeds (play [] [⟨.expectNavigation none, none⟩, ⟨.pageClick k.button,
      faultOf (w.site.pressing (.top k.button))⟩]).events = buttonCalls k := by
    cases faultOf (w.site.pressing (.top k.button)) <;> rfl
  rw [happened] at acted
  exact acted

/-- However following a button ends, the button has been clicked on, and nothing else. -/
theorem followButton_acted (k : ProductKind) {w : World} (unscripted : w.rules = []) :
    Acted w (lastState (followButton k w)) (w.site.pressed (.top k.button)) (buttonCalls k) := by
  let noted : World := { w with journal := w.journal ++
    [⟨.info, s!"Clicking Buy {k.plural} button"⟩] }
  have acted : Acted noted _ _ _ := (press_acted k (w := noted) unscripted).bind_looks fun _ =>
    (Stays.navigation (.str k.urlPart) (.str k.heading) Selector.heading).bind fun _ =>
      Stays.site.bind fun s =>
        (AdmitsSuccess.admits s!"Successfully navigated to {k.plural} page: {s.url}").bind
          fun _ => Stays.pure true
  exact ⟨acted.site, acted.rules, acted.calls⟩

theorem chooseProducts_acted {t : Int} (short : t.natAbs < Text.longNumber) {w : World}
    (unscripted : w.rules = []) :
    Acted w (lastState (chooseProducts (.int t) w))
      (w.site.pressed (.top (kindFor t).button)) (buttonCalls (kindFor t)) := by
  obtain ⟨u, picked, -⟩ := (pickKind_follows w.site short).yields.run rfl unscripted
  have first := ((pickKind_looks _).of_ok picked).acted unscripted
  have gone : Acted u (lastState (goToProducts (kindFor t) u)) _ _ :=
    (followButton_acted (kindFor t) first.rules).recovering
  have told := gone.bind_looks fun b => Stays.pure (kindFor t, b)
  rw [first.site] at told
  apply Acted.recovering
  rw [goByTemperature_eq, bind_of_ok picked]
  exact first.trans told

theorem kindFor_eq_moisturizer_iff {t : Int} : kindFor t = .moisturizer ↔ t ≤ 34 := by
  unfold kindFor
  split
  · simp only [reduceCtorEq, false_iff]
    omega
  · simp only [true_iff]
    omega

/-- Choosing by a temperature answers wherever evidence can be kept: sunscreens above 34 degrees and
moisturizers up to there. Of all calls that act on the site it makes two, the click on the button of
these products and the wait for what that leads to. The answer is that they were reached exactly
when the one such button can be pressed, sets the address, and leads to a page whose address holds
their name, in letters of either case, and whose one heading is theirs. -/
theorem chosen_products_reached_iff {w : World} {t : Int}
    (short : (Nat.toDigits 10 t.natAbs).length ≤ Text.digitLimit) (unscripted : w.rules = [])
    (home : w.disk.isDirectory "." = true)
    (free : ∀ content, w.disk.lookup "./errors" ≠ some (.file content)) :
    let k := if 34 < t then ProductKind.sunscreen else .moisturizer
    ∃ reached after events, chooseProducts (.int t) w = .ok (k, reached) after ∧
      after.trace = w.trace ++ events ∧
      deeds events = [.expectNavigation none, .pageClick k.button] ∧
      (reached = true ↔ ∃ e url, w.site.resolve (.top k.button) = [e] ∧ e.visible = true ∧
        e.enabled = true ∧ .setUrl url ∈ e.onClick ∧
        Text.HasCaseless k.name (w.site.actAll e.onClick).url ∧
        ∃ h, (w.site.actAll e.onClick).resolve (.top "h2") = [h] ∧ h.visible = true ∧
          Text.contains (h.text.getD "") k.heading = true) := by
  intro k
  rw [Text.length_toDigits_le_iff] at short
  have keepable : Evidence.Keepable w.disk := (Evidence.keepable_iff home).2 free
  obtain ⟨reached, after, run, told⟩ :=
    chooseProducts_of_answers short unscripted (.inr keepable)
  have acted := chooseProducts_acted short unscripted
  rw [run] at acted
  obtain ⟨events, trace, done⟩ := acted.calls
  refine ⟨reached, after, events, run, trace, done, told.trans ?_⟩
  constructor
  · rintro ⟨e, url, found, visible, enabled, leads, shown⟩
    exact ⟨e, url, found, visible, enabled, leads,
      Check.wordPattern_found_iff_hasCaseless.1 shown.url, shown.heading⟩
  · rintro ⟨e, url, found, visible, enabled, leads, worded, heading⟩
    exact ⟨e, url, found, visible, enabled, leads,
      Check.wordPattern_found_iff_hasCaseless.2 worded, heading⟩

/-- A home page that shows a temperature and has no button. -/
def bareShop (t : Int) : World where
  site := { elements := [(Selector.temperature, [.mk (some (degrees t)) true true [] []])] }

theorem shows_bareShop (t : Int) : Shows (bareShop t).site t := ⟨_, rfl, rfl, rfl⟩

theorem not_reaches_bareShop (k : ProductKind) (t : Int) : ¬ Reaches k (bareShop t).site := by
  rintro ⟨e, url, found, -⟩
  cases k <;> cases found

/-- In the cold the moisturizers are reached; in the heat the sunscreens are not, for want of their
button, which is clicked on all the same. -/
theorem chosen_products_reached_iff_cold_and_hot :
    (openShop 20).rules = [] ∧ (bareShop 20).rules = [] ∧
    Disk.fresh.isDirectory "." = true ∧ Disk.fresh.lookup "./errors" = none ∧
    (∃ after, chooseProducts (.int (-7)) (openShop 20) = .ok (.moisturizer, true) after) ∧
    ∃ after events, chooseProducts (.int 35) (bareShop 20) = .ok (.sunscreen, false) after ∧
      after.trace = (bareShop 20).trace ++ events ∧
      deeds events = [.expectNavigation none, .pageClick ProductKind.sunscreen.button] := by
  have home : Disk.fresh.isDirectory "." = true := by decide
  have vacant : Disk.fresh.lookup "./errors" = none := by decide
  have free : ∀ content, Disk.fresh.lookup "./errors" ≠ some (.file content) := by simp [vacant]
  refine ⟨rfl, rfl, home, vacant, ?_, ?_⟩
  · obtain ⟨reached, after, _, run, -, -, told⟩ :=
      chosen_products_reached_iff (w := openShop 20) (t := -7) (by decide) rfl home free
    obtain ⟨e, url, found, visible, enabled, leads, shown⟩ :=
      reaches_openShop (k := .moisturizer) 20
    have arrived := told.2 ⟨e, url, found, visible, enabled, leads,
      Check.wordPattern_found_iff_hasCaseless.1 shown.url, shown.heading⟩
    rw [arrived] at run
    exact ⟨after, run⟩
  · obtain ⟨reached, after, events, run, trace, done, told⟩ :=
      chosen_products_reached_iff (w := bareShop 20) (t := 35) (by decide) rfl home free
    have astray : reached = false := by
      rw [← Bool.not_eq_true, told]
      rintro ⟨e, url, found, -⟩
      cases found
    rw [astray] at run
    exact ⟨after, events, run, trace, done⟩

/-- What is absent cannot be compared with a temperature. -/
theorem pickKind_none_follows (s : Site) :
    Follows s (pickKind .none) [] (.error (.notComparable "<" "NoneType" "int")) := by
  refine (Follows.settle (.ok "None")).bind (a := []) ?_
  refine (Follows.note _ _).bind (a := []) ?_
  exact (Follows.settle (.error _)).bind_error

/-- Without a temperature there is one answer, if there is any. -/
theorem chooseProducts_none_ok_iff {w : World} (unscripted : w.rules = [])
    {pair : ProductKind × Bool} :
    (∃ after, chooseProducts .none w = .ok pair after) ↔
      (.moisturizer, false) = pair ∧ Evidence.Keepable w.disk := by
  obtain ⟨u, failed, later⟩ := (pickKind_none_follows w.site).yields.run rfl unscripted
  have stopped : goByTemperature .none w = .error (.notComparable "<" "NoneType" "int") u := by
    rw [goByTemperature_eq]
    exact bind_of_error failed
  rw [← later.disk]
  exact Evidence.recovering_ok_iff_of_error stopped

/-- A number that is read as the temperature is not too long to be written. -/
theorem short_of_temperature {w after : World} {n : Nat} (read : temperature w = .ok n after) :
    n < Text.longNumber := by
  obtain ⟨e, text, -, -, -, number⟩ := temperature_ok read
  obtain ⟨-, short, rfl⟩ := reading_eq_number_iff.1 number
  exact Text.decimalValue_lt_longNumber short

/-- A choice without a temperature answers, if at all, that moisturizers were not reached. So it
answers as one by the temperature on the page exactly when that calls for moisturizers, these
cannot be reached, and evidence of it can be kept. -/
theorem choice_without_temperature_agrees_iff {w after : World} {n : Nat}
    (unscripted : w.rules = []) (read : temperature w = .ok n after) :
    (∀ pair last, chooseProducts .none w = .ok pair last → pair = (.moisturizer, false)) ∧
    ((∃ pair last last', chooseProducts .none w = .ok pair last ∧
        chooseProducts (.int n) w = .ok pair last') ↔
      n ≤ 34 ∧ ¬ Reaches .moisturizer w.site ∧ Evidence.Keepable w.disk) := by
  have short := short_of_temperature read
  have only {pair : ProductKind × Bool} {last : World}
      (answered : chooseProducts .none w = .ok pair last) :
      (.moisturizer, false) = pair ∧ Evidence.Keepable w.disk :=
    (chooseProducts_none_ok_iff unscripted).1 ⟨last, answered⟩
  refine ⟨fun pair last answered => (only answered).1.symm, ?_⟩
  constructor
  · rintro ⟨pair, last, last', answered, same⟩
    obtain ⟨rfl, keepable⟩ := only answered
    obtain ⟨reached, _, run, told⟩ :=
      chooseProducts_of_answers (t := n) short unscripted (.inr keepable)
    obtain ⟨alike, -⟩ := EStateM.Result.ok.inj (run.symm.trans same)
    obtain ⟨kind, rfl⟩ := Prod.mk.inj alike
    rw [kind] at told
    have mild := kindFor_eq_moisturizer_iff.1 kind
    exact ⟨by omega, fun reaches => Bool.false_ne_true (told.2 reaches), keepable⟩
  · rintro ⟨mild, astray, keepable⟩
    obtain ⟨last, answered⟩ := (chooseProducts_none_ok_iff unscripted).2 ⟨rfl, keepable⟩
    obtain ⟨reached, last', run, told⟩ :=
      chooseProducts_of_answers (t := n) short unscripted (.inr keepable)
    rw [kindFor_eq_moisturizer_iff.2 (by omega)] at run told
    have missed : reached = false := by
      rw [← Bool.not_eq_true, told]
      exact astray
    rw [missed] at run
    exact ⟨_, last, last', answered, run⟩

theorem choice_without_temperature_agrees_iff_bare :
    (bareShop 20).rules = [] ∧ (∃ u, temperature (bareShop 20) = .ok 20 u) ∧
    ∃ pair last last', chooseProducts .none (bareShop 20) = .ok pair last ∧
      chooseProducts (.int 20) (bareShop 20) = .ok pair last' := by
  have short : 20 < Text.longNumber := (Text.length_toDigits_le_iff 20).1 (by decide)
  obtain ⟨u, read, -⟩ :=
    temperature_of_shows (w := bareShop 20) rfl (shows_bareShop 20) short
  refine ⟨rfl, ⟨u, read⟩, (choice_without_temperature_agrees_iff rfl read).2.2 ?_⟩
  exact ⟨by decide, not_reaches_bareShop _ 20, Evidence.keepable_fresh⟩

/-- At 45 degrees the sunscreens are in reach, and a choice without a temperature passes them by. -/
theorem heat_on_page_passed_by :
    (openShop 45).rules = [] ∧ (∃ u, temperature (openShop 45) = .ok 45 u) ∧
    (∃ last, chooseProducts .none (openShop 45) = .ok (.moisturizer, false) last) ∧
    ∃ last, chooseProducts (.int 45) (openShop 45) = .ok (.sunscreen, true) last := by
  have short : 45 < Text.longNumber := (Text.length_toDigits_le_iff 45).1 (by decide)
  obtain ⟨u, read, -⟩ :=
    temperature_of_shows (w := openShop 45) rfl (shows_openShop 45) short
  have keepable : Evidence.Keepable (openShop 45).disk := Evidence.keepable_fresh
  obtain ⟨reached, last, run, told⟩ :=
    chooseProducts_of_answers (w := openShop 45) (t := 45) short rfl (.inr keepable)
  rw [told.2 (reaches_openShop 45)] at run
  exact ⟨rfl, ⟨u, read⟩, (chooseProducts_none_ok_iff rfl).2 ⟨rfl, keepable⟩, last, run⟩

end Shopwalk.Home
