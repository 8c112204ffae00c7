import Shopwalk.Proofs.Choice
import Shopwalk.Proofs.ItemsChecked

/-!
The scenario that selects products by the temperature in the session. It stores their type before it
checks their page once more. That check asks for what the choice has found on the page already, so
the type is stored by a scenario that passes and by no other. When the choice has not reached the
page, the scenario fails before it can say so.
-/

namespace Shopwalk

namespace Home

open Shop

/-- The button that has led to the page of its products leaves this page behind. -/
theorem pageShown_of_followButton {k : ProductKind} {w after : World} (unscripted : w.rules = [])
    (run : followButton k w = .ok true after) : PageShown k after.site ∧ after.rules = [] := by
  have acted := followButton_acted k unscripted
  rw [run] at acted
  by_cases reaches : Reaches k w.site
  · obtain ⟨e, url, found, visible, enabled, -, shown⟩ := reaches
    have press := Site.pressing_eq_ok_iff.2 ⟨e, found, visible, enabled, rfl⟩
    have moved : w.site.pressed (.top k.button) = w.site.actAll e.onClick := by
      rw [Site.pressed, press]
    have site : after.site = w.site.actAll e.onClick := acted.site.trans moved
    rw [site]
    exact ⟨shown, acted.rules⟩
  · obtain ⟨t, f, brings⟩ := followButton_of_not_reaches reaches
    cases (brings.of_run rfl unscripted run).1

/-- Products that count as reached are on the page that the choice leaves behind. -/
theorem pageShown_of_chooseProducts {temperature : Value} {k : ProductKind} {w after : World}
    (unscripted : w.rules = []) (run : chooseProducts temperature w = .ok (k, true) after) :
    PageShown k after.site ∧ after.rules = [] := by
  have other : ∀ _ : Fault, (ProductKind.moisturizer, false) ≠ (k, true) := by simp
  rw [chooseProducts, Evidence.recovering_ok_iff_of_ne other, goByTemperature_eq] at run
  obtain ⟨_, u, -, rest, -, rules⟩ := (pickKind_looks temperature).look_ok unscripted run
  obtain ⟨reached, last, gone, returned⟩ := bind_ok_iff.1 rest
  cases returned
  rw [goToProducts, Evidence.recovering_ok_iff_of_ne fun _ => Bool.false_ne_true] at gone
  exact pageShown_of_followButton rules gone

theorem navigation_of_pageShown {k : ProductKind} {w : World} (shown : PageShown k w.site)
    (unscripted : w.rules = []) :
    ∃ after, Check.navigation (.str k.name) (.str k.heading) Selector.heading w =
      .ok () after := by
  have checks := (navigation_follows k w.site).yields_of_granted (pageSteps_faultless_iff.2 shown)
  obtain ⟨after, run, -⟩ := checks.run rfl unscripted
  exact ⟨after, run⟩

end Home

namespace Scenario

open Shop

theorem approach_keeps : Keeps approach := Stays.approach Keeps.looks Keeps.browserReady

theorem approach_unscripted : Stays (Worlds Unscripted) approach :=
  Stays.approach (Worlds.looks looked_unscripted) Stage.browserReady_unscripted

/-- An open browser is ready, and the temperature is noted if it can be written. -/
theorem approach_of_open {s : Stage} {t : String} (opened : s.isOpen = true)
    (worded : s.session.temperature.text = .ok t) :
    ∃ u, approach s = .ok (s.session.temperature, t) u ∧ u.world.site = s.world.site ∧
      u.world.rules = s.world.rules ∧ u.world.disk = s.world.disk := by
  have ready : Stage.homeLoaded s = .ok () s := Stage.browserReady_of_open opened
  have written : Scene.textOf s.session.temperature s = .ok t s :=
    Scene.textOf_ok_iff.2 ⟨worded, rfl⟩
  let noted : World := { s.world with journal := s.world.journal ++
    [⟨.info, s!"Using temperature from session_data: {t}°C"⟩] }
  refine ⟨{ s with world := noted }, ?_, rfl, rfl, rfl⟩
  rw [approach, bind_of_ok ready]
  exact bind_of_ok written (f := fun t => do
    Scene.note .info s!"Using temperature from session_data: {t}°C"
    return (s.session.temperature, t))

/-- Where the page of the products is shown, nothing fails any more. -/
theorem settleOn_of_shown {k : ProductKind} {t : String} {s : Stage}
    (shown : Home.PageShown k s.world.site) (unscripted : s.world.rules = []) :
    ∃ after, settleOn k t s = .ok () after ∧
      after.session = { s.session with productType := .str k.name } := by
  let stored : Stage :=
    { s with
      world := { s.world with journal := s.world.journal ++
        [⟨.info, s!"Selected product type: {k.name}"⟩] }
      session := { s.session with productType := .str k.name } }
  obtain ⟨world, checked⟩ :=
    Home.navigation_of_pageShown (w := stored.world) shown unscripted
  have walked := Scene.walk_ok_iff.2 ⟨world, checked, rfl⟩
  have rest := bind_of_ok (s := stored) walked
    (f := fun _ => Scene.note .success s!"Test 2: Selected {k.name} based on temperature {t}°C")
  exact ⟨_, rest, rfl⟩

section
variable {s u : Stage} {temperature : Value} {t : String} {k : ProductKind} {w : World}

theorem productSelection_of_reached (unscripted : s.world.rules = [])
    (approached : approach s = .ok (temperature, t) u)
    (chosen : Home.chooseProducts temperature u.world = .ok (k, true) w) :
    ∃ after, productSelection s = .ok () after ∧
      after.session = { s.session with productType := .str k.name } := by
  have rules : Unscripted s.world u.world := approach_unscripted.of_ok approached
  have same : u.session = s.session := approach_keeps.of_ok approached
  obtain ⟨shown, still⟩ := Home.pageShown_of_chooseProducts (rules unscripted) chosen
  have walked := Scene.walk_ok_iff.2 ⟨w, chosen, rfl⟩
  obtain ⟨after, settled, stored⟩ :=
    settleOn_of_shown (t := t) (s := { u with world := w }) shown still
  rw [same] at stored
  refine ⟨after, ?_, stored⟩
  rw [productSelection_eq, bind_of_ok approached]
  exact (bind_of_ok walked).trans settled

theorem productSelection_of_missed (approached : approach s = .ok (temperature, t) u)
    (chosen : Home.chooseProducts temperature u.world = .ok (k, false) w) :
    productSelection s = giveUpOn k { u with world := w } := by
  have walked := Scene.walk_ok_iff.2 ⟨w, chosen, rfl⟩
  rw [productSelection_eq, bind_of_ok approached]
  exact bind_of_ok walked

theorem productSelection_of_stuck {e : Fault} (approached : approach s = .ok (temperature, t) u)
    (chosen : Home.chooseProducts temperature u.world = .error e w) :
    productSelection s = .error e { u with world := w } := by
  have stopped : Scene.walk (Home.chooseProducts temperature) u =
      .error e { u with world := w } := by
    rw [Scene.walk, chosen]
  rw [productSelection_eq, bind_of_ok approached]
  exact bind_of_error stopped

/-- When the choice has not reached the page of its products, the scenario fails for a name that it
has not assigned, whatever the rules are. What it should fail with is only in the log; the session
is as it was, and since the choice no call has been made and no evidence kept. -/
theorem missed_page_not_reported (approached : approach s = .ok (temperature, t) u)
    (chosen : Home.chooseProducts temperature u.world = .ok (k, false) w) :
    (∃ after, productSelection s = .error (.unassigned "page") after ∧
      after.session = s.session ∧
      after.world = { w with journal := w.journal ++
        [⟨.error, s!"Failed to navigate to {k.name} page"⟩] }) ∧
    ∀ f after, productSelection s = .error f after → f.kind ≠ .assertion := by
  have same : u.session = s.session := approach_keeps.of_ok approached
  rw [productSelection_of_missed approached chosen]
  refine ⟨⟨_, rfl, same, rfl⟩, ?_⟩
  intro f after failed
  cases failed
  decide

end

/-- A browser that is open on a world, with a temperature in the session. -/
def dayAt (w : World) (t : Int) : Stage where
  world := w
  session := { temperature := .int t }
  isOpen := true
  clock := Moment.first.clock
  opened := Moment.first

/-- On such a day the scenario gets to a choice by the temperature. -/
theorem dayAt_chosen {w : World} {t : Int} (short : t.natAbs < Text.longNumber)
    (unscripted : w.rules = []) (keepable : Evidence.Keepable w.disk) :
    ∃ u reached v, approach (dayAt w t) = .ok (.int t, toString t) u ∧
      Home.chooseProducts (.int t) u.world = .ok (Home.kindFor t, reached) v ∧
      (reached = true ↔ Home.Reaches (Home.kindFor t) w.site) := by
  obtain ⟨u, approached, site, rules, disk⟩ :=
    approach_of_open (s := dayAt w t) rfl (Value.text_int short)
  change u.world.site = w.site at site
  change u.world.rules = w.rules at rules
  change u.world.disk = w.disk at disk
  rw [← disk] at keepable
  obtain ⟨reached, v, chosen, told⟩ :=
    Home.chooseProducts_of_answers short (rules.trans unscripted) (.inr keepable)
  rw [site] at told
  exact ⟨u, reached, v, approached, chosen, told⟩

/-- Without its buttons the home page leads nowhere. -/
theorem dayAt_bareShop_missed {t : Int} (short : t.natAbs < Text.longNumber) :
    ∃ u v, approach (dayAt (Home.bareShop t) t) = .ok (.int t, toString t) u ∧
      Home.chooseProducts (.int t) u.world = .ok (Home.kindFor t, false) v := by
  obtain ⟨u, reached, v, approached, chosen, told⟩ :=
    dayAt_chosen (w := Home.bareShop t) short rfl Evidence.keepable_fresh
  have missed : reached = false := by
    rw [← Bool.not_eq_true, told]
    exact Home.not_reaches_bareShop _ t
  rw [missed] at chosen
  exact ⟨u, v, approached, chosen⟩

theorem missed_page_not_reported_hot_day :
    ∃ u v after, approach (dayAt (Home.bareShop 40) 40) = .ok (.int 40, "40") u ∧
      Home.chooseProducts (.int 40) u.world = .ok (.sunscreen, false) v ∧
      productSelection (dayAt (Home.bareShop 40) 40) = .error (.unassigned "page") after ∧
      after.session = { temperature := .int 40 } := by
  have short : 40 < Text.longNumber := (Text.length_toDigits_le_iff 40).1 (by decide)
  obtain ⟨u, v, approached, chosen⟩ := dayAt_bareShop_missed (t := 40) short
  obtain ⟨after, failed, same, -⟩ := (missed_page_not_reported approached chosen).1
  exact ⟨u, v, after, approached, chosen, failed, same⟩

/-- Moisturizers have no button, evidence of that is kept, and the scenario does not fail with an
unmet expectation. -/
theorem missing_button_heard_as_unassigned :
    Disk.fresh.isDirectory "." = true ∧ Disk.fresh.lookup "./errors" = none ∧
    ∃ u v after, approach (dayAt (Home.bareShop 20) 20) = .ok (.int 20, "20") u ∧
      Home.chooseProducts (.int 20) u.world = .ok (.moisturizer, false) v ∧
      productSelection (dayAt (Home.bareShop 20) 20) = .error (.unassigned "page") after ∧
      (Fault.unassigned "page").kind ≠ .assertion := by
  have short : 20 < Text.longNumber := (Text.length_toDigits_le_iff 20).1 (by decide)
  obtain ⟨u, v, approached, chosen⟩ := dayAt_bareShop_missed (t := 20) short
  have failed := productSelection_of_missed approached chosen
  exact ⟨by decide, by decide, u, v, _, approached, chosen, failed, by decide⟩

/-- A scenario that fails has failed before the product type is stored: behind that, nothing can. -/
theorem session_of_failed {s after : Stage} {f : Fault} (unscripted : s.world.rules = [])
    (failed : productSelection s = .error f after) : after.session = s.session := by
  cases approached : approach s with
  | error e u =>
    rw [productSelection_eq, bind_of_error approached] at failed
    cases failed
    exact approach_keeps.of_error approached
  | ok taken u =>
    obtain ⟨temperature, t⟩ := taken
    have same : u.session = s.session := approach_keeps.of_ok approached
    cases chosen : Home.chooseProducts temperature u.world with
    | error e w =>
      rw [productSelection_of_stuck approached chosen] at failed
      cases failed
      exact same
    | ok choice w =>
      obtain ⟨k, reached⟩ := choice
      cases reached with
      | false =>
        rw [productSelection_of_missed approached chosen] at failed
        cases failed
        exact same
      | true =>
        obtain ⟨_, passed, -⟩ := productSelection_of_reached unscripted approached chosen
        rw [passed] at failed
        cases failed

/-- Without rules the scenario stores a product type only when it passes. Once products have been
reached, the check of their page after the type is stored cannot fail, whatever has been noted in
between; and when the scenario fails, the session is as it was. -/
theorem product_type_stored_by_passing {s : Stage} (unscripted : s.world.rules = []) :
    (∀ temperature t u k w, approach s = .ok (temperature, t) u →
      Home.chooseProducts temperature u.world = .ok (k, true) w →
      (∀ notes, ∃ after, Check.navigation (.str k.name)
        (.str (if k.name = "moisturizer" then "Moisturizers" else "Sunscreens")) "h2"
        { w with journal := w.journal ++ notes } = .ok () after) ∧
      ∃ after, productSelection s = .ok () after ∧
        after.session = { s.session with productType := .str k.name }) ∧
    ∀ f after, productSelection s = .error f after → after.session = s.session := by
  refine ⟨?_, fun f after failed => session_of_failed unscripted failed⟩
  intro temperature t u k w approached chosen
  have rules : Unscripted s.world u.world := approach_unscripted.of_ok approached
  obtain ⟨shown, still⟩ := Home.pageShown_of_chooseProducts (rules unscripted) chosen
  have heading : (if k.name = "moisturizer" then "Moisturizers" else "Sunscreens") =
      k.heading := by
    cases k <;> rfl
  rw [heading]
  refine ⟨fun notes => ?_, productSelection_of_reached unscripted approached chosen⟩
  exact Home.navigation_of_pageShown (w := { w with journal := w.journal ++ notes }) shown still

/-- On a hot day sunscreens are reached and stored; without their button nothing is. -/
theorem product_type_stored_by_passing_hot_day :
    (dayAt (Home.openShop 45) 45).world.rules = [] ∧
    (∃ after, productSelection (dayAt (Home.openShop 45) 45) = .ok () after ∧
      after.session = { temperature := .int 45, productType := .str "sunscreen" }) ∧
    ∃ f after, productSelection (dayAt (Home.bareShop 45) 45) = .error f after ∧
      after.session = { temperature := .int 45 } := by
  have short : 45 < Text.longNumber := (Text.length_toDigits_le_iff 45).1 (by decide)
  refine ⟨rfl, ?_, ?_⟩
  · obtain ⟨u, reached, v, approached, chosen, told⟩ :=
      dayAt_chosen (w := Home.openShop 45) (t := 45) short rfl Evidence.keepable_fresh
    rw [told.2 (Home.reaches_openShop 45)] at chosen
    exact ((product_type_stored_by_passing rfl).1 _ _ _ _ _ approached chosen).2
  · obtain ⟨u, v, approached, chosen⟩ := dayAt_bareShop_missed (t := 45) short
    have failed := productSelection_of_missed approached chosen
    exact ⟨_, _, failed, (product_type_stored_by_passing rfl).2 _ _ failed⟩

end Scenario

end Shopwalk
