import Shopwalk.Proofs.Temperature

/-!
The way from the temperature on the home page to the products. The temperature is read without its
sign, so that great cold counts as heat.
-/

namespace Shopwalk.Home

open Shop

/-- Reads the temperature and goes to the products for it. -/
def route : Walk (ProductKind × Bool) := do
  let t ← temperature
  chooseProducts (.int t)

/-- The page shows this temperature. -/
def Shows (s : Site) (t : Int) : Prop :=
  ∃ e, s.resolve (.top Selector.temperature) = [e] ∧ e.visible = true ∧ e.text = some (degrees t)

/-- The products that a temperature calls for. -/
def Due (t : Int) (k : ProductKind) : Prop :=
  (t < 19 ∧ k = .moisturizer) ∨ (34 < t ∧ k = .sunscreen)

/-- The page of a kind of products. -/
structure PageShown (k : ProductKind) (s : Site) : Prop where
  url : Check.UrlHas k.urlPart s
  heading : ∃ e, s.resolve (.top Selector.heading) = [e] ∧ e.visible = true ∧
    Text.contains (e.text.getD "") k.heading = true

/-- The button of a kind of products can be pressed and leads to their page. -/
def Reaches (k : ProductKind) (s : Site) : Prop :=
  ∃ e url, s.resolve (.top k.button) = [e] ∧ e.visible = true ∧ e.enabled = true ∧
    .setUrl url ∈ e.onClick ∧ PageShown k (s.actAll e.onClick)

/-- The calls that look at the page of a kind of products, on a site. -/
def pageSteps (k : ProductKind) (s : Site) : List Step :=
  [.url s (Check.wordPattern k.urlPart), .quality s .visible (.top Selector.heading) none,
   .contains s (.top Selector.heading) (.text k.heading) none]

theorem plain_urlPart (k : ProductKind) : Check.Plain k.urlPart := by
  cases k <;> decide

theorem navigation_follows (k : ProductKind) (s : Site) :
    Follows s (Check.navigation (.str k.urlPart) (.str k.heading) Selector.heading) (pageSteps k s)
      (.ok ()) :=
  Follows.navigation (plain_urlPart k) (by cases k <;> rfl) _

theorem pageSteps_faultless_iff {k : ProductKind} {s : Site} :
    (pageSteps k s).findSome? Step.fault = none ↔ PageShown k s := by
  simp only [pageSteps, List.findSome?_eq_none_iff, List.forall_mem_cons, List.not_mem_nil,
    false_implies, implies_true, and_true, Step.url_fault_iff, Step.quality_fault_iff,
    Step.contains_text_fault_iff, Browser.has]
  rw [Site.resolve_and_iff]
  exact ⟨fun ⟨url, heading⟩ => ⟨url, heading⟩, fun ⟨url, heading⟩ => ⟨url, heading⟩⟩

/-- What pressing the button has to bring about. -/
theorem press_makes (k : ProductKind) (s : Site) :
    Makes s (Browser.expectNavigation none (Browser.pageClick k.button))
      [⟨.expectNavigation none, none⟩, ⟨.pageClick k.button, faultOf (s.pressing (.top k.button))⟩]
      (s.pressed (.top k.button))
      (if (s.pressed (.top k.button)).navigations = s.navigations then .error .timeout
        else .ok ()) :=
  (Makes.pageClick k.button).expectNavigation none

theorem followButton_of_reaches {k : ProductKind} {s : Site} (reaches : Reaches k s) :
    ∃ t, Brings s (followButton k) [] t (.ok true) := by
  obtain ⟨e, url, found, visible, enabled, leads, shown⟩ := reaches
  have press := Site.pressing_eq_ok_iff.2 ⟨e, found, visible, enabled, rfl⟩
  have moved := (Site.actAll_navigates_iff s e.onClick).2 ⟨url, leads⟩
  have pressed := press_makes k s
  rw [Site.pressed, press, if_neg moved] at pressed
  refine ⟨s.actAll e.onClick, (Follows.note _ _).yields.bind_calm ?_⟩
  refine (pressed.brings rfl).bind_calm ?_
  refine ((navigation_follows k _).yields_of_granted (pageSteps_faultless_iff.2 shown)).bind_calm ?_
  refine Follows.site.yields.bind_calm ?_
  exact (Follows.note _ _).yields.bind_calm (Follows.pure true).yields

theorem followButton_of_not_reaches {k : ProductKind} {s : Site} (astray : ¬ Reaches k s) :
    ∃ t f, Brings s (followButton k) [] t (.error f) := by
  have pressed := press_makes k s
  cases press : s.pressing (.top k.button) with
  | error f =>
    refine ⟨s, f, (Follows.note _ _).yields.bind_calm ?_⟩
    exact (pressed.refused (by simp [press, faultOf])).bind_error
  | ok t =>
    obtain ⟨e, found, visible, enabled, rfl⟩ := Site.pressing_eq_ok_iff.1 press
    rw [Site.pressed, press] at pressed
    refine ⟨s.actAll e.onClick, ?_⟩
    by_cases moved : (s.actAll e.onClick).navigations = s.navigations
    · rw [if_pos moved] at pressed
      exact ⟨_, (Follows.note _ _).yields.bind_calm (pressed.brings rfl).bind_error⟩
    · rw [if_neg moved] at pressed
      obtain ⟨url, leads⟩ := (Site.actAll_navigates_iff s e.onClick).1 moved
      cases fault : (pageSteps k (s.actAll e.onClick)).findSome? Step.fault with
      | none =>
        exact absurd ⟨e, url, found, visible, enabled, leads, pageSteps_faultless_iff.1 fault⟩
          astray
      | some f =>
        refine ⟨f, (Follows.note _ _).yields.bind_calm ((pressed.brings rfl).bind_calm ?_)⟩
        exact (Makes.refused (navigation_follows k _) fault).bind_error

/-- Going to the products of a kind comes to an answer: their page is reached, or evidence of the
failure can be kept. -/
def Answers (k : ProductKind) (w : World) : Prop :=
  Reaches k w.site ∨ Evidence.Keepable w.disk

theorem answers_iff_of_later {k : ProductKind} {w u : World} {errors : List LogEntry}
    (later : Later w u w.site errors) : Answers k u ↔ Answers k w := by
  rw [Answers, Answers, later.site, later.disk]

theorem goToProducts_of_answers {k : ProductKind} {w : World} (unscripted : w.rules = [])
    (answers : Answers k w) :
    ∃ b after, goToProducts k w = .ok b after ∧ (b = true ↔ Reaches k w.site) := by
  by_cases reaches : Reaches k w.site
  · obtain ⟨t, brings⟩ := followButton_of_reaches reaches
    obtain ⟨after, run, _⟩ := brings.run rfl unscripted
    exact ⟨true, after, Evidence.recovering_of_ok run, iff_of_true rfl reaches⟩
  · obtain ⟨t, f, brings⟩ := followButton_of_not_reaches reaches
    obtain ⟨failed, run, later⟩ := brings.run rfl unscripted
    have keepable := answers.resolve_left reaches
    rw [← later.disk] at keepable
    obtain ⟨after, _, recovered, _⟩ :=
      Evidence.recovering_of_keepable s!"Error navigating to {k.plural}" s!"buy_{k.plural}_error"
        (fun _ => false) run keepable
    exact ⟨false, after, recovered, iff_of_false Bool.false_ne_true reaches⟩

theorem goToProducts_of_not_answers {k : ProductKind} {w : World} (unscripted : w.rules = [])
    (stuck : ¬ Answers k w) :
    ∃ f after, goToProducts k w = .error f after ∧ after.disk = w.disk := by
  have astray : ¬ Reaches k w.site := fun h => stuck (.inl h)
  have blocked : ¬ Evidence.Keepable w.disk := fun h => stuck (.inr h)
  obtain ⟨t, e, brings⟩ := followButton_of_not_reaches astray
  obtain ⟨failed, run, later⟩ := brings.run rfl unscripted
  rw [← later.disk] at blocked
  obtain ⟨f, more, refused⟩ :=
    Evidence.recovering_of_not_keepable s!"Error navigating to {k.plural}"
      s!"buy_{k.plural}_error" (fun _ => false) run blocked
  exact ⟨f, _, refused, later.disk⟩

/-- The kind of products that is gone to at a temperature without a sign. -/
def kindAt (n : Nat) : ProductKind := if 34 < n then .sunscreen else .moisturizer

/-- The kind of products that is gone to at a temperature. -/
def kindFor (t : Int) : ProductKind := if 34 < t then .sunscreen else .moisturizer

theorem kindFor_natCast (n : Nat) : kindFor n = kindAt n := by
  unfold kindFor kindAt
  by_cases hot : 34 < n
  · rw [if_pos hot, if_pos (by omega)]
  · rw [if_neg hot, if_neg (by omega)]

/-- The choice alone, which is written to the log. -/
def pickKind (temperature : Value) : Walk ProductKind := do
  let t ← Walk.textOf temperature
  Walk.note .info s!"Using provided temperature: {t}°C"
  if ← Walk.settle (isBelow temperature coldBelow) then
    Walk.note .info s!"Temperature {t}°C is below 19°C - choosing moisturizers"
    return .moisturizer
  else if ← Walk.settle (isAbove temperature hotAbove) then
    Walk.note .info s!"Temperature {t}°C is above 34°C - choosing sunscreens"
    return .sunscreen
  else
    Walk.note .info s!"Temperature {t}°C is between 19-34°C - defaulting to moisturizers"
    return .moisturizer

theorem goByTemperature_eq (temperature : Value) :
    goByTemperature temperature = (do
      let k ← pickKind temperature
      return (k, ← goToProducts k)) := by
  simp only [goByTemperature, pickKind, bind_assoc]
  refine bind_congr fun t => bind_congr fun _ => bind_congr fun below => ?_
  split
  · simp [buyMoisturizers]
  · simp only [bind_assoc]
    refine bind_congr fun above => ?_
    split <;> simp [buyMoisturizers, buySunscreens]

theorem pickKind_follows (s : Site) {t : Int} (short : t.natAbs < Text.longNumber) :
    Follows s (pickKind (.int t)) [] (.ok (kindFor t)) := by
  have below : isBelow (.int t) coldBelow = .ok (decide (t < 19)) := rfl
  have above : isAbove (.int t) hotAbove = .ok (decide (34 < t)) := rfl
  unfold pickKind Walk.textOf
  rw [Value.text_int short, below, above]
  refine (Follows.settle (.ok _)).bind (a := []) ?_
  refine (Follows.note _ _).bind (a := []) ?_
  refine (Follows.settle (.ok _)).bind (a := []) ?_
  by_cases cold : t < 19
  · rw [if_pos (by simp [cold]), kindFor, if_neg (by omega)]
    exact (Follows.note _ _).bind (Follows.pure _) (a := [])
  · rw [if_neg (by simp [cold])]
    refine (Follows.settle (.ok _)).bind (a := []) ?_
    by_cases hot : 34 < t
    · rw [if_pos (by simp [hot]), kindFor, if_pos hot]
      exact (Follows.note _ _).bind (Follows.pure _) (a := [])
    · rw [if_neg (by simp [hot]), kindFor, if_neg hot]
      exact (Follows.note _ _).bind (Follows.pure _) (a := [])

theorem goByTemperature_run {t : Int} (short : t.natAbs < Text.longNumber) {w : World}
    (unscripted : w.rules = []) :
    ∃ u, Later w u w.site [] ∧
      goByTemperature (.int t) w = (do return (kindFor t, ← goToProducts (kindFor t))) u := by
  obtain ⟨u, picked, later⟩ := (pickKind_follows w.site short).yields.run rfl unscripted
  rw [goByTemperature_eq]
  exact ⟨u, later, bind_of_ok picked⟩

theorem chooseProducts_of_answers {t : Int} (short : t.natAbs < Text.longNumber) {w : World}
    (unscripted : w.rules = []) (answers : Answers (kindFor t) w) :
    ∃ b after, chooseProducts (.int t) w = .ok (kindFor t, b) after ∧
      (b = true ↔ Reaches (kindFor t) w.site) := by
  obtain ⟨u, later, run⟩ := goByTemperature_run short unscripted
  obtain ⟨b, after, gone, reached⟩ :=
    goToProducts_of_answers later.rules ((answers_iff_of_later later).2 answers)
  rw [later.site] at reached
  exact ⟨b, after, Evidence.recovering_of_ok (run.trans (bind_of_ok gone)), reached⟩

/-- Where going to the products has no answer, choosing has none either: the failure to keep
evidence of the one is met again with the other. -/
theorem chooseProducts_of_not_answers {t : Int} (short : t.natAbs < Text.longNumber) {w : World}
    (unscripted : w.rules = []) (stuck : ¬ Answers (kindFor t) w) :
    ∃ f after, chooseProducts (.int t) w = .error f after := by
  have blocked : ¬ Evidence.Keepable w.disk := fun h => stuck (.inr h)
  obtain ⟨u, later, run⟩ := goByTemperature_run short unscripted
  rw [← answers_iff_of_later later] at stuck
  obtain ⟨e, after, gone, same⟩ := goToProducts_of_not_answers later.rules stuck
  rw [← later.disk, ← same] at blocked
  obtain ⟨f, notes, refused⟩ :=
    Evidence.recovering_of_not_keepable "Error during product selection" "product_selection_error"
      (fun _ => (.moisturizer, false)) (run.trans (bind_of_error gone)) blocked
  exact ⟨f, _, refused⟩

/-- The kind that is chosen is the one for the temperature, or there is no answer at all. -/
theorem chooseProducts_ok_iff {n : Nat} (short : n < Text.longNumber) {w : World}
    (unscripted : w.rules = []) {k : ProductKind} :
    (∃ b after, chooseProducts (.int n) w = .ok (k, b) after) ↔ kindAt n = k ∧ Answers k w := by
  rw [← kindFor_natCast]
  constructor
  · rintro ⟨b, after, run⟩
    have answers : Answers (kindFor n) w := by
      apply Classical.byContradiction
      intro stuck
      obtain ⟨f, _, failed⟩ := chooseProducts_of_not_answers (t := n) short unscripted stuck
      rw [failed] at run
      cases run
    obtain ⟨_, _, chosen, -⟩ := chooseProducts_of_answers (t := n) short unscripted answers
    rw [chosen] at run
    cases run
    exact ⟨rfl, answers⟩
  · rintro ⟨rfl, answers⟩
    obtain ⟨b, after, chosen, -⟩ := chooseProducts_of_answers (t := n) short unscripted answers
    exact ⟨b, after, chosen⟩

theorem temperature_of_shows {w : World} {t : Int} (unscripted : w.rules = [])
    (shows : Shows w.site t) (short : t.natAbs < Text.longNumber) :
    ∃ u, temperature w = .ok t.natAbs u ∧ Later w u w.site [] := by
  obtain ⟨e, found, visible, worded⟩ := shows
  have reads := readTemperature_yields found visible worded (Check.digits_found_degrees t)
  rw [numberOrZero, reading_degrees, if_pos short] at reads
  obtain ⟨u, run, later⟩ := reads.run rfl unscripted
  exact ⟨u, Evidence.reporting_ok_iff.2 run, later⟩

theorem not_temperature_of_shows {w : World} {t : Int} (unscripted : w.rules = [])
    (shows : Shows w.site t) (long : ¬ t.natAbs < Text.longNumber) {n : Nat} {u : World} :
    temperature w ≠ .ok n u := by
  intro run
  obtain ⟨e, found, visible, worded⟩ := shows
  have reads := readTemperature_yields found visible worded (Check.digits_found_degrees t)
  rw [numberOrZero, reading_degrees, if_neg long] at reads
  cases (reads.of_run rfl unscripted (Evidence.reporting_ok_iff.1 run)).1

/-- The kind of products due at a temperature is gone to when it is not too cold. -/
theorem kindAt_natAbs_eq_iff {t : Int} {k : ProductKind} (due : Due t k) :
    kindAt t.natAbs = k ↔ -35 < t := by
  unfold kindAt
  rcases due with ⟨cold, rfl⟩ | ⟨hot, rfl⟩
  · split <;> simp <;> omega
  · rw [if_pos (by omega)]
    simp only [true_iff]
    omega

/-- Without rules, a temperature leads to the products due at it exactly when it is above -35
degrees, its numeral can be read, and going to these products has an answer. -/
theorem routed_to_due_iff {w : World} {t : Int} {k : ProductKind} (unscripted : w.rules = [])
    (shows : Shows w.site t) (due : Due t k) :
    (∃ b after, route w = .ok (k, b) after) ↔
      -35 < t ∧ t < Text.longNumber ∧ (Reaches k w.site ∨ Evidence.Keepable w.disk) := by
  by_cases short : t.natAbs < Text.longNumber
  · obtain ⟨u, read, later⟩ := temperature_of_shows unscripted shows short
    have routed : route w = chooseProducts (.int t.natAbs) u := bind_of_ok read
    have bounded : t < Text.longNumber := by omega
    rw [routed, chooseProducts_ok_iff short later.rules, kindAt_natAbs_eq_iff due,
      answers_iff_of_later later, Answers]
    simp only [bounded, true_and]
  · constructor
    · rintro ⟨b, after, run⟩
      obtain ⟨n, u, read, _⟩ := bind_ok_iff.1 run
      exact absurd read (not_temperature_of_shows unscripted shows short)
    · rintro ⟨mild, bounded, _⟩
      -- Only a temperature of many digits below zero is left, and those are too cold.
      have great : 35 ≤ Text.longNumber := by decide +kernel
      omega

/-- A home page with both buttons, and the pages that they lead to. -/
def openShop (t : Int) : World where
  site := { elements :=
    [(Selector.temperature, [.mk (some (degrees t)) true true [] []]),
     (ProductKind.moisturizer.button, [.mk (some "Buy moisturizers") true true []
       [.setUrl (baseUrl ++ "moisturizer"),
        .setElements Selector.heading [.mk (some "Moisturizers") true true [] []]]]),
     (ProductKind.sunscreen.button, [.mk (some "Buy sunscreens") true true []
       [.setUrl (baseUrl ++ "sunscreen"),
        .setElements Selector.heading [.mk (some "Sunscreens") true true [] []]]])] }

theorem shows_openShop (t : Int) : Shows (openShop t).site t := ⟨_, rfl, rfl, rfl⟩

theorem reaches_openShop {k : ProductKind} (t : Int) : Reaches k (openShop t).site := by
  have worded : (Check.wordPattern k.urlPart).found (baseUrl ++ k.urlPart) = true := by
    cases k <;> decide
  cases k with
  | moisturizer =>
    exact ⟨_, _, rfl, rfl, rfl, List.mem_cons_self, worded, _, rfl, rfl, by decide⟩
  | sunscreen =>
    exact ⟨_, _, rfl, rfl, rfl, List.mem_cons_self, worded, _, rfl, rfl, by decide⟩

theorem routed_to_due_iff_frost :
    (openShop (-34)).rules = [] ∧ Shows (openShop (-34)).site (-34) ∧ Due (-34) .moisturizer ∧
      ∃ b after, route (openShop (-34)) = .ok (.moisturizer, b) after := by
  have due : Due (-34) .moisturizer := .inl ⟨by decide, rfl⟩
  refine ⟨rfl, shows_openShop _, due, (routed_to_due_iff rfl (shows_openShop _) due).2 ?_⟩
  exact ⟨by decide, by omega, .inl (reaches_openShop _)⟩

/-- At forty degrees below zero the way leads to sunscreens. -/
theorem great_cold_routed_to_sunscreens :
    (openShop (-40)).rules = [] ∧ Shows (openShop (-40)).site (-40) ∧ Due (-40) .moisturizer ∧
      ∃ after, route (openShop (-40)) = .ok (.sunscreen, true) after :=
  ⟨rfl, shows_openShop _, .inl ⟨by decide, rfl⟩, answer?_eq_some_iff.1 (by decide +kernel)⟩

end Shopwalk.Home
