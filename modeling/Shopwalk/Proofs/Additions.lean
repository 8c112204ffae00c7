import Shopwalk.Proofs.Offers

/-!
What adding products to the cart does. A press of an add button comes between two looks at the cart
button: without the first of them there is no press, and whether the count went up in between is
told, but adding a pair of products does not pass that on.
-/

namespace Shopwalk

/-- A world without rules, later on: its site is `t`, and these calls have acted on the site. -/
structure Acted (before after : World) (t : Site) (done : List Event) : Prop where
  site : after.site = t
  rules : after.rules = []
  calls : ∃ events, after.trace = before.trace ++ events ∧ deeds events = done

theorem Acted.trans {u v w : World} {s t : Site} {a b : List Event} (first : Acted u v s a)
    (second : Acted v w t b) : Acted u w t (a ++ b) := by
  obtain ⟨events, trace, done⟩ := first.calls
  obtain ⟨more, trace', done'⟩ := second.calls
  refine ⟨second.site, second.rules, events ++ more, ?_, ?_⟩
  · rw [trace', trace, List.append_assoc]
  · rw [deeds_append, done, done']

theorem Looked.acted {before after : World} (looked : Looked before after)
    (unscripted : before.rules = []) : Acted before after before.site [] :=
  ⟨looked.site, looked.rules unscripted, looked.calls⟩

section
variable {α β : Type} {walk : Walk α} {w : World} {t : Site} {done : List Event}

/-- Looking adds nothing to what a walk has done. -/
theorem Acted.bind_looks {next : α → Walk β} (acted : Acted w (lastState (walk w)) t done)
    (looks : ∀ a, Looks (next a)) : Acted w (lastState ((walk >>= next) w)) t done := by
  cases run : walk w with
  | error f after =>
    rw [run] at acted
    rw [bind_of_error run]
    exact acted
  | ok a after =>
    rw [run] at acted
    rw [bind_of_ok run]
    have whole := acted.trans ((looks a after).acted acted.rules)
    rw [List.append_nil] at whole
    exact ⟨whole.site.trans acted.site, whole.rules, whole.calls⟩

/-- Nor does keeping evidence of its fault. -/
theorem Acted.recovering {complaint name : String} {substitute : Fault → α}
    (acted : Acted w (lastState (walk w)) t done) :
    Acted w (lastState (Evidence.recovering complaint name substitute walk w)) t done := by
  have since : Looked (lastState (walk w))
      (lastState (Evidence.recovering complaint name substitute walk w)) :=
    Stays.since_recovering _ _ _ _ w
  have whole := acted.trans (since.acted acted.rules)
  rw [List.append_nil] at whole
  exact ⟨whole.site.trans acted.site, whole.rules, whole.calls⟩

/-- Without rules a walk makes its calls up to the one that the site refuses, which must leave the
site where it would be moved to. -/
theorem Makes.acted {steps : List Step} {r : Except Fault α} (h : Makes w.site walk steps t r)
    (unscripted : w.rules = []) (still : ∀ f, steps.findSome? Step.fault = some f → t = w.site) :
    Acted w (lastState (walk w)) t (deeds (play [] steps).events) := by
  obtain ⟨notes, -, run⟩ := h w rfl
  obtain ⟨fault, rest⟩ := play_nil steps
  rw [unscripted, fault] at run
  cases refused : steps.findSome? Step.fault with
  | some f =>
    rw [refused] at run
    rw [run]
    exact ⟨(still f refused).symm, rest, _, rfl, rfl⟩
  | none =>
    rw [refused] at run
    rw [run]
    cases r <;> exact ⟨rfl, rest, _, rfl, rfl⟩

end

theorem Site.pressed_of_error {s : Site} {l : Locator} {f : Fault}
    (refused : faultOf (s.pressing l) = some f) : s.pressed l = s := by
  unfold pressed
  cases press : s.pressing l with
  | error _ => rfl
  | ok t =>
    rw [press] at refused
    cases refused

theorem click_acted (l : Locator) {w : World} (unscripted : w.rules = []) :
    Acted w (lastState (Browser.click l w)) (w.site.pressed l) [.click l.selector] := by
  have acted := (Makes.click (s := w.site) l).acted unscripted fun f refused =>
    Site.pressed_of_error (by simpa using refused)
  rw [play_single] at acted
  exact acted

/-- Without rules a click moves the site when the press is granted, and fails when it is not. -/
theorem click_run (l : Locator) {w : World} (unscripted : w.rules = []) :
    ∃ after, Browser.click l w = World.ending after ((w.site.pressing l).map fun _ => ()) ∧
      Acted w after (w.site.pressed l) [.click l.selector] := by
  refine ⟨_, ?_, click_acted l unscripted⟩
  obtain ⟨notes, -, run⟩ := Makes.click (s := w.site) l w rfl
  rw [unscripted, (play_nil _).1] at run
  cases press : w.site.pressing l with
  | error f =>
    rw [press] at run
    rw [run]
    rfl
  | ok t =>
    rw [press] at run
    rw [run]
    rfl

namespace Products

open Shop

/-- The count on the cart button, when there is one such button and its count can be read. A button
that shows no digit counts nothing. -/
def countOn? (s : Site) : Option Nat :=
  match s.resolve (.top Selector.cartButton) with
  | [e] => (numberOrZero (e.text.getD "")).toOption
  | _ => none

/-- The site after a try to add a product by its button. -/
def tried (s : Site) (button : Locator) : Site :=
  if (countOn? s).isSome then s.pressed button else s

/-- The clicks of a try to add a product by its button. -/
def clicks (s : Site) (button : Locator) : List Event :=
  if (countOn? s).isSome then [.click button.selector] else []

/-- The button can be pressed, and then the cart button is visible and shows a greater count than
before. -/
def CountsUp (s : Site) (button : Locator) : Prop :=
  ∃ t n m, s.pressing button = .ok t ∧ countOn? s = some n ∧ countOn? t = some m ∧ n < m ∧
    ∃ e, t.resolve (.top Selector.cartButton) = [e] ∧ e.visible = true

/-- What a look at the cart button comes to. -/
def countRead (s : Site) : Except Fault Nat :=
  (s.one (.top Selector.cartButton)).map Element.text >>= cartCount

theorem cartCount_toOption (text : Option String) :
    (cartCount text).toOption = (numberOrZero (text.getD "")).toOption := by
  cases text with
  | none => rfl
  | some t =>
    by_cases empty : t = ""
    · subst empty
      rfl
    · have worded : (Value.str t).truthy = true := by simpa [Value.truthy] using empty
      have counted : cartCount (some t) = (do return (← count? t).getD 0) := by
        rw [cartCount, textValue, countOf?, if_pos worded]
        rfl
      rw [counted, Option.getD_some, count?, numberOrZero]
      cases Reading.of t <;> rfl

theorem countRead_toOption (s : Site) : (countRead s).toOption = countOn? s := by
  unfold countRead countOn? Site.one
  rcases s.resolve (.top Selector.cartButton) with _ | ⟨e, _ | ⟨_, _⟩⟩
  · rfl
  · exact cartCount_toOption e.text
  · rfl

/-- A look at the cart button. -/
def lookAtCount : Walk Nat := do
  Walk.settle (cartCount (← Browser.textContent (.top Selector.cartButton)))

/-- The second look at the cart button; whether the count went up. -/
def confirmCount (before : Nat) : Walk Bool := do
  let cart := Locator.top Selector.cartButton
  Walk.note .debug "Verifying cart indicator update"
  let _ ← Check.text (Check.byLocator cart) (.pattern Check.digits) false (some "5000")
  let after ← lookAtCount
  if before < after then
    Walk.note .success s!"Product successfully added to cart. Count: {before} → {after}"
    return true
  else
    Walk.note .warning s!"Cart indicator did not increase as expected: {before} → {after}"
    return false

theorem pressAdd_eq (l : Locator) :
    pressAdd (.locator l) = (do
      let before ← lookAtCount
      Walk.note .info s!"Current cart count: {before}. Adding new item..."
      Browser.click l
      confirmCount before) := by
  simp only [pressAdd, lookAtCount, confirmCount, clickOn, bind_assoc]

theorem lookAtCount_yields (s : Site) : Yields s lookAtCount [] (countRead s) :=
  (Follows.textContent _).yields.andThen fun _ => (Follows.settle _).yields

theorem lookAtCount_looks : Looks lookAtCount :=
  (Stays.textContent _).bind fun _ => Stays.settle _

theorem confirmCount_looks (before : Nat) : Looks (confirmCount before) := by
  refine (Stays.note _ _).bind fun _ => (Stays.text _ _ _ _).bind fun _ =>
    lookAtCount_looks.bind fun after => ?_
  split
  · exact (AdmitsSuccess.admits _).bind fun _ => Stays.pure _
  · exact (Stays.note _ _).bind fun _ => Stays.pure _

theorem countRead_eq_ok_iff {s : Site} {n : Nat} : countRead s = .ok n ↔ countOn? s = some n := by
  rw [← countRead_toOption]
  cases countRead s <;> simp [Except.toOption]

theorem countOn?_eq_none_of_error {s : Site} {f : Fault} (h : countRead s = .error f) :
    countOn? s = none := by
  rw [← countRead_toOption, h]
  rfl

/-- A count above zero has its digits. -/
theorem digits_found_of_countOn? {s : Site} {e : Element} {m : Nat}
    (found : s.resolve (.top Selector.cartButton) = [e]) (shown : countOn? s = some m)
    (positive : 0 < m) : Check.digits.found (e.text.getD "") = true := by
  rw [Check.digits_found_iff_reading]
  intro absent
  simp only [countOn?, found, numberOrZero, absent] at shown
  cases shown
  omega

/-- The second look finds a greater count exactly when the cart button is visible and shows one. -/
theorem confirmCount_true_iff {n : Nat} {w : World} (unscripted : w.rules = []) :
    (∃ after, confirmCount n w = .ok true after) ↔
      ∃ m, countOn? w.site = some m ∧ n < m ∧
        ∃ e, w.site.resolve (.top Selector.cartButton) = [e] ∧ e.visible = true := by
  have checks : Follows w.site
      (Check.text (Check.byLocator (.top Selector.cartButton)) (.pattern Check.digits) false
        (some "5000"))
      [.quality w.site .visible (.top Selector.cartButton) (some "5000"),
       .contains w.site (.top Selector.cartButton) (.ofValue (.pattern Check.digits))
        (some "5000")] (.ok (.top Selector.cartButton)) :=
    Follows.text _ _ rfl _
  constructor
  · rintro ⟨after, run⟩
    obtain ⟨_, w₁, -, rest, site₁, rules₁⟩ := (Stays.note _ _).look_ok unscripted run
    obtain ⟨_, w₂, checked, rest, site₂, rules₂⟩ := (Stays.text _ _ _ _).look_ok rules₁ rest
    obtain ⟨m, w₃, read, rest, -, -⟩ := lookAtCount_looks.look_ok rules₂ rest
    have granted := Makes.granted checks site₁ rules₁ checked
    have seen := List.findSome?_eq_none_iff.1 granted _ List.mem_cons_self
    have shown := ((lookAtCount_yields w₂.site).of_run rfl rules₂ read).1
    rw [site₂, site₁, countRead_eq_ok_iff] at shown
    split at rest
    · next greater => exact ⟨m, shown, greater, Step.quality_fault_iff.1 seen⟩
    · obtain ⟨_, _, -, returned⟩ := bind_ok_iff.1 rest
      cases returned
  · rintro ⟨m, shown, greater, e, found, visible⟩
    have seen : (Step.quality w.site .visible (.top Selector.cartButton) (some "5000")).fault =
        none := Step.quality_fault_iff.2 ⟨e, found, visible⟩
    have matched : (Step.contains w.site (.top Selector.cartButton)
        (.ofValue (.pattern Check.digits)) (some "5000")).fault = none :=
      Step.contains_pattern_fault_iff.2
        ⟨e, found, digits_found_of_countOn? found shown (by omega)⟩
    have confirmed : Yields w.site (confirmCount n) [] (.ok true) := by
      refine (Follows.note _ _).yields.bind_calm ?_
      refine (checks.yields_of_granted (by simp [seen, matched])).bind_calm ?_
      have read := lookAtCount_yields w.site
      rw [countRead_eq_ok_iff.2 shown] at read
      refine read.bind_calm ?_
      rw [if_pos greater]
      exact (Follows.note _ _).yields.bind_calm (Follows.pure true).yields
    obtain ⟨after, run, -⟩ := confirmed.run rfl unscripted
    exact ⟨after, run⟩

/-- However a try to add a product ends, it has pressed the button if it could read the count. -/
theorem pressAdd_acted (l : Locator) {w : World} (unscripted : w.rules = []) :
    Acted w (lastState (pressAdd (.locator l) w)) (tried w.site l) (clicks w.site l) := by
  obtain ⟨u, looked, -⟩ := (lookAtCount_yields w.site).run rfl unscripted
  rw [pressAdd_eq]
  cases read : countRead w.site with
  | error f =>
    rw [read] at looked
    rw [bind_of_error looked, tried, clicks, countOn?_eq_none_of_error read]
    exact (lookAtCount_looks.of_error looked).acted unscripted
  | ok n =>
    rw [read] at looked
    have first := (lookAtCount_looks.of_ok looked).acted unscripted
    let noted : World := { u with journal := u.journal ++
      [⟨.info, s!"Current cart count: {n}. Adding new item..."⟩] }
    have ready : Acted w noted w.site [] := ⟨first.site, first.rules, first.calls⟩
    have clicked := (click_acted l ready.rules).bind_looks fun _ => confirmCount_looks n
    rw [ready.site] at clicked
    rw [bind_of_ok looked, tried, clicks, countRead_eq_ok_iff.1 read]
    exact ready.trans clicked

theorem pressAdd_true_iff (l : Locator) {w : World} (unscripted : w.rules = []) :
    (∃ after, pressAdd (.locator l) w = .ok true after) ↔ CountsUp w.site l := by
  rw [pressAdd_eq]
  constructor
  · rintro ⟨after, run⟩
    obtain ⟨n, w₁, looked, rest, site₁, rules₁⟩ := lookAtCount_looks.look_ok unscripted run
    obtain ⟨_, w₂, -, rest, site₂, rules₂⟩ := (Stays.note _ _).look_ok rules₁ rest
    obtain ⟨_, w₃, clicked, rest⟩ := bind_ok_iff.1 rest
    have shown := ((lookAtCount_yields w.site).of_run rfl unscripted looked).1
    obtain ⟨v, pressed, acted⟩ := click_run l rules₂
    rw [site₂, site₁] at pressed acted
    cases press : w.site.pressing l with
    | error f =>
      rw [press, clicked] at pressed
      cases pressed
    | ok t =>
      rw [press, clicked] at pressed
      obtain ⟨-, rfl⟩ := EStateM.Result.ok.inj pressed
      obtain ⟨m, shown', greater, visible⟩ := (confirmCount_true_iff acted.rules).1 ⟨after, rest⟩
      rw [acted.site, Site.pressed, press] at shown' visible
      exact ⟨t, n, m, press, countRead_eq_ok_iff.1 shown, shown', greater, visible⟩
  · rintro ⟨t, n, m, press, shown, shown', greater, visible⟩
    obtain ⟨u, looked, later⟩ := (lookAtCount_yields w.site).run rfl unscripted
    rw [countRead_eq_ok_iff.2 shown] at looked
    rw [bind_of_ok looked]
    let noted : World := { u with journal := u.journal ++
      [⟨.info, s!"Current cart count: {n}. Adding new item..."⟩] }
    change ∃ after, (Browser.click l >>= fun _ => confirmCount n) noted = _
    obtain ⟨v, clicked, acted⟩ := click_run l (w := noted) later.rules
    rw [show noted.site = w.site from later.site, press] at clicked
    rw [show noted.site = w.site from later.site, Site.pressed, press] at acted
    rw [bind_of_ok clicked]
    apply (confirmCount_true_iff acted.rules).2
    rw [acted.site]
    exact ⟨m, shown', greater, visible⟩

/-- What a try to add a product has done when it comes to an answer, and what it answers. -/
theorem addToCart_ok {l : Locator} {w after : World} {told : Bool} (unscripted : w.rules = [])
    (run : addToCart (.locator l) w = .ok told after) :
    Acted w after (tried w.site l) (clicks w.site l) ∧ (told = true ↔ CountsUp w.site l) := by
  have acted : Acted w (lastState (addToCart (.locator l) w)) _ _ :=
    (pressAdd_acted l unscripted).recovering
  rw [run] at acted
  refine ⟨acted, ?_⟩
  have answer {u : World} :
      addToCart (.locator l) w = .ok true u ↔ pressAdd (.locator l) w = .ok true u :=
    Evidence.recovering_ok_iff_of_ne fun _ => Bool.false_ne_true
  rw [← pressAdd_true_iff l unscripted]
  constructor
  · rintro rfl
    exact ⟨after, answer.1 run⟩
  · rintro ⟨u, pressed⟩
    have same := (answer.2 pressed).symm.trans run
    cases same
    rfl

/-- A product is added, or tried to be, between two worlds: it is the one that a criterion chooses
on the site of the first, and its button is clicked on unless the count could not be read. -/
def Adds (criterion name : String) (before after : World) : Prop :=
  ∃ i o, Chosen criterion before.site i o ∧ o.name = name ∧
    Acted before after (tried before.site (addButtonAt i)) (clicks before.site (addButtonAt i))

/-- As `addCheapest`, and whether the count on the cart button went up. -/
def addCheapestTelling (criterion criterionKind : String) : Walk (String × Bool) := do
  let p ← findCheapest (.str criterion) (.str criterionKind)
  let told ← addToCart (.locator p.addButton)
  Walk.note .info s!"Added {criterion} product: {p.name}"
  return (p.name, told)

/-- As `addPair`, and for both whether the count on the cart button went up. -/
def addPairTelling (k : ProductKind) : Walk ((String × Bool) × (String × Bool)) := do
  Walk.note .info
    s!"Adding {k.plural} to cart: looking for {k.criteria.1} and {k.criteria.2} products"
  let first ← addCheapestTelling k.criteria.1 k.criterionKind
  let second ← addCheapestTelling k.criteria.2 k.criterionKind
  return (first, second)

/-- Adding is the same without what it tells. -/
theorem addCheapest_eq (criterion criterionKind : String) :
    addCheapest criterion criterionKind = (do
      let (name, _) ← addCheapestTelling criterion criterionKind
      return name) := by
  simp only [addCheapest, addCheapestTelling, bind_assoc, pure_bind]

theorem addPair_eq (k : ProductKind) :
    addPair k = (do
      let (first, second) ← addPairTelling k
      return (first.1, second.1)) := by
  simp only [addPair, addPairTelling, addCheapest_eq, bind_assoc, pure_bind]

theorem addCheapestTelling_ok {criterion criterionKind name : String} {told : Bool}
    {w after : World} (unscripted : w.rules = [])
    (run : addCheapestTelling criterion criterionKind w = .ok (name, told) after) :
    ∃ i o, Chosen criterion w.site i o ∧ o.name = name ∧
      (told = true ↔ CountsUp w.site (addButtonAt i)) ∧
      Acted w after (tried w.site (addButtonAt i)) (clicks w.site (addButtonAt i)) := by
  obtain ⟨p, w₁, found, rest, site₁, rules₁⟩ := (findCheapest_stays _ _).look_ok unscripted run
  obtain ⟨i, o, chosen, rfl⟩ := findCheapest_ok unscripted found
  obtain ⟨_, w₂, added, rest⟩ := bind_ok_iff.1 rest
  obtain ⟨acted, tells⟩ := addToCart_ok rules₁ added
  obtain ⟨_, w₃, noted, returned⟩ := bind_ok_iff.1 rest
  cases returned
  have first := Looked.acted ((findCheapest_stays _ _).of_ok found) unscripted
  have last := Looked.acted ((Stays.note _ _).of_ok noted) acted.rules
  have whole := first.trans (acted.trans last)
  rw [acted.site, List.append_nil, List.nil_append, site₁] at whole
  rw [site₁] at tells
  exact ⟨i, o, chosen, rfl, tells, whole⟩

theorem addCheapest_adds {criterion criterionKind name : String} {w after : World}
    (unscripted : w.rules = []) (run : addCheapest criterion criterionKind w = .ok name after) :
    Adds criterion name w after := by
  rw [addCheapest_eq] at run
  obtain ⟨⟨_, told⟩, u, telling, returned⟩ := bind_ok_iff.1 run
  cases returned
  obtain ⟨i, o, chosen, named, -, acted⟩ := addCheapestTelling_ok unscripted telling
  exact ⟨i, o, chosen, named, acted⟩

/-- Adding a pair clicks on the buttons of the two products that are chosen, the second one on the
site that the first addition has left, and returns their names. Nothing else acts on the site. -/
theorem addPair_clicks_chosen {k : ProductKind} {a b : String} {w after : World}
    (unscripted : w.rules = []) (run : addPair k w = .ok (a, b) after) :
    ∃ entry between,
      addCheapest k.criteria.1 k.criterionKind { w with journal := w.journal ++ [entry] } =
        .ok a between ∧
      addCheapest k.criteria.2 k.criterionKind between = .ok b after ∧
      Adds k.criteria.1 a w between ∧ Adds k.criteria.2 b between after := by
  obtain ⟨_, w₁, noted, rest⟩ := bind_ok_iff.1 run
  cases noted
  obtain ⟨first, between, added, rest⟩ := bind_ok_iff.1 rest
  obtain ⟨second, _, added', returned⟩ := bind_ok_iff.1 rest
  cases returned
  -- The first addition starts after a note, on the same site and with the same trace.
  obtain ⟨i, o, chosen, named, acted⟩ := addCheapest_adds (by exact unscripted) added
  exact ⟨_, between, added, added', ⟨i, o, chosen, named, acted.site, acted.rules, acted.calls⟩,
    addCheapest_adds acted.rules added'⟩

/-- A container of the product page. -/
def containerOf (name price : String) (onClick : List Action) : Element :=
  .mk (some "") true true
    [(Selector.productName, [.mk (some name) true true [] []]),
     (Selector.productPrice, [.mk (some price) true true [] []]),
     (Selector.addButton, [.mk (some "Add") true true [] onClick])] []

/-- A product page whose first container has no price. Adding the cheaper aloe turns the containers
around. -/
def turningShop : World where
  site := { elements :=
    [(Selector.cartButton, [.mk (some "Cart - Empty") true true [] []]),
     (Selector.containers,
       [.mk (some "") true true [(Selector.productName, [.mk (some "Aloe") true true [] []])] [],
        containerOf " Aloe Gel " "Price: 300" [],
        containerOf "PURE ALOE" "Price: 200"
          [.bump Selector.cartButton, .setElements Selector.containers
            [containerOf "Almond Oil" "Price: 150" [.bump Selector.cartButton],
             containerOf "Almond Cream" "Price: 150" [],
             containerOf "PURE ALOE" "Price: 200" []]],
        containerOf "Almond Cream" "Price: 150" []])] }

theorem addPair_clicks_chosen_turning :
    turningShop.rules = [] ∧ ∃ after,
      addPair .moisturizer turningShop = .ok ("PURE ALOE", "Almond Oil") after ∧
      ∃ entry between,
        addCheapest "Aloe" "ingredient"
            { turningShop with journal := turningShop.journal ++ [entry] } =
          .ok "PURE ALOE" between ∧
        addCheapest "Almond" "ingredient" between = .ok "Almond Oil" after ∧
        Adds "Aloe" "PURE ALOE" turningShop between ∧ Adds "Almond" "Almond Oil" between after := by
  have answered : answer? (addPair .moisturizer turningShop) =
      some ("PURE ALOE", "Almond Oil") := by decide +kernel
  obtain ⟨after, run⟩ := answer?_eq_some_iff.1 answered
  exact ⟨rfl, after, run, addPair_clicks_chosen (k := .moisturizer) rfl run⟩

/-- When adding a pair returns two names, both additions are told to have worked exactly when the
count on the cart button went up at each of them. -/
theorem pair_told_iff_counted {k : ProductKind} {a b : String} {w after : World}
    (unscripted : w.rules = []) (run : addPair k w = .ok (a, b) after) :
    ∃ i first j second, Chosen k.criteria.1 w.site i first ∧ first.name = a ∧
      Chosen k.criteria.2 (tried w.site (addButtonAt i)) j second ∧ second.name = b ∧
      (addPairTelling k w = .ok ((a, true), (b, true)) after ↔
        CountsUp w.site (addButtonAt i) ∧
          CountsUp (tried w.site (addButtonAt i)) (addButtonAt j)) := by
  rw [addPair_eq] at run
  obtain ⟨⟨⟨_, x⟩, _, y⟩, _, telling, returned⟩ := bind_ok_iff.1 run
  cases returned
  obtain ⟨_, w₁, noted, rest⟩ := bind_ok_iff.1 telling
  cases noted
  obtain ⟨_, between, added, rest⟩ := bind_ok_iff.1 rest
  obtain ⟨_, _, added', returned⟩ := bind_ok_iff.1 rest
  cases returned
  obtain ⟨i, first, chosen, named, tells, acted⟩ :=
    addCheapestTelling_ok (by exact unscripted) added
  obtain ⟨j, second, chosen', named', tells', -⟩ := addCheapestTelling_ok acted.rules added'
  rw [acted.site] at chosen' tells'
  refine ⟨i, first, j, second, chosen, named, chosen', named', ?_⟩
  rw [telling, ← tells, ← tells']
  simp

theorem pair_told_iff_counted_turning :
    turningShop.rules = [] ∧ ∃ after,
      addPair .moisturizer turningShop = .ok ("PURE ALOE", "Almond Oil") after ∧
      ∃ i first j second, Chosen "Aloe" turningShop.site i first ∧ first.name = "PURE ALOE" ∧
        Chosen "Almond" (tried turningShop.site (addButtonAt i)) j second ∧
        second.name = "Almond Oil" ∧
        (addPairTelling .moisturizer turningShop =
            .ok (("PURE ALOE", true), ("Almond Oil", true)) after ↔
          CountsUp turningShop.site (addButtonAt i) ∧
            CountsUp (tried turningShop.site (addButtonAt i)) (addButtonAt j)) := by
  have answered : answer? (addPair .moisturizer turningShop) =
      some ("PURE ALOE", "Almond Oil") := by decide +kernel
  obtain ⟨after, run⟩ := answer?_eq_some_iff.1 answered
  exact ⟨rfl, after, run, pair_told_iff_counted (k := .moisturizer) rfl run⟩

/-- A product page whose add buttons do nothing. -/
def idleShop : World where
  site := { elements :=
    [(Selector.cartButton, [.mk (some "Cart - 0 item(s)") true true [] []]),
     (Selector.containers,
       [containerOf "Aloe" "Price: 300" [], containerOf "Almond" "Price: 200" []])] }

/-- Where the add buttons do nothing, the names of two products are returned as added, and nothing
has been. -/
theorem idle_pair_returned :
    idleShop.rules = [] ∧
      (∃ after, addPair .moisturizer idleShop = .ok ("Aloe", "Almond") after) ∧
      ∃ after, addPairTelling .moisturizer idleShop =
        .ok (("Aloe", false), ("Almond", false)) after :=
  ⟨rfl, answer?_eq_some_iff.1 (by decide +kernel), answer?_eq_some_iff.1 (by decide +kernel)⟩

end Products

end Shopwalk
