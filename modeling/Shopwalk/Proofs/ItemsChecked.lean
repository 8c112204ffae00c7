import Shopwalk.Proofs.TripToCart

/-!
Whether the check of the cart checks any items. The items to look for are those of the session; when
there are none, the ones handed on by the stage are taken, and these are read from the same entry of
the session. So nothing is looked for in a cart that is visited with an empty session, and the
scenario passes if all else is right.
-/

namespace Shopwalk

/-- Items can be gone through one by one; there are none exactly when they count as nothing. -/
theorem Value.truthy_iff_of_items {v : Value} {xs : List Value} (taken : v.items = .ok xs) :
    v.truthy = true ↔ xs ≠ [] := by
  cases v with
  | list | tuple | str | dict =>
    cases taken
    simp [truthy]
  | _ => cases taken

/-- To expect nothing is always met. -/
theorem Cart.verifyItems_of_falsy {expected : Value} (nothing : expected.truthy = false)
    (w : World) : ∃ after, verifyItems expected w = .ok true after := by
  have compared : ∃ after, compareItems expected w = .ok true after := by
    unfold compareItems
    rw [nothing]
    exact ⟨_, rfl⟩
  obtain ⟨after, run⟩ := compared
  exact ⟨after, Evidence.recovering_of_ok run⟩

/-- A relation between the worlds of two stages. -/
def Worlds (R : World → World → Prop) (before after : Stage) : Prop := R before.world after.world

section
variable {α : Type} {R : World → World → Prop}

instance [Std.Refl R] : Std.Refl (Worlds R) := ⟨fun s => Std.Refl.refl s.world⟩

instance [Trans R R R] : Trans (Worlds R) (Worlds R) (Worlds R) where
  trans first second := Trans.trans (r := R) first second

theorem Worlds.looks (lax : Subrelation Looked R) : LooksAllowed (Worlds R) :=
  fun _ _ looked => lax looked

theorem Worlds.walk {w : Walk α} (h : Stays R w) : Stays (Worlds R) (Scene.walk w) := by
  intro s
  unfold Scene.walk
  cases run : w s.world with
  | ok a u => exact h.of_ok run
  | error e u => exact h.of_error run

end

namespace Scene

theorem note_run (level : Level) (text : String) (s : Stage) :
    note level text s =
      .ok () { s with world := { s.world with journal := s.world.journal ++ [⟨level, text⟩] } } :=
  rfl

theorem walk_bind {α β : Type} (x : Walk α) (f : α → Walk β) :
    walk (x >>= f) = walk x >>= fun a => walk (f a) := by
  funext s
  simp only [walk, bind, EStateM.bind]
  cases x s.world <;> rfl

end Scene

namespace Stage

/-- Also a browser that is opened first brings up no rules. -/
theorem browserReady_unscripted : Stays (Worlds Unscripted) browserReady := by
  refine Stays.get.bind fun s => ?_
  have opened :
      Stays (Worlds Unscripted) (modify fun s => { s with isOpen := true } : Scene Unit) :=
    fun _ => id
  split
  · exact (Worlds.walk (start_unscripted _ _ _)).bind fun _ => opened
  · exact Stays.pure _

/-- A product type that is handed on can be written. -/
theorem productSelected_ok {s t : Stage} {productType temperature : Value}
    (run : productSelected s = .ok (productType, temperature) t) :
    ∃ text, productType.text = .ok text := by
  obtain ⟨_, _, -, rest⟩ := bind_ok_iff.1 run
  obtain ⟨session, _, -, rest⟩ := bind_ok_iff.1 rest
  obtain ⟨_, _, -, rest⟩ := bind_ok_iff.1 rest
  obtain ⟨text, _, worded, rest⟩ := bind_ok_iff.1 rest
  have written := (Scene.textOf_ok_iff.1 worded).1
  obtain ⟨_, _, -, rest⟩ := bind_ok_iff.1 rest
  split at rest
  · obtain ⟨_, _, -, rest⟩ := bind_ok_iff.1 rest
    cases rest
    exact ⟨text, written⟩
  · cases rest
    exact ⟨text, written⟩

/-- The items that are handed on are those of the session, and can be written. -/
theorem productsAdded_ok {s t : Stage} {productType added : Value}
    (run : productsAdded s = .ok (productType, added) t) :
    added = s.session.addedItems ∧ (∃ text, productType.text = .ok text) ∧
      ∃ text, added.text = .ok text := by
  obtain ⟨⟨_, _⟩, s₁, selected, rest, same₁⟩ :=
    (Stays.productSelected Keeps.looks Keeps.browserReady).bind_ok run
  have written := productSelected_ok selected
  obtain ⟨_, s₂, -, rest, same₂⟩ := (Keeps.walk _).bind_ok rest
  obtain ⟨session, _, now, rest⟩ := bind_ok_iff.1 rest
  cases now
  rw [show s₂.session = s.session from same₂.trans same₁] at rest
  obtain ⟨_, _, -, rest⟩ := bind_ok_iff.1 rest
  obtain ⟨_, _, -, rest⟩ := bind_ok_iff.1 rest
  obtain ⟨_, _, -, rest⟩ := bind_ok_iff.1 rest
  obtain ⟨_, _, -, rest⟩ := bind_ok_iff.1 rest
  obtain ⟨text, _, worded, rest⟩ := bind_ok_iff.1 rest
  obtain ⟨_, _, -, rest⟩ := bind_ok_iff.1 rest
  obtain ⟨_, _, -, rest⟩ := bind_ok_iff.1 rest
  cases rest
  exact ⟨rfl, written, text, (Scene.textOf_ok_iff.1 worded).1⟩

theorem productsAdded_kept {s t : Stage} {given : Value × Value} (unscripted : s.world.rules = [])
    (run : productsAdded s = .ok given t) : t.session = s.session ∧ t.world.rules = [] :=
  ⟨(Stays.productsAdded Keeps.looks Keeps.browserReady).of_ok run,
    (Stays.productsAdded (Worlds.looks looked_unscripted) browserReady_unscripted).of_ok run
      unscripted⟩

end Stage

namespace Scenario

open Shop

/-- The checks that the cart is open and can be paid for. -/
def checkOpen : Walk Unit := do
  Check.navigation (.str "cart") (.str "Checkout") Selector.heading
  let _ ← Check.enabled Selector.payButton

/-- The scenario up to the check of the items, with what that is handed. -/
def toItems : Scene Value := do
  let (productType, added) ← Stage.productsAdded
  Scene.walk checkOpen
  expectedItems productType added

/-- The items handed to the check are some, and each one is listed in the cart. -/
def ItemsChecked (s : Stage) : Prop :=
  ∃ handed t, toItems s = .ok handed t ∧ ∃ names : List String,
    handed.items = .ok (names.map .str) ∧ names ≠ [] ∧
      ∀ name ∈ names, Cart.Listed t.world.site name

/-- The cart is open and can be paid for: its url, its heading and a button to pay are there. -/
structure CartOpen (s : Site) : Prop where
  url : Check.UrlHas "cart" s
  heading : ∃ e, s.resolve (.top Selector.heading) = [e] ∧ e.visible = true ∧
    Text.contains (e.text.getD "") "Checkout" = true
  payButton : ∃ e, s.resolve (.top Selector.payButton) = [e] ∧ e.visible = true ∧ e.enabled = true

/-- The total of the cart is above zero, and is the sum of what the readable rows show. -/
structure TotalRight (s : Site) : Prop where
  table : Cart.TableShown s
  total : ∃ n, 0 < n ∧ Cart.TotalShown s n ∧ n = ((Cart.rowsOf s).filterMap Cart.rowPrice?).sum

/-- The session has no items to expect, and all else about the cart is right. -/
def NothingExpected (s : Stage) : Prop :=
  s.session.addedItems.truthy = false ∧ ∃ given t, Stage.productsAdded s = .ok given t ∧
    CartOpen t.world.site ∧ TotalRight t.world.site

/-- The calls that look at the open cart, on a site. -/
def openSteps (s : Site) : List Step :=
  [.url s (Check.wordPattern "cart"), .quality s .visible (.top Selector.heading) none,
   .contains s (.top Selector.heading) (.text "Checkout") none,
   .quality s .visible (.top Selector.payButton) none,
   .quality s .enabled (.top Selector.payButton) none]

theorem checkOpen_follows (s : Site) : Follows s checkOpen (openSteps s) (.ok ()) := by
  refine (Follows.navigation plain_cart rfl _).bind (a := [_, _, _]) ?_
  exact (Follows.enabled _).bind (Follows.pure ()) (b := [])

theorem openSteps_faultless_iff {s : Site} :
    (openSteps s).findSome? Step.fault = none ↔ CartOpen s := by
  simp only [openSteps, List.findSome?_eq_none_iff, List.forall_mem_cons, List.not_mem_nil,
    false_implies, implies_true, and_true, Step.url_fault_iff, Step.quality_fault_iff,
    Step.contains_text_fault_iff, Browser.has]
  constructor
  · rintro ⟨url, seen, headed, shown, enabled⟩
    exact ⟨url, Site.resolve_and_iff.1 ⟨seen, headed⟩, Site.resolve_and_iff.1 ⟨shown, enabled⟩⟩
  · rintro ⟨url, heading, payButton⟩
    obtain ⟨seen, headed⟩ := Site.resolve_and_iff.2 heading
    obtain ⟨shown, enabled⟩ := Site.resolve_and_iff.2 payButton
    exact ⟨url, seen, headed, shown, enabled⟩

theorem checkOpen_looks : Looks checkOpen :=
  (Stays.navigation _ _ _).bind fun _ => (Stays.enabled _).bind fun _ => .pure _

theorem checkOpen_ok_iff {w : World} (unscripted : w.rules = []) :
    (∃ after, checkOpen w = .ok () after) ↔ CartOpen w.site := by
  rw [← openSteps_faultless_iff]
  constructor
  · rintro ⟨after, run⟩
    exact Makes.granted (checkOpen_follows _) rfl unscripted run
  · intro granted
    obtain ⟨after, run, -⟩ := ((checkOpen_follows _).yields_of_granted granted).run rfl unscripted
    exact ⟨after, run⟩

/-- When the items that are handed on are the stored ones, these are expected. -/
theorem expectedItems_stored {s : Stage} {productType added : Value}
    (stored : s.session.addedItems = added) (typed : ∃ text, productType.text = .ok text)
    (worded : ∃ text, added.text = .ok text) :
    ∃ after, expectedItems productType added s = .ok added after := by
  obtain ⟨p, typed⟩ := typed
  obtain ⟨words, worded⟩ := worded
  have written (u : Stage) : Scene.textOf added u = .ok words u :=
    Scene.textOf_ok_iff.2 ⟨worded, rfl⟩
  unfold expectedItems
  rw [bind_of_ok (rfl : Scene.sessionNow s = .ok s.session s), stored]
  rw [bind_of_ok (Scene.textOf_ok_iff.2 ⟨typed, rfl⟩), bind_of_ok (written _),
    bind_of_ok (Scene.note_run _ _ _)]
  split
  · exact ⟨_, rfl⟩
  · rw [bind_of_ok (Scene.note_run _ _ _), bind_of_ok (written _)]
    exact ⟨_, rfl⟩

/-- What is handed to the check of the items is what the session holds, whether the stage hands it
on or not; nothing has changed on the site since the stage was made ready. -/
theorem toItems_ok {s t : Stage} {handed : Value} (unscripted : s.world.rules = [])
    (run : toItems s = .ok handed t) :
    handed = s.session.addedItems ∧ t.world.rules = [] ∧ CartOpen t.world.site ∧
      ∃ given u, Stage.productsAdded s = .ok given u ∧ u.world.site = t.world.site := by
  obtain ⟨⟨productType, added⟩, u, gathered, rest⟩ := bind_ok_iff.1 run
  obtain ⟨same, rules⟩ := Stage.productsAdded_kept unscripted gathered
  obtain ⟨rfl, -⟩ := Stage.productsAdded_ok gathered
  obtain ⟨_, w, checked, expects, site, rules'⟩ := Scene.look_ok checkOpen_looks rules rest
  have looked : Looked w t.world := (Stays.expectedItems (Worlds.looks id) _ _).of_ok expects
  have opened := (checkOpen_ok_iff rules).1 ⟨w, checked⟩
  have found := expectedItems_ok expects
  rw [show ({ u with world := w } : Stage).session = s.session from same, ite_self] at found
  have still : t.world.site = u.world.site := looked.site.trans site
  exact ⟨found, looked.rules rules', still ▸ opened, _, u, gathered, still.symm⟩

theorem toItems_of_open {s u : Stage} {given : Value × Value} (unscripted : s.world.rules = [])
    (gathered : Stage.productsAdded s = .ok given u) (opened : CartOpen u.world.site) :
    ∃ t, toItems s = .ok s.session.addedItems t ∧ t.world.site = u.world.site := by
  obtain ⟨productType, added⟩ := given
  obtain ⟨same, rules⟩ := Stage.productsAdded_kept unscripted gathered
  obtain ⟨rfl, typed, worded⟩ := Stage.productsAdded_ok gathered
  obtain ⟨w, checked⟩ := (checkOpen_ok_iff rules).2 opened
  obtain ⟨t, expects⟩ := expectedItems_stored (s := { u with world := w })
    (congrArg Session.addedItems same) typed worded
  have run : toItems s = .ok s.session.addedItems t := bind_ok_iff.2 ⟨_, u, gathered,
    bind_ok_iff.2 ⟨(), _, Scene.walk_ok_iff.2 ⟨w, checked, rfl⟩, expects⟩⟩
  obtain ⟨-, -, -, _, u', gathered', site⟩ := toItems_ok unscripted run
  cases gathered.symm.trans gathered'
  exact ⟨t, run, site.symm⟩

/-- The cart is verified as the check of its items is reached, passed, and followed by that of its
total. -/
theorem cartVerification_ok_iff {s : Stage} :
    (∃ after, cartVerification s = .ok () after) ↔
      ∃ handed t w, toItems s = .ok handed t ∧ Cart.verifyItems handed t.world = .ok true w ∧
        ∃ after, verifyPrice { t with world := w } = .ok () after := by
  have parts (productType added : Value) :
      verifyCart productType added = (do
        Scene.walk checkOpen
        let expected ← expectedItems productType added
        if ← Scene.walk (Cart.verifyItems expected) then verifyPrice
        else
          Scene.note .error "Cart verification failed: Missing expected items"
          Scene.walk (Evidence.capture "test_04_cart_verification_items_verification")
          throw .itemsMissing) := by
    simp only [checkOpen, Scene.walk_bind, bind_assoc]
    rfl
  constructor
  · rintro ⟨after, run⟩
    obtain ⟨⟨productType, added⟩, u, gathered, rest⟩ := bind_ok_iff.1 run
    replace rest := Scene.reporting_ok_iff.1 rest
    rw [parts] at rest
    obtain ⟨_, v, opened, rest⟩ := bind_ok_iff.1 rest
    obtain ⟨handed, t, expects, rest⟩ := bind_ok_iff.1 rest
    obtain ⟨all, _, verified, rest⟩ := bind_ok_iff.1 rest
    obtain ⟨w, verify, rfl⟩ := Scene.walk_ok_iff.1 verified
    cases all with
    | false =>
      obtain ⟨_, _, -, rest⟩ := bind_ok_iff.1 rest
      obtain ⟨_, _, -, thrown⟩ := bind_ok_iff.1 rest
      cases thrown
    | true =>
      have reached : toItems s = .ok handed t :=
        bind_ok_iff.2 ⟨_, u, gathered, bind_ok_iff.2 ⟨_, v, opened, expects⟩⟩
      exact ⟨handed, t, w, reached, verify, after, rest⟩
  · rintro ⟨handed, t, w, reached, verify, after, priced⟩
    obtain ⟨⟨productType, added⟩, u, gathered, rest⟩ := bind_ok_iff.1 reached
    obtain ⟨_, v, opened, expects⟩ := bind_ok_iff.1 rest
    refine ⟨after, bind_ok_iff.2 ⟨_, u, gathered, Scene.reporting_ok_iff.2 ?_⟩⟩
    rw [parts]
    refine bind_ok_iff.2 ⟨_, v, opened, bind_ok_iff.2 ⟨handed, t, expects, ?_⟩⟩
    exact bind_ok_iff.2 ⟨true, _, Scene.walk_ok_iff.2 ⟨w, verify, rfl⟩, priced⟩

theorem verifyPrice_ok_iff {s : Stage} (unscripted : s.world.rules = []) :
    (∃ after, verifyPrice s = .ok () after) ↔ TotalRight s.world.site := by
  simp only [verifyPrice, Scene.reporting_ok_iff]
  constructor
  · rintro ⟨after, run⟩
    obtain ⟨n, _, walked, rest⟩ := bind_ok_iff.1 run
    obtain ⟨w, verified, rfl⟩ := Scene.walk_ok_iff.1 walked
    obtain ⟨table, shown, sum⟩ := (Cart.verifyTotal_ok_iff unscripted).1 ⟨w, verified⟩
    split at rest
    · obtain ⟨_, _, -, rest⟩ := bind_ok_iff.1 rest
      obtain ⟨_, _, -, thrown⟩ := bind_ok_iff.1 rest
      cases thrown
    · next positive => exact ⟨table, n, Nat.pos_of_ne_zero positive, shown, sum⟩
  · rintro ⟨table, n, positive, shown, sum⟩
    obtain ⟨w, verified⟩ := (Cart.verifyTotal_ok_iff unscripted).2 ⟨table, shown, sum⟩
    have walked : Scene.walk Cart.verifyTotal s = .ok n { s with world := w } :=
      Scene.walk_ok_iff.2 ⟨w, verified, rfl⟩
    unfold storePrice
    rw [bind_of_ok walked, if_neg (Nat.ne_of_gt positive)]
    exact ⟨_, rfl⟩

/-- When the session has no items to expect, none are checked. -/
theorem not_itemsChecked {s : Stage} (unscripted : s.world.rules = [])
    (nothing : s.session.addedItems.truthy = false) : ¬ ItemsChecked s := by
  rintro ⟨handed, t, reached, names, taken, some_names, -⟩
  rw [(toItems_ok unscripted reached).1] at taken
  have truthy := (Value.truthy_iff_of_items taken).2 (by simpa using some_names)
  rw [nothing] at truthy
  cases truthy

theorem passes_of_nothingExpected {s : Stage} (unscripted : s.world.rules = [])
    (h : NothingExpected s) : ∃ after, cartVerification s = .ok () after := by
  obtain ⟨nothing, given, u, gathered, opened, right⟩ := h
  obtain ⟨t, reached, site⟩ := toItems_of_open unscripted gathered opened
  obtain ⟨-, rules, -⟩ := toItems_ok unscripted reached
  obtain ⟨w, verified⟩ := Cart.verifyItems_of_falsy nothing t.world
  have looked : Looked t.world w := (Cart.verifyItems_stays _).of_ok verified
  rw [← site, ← looked.site] at right
  have priced := (verifyPrice_ok_iff (s := { t with world := w }) (looked.rules rules)).2 right
  exact cartVerification_ok_iff.2 ⟨_, t, w, reached, verified, priced⟩

theorem nothingExpected_of_passes {s : Stage} (unscripted : s.world.rules = [])
    (nothing : s.session.addedItems.truthy = false)
    (passes : ∃ after, cartVerification s = .ok () after) : NothingExpected s := by
  obtain ⟨handed, t, w, reached, verified, priced⟩ := cartVerification_ok_iff.1 passes
  obtain ⟨-, rules, opened, given, u, gathered, site⟩ := toItems_ok unscripted reached
  have looked : Looked t.world w := (Cart.verifyItems_stays _).of_ok verified
  have right := (verifyPrice_ok_iff (s := { t with world := w }) (looked.rules rules)).1 priced
  change TotalRight w.site at right
  rw [looked.site, ← site] at right
  rw [← site] at opened
  exact ⟨nothing, given, u, gathered, opened, right⟩

theorem itemsChecked_of_passes {s : Stage} (unscripted : s.world.rules = [])
    (some_expected : s.session.addedItems.truthy = true)
    (passes : ∃ after, cartVerification s = .ok () after) : ItemsChecked s := by
  obtain ⟨handed, t, w, reached, verified, -⟩ := cartVerification_ok_iff.1 passes
  obtain ⟨rfl, rules, -⟩ := toItems_ok unscripted reached
  obtain ⟨names, taken, listed⟩ := Cart.verifyItems_listed rules some_expected verified
  have some_names := (Value.truthy_iff_of_items taken).1 some_expected
  exact ⟨_, t, reached, names, taken, by simpa using some_names, listed⟩

/-- Without rules, what is handed to the check of the items is always what the session holds. The
scenario passes without having checked an item just when that is nothing and all else about the cart
is right. -/
theorem passed_checks_items_iff {s : Stage} (unscripted : s.world.rules = []) :
    (∀ handed t, toItems s = .ok handed t → handed = s.session.addedItems) ∧
      (((∃ after, cartVerification s = .ok () after) → ItemsChecked s) ↔ ¬ NothingExpected s) := by
  refine ⟨fun handed t reached => (toItems_ok unscripted reached).1, ?_⟩
  constructor
  · intro checks unexpected
    have checked := checks (passes_of_nothingExpected unscripted unexpected)
    exact not_itemsChecked unscripted unexpected.1 checked
  · intro expected passes
    cases truthy : s.session.addedItems.truthy with
    | true => exact itemsChecked_of_passes unscripted truthy passes
    | false => exact absurd (nothingExpected_of_passes unscripted truthy passes) expected

/-- A shop that leads straight to a cart with one item in it. -/
def stockedCart : Site where
  onGoto := [.setUrl (baseUrl ++ "cart")]
  elements :=
    [(Selector.temperature, [.mk (some "20 ℃") true true [] []]),
     (Selector.heading, [.mk (some "Checkout") true true [] []]),
     (Selector.payButton, [.mk (some "Pay with Card") true true [] []]),
     (Selector.cartTable, [.mk (some "") true true [] []]),
     (Selector.cartRows,
       [.mk (some "") true true
          [(Selector.itemName, [.mk (some "Aloe") true true [] []]),
           (Selector.itemPrice, [.mk (some "100") true true [] []])] []]),
     (Selector.total, [.mk (some "Total: Rupees 100") true true [] []])]

/-- The cart is visited before anything has been stored in the session. -/
def freshVisit : Stage where
  world := { site := stockedCart }
  clock := Moment.first.clock
  opened := Moment.first

/-- The same visit with an item in the session, whose name is spelled otherwise than in the cart. -/
def laterVisit : Stage := { freshVisit with session := { addedItems := .tuple [.str "ALOE"] } }

theorem visits_pass : answer? (cartVerification freshVisit) = some () ∧
    answer? (cartVerification laterVisit) = some () := by
  decide +kernel

theorem passed_checks_items_iff_later :
    laterVisit.world.rules = [] ∧ ¬ NothingExpected laterVisit ∧
      (∃ after, cartVerification laterVisit = .ok () after) ∧ ItemsChecked laterVisit := by
  have expected : ¬ NothingExpected laterVisit := fun unexpected => nomatch unexpected.1
  have passed := answer?_eq_some_iff.1 visits_pass.2
  exact ⟨rfl, expected, passed, (passed_checks_items_iff rfl).2.2 expected passed⟩

/-- On a first visit the scenario passes, and no item has been checked. -/
theorem fresh_visit_passes_unchecked :
    freshVisit.world.rules = [] ∧ (∃ after, cartVerification freshVisit = .ok () after) ∧
      ¬ ItemsChecked freshVisit :=
  ⟨rfl, answer?_eq_some_iff.1 visits_pass.1, not_itemsChecked rfl rfl⟩

end Scenario

end Shopwalk
