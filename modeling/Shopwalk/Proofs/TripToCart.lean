import Shopwalk.Proofs.Additions
import Shopwalk.Proofs.CartItems
import Shopwalk.Proofs.Routing
import Shopwalk.Proofs.SessionData
import Shopwalk.Proofs.UrlWord

/-!
What four scenarios establish that pass one after the other: the temperature that was read, the
products chosen for it, and a cart that lists what was added and whose total is right.
-/

namespace Shopwalk

/-- An open browser is ready. -/
theorem Stage.browserReady_of_open {s : Stage} (opened : s.isOpen = true) :
    browserReady s = .ok () s := by
  change (if !s.isOpen then _ else pure () : Scene Unit) s = _
  rw [opened]
  rfl

/-- As long as the browser is open it stays open, and the worlds stand in a relation. -/
def WhileOpen (R : World → World → Prop) (before after : Stage) : Prop :=
  before.isOpen = true → after.isOpen = true ∧ R before.world after.world

section
variable {α : Type} {R : World → World → Prop}

instance [Std.Refl R] : Std.Refl (WhileOpen R) :=
  ⟨fun s opened => ⟨opened, Std.Refl.refl s.world⟩⟩

instance [Trans R R R] : Trans (WhileOpen R) (WhileOpen R) (WhileOpen R) where
  trans first second opened := by
    obtain ⟨stillOpen, one⟩ := first opened
    obtain ⟨openAfter, other⟩ := second stillOpen
    exact ⟨openAfter, Trans.trans one other⟩

namespace WhileOpen

theorem walk {w : Walk α} (h : Stays R w) : Stays (WhileOpen R) (Scene.walk w) := by
  intro s opened
  unfold Scene.walk
  cases run : w s.world with
  | ok a u => exact ⟨opened, h.of_ok run⟩
  | error e u => exact ⟨opened, h.of_error run⟩

theorem looks (lax : Subrelation Looked R) : LooksAllowed (WhileOpen R) :=
  fun _ _ looked opened => ⟨opened, lax looked⟩

theorem modifySession [Std.Refl R] (f : Session → Session) :
    Stays (WhileOpen R) (Scene.modifySession f) :=
  fun s opened => ⟨opened, Std.Refl.refl s.world⟩

theorem browserReady [Std.Refl R] : Stays (WhileOpen R) Stage.browserReady := by
  intro s opened
  rw [Stage.browserReady_of_open opened]
  exact ⟨opened, Std.Refl.refl s.world⟩

end WhileOpen

end

namespace Stage

theorem start_unscripted (browser : String) (clock : Clock) (opened : Moment) :
    Stays Unscripted (start browser clock opened) := by
  refine (Looks.onDisk _).unscripted.bind fun _ => (Looks.onDisk _).unscripted.bind fun _ =>
    (Stays.anyNote _ _).bind fun _ => (Stays.note _ _).bind fun _ =>
      Home.load_stays.bind fun loaded => ?_
  split
  · exact (Stays.note _ _)
  · exact Stays.pure _

/-- A browser that is ready is open, and no rules have come up. -/
theorem browserReady_ok {s after : Stage} (unscripted : s.world.rules = [])
    (run : browserReady s = .ok () after) : after.isOpen = true ∧ after.world.rules = [] := by
  cases opened : s.isOpen with
  | true =>
    have still : after.isOpen = true ∧ Unscripted s.world after.world :=
      WhileOpen.browserReady.of_ok run opened
    exact ⟨still.1, still.2 unscripted⟩
  | false =>
    change (if !s.isOpen then _ else pure () : Scene Unit) s = _ at run
    rw [opened] at run
    obtain ⟨_, u, started, rest⟩ := bind_ok_iff.1 run
    obtain ⟨world, ran, rfl⟩ := Scene.walk_ok_iff.1 started
    cases rest
    exact ⟨rfl, (start_unscripted _ _ _).of_ok ran unscripted⟩

end Stage

namespace Scenario

open Shop

/-- The allowance to look, for worlds that may otherwise change. -/
theorem looks_unscripted : LooksAllowed (WhileOpen Unscripted) :=
  WhileOpen.looks looked_unscripted

theorem productSelection_unscripted : Stays (WhileOpen Unscripted) productSelection := by
  rw [productSelection_eq]
  refine (Stays.approach looks_unscripted WhileOpen.browserReady).bind fun (temperature, t) =>
    (WhileOpen.walk (Home.chooseProducts_stays _)).bind fun (kind, reached) => ?_
  cases reached with
  | false => exact (Stays.sceneNote looks_unscripted _ _).bind fun _ => Stays.throw _
  | true =>
    exact (Stays.sceneNote looks_unscripted _ _).bind fun _ =>
      (WhileOpen.modifySession _).bind fun _ =>
        (Stays.look looks_unscripted (Stays.navigation _ _ _)).bind fun _ =>
          Stays.sceneNote looks_unscripted _ _

theorem keepPage_looks (productType : Value) : Looks (keepPage productType) :=
  (Stays.textOf _).bind fun _ => (Stays.screenshot _).bind fun _ => Looks.saveContent _

theorem fillCart_unscripted (productType : Value) :
    Stays (WhileOpen Unscripted) (fillCart productType) := by
  refine (Stays.look looks_unscripted (Stays.urlOf _ _)).bind fun _ =>
    (WhileOpen.walk (Products.addPair_stays _)).bind fun (first, second) => ?_
  exact (Stays.sceneNote looks_unscripted _ _).bind fun _ =>
    (WhileOpen.modifySession _).bind fun _ =>
      (Stays.look looks_unscripted (Stays.cartNotEmpty _)).bind fun _ =>
        (WhileOpen.walk Products.goToCart_stays).bind fun _ =>
          (Stays.look looks_unscripted (Stays.url _ _)).bind fun _ =>
            (Stays.look looks_unscripted (Stays.heading _ _)).bind fun _ =>
              (Stays.sceneText looks_unscripted _).bind fun _ =>
                Stays.sceneNote looks_unscripted _ _

theorem addProducts_unscripted : Stays (WhileOpen Unscripted) addProducts := by
  refine (Stays.productSelected looks_unscripted WhileOpen.browserReady).bind
    fun (productType, _) => ?_
  refine (fillCart_unscripted productType).tryCatch fun e => ?_
  exact (Stays.sceneNote looks_unscripted _ _).bind fun _ =>
    (Stays.look looks_unscripted (keepPage_looks _)).bind fun _ => Stays.throw e

/-- A whole number that has a text is not too long. -/
theorem short_of_text {n : Nat} {text : String} (h : Value.text (.int n) = .ok text) :
    n < Text.longNumber := by
  unfold Value.text at h
  split at h
  · next printable =>
    unfold Value.printable Value.writable at printable
    rw [Int.natAbs_natCast] at printable
    unfold Text.longNumber
    exact of_decide_eq_true printable
  · cases h

theorem homePageLoads_ok {s after : Stage} (unscripted : s.world.rules = [])
    (run : homePageLoads s = .ok () after) :
    ∃ n : Nat, Home.TemperatureShown after.world.site n ∧
      after.session = { s.session with temperature := .int n } ∧
      after.isOpen = true ∧ after.world.rules = [] := by
  obtain ⟨_, s₁, ready, rest, same⟩ := Keeps.browserReady.bind_ok run
  obtain ⟨opened, rules₁⟩ := Stage.browserReady_ok unscripted ready
  obtain ⟨_, _, titled, rest⟩ := bind_ok_iff.1 rest
  obtain ⟨w₂, title, rfl⟩ := Scene.walk_ok_iff.1 titled
  obtain ⟨n, _, read, rest⟩ := bind_ok_iff.1 rest
  obtain ⟨w₃, temperature, rfl⟩ := Scene.walk_ok_iff.1 read
  have rules₂ := Looked.rules ((Stays.pageTitle _ _).of_ok title) rules₁
  have looked : Looked _ _ := Home.temperature_stays.of_ok temperature
  have shown := Home.temperature_ok temperature
  change w₂.rules = [] at rules₂
  cases rest
  refine ⟨n, ?_, ?_, opened, looked.rules rules₂⟩
  · change Home.TemperatureShown w₃.site n
    rw [looked.site]
    exact shown
  · change { s₁.session with temperature := Value.int n } = _
    rw [same]

/-- The choice is made by the temperature in the session, which can be written. -/
theorem approach_ok {s u : Stage} {temperature : Value} {t : String}
    (run : approach s = .ok (temperature, t) u) :
    temperature = s.session.temperature ∧ temperature.text = .ok t := by
  obtain ⟨_, s₁, -, rest, same⟩ := Keeps.browserReady.bind_ok run
  obtain ⟨session, _, now, rest⟩ := bind_ok_iff.1 rest
  cases now
  obtain ⟨text, _, worded, rest⟩ := bind_ok_iff.1 rest
  obtain ⟨_, _, -, returned⟩ := bind_ok_iff.1 rest
  cases returned
  exact ⟨congrArg Session.temperature same, (Scene.textOf_ok_iff.1 worded).1⟩

theorem settleOn_ok {k : ProductKind} {t : String} {s after : Stage}
    (run : settleOn k t s = .ok () after) :
    after.session = { s.session with productType := .str k.name } := by
  obtain ⟨_, _, noted, rest⟩ := bind_ok_iff.1 run
  cases noted
  obtain ⟨_, _, wrote, rest⟩ := bind_ok_iff.1 rest
  cases wrote
  have kept : Keeps (do
      Scene.walk (Check.navigation (.str k.name) (.str k.heading) Selector.heading)
      Scene.note .success s!"Test 2: Selected {k.name} based on temperature {t}°C") :=
    (Keeps.walk _).bind fun _ => Keeps.walk _
  exact kept.of_ok rest

theorem productSelection_ok {s after : Stage} {n : Nat} (opened : s.isOpen = true)
    (unscripted : s.world.rules = []) (stored : s.session.temperature = .int n)
    (run : productSelection s = .ok () after) :
    after.session = { s.session with productType := .str (Home.kindAt n).name } := by
  rw [productSelection_eq] at run
  obtain ⟨⟨temperature, t⟩, u, approached, rest⟩ := bind_ok_iff.1 run
  obtain ⟨rfl, writes⟩ := approach_ok approached
  have same : u.session = s.session :=
    (Stays.approach Keeps.looks Keeps.browserReady).of_ok approached
  have rules : u.world.rules = [] :=
    ((Stays.approach looks_unscripted WhileOpen.browserReady).of_ok approached opened).2 unscripted
  rw [stored] at rest writes
  obtain ⟨⟨k, reached⟩, _, chosen, rest⟩ := bind_ok_iff.1 rest
  obtain ⟨w, chose, rfl⟩ := Scene.walk_ok_iff.1 chosen
  obtain ⟨rfl, -⟩ :=
    (Home.chooseProducts_ok_iff (short_of_text writes) rules).1 ⟨reached, w, chose⟩
  cases reached with
  | false =>
    obtain ⟨_, _, _, thrown⟩ := bind_ok_iff.1 rest
    cases thrown
  | true =>
    have settled := settleOn_ok (s := { u with world := w }) rest
    rw [same] at settled
    exact settled

/-- A cart that has been verified: its total is above zero and the sum of what its readable rows
show, these list the names, and the url tells that it is the cart. -/
structure CartShown (s : Site) (names : List String) (total : Nat) : Prop where
  positive : 0 < total
  shown : Cart.TotalShown s total
  sum : total = ((Cart.rowsOf s).filterMap Cart.rowPrice?).sum
  listed : ∀ name ∈ names, Cart.Listed s name
  url : Text.occursIn "cart".toList (Text.lowered s.url.toList) = true

theorem plain_cart : Check.Plain "cart" := by decide

/-- A navigation that is verified has led to the cart. -/
theorem urlHas_of_navigation {w after : World} {heading : Value} {selector : String}
    (unscripted : w.rules = [])
    (run : Check.navigation (.str "cart") heading selector w = .ok () after) :
    Check.UrlHas "cart" w.site := by
  obtain ⟨_, _, checked, -⟩ := bind_ok_iff.1 run
  have granted := Makes.granted (Follows.url plain_cart) rfl unscripted checked
  exact Step.url_fault_iff.1 (List.findSome?_eq_none_iff.1 granted _ List.mem_cons_self)

/-- Items that are stored are the expected ones, and those handed on if there are none. -/
theorem expectedItems_ok {s after : Stage} {productType added expected : Value}
    (run : expectedItems productType added s = .ok expected after) :
    expected = if s.session.addedItems.truthy then s.session.addedItems else added := by
  obtain ⟨session, _, now, rest⟩ := bind_ok_iff.1 run
  cases now
  obtain ⟨_, _, -, rest⟩ := bind_ok_iff.1 rest
  obtain ⟨_, _, -, rest⟩ := bind_ok_iff.1 rest
  obtain ⟨_, _, -, rest⟩ := bind_ok_iff.1 rest
  split at rest
  · next stored =>
    cases rest
    rw [if_pos stored]
  · next unstored =>
    obtain ⟨_, _, -, rest⟩ := bind_ok_iff.1 rest
    obtain ⟨_, _, -, rest⟩ := bind_ok_iff.1 rest
    obtain ⟨_, _, -, rest⟩ := bind_ok_iff.1 rest
    cases rest
    rw [if_neg unstored]

/-- A price that is stored is that of a total which has been found right. -/
theorem verifyPrice_ok {s after : Stage} (unscripted : s.world.rules = [])
    (run : verifyPrice s = .ok () after) :
    ∃ total : Nat, 0 < total ∧ Cart.TotalShown s.world.site total ∧
      total = ((Cart.rowsOf s.world.site).filterMap Cart.rowPrice?).sum ∧
      after.session = { s.session with totalPrice := some (.int total) } ∧
      after.world.site = s.world.site := by
  rw [verifyPrice, Scene.reporting_ok_iff] at run
  obtain ⟨total, world, verified, rest, site, -⟩ :=
    Scene.look_ok Cart.verifyTotal_stays unscripted run
  obtain ⟨shown, sum, -⟩ := Cart.verifyTotal_ok unscripted verified
  rw [Cart.totalPrice_rowItems] at sum
  split at rest
  · obtain ⟨_, _, -, rest⟩ := bind_ok_iff.1 rest
    obtain ⟨_, _, -, thrown⟩ := bind_ok_iff.1 rest
    cases thrown
  · next positive =>
    cases rest
    exact ⟨total, Nat.pos_of_ne_zero positive, shown, sum, rfl, site⟩

theorem verifyCart_ok {s after : Stage} {productType added : Value} {a b : String}
    (opened : s.isOpen = true) (unscripted : s.world.rules = [])
    (stored : s.session.addedItems = .tuple [.str a, .str b])
    (run : verifyCart productType added s = .ok () after) :
    ∃ total, CartShown after.world.site [a, b] total ∧
      after.session = { s.session with totalPrice := some (.int total) } := by
  obtain ⟨_, w₁, navigated, rest, site₁, rules₁⟩ :=
    Scene.look_ok (Stays.navigation _ _ _) unscripted run
  obtain ⟨_, w₂, -, rest, site₂, rules₂⟩ := Scene.look_ok (Stays.enabled _) rules₁ rest
  obtain ⟨expected, s₃, expects, rest⟩ := bind_ok_iff.1 rest
  have same := (Stays.expectedItems Keeps.looks _ _).of_ok expects
  change s₃.session = s.session at same
  obtain ⟨-, looked⟩ := (Stays.expectedItems (WhileOpen.looks id) _ _).of_ok expects opened
  have rules₃ := looked.rules rules₂
  have found := expectedItems_ok expects
  change expected = if s.session.addedItems.truthy then s.session.addedItems else added at found
  rw [stored] at found
  subst found
  obtain ⟨all, w₄, verified, rest, site₄, rules₄⟩ :=
    Scene.look_ok (Cart.verifyItems_stays _) rules₃ rest
  cases all with
  | false =>
    obtain ⟨_, _, -, rest⟩ := bind_ok_iff.1 rest
    obtain ⟨_, _, -, thrown⟩ := bind_ok_iff.1 rest
    cases thrown
  | true =>
    have listed : ∀ x ∈ [a, b], Cart.Listed s₃.world.site x :=
      Cart.verifyItems_true rules₃ rfl rfl verified
    obtain ⟨total, positive, shown, sum, wrote, site₅⟩ := verifyPrice_ok rules₄ rest
    have reached := Check.occursIn_of_urlHas (by decide)
      (urlHas_of_navigation unscripted navigated)
    -- Nothing acts on the site in between, so that all these facts are about one and the same.
    have sites : s₃.world.site = s.world.site := looked.site.trans (site₂.trans site₁)
    have last : after.world.site = s₃.world.site := site₅.trans site₄
    rw [site₄] at shown sum
    rw [← sites] at reached
    rw [last]
    refine ⟨total, ⟨positive, shown, sum, listed, reached⟩, wrote.trans ?_⟩
    change { s₃.session with totalPrice := some (.int total) } = _
    rw [same]

theorem cartVerification_ok {s after : Stage} {a b : String} (opened : s.isOpen = true)
    (unscripted : s.world.rules = []) (stored : s.session.addedItems = .tuple [.str a, .str b])
    (run : cartVerification s = .ok () after) :
    ∃ total, CartShown after.world.site [a, b] total ∧
      after.session = { s.session with totalPrice := some (.int total) } := by
  obtain ⟨⟨productType, added⟩, s₁, gathered, rest⟩ := bind_ok_iff.1 run
  have same : s₁.session = s.session :=
    (Stays.productsAdded Keeps.looks Keeps.browserReady).of_ok gathered
  obtain ⟨stillOpen, looked⟩ :=
    (Stays.productsAdded (WhileOpen.looks id) WhileOpen.browserReady).of_ok gathered opened
  rw [← same] at stored ⊢
  exact verifyCart_ok stillOpen (looked.rules unscripted) stored (Scene.reporting_ok_iff.1 rest)

/-- When the first four scenarios pass one after the other, starting afresh and without rules, the
session holds the temperature that was shown, the kind of products that goes with it, and the names
and the total of what the cart shows at the end. -/
theorem four_scenarios_establish {s s₁ s₂ s₃ s₄ : Stage} (unscripted : s.world.rules = [])
    (fresh : s.session = {}) (first : homePageLoads s = .ok () s₁)
    (second : productSelection s₁ = .ok () s₂) (third : addProducts s₂ = .ok () s₃)
    (fourth : cartVerification s₃ = .ok () s₄) :
    ∃ (n total : Nat) (a b : String),
      Home.TemperatureShown s₁.world.site n ∧
      CartShown s₄.world.site [a, b] total ∧
      s₄.session =
        { temperature := .int n
          productType := .str (if 34 < n then "sunscreen" else "moisturizer")
          addedItems := .tuple [.str a, .str b]
          totalPrice := some (.int total) } := by
  obtain ⟨n, shown, wrote₁, open₁, rules₁⟩ := homePageLoads_ok unscripted first
  rw [fresh] at wrote₁
  have wrote₂ := productSelection_ok open₁ rules₁ (by rw [wrote₁]) second
  obtain ⟨open₂, still₂⟩ := productSelection_unscripted.of_ok second open₁
  -- The third scenario may do anything to the site, so nothing is carried over from it but the
  -- session and that there are no rules; what the cart shows is found by the fourth.
  obtain ⟨open₃, still₃⟩ := addProducts_unscripted.of_ok third open₂
  have rules₃ := still₃ (still₂ rules₁)
  have wrote₃ := (addProducts_leaves s₂.session).ends s₂ rfl
  rw [third] at wrote₃
  obtain ⟨k, a, b, -, -, wrote₃⟩ := wrote₃
  obtain ⟨total, cart, wrote₄⟩ := cartVerification_ok open₃ rules₃ (by rw [wrote₃]) fourth
  refine ⟨n, total, a, b, shown, cart, ?_⟩
  rw [wrote₄, wrote₃, wrote₂, wrote₁]
  unfold Home.kindAt
  split <;> rfl

theorem four_scenarios_establish_market :
    ∃ s₁ s₂ s₃ s₄ : Stage, marketDay.world.rules = [] ∧ marketDay.session = {} ∧
      homePageLoads marketDay = .ok () s₁ ∧ productSelection s₁ = .ok () s₂ ∧
      addProducts s₂ = .ok () s₃ ∧ cartVerification s₃ = .ok () s₄ ∧
      ∃ (n total : Nat) (a b : String),
        Home.TemperatureShown s₁.world.site n ∧
        CartShown s₄.world.site [a, b] total ∧
        s₄.session =
          { temperature := .int n
            productType := .str (if 34 < n then "sunscreen" else "moisturizer")
            addedItems := .tuple [.str a, .str b]
            totalPrice := some (.int total) } := by
  have passes : answer? ((do homePageLoads; productSelection; addProducts; cartVerification)
      marketDay) = some () := by decide +kernel
  obtain ⟨s₄, run⟩ := answer?_eq_some_iff.1 passes
  obtain ⟨_, s₁, first, rest⟩ := bind_ok_iff.1 run
  obtain ⟨_, s₂, second, rest⟩ := bind_ok_iff.1 rest
  obtain ⟨_, s₃, third, fourth⟩ := bind_ok_iff.1 rest
  exact ⟨s₁, s₂, s₃, s₄, rfl, rfl, first, second, third, fourth,
    four_scenarios_establish rfl rfl first second third fourth⟩

end Scenario

end Shopwalk
