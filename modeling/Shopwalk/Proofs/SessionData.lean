import Shopwalk.Scenario
import Shopwalk.Proofs.Offers
import Shopwalk.Proofs.Scenes

/-!
What scenarios hand on in the session. Each one writes its own entry only, and what it writes is of
one kind, so that the session is sound after any number of scenarios in any order, on whatever pages
they run and however they end.
-/

namespace Shopwalk

/-- The session has stayed as it was. -/
def SameSession (before after : Stage) : Prop := after.session = before.session

instance : Std.Refl SameSession := ⟨fun _ => rfl⟩

instance : Trans SameSession SameSession SameSession := ⟨fun first second => second.trans first⟩

/-- However it ends, the scene leaves the session as it was. -/
abbrev Keeps {α : Type} (scene : Scene α) : Prop := Stays SameSession scene

section
variable {α β : Type}

namespace Keeps

theorem looks : LooksAllowed SameSession := fun _ _ _ => rfl

theorem walk (w : Walk α) : Keeps (Scene.walk w) := by
  intro s
  unfold Scene.walk
  cases w s.world <;> rfl

theorem browserReady : Keeps Stage.browserReady := by
  refine Stays.get.bind fun s => ?_
  have opened : Keeps (modify fun s => { s with isOpen := true }) := fun _ => rfl
  split
  · exact (walk _).bind fun _ => opened
  · exact Stays.pure _

end Keeps

/-- From this session on, the scene leaves such sessions when it is done and such ones when it
fails. -/
structure Leaves (before : Session) (scene : Scene α) (done : α → Session → Prop)
    (failed : Session → Prop) : Prop where
  ends : ∀ s : Stage, s.session = before →
    match scene s with
    | .ok a t => done a t.session
    | .error _ t => failed t.session

namespace Leaves

variable {before : Session} {scene : Scene α} {next : α → Scene β} {done : β → Session → Prop}
  {failed : Session → Prop}

theorem throw (e : Fault) (h : failed before) : Leaves before (throw e) done failed := by
  refine ⟨?_⟩
  rintro s rfl
  exact h

theorem of_keeps {scene : Scene β} (keeps : Keeps scene) (h : ∀ b, done b before)
    (kept : failed before) : Leaves before scene done failed := by
  refine ⟨?_⟩
  rintro s rfl
  cases run : scene s with
  | ok b t =>
    have same : t.session = s.session := keeps.of_ok run
    change done b t.session
    rw [same]
    exact h b
  | error e t =>
    have same : t.session = s.session := keeps.of_error run
    change failed t.session
    rw [same]
    exact kept

/-- What follows a scene that leaves the session as it was. -/
theorem after (keeps : Keeps scene) (kept : failed before)
    (rest : ∀ a, (∃ s t, scene s = .ok a t) → Leaves before (next a) done failed) :
    Leaves before (scene >>= next) done failed := by
  refine ⟨?_⟩
  rintro s rfl
  cases run : scene s with
  | ok a t =>
    rw [bind_of_ok run]
    exact (rest a ⟨s, t, run⟩).ends t (keeps.of_ok run)
  | error e t =>
    rw [bind_of_error run]
    have same : t.session = s.session := keeps.of_error run
    change failed t.session
    rw [same]
    exact kept

/-- Notes are written without a failure. -/
theorem noted {next : Unit → Scene β} {level : Level} {text : String}
    (rest : Leaves before (next ()) done failed) :
    Leaves before (Scene.note level text >>= next) done failed :=
  ⟨fun s same => rest.ends { s with world := lastState (Walk.note level text s.world) } same⟩

theorem note {done : Unit → Session → Prop} {level : Level} {text : String}
    (h : done () before) : Leaves before (Scene.note level text) done failed := by
  refine ⟨?_⟩
  rintro s rfl
  exact h

theorem written {next : Unit → Scene β} {f : Session → Session}
    (rest : Leaves (f before) (next ()) done failed) :
    Leaves before (Scene.modifySession f >>= next) done failed := by
  refine ⟨?_⟩
  rintro s rfl
  exact rest.ends { s with session := f s.session } rfl

theorem tryCatch {scene : Scene β} {handler : Fault → Scene β}
    {halfway : Session → Prop} (tried : Leaves before scene done halfway)
    (handled : ∀ e t, halfway t → Leaves t (handler e) done failed) :
    Leaves before (tryCatch scene handler) done failed := by
  refine ⟨fun s same => ?_⟩
  have first := tried.ends s same
  cases run : scene s with
  | ok b t =>
    rw [run] at first
    rw [tryCatch_of_ok run]
    exact first
  | error e t =>
    rw [run] at first
    rw [tryCatch_of_error run]
    exact (handled e t.session first).ends t rfl

/-- Keeping evidence of a failure changes nothing in the session. -/
theorem reporting {scene : Scene β} {complaint name : String}
    (h : Leaves before scene done failed) :
    Leaves before (Scene.reporting complaint name scene) done failed :=
  h.tryCatch fun e _ kept => after (Keeps.walk _) kept fun _ _ => throw e kept

end Leaves

end

namespace Scenario

open Shop Products

/-- The five scenarios. -/
inductive Name where
  | homePageLoads
  | productSelection
  | addProducts
  | cartVerification
  | paymentWorkflow
  deriving DecidableEq, Repr

namespace Name

def scene : Name → Scene Unit
  | homePageLoads => Scenario.homePageLoads
  | productSelection => Scenario.productSelection
  | addProducts => Scenario.addProducts
  | cartVerification => Scenario.cartVerification
  | paymentWorkflow => Scenario.paymentWorkflow

/-- What a scenario makes of the session when it writes its entry. -/
def Writes : Name → Session → Session → Prop
  | homePageLoads, before, after => ∃ n : Nat, after = { before with temperature := .int n }
  | productSelection, before, after =>
    ∃ k : ProductKind, after = { before with productType := .str k.name }
  | addProducts, before, after =>
    ∃ (k : ProductKind) (a b : String), Fits k.criteria.1 a ∧ Fits k.criteria.2 b ∧
      after = { before with addedItems := .tuple [.str a, .str b] }
  | cartVerification, before, after =>
    ∃ n : Nat, 0 < n ∧ after = { before with totalPrice := some (.int n) }
  | paymentWorkflow, before, after => after = before

/-- Whether a scenario may fail after it has written its entry. -/
def writesEarly : Name → Bool
  | productSelection | addProducts => true
  | _ => false

/-- What may be left of the session when a scenario fails. -/
def Spoils (name : Name) (before after : Session) : Prop :=
  after = before ∨ (name.writesEarly = true ∧ name.Writes before after)

end Name

theorem homePageLoads_leaves (before : Session) :
    Leaves before homePageLoads (fun _ => Name.homePageLoads.Writes before)
      (Name.homePageLoads.Spoils before) := by
  have kept : Name.homePageLoads.Spoils before before := .inl rfl
  refine .after Keeps.browserReady kept fun _ _ => ?_
  refine .after (Keeps.walk _) kept fun _ _ => ?_
  refine .after (Keeps.walk _) kept fun t _ => ?_
  refine .written ?_
  refine .noted ?_
  refine .note ?_
  exact ⟨t, rfl⟩

theorem productSelection_leaves (before : Session) :
    Leaves before productSelection (fun _ => Name.productSelection.Writes before)
      (Name.productSelection.Spoils before) := by
  have kept : Name.productSelection.Spoils before before := .inl rfl
  rw [productSelection_eq]
  refine .after (Stays.approach Keeps.looks Keeps.browserReady) kept fun (temperature, t) _ => ?_
  refine .after (Keeps.walk _) kept fun (k, reached) _ => ?_
  cases reached with
  | false => exact .noted (.throw _ kept)
  | true =>
    have wrote : Name.productSelection.Writes before { before with productType := .str k.name } :=
      ⟨k, rfl⟩
    refine .noted (.written ?_)
    refine .after (Keeps.walk _) (.inr ⟨rfl, wrote⟩) fun _ _ => ?_
    exact .note wrote

theorem fillCart_leaves (before : Session) (productType : Value) :
    Leaves before (fillCart productType) (fun _ => Name.addProducts.Writes before)
      (Name.addProducts.Spoils before) := by
  have kept : Name.addProducts.Spoils before before := .inl rfl
  refine .after (Keeps.walk _) kept fun _ _ => ?_
  refine .after (Keeps.walk _) kept fun (a, b) added => ?_
  obtain ⟨s, t, run⟩ := added
  obtain ⟨_, paired, -⟩ := Scene.walk_ok_iff.1 run
  obtain ⟨first, second⟩ := addPair_fits paired
  have wrote : Name.addProducts.Writes before
      { before with addedItems := .tuple [.str a, .str b] } := ⟨_, a, b, first, second, rfl⟩
  have spoilt : Name.addProducts.Spoils before
      { before with addedItems := .tuple [.str a, .str b] } := .inr ⟨rfl, wrote⟩
  refine .noted (.written ?_)
  -- The pair is stored, and each of the steps that are left may still fail.
  refine .after (Keeps.walk _) spoilt fun _ _ => ?_
  refine .after (Keeps.walk _) spoilt fun _ _ => ?_
  refine .after (Keeps.walk _) spoilt fun _ _ => ?_
  refine .after (Keeps.walk _) spoilt fun _ _ => ?_
  refine .after (Keeps.walk _) spoilt fun _ _ => ?_
  exact .note wrote

theorem addProducts_leaves (before : Session) :
    Leaves before addProducts (fun _ => Name.addProducts.Writes before)
      (Name.addProducts.Spoils before) := by
  have gathers := Stays.productSelected Keeps.looks Keeps.browserReady
  refine .after gathers (.inl rfl) fun (productType, _) _ => ?_
  refine (fillCart_leaves before productType).tryCatch fun e t spoilt => ?_
  refine .noted (.after (Keeps.walk _) spoilt fun _ _ => ?_)
  exact .throw e spoilt

theorem storePrice_leaves (before : Session) :
    Leaves before storePrice (fun _ => Name.cartVerification.Writes before)
      (Name.cartVerification.Spoils before) := by
  have kept : Name.cartVerification.Spoils before before := .inl rfl
  refine .after (Keeps.walk _) kept fun total _ => ?_
  split
  · exact .noted (.after (Keeps.walk _) kept fun _ _ => .throw _ kept)
  · next positive =>
    refine .written (.note ?_)
    exact ⟨total, Nat.pos_of_ne_zero positive, rfl⟩

theorem cartVerification_leaves (before : Session) :
    Leaves before cartVerification (fun _ => Name.cartVerification.Writes before)
      (Name.cartVerification.Spoils before) := by
  have kept : Name.cartVerification.Spoils before before := .inl rfl
  have gathers := Stays.productsAdded Keeps.looks Keeps.browserReady
  refine .after gathers kept fun (productType, added) _ => .reporting ?_
  refine .after (Keeps.walk _) kept fun _ _ => ?_
  refine .after (Keeps.walk _) kept fun _ _ => ?_
  refine .after (Stays.expectedItems Keeps.looks _ _) kept fun _ _ => ?_
  refine .after (Keeps.walk _) kept fun found _ => ?_
  split
  · exact .reporting (storePrice_leaves before)
  · exact .noted (.after (Keeps.walk _) kept fun _ _ => .throw _ kept)

theorem paymentWorkflow_keeps : Keeps paymentWorkflow :=
  (Stays.cartVerified Keeps.looks Keeps.browserReady).bind fun _ => Keeps.walk _

/-- What a scenario leaves: its entry when it is done, and when it fails the session as it was, or
its entry if that is written early. -/
theorem Name.scene_leaves (name : Name) (before : Session) :
    Leaves before name.scene (fun _ => name.Writes before) (name.Spoils before) := by
  cases name with
  | homePageLoads => exact homePageLoads_leaves before
  | productSelection => exact productSelection_leaves before
  | addProducts => exact addProducts_leaves before
  | cartVerification => exact cartVerification_leaves before
  | paymentWorkflow => exact .of_keeps paymentWorkflow_keeps (fun _ => rfl) (.inl rfl)

end Scenario

namespace Session

open Shop Products Scenario

/-- What a session may hold: nothing yet, or a temperature without a sign, the name of a kind of
products, the names of a pair that fits the criteria of a kind, and a total above zero. -/
structure Sound (s : Session) : Prop where
  temperature : s.temperature = .none ∨ ∃ n : Nat, s.temperature = .int n
  productType : s.productType = .none ∨ ∃ k : ProductKind, s.productType = .str k.name
  addedItems : s.addedItems = .list [] ∨ ∃ (k : ProductKind) (a b : String),
    s.addedItems = .tuple [.str a, .str b] ∧ Fits k.criteria.1 a ∧ Fits k.criteria.2 b
  totalPrice : s.totalPrice = none ∨ ∃ n : Nat, 0 < n ∧ s.totalPrice = some (.int n)

theorem sound_fresh : Sound {} := ⟨.inl rfl, .inl rfl, .inl rfl, .inl rfl⟩

theorem Sound.writes {name : Name} {before after : Session} (sound : before.Sound)
    (wrote : name.Writes before after) : after.Sound := by
  cases name with
  | homePageLoads =>
    obtain ⟨n, rfl⟩ := wrote
    exact { sound with temperature := .inr ⟨n, rfl⟩ }
  | productSelection =>
    obtain ⟨k, rfl⟩ := wrote
    exact { sound with productType := .inr ⟨k, rfl⟩ }
  | addProducts =>
    obtain ⟨k, a, b, first, second, rfl⟩ := wrote
    exact { sound with addedItems := .inr ⟨k, a, b, rfl, first, second⟩ }
  | cartVerification =>
    obtain ⟨n, positive, rfl⟩ := wrote
    exact { sound with totalPrice := .inr ⟨n, positive, rfl⟩ }
  | paymentWorkflow =>
    obtain rfl := wrote
    exact sound

theorem Sound.spoils {name : Name} {before after : Session} (sound : before.Sound)
    (spoilt : name.Spoils before after) : after.Sound := by
  rcases spoilt with rfl | ⟨-, wrote⟩
  · exact sound
  · exact sound.writes wrote

end Session

namespace Scenario

open Shop

/-- What may happen on a trip: a scenario runs, or everything but the session becomes as in some
other stage. -/
inductive Move where
  | run (name : Name)
  | meanwhile (other : Stage)

def Move.apply (s : Stage) : Move → Stage
  | run name => lastState (name.scene s)
  | meanwhile other => { other with session := s.session }

def trip (moves : List Move) (s : Stage) : Stage := moves.foldl Move.apply s

theorem sound_apply {s : Stage} (sound : s.session.Sound) (move : Move) :
    (move.apply s).session.Sound := by
  cases move with
  | meanwhile other => exact sound
  | run name =>
    have left := (name.scene_leaves s.session).ends s rfl
    change (lastState (name.scene s)).session.Sound
    cases run : name.scene s with
    | ok _ t =>
      rw [run] at left
      exact sound.writes left
    | error _ t =>
      rw [run] at left
      exact sound.spoils left

theorem sound_trip {s : Stage} (sound : s.session.Sound) (moves : List Move) :
    (trip moves s).session.Sound := by
  induction moves generalizing s with
  | nil => exact sound
  | cons move rest ih => exact ih (sound_apply sound move)

/-- The session is sound after any trip from a fresh one. Whatever it holds, a scenario writes its
own entry only, and only the selection of products and their addition may fail after that. -/
theorem session_sound_on_every_trip {s : Stage} (fresh : s.session = {}) (moves : List Move) :
    (trip moves s).session.Sound ∧ ∀ (name : Name) (before : Session),
      Leaves before name.scene (fun _ => name.Writes before) (name.Spoils before) := by
  refine ⟨sound_trip ?_ moves, Name.scene_leaves⟩
  rw [fresh]
  exact Session.sound_fresh

/-- A shop with everything on one page, at 45 degrees. -/
def market : Site where
  title := "Current Temperature"
  elements :=
    [(Selector.temperature, [.mk (some "45 ℃") true true [] []]),
     (ProductKind.sunscreen.button, [.mk (some "Buy sunscreens") true true []
       [.setUrl (baseUrl ++ "sunscreen"),
        .setElements Selector.heading [.mk (some "Sunscreens") true true [] []]]]),
     (Selector.containers,
       [product "Lotion SPF-50" "Price: 300", product "spf-30 Cream" "Price: Rs. 200"]),
     (Selector.cartButton, [.mk (some "Cart - Empty") true true []
       [.setUrl (baseUrl ++ "cart"),
        .setElements Selector.heading [.mk (some "Checkout") true true [] []]]]),
     (Selector.cart, [.mk (some "Cart") true true [] []]),
     (Selector.cartTable, [.mk (some "") true true [] []]),
     (Selector.cartRows, [row "Lotion SPF-50" "300", row "SPF-30 Cream" "200"]),
     (Selector.total, [.mk (some "Total: Rupees 500") true true [] []]),
     (Selector.payButton, [.mk (some "Pay with Card") true true [] []])]
where
  product (name price : String) : Element :=
    .mk (some "") true true
      [(Selector.productName, [.mk (some name) true true [] []]),
       (Selector.productPrice, [.mk (some price) true true [] []]),
       (Selector.addButton, [.mk (some "Add") true true [] [.bump Selector.cartButton]])] []
  row (name price : String) : Element :=
    .mk (some "") true true
      [(Selector.itemName, [.mk (some name) true true [] []]),
       (Selector.itemPrice, [.mk (some price) true true [] []])] []

def marketDay : Stage where
  world := { site := market }
  clock := Moment.first.clock
  opened := Moment.first

/-- A trip that fails at the cart, goes on as it should, and fails at the payment. -/
def marketTrip : List Move :=
  [.run .cartVerification, .meanwhile marketDay, .run .homePageLoads, .run .productSelection,
   .run .addProducts, .run .cartVerification, .run .paymentWorkflow]

theorem session_sound_on_every_trip_market :
    marketDay.session = {} ∧
      (trip marketTrip marketDay).session.entries.map (fun e => (e.1, e.2.display)) =
        [("temperature", "45"), ("product_type", "sunscreen"),
         ("added_items", "('Lotion SPF-50', 'spf-30 Cream')"), ("total_price", "500")] ∧
      (trip marketTrip marketDay).session.Sound ∧ ∀ (name : Name) (before : Session),
        Leaves before name.scene (fun _ => name.Writes before) (name.Spoils before) :=
  ⟨rfl, by decide +kernel, session_sound_on_every_trip rfl marketTrip⟩

end Scenario

end Shopwalk
