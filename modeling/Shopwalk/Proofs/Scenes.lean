import Shopwalk.Scenario
import Shopwalk.Proofs.Looking

/-!
Scenes that only look. Where looking at the site is allowed and the browser is made ready in an
allowed way, what is handed on from one scenario to the next is gathered in an allowed way, too. So
is what products are selected by, in the first of the parts that their selection is put together
from.
-/

namespace Shopwalk

namespace Scenario

open Shop

/-- What comes before products are chosen: the browser is made ready, and the temperature is taken
from the session and noted. -/
def approach : Scene (Value × String) := do
  Stage.homeLoaded
  let temperature := (← Scene.sessionNow).temperature
  let t ← Scene.textOf temperature
  Scene.note .info s!"Using temperature from session_data: {t}°C"
  return (temperature, t)

/-- The heading expected is the one that the shop shows above products of this kind. -/
theorem headingOf_name (k : ProductKind) : headingOf k.name = k.heading := by
  cases k <;> decide

/-- What is done about products that were reached. -/
def settleOn (k : ProductKind) (t : String) : Scene Unit := do
  Scene.note .info s!"Selected product type: {k.name}"
  Scene.modifySession fun s => { s with productType := .str k.name }
  Scene.walk (Check.navigation (.str k.name) (.str k.heading) Selector.heading)
  Scene.note .success s!"Test 2: Selected {k.name} based on temperature {t}°C"

/-- What is done about products that were not. -/
def giveUpOn (k : ProductKind) : Scene Unit := do
  Scene.note .error s!"Failed to navigate to {k.name} page"
  throw (.unassigned "page")

theorem productSelection_eq :
    productSelection = (do
      let (temperature, t) ← approach
      let (kind, reached) ← Scene.walk (Home.chooseProducts temperature)
      if reached then settleOn kind t else giveUpOn kind) := by
  simp only [productSelection, approach, headingOf_name, settleOn, giveUpOn, bind_assoc, pure_bind]

end Scenario

section
variable {α : Type} {R : Stage → Stage → Prop} {s after : Stage} {a : α}

/-- A relation that allows to look at the site. -/
def LooksAllowed (R : Stage → Stage → Prop) : Prop :=
  ∀ (s : Stage) (world : World), Looked s.world world → R s { s with world }

namespace Stays

theorem look (allowed : LooksAllowed R) {w : Walk α} (h : Looks w) : Stays R (Scene.walk w) := by
  intro s
  unfold Scene.walk
  cases run : w s.world with
  | ok a world => exact allowed s world (h.of_ok run)
  | error e world => exact allowed s world (h.of_error run)

theorem sceneNote (allowed : LooksAllowed R) (level : Level) (text : String) :
    Stays R (Scene.note level text) :=
  look allowed (anyNote level text)

theorem sceneText (allowed : LooksAllowed R) (v : Value) : Stays R (Scene.textOf v) :=
  look allowed (textOf v)

variable [Std.Refl R] [Trans R R R]

theorem sessionNow : Stays R Scene.sessionNow := get.bind fun _ => pure _

theorem warnUnlessCart (allowed : LooksAllowed R) : Stays R Stage.warnUnlessCart := by
  refine get.bind fun s => ?_
  dsimp only
  split
  · exact sceneNote allowed _ _
  · exact pure _

theorem approach (allowed : LooksAllowed R) (ready : Stays R Stage.browserReady) :
    Stays R Scenario.approach :=
  ready.bind fun _ => sessionNow.bind fun _ => (sceneText allowed _).bind fun _ =>
    (sceneNote allowed _ _).bind fun _ => pure _

theorem productSelected (allowed : LooksAllowed R) (ready : Stays R Stage.browserReady) :
    Stays R Stage.productSelected := by
  refine ready.bind fun _ => sessionNow.bind fun s => (sceneText allowed _).bind fun _ =>
    (sceneText allowed _).bind fun _ => (sceneNote allowed _ _).bind fun _ => ?_
  split
  · exact (sceneNote allowed _ _).bind fun _ => pure _
  · exact pure _

theorem productsAdded (allowed : LooksAllowed R) (ready : Stays R Stage.browserReady) :
    Stays R Stage.productsAdded :=
  (productSelected allowed ready).bind fun _ => (sceneNote allowed _ _).bind fun _ =>
    sessionNow.bind fun _ => (sceneText allowed _).bind fun _ =>
      (sceneNote allowed _ _).bind fun _ => (sceneText allowed _).bind fun _ =>
        (sceneNote allowed _ _).bind fun _ => (sceneText allowed _).bind fun _ =>
          (sceneNote allowed _ _).bind fun _ => (warnUnlessCart allowed).bind fun _ => pure _

theorem cartVerified (allowed : LooksAllowed R) (ready : Stays R Stage.browserReady) :
    Stays R Stage.cartVerified :=
  (productsAdded allowed ready).bind fun _ => (sceneNote allowed _ _).bind fun _ =>
    sessionNow.bind fun _ => (sceneText allowed _).bind fun _ =>
      (sceneNote allowed _ _).bind fun _ => (sceneText allowed _).bind fun _ =>
        (sceneNote allowed _ _).bind fun _ => (warnUnlessCart allowed).bind fun _ => pure _

theorem expectedItems (allowed : LooksAllowed R) (productType added : Value) :
    Stays R (Scenario.expectedItems productType added) := by
  refine sessionNow.bind fun s => (sceneText allowed _).bind fun _ =>
    (sceneText allowed _).bind fun _ => (sceneNote allowed _ _).bind fun _ => ?_
  split
  · exact pure _
  · exact (sceneNote allowed _ _).bind fun _ => (sceneText allowed _).bind fun _ =>
      (sceneNote allowed _ _).bind fun _ => pure _

end Stays

namespace Scene

theorem walk_ok_iff {w : Walk α} :
    walk w s = .ok a after ↔ ∃ world, w s.world = .ok a world ∧ after = { s with world } := by
  unfold walk
  cases h : w s.world with
  | ok b world =>
    simp only [EStateM.Result.ok.injEq]
    constructor
    · rintro ⟨rfl, rfl⟩; exact ⟨world, ⟨rfl, rfl⟩, rfl⟩
    · rintro ⟨_, ⟨rfl, rfl⟩, rfl⟩; exact ⟨rfl, rfl⟩
  | error f world => simp

theorem textOf_ok_iff {v : Value} {text : String} :
    textOf v s = .ok text after ↔ v.text = .ok text ∧ after = s := by
  rw [textOf, walk_ok_iff]
  constructor
  · rintro ⟨world, settled, rfl⟩
    obtain ⟨worded, rfl⟩ := settle_ok_iff.1 settled
    exact ⟨worded, rfl⟩
  · rintro ⟨worded, rfl⟩
    exact ⟨after.world, settle_ok_iff.2 ⟨worded, rfl⟩, rfl⟩

/-- What comes after a look finds the site as it was. -/
theorem look_ok {β : Type} {w : Walk α} {next : α → Scene β} {b : β} (h : Looks w)
    (unscripted : s.world.rules = []) (run : (walk w >>= next) s = .ok b after) :
    ∃ a world, w s.world = .ok a world ∧ next a { s with world } = .ok b after ∧
      world.site = s.world.site ∧ world.rules = [] := by
  obtain ⟨a, _, walked, rest⟩ := bind_ok_iff.1 run
  obtain ⟨world, looked, rfl⟩ := walk_ok_iff.1 walked
  have same := h.of_ok looked
  exact ⟨a, world, looked, rest, same.site, same.rules unscripted⟩

/-- A scene that reports its faults succeeds when the scene itself does. -/
theorem reporting_ok_iff {scene : Scene α} {complaint name : String} :
    reporting complaint name scene s = .ok a after ↔ scene s = .ok a after := by
  constructor
  · intro h
    cases run : scene s with
    | ok b later => exact (tryCatch_of_ok run).symm.trans h
    | error e later =>
      rw [reporting, tryCatch_of_error run, bind_ok_iff] at h
      obtain ⟨_, _, _, thrown⟩ := h
      cases thrown
  · exact fun h => tryCatch_of_ok h

end Scene

end

end Shopwalk
