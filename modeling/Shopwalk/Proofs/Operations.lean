import Shopwalk.Cart
import Shopwalk.Home
import Shopwalk.Payment
import Shopwalk.Products
import Shopwalk.Proofs.Looking

/-!
What the operations of the pages keep. They are put together from calls, checks and evidence of
failures, so that each of them keeps every relation between worlds that admits these; reading and
verifying takes no more than looks. Where an operation ends in different ways, what it keeps when it
ends in one of them is said in terms of its last parts.
-/

namespace Shopwalk

/-- A payment up to the press of submit, with the number of navigations there were before that. -/
def Payment.toSubmit : Walk Nat := do
  Browser.waitForLoad "networkidle" none
  Walk.note .info "Locating payment frame..."
  let _ ← Check.visible (Check.bySelector Shop.Selector.paymentFrame) (some "10000")
  Walk.note .info "Successfully located payment frame"
  fillField Shop.Selector.email (some "5000") "email" Shop.Card.email
  fillField Shop.Selector.cardNumber none "card number" Shop.Card.number
  fillField Shop.Selector.expiry none "expiry date" (Shop.Card.expiryMonth ++ Shop.Card.expiryYear)
  fillField Shop.Selector.cvc none "CVC" Shop.Card.cvc
  Walk.note .info "Locating pay button..."
  let button ← ready Shop.Selector.submit none
  Walk.note .info "Ready to submit payment"
  Walk.perform (.expectNavigation (some "networkidle"))
  let before := (← Walk.site).navigations
  Browser.click button
  return before

/-- The last part of an operation that has worked: it notes that and answers. -/
abbrev saying {α : Type} (text : String) (answer : α) : Walk α := do
  Walk.note .success text
  return answer

/-- The last part of an operation that has failed: it keeps evidence and answers. -/
abbrev showing {α : Type} (name : String) (answer : α) : Walk α := do
  Evidence.capture name
  return answer

section
variable {R : World → World → Prop} [Std.Refl R] [Trans R R R]

open Shop (ProductKind)
open Stays (pure throw settle textOf site note)

theorem saying_stays {α : Type} [AdmitsSuccess R] {text : String} {answer : α} :
    Stays R (saying text answer) :=
  (AdmitsSuccess.admits _).bind fun _ => pure _

theorem showing_stays {α : Type} [AdmitsEvidence R] {name : String} {answer : α} :
    Stays R (showing name answer) :=
  (AdmitsEvidence.admits _).bind fun _ => pure _

section
variable [AdmitsLooks R]

namespace Products

theorem readContainer_stays (container : Locator) : Stays R (readContainer container) :=
  (Stays.visible _ _).bind fun _ => (Stays.visible _ _).bind fun _ =>
    (Stays.visible _ _).bind fun _ => (Stays.textAt _).bind fun _ => (Stays.textAt _).bind fun _ =>
      (settle _).bind fun _ => pure _

theorem readContainers_stays (k : Nat) (containers : List Locator) :
    Stays R (readContainers k containers) := by
  induction containers generalizing k with
  | nil => exact pure _
  | cons container rest ih =>
    refine (readContainer_stays container).attempt.bind fun r => ?_
    cases r with
    | ok p => exact (note _ _).bind fun _ => (ih (k + 1)).bind fun _ => pure _
    | error e => exact (note _ _).bind fun _ => ih (k + 1)

theorem readPage_stays : Stays R readPage :=
  site.bind fun _ => (note _ _).bind fun _ => (Stays.leastCount _ _).bind fun _ =>
    (note _ _).bind fun _ => (Stays.waitForLoad _ _).bind fun _ => (Stays.all _).bind fun _ =>
      (readContainers_stays _ _).bind fun _ => (note _ _).bind fun _ => pure _

end Products

namespace Cart

theorem readRow_stays (row : Locator) : Stays R (readRow row) :=
  (Stays.textContent _).bind fun _ => (Stays.textContent _).bind fun _ =>
    (settle _).bind fun _ => pure _

theorem readRows_stays (i : Nat) (rows : List Locator) : Stays R (readRows i rows) := by
  induction rows generalizing i with
  | nil => exact pure _
  | cons row rest ih =>
    refine (readRow_stays row).attempt.bind fun r => ?_
    cases r with
    | ok item => exact (note _ _).bind fun _ => (ih (i + 1)).bind fun _ => pure _
    | error e => exact (note _ _).bind fun _ => ih (i + 1)

theorem readTable_stays : Stays R readTable := by
  refine (Stays.visible _ _).bind fun _ => (Stays.count _).bind fun n => ?_
  split
  · exact (note _ _).bind fun _ => pure _
  · exact (note _ _).bind fun _ => readRows_stays _ _

theorem unmatched_stays (names : List String) (expected : List Value) :
    Stays R (unmatched names expected) := by
  induction expected with
  | nil => exact pure _
  | cons item rest ih =>
    refine (settle _).bind fun _ => (textOf _).bind fun _ => ?_
    split
    · exact (note _ _).bind fun _ => ih
    · exact (note _ _).bind fun _ => ih.bind fun _ => pure _

theorem displayedTotal_stays : Stays R displayedTotal :=
  (note _ _).bind fun _ => (Stays.visible _ _).bind fun _ => (Stays.textContent _).bind fun _ =>
    (note _ _).bind fun _ => (Stays.number _).bind fun _ => (note _ _).bind fun _ => pure _

end Cart

namespace Home

/-- A text that shows no number reads as zero, so that the reading is never missing. -/
theorem readTemperature_eq :
    readTemperature = (do
      let place := Check.bySelector Shop.Selector.temperature
      let l ← Check.visible place none
      let _ ← Check.text place (.pattern Check.digits) false none
      let n ← (do Walk.settle (Shop.numberOrZeroOf (Shop.textValue (← Browser.textContent l))))
      Walk.note .info s!"Current temperature: {n}°C"
      return n) := by
  unfold readTemperature
  simp only [bind_assoc]
  refine bind_congr fun l => bind_congr fun _ => bind_congr fun text => ?_
  unfold reading
  cases Shop.numberOrZeroOf (Shop.textValue text) with
  | ok n => rfl
  | error f => rfl

theorem readTemperature_stays : Stays R readTemperature := by
  rw [readTemperature_eq]
  exact (Stays.visible _ _).bind fun _ => (Stays.text _ _ _ _).bind fun _ =>
    ((Stays.textContent _).bind fun _ => settle _).bind fun _ => (note _ _).bind fun _ => pure _

theorem goToProductsNamed_when {kind : Option Bool → Prop}
    (led : ∀ k, StaysWhen kind R (goToProducts k)) (named : Value) :
    StaysWhen kind R (goToProductsNamed named) := by
  unfold goToProductsNamed
  split
  · exact (Stays.throw _).when
  · split
    · split
      · exact led _
      · exact ((note _ _).bind fun _ => pure _).when
    · exact ((textOf _).bind fun _ => (note _ _).bind fun _ => pure _).when

/-- Whichever kind is chosen, the way to its products is the last part. -/
theorem goByTemperature_when {kind : Option Bool → Prop}
    {kind' : Option (ProductKind × Bool) → Prop} (led : ∀ k, StaysWhen kind R (goToProducts k))
    (same : ∀ k answer, kind' (answer.map (Prod.mk k)) → kind answer) (temperature : Value) :
    StaysWhen kind' R (goByTemperature temperature) := by
  have chosen (text : String) (k : ProductKind) : StaysWhen kind' R (do
      Walk.note .info text
      return (k, ← goToProducts k)) :=
    .bind (note _ _).when fun _ => (led k).passing (same k)
  refine .bind (textOf _).when fun _ => .bind (note _ _).when fun _ =>
    .bind (settle _).when fun below => ?_
  split
  · exact chosen _ .moisturizer
  · refine .bind (settle _).when fun above => ?_
    split
    · exact chosen _ .sunscreen
    · exact chosen _ .moisturizer

end Home

theorem Payment.readConfirmation_when {kind : Option Bool → Prop}
    (told : ∀ text, StaysWhen kind R (saying text true)) : StaysWhen kind R readConfirmation :=
  .bind site.when fun _ => .bind (note _ _).when fun _ => .bind (Stays.url _ _).when fun _ =>
    .bind (Stays.visible _ _).when fun _ => .bind (Stays.text _ _ _ _).when fun _ => told _

theorem Payment.readConfirmation_stays [AdmitsSuccess R] : Stays R readConfirmation :=
  (readConfirmation_when fun _ => saying_stays.when).always

theorem Products.findCheapest_when {kind : Option Product → Prop}
    (listed : StaysWhen (fun o => o = none → kind none) R list) (criterion criterionKind : Value) :
    StaysWhen kind R (findCheapest criterion criterionKind) := by
  refine .bind listed fun _ => Stays.when ?_
  refine (textOf _).bind fun _ => (textOf _).bind fun _ => (note _ _).bind fun _ =>
    (note _ _).bind fun _ => (settle _).bind fun _ => (note _ _).bind fun _ => ?_
  split
  · exact (note _ _).bind fun _ => throw _
  · exact (note _ _).bind fun _ => pure _

namespace Cart

theorem compareNames_when {kind : Option Bool → Prop}
    (told : ∀ text, StaysWhen kind R (saying text true))
    (missed : ∀ name, StaysWhen kind R (showing name false)) (expected : Value)
    (names : List Value) : StaysWhen kind R (compareNames expected names) := by
  refine .bind (note _ _).when fun _ => .bind (textOf _).when fun _ =>
    .bind (note _ _).when fun _ => .bind (note _ _).when fun _ => .bind (settle _).when fun _ =>
      .bind (settle _).when fun _ => .bind (unmatched_stays _ _).when fun failed => ?_
  split
  · exact told _
  · exact .bind (textOf _).when fun _ => .bind (note _ _).when fun _ => missed _

theorem compareItems_when {kind : Option Bool → Prop}
    (listed : StaysWhen (fun o => o = none → kind none) R items)
    (told : ∀ text, StaysWhen kind R (saying text true))
    (missed : ∀ name, StaysWhen kind R (showing name false)) (expected : Value) :
    StaysWhen kind R (compareItems expected) := by
  unfold compareItems
  split
  · exact ((note _ _).bind fun _ => pure _).when
  · refine .bind listed fun found => ?_
    split
    · exact .bind (note _ _).when fun _ => missed _
    · exact compareNames_when told missed _ _

theorem verifyTotal_when {kind : Option Nat → Prop}
    (listed : StaysWhen (fun o => o = none → kind none) R items)
    (told : ∀ text n, StaysWhen kind R (saying text n)) : StaysWhen kind R verifyTotal := by
  refine .bind (note _ _).when fun _ => .bind listed fun _ =>
    .bind displayedTotal_stays.when fun displayed => ?_
  dsimp only
  split
  · exact told _ _
  · exact ((textOf _).bind fun _ => (textOf _).bind fun _ => (note _ _).bind fun _ =>
      throw _).when

end Cart

section
variable [AdmitsEvidence R]

theorem Home.temperature_stays : Stays R Home.temperature := Home.readTemperature_stays.reporting

namespace Products

theorem list_stays : Stays R list := readPage_stays.reporting

theorem findCheapest_stays (criterion criterionKind : Value) :
    Stays R (findCheapest criterion criterionKind) :=
  (findCheapest_when list_stays.when criterion criterionKind).always

end Products

namespace Cart

theorem items_stays : Stays R items := readTable_stays.reporting

variable [AdmitsSuccess R]

theorem compareItems_stays (expected : Value) : Stays R (compareItems expected) :=
  (compareItems_when items_stays.when (fun _ => saying_stays.when) (fun _ => showing_stays.when)
    expected).always

theorem verifyItems_stays (expected : Value) : Stays R (verifyItems expected) :=
  (compareItems_stays expected).recovering

theorem verifyTotal_stays : Stays R verifyTotal :=
  (verifyTotal_when items_stays.when fun _ _ => saying_stays.when).always

end Cart

end

end

section
variable [AdmitsCalls R]

theorem Products.clickOn_stays (button : Value) : Stays R (Products.clickOn button) := by
  unfold Products.clickOn
  split
  · exact Stays.click _
  · exact throw _

theorem Products.openCart_stays : Stays R Products.openCart :=
  (note _ _).bind fun _ => (Stays.expectNavigation none (Stays.pageClick _)).bind fun _ =>
    (Stays.expectPage _ _).bind fun _ => (Stays.expectText _ _ _ _).bind fun _ =>
      site.bind fun _ => note _ _

theorem Products.goToCart_stays [AdmitsRecords R] : Stays R Products.goToCart :=
  Products.openCart_stays.tryCatch fun e =>
    (note _ _).bind fun _ => (Stays.screenshot _).bind fun _ => throw e

theorem Cart.openPayment_stays : Stays R Cart.openPayment :=
  (Stays.enabled _).bind fun _ => (note _ _).bind fun _ => (Stays.click _).bind fun _ =>
    (note _ _).bind fun _ => (Stays.visible _ _).bind fun _ => (Stays.framed _ _ _ _).bind fun _ =>
      (note _ _).bind fun _ => pure _

namespace Payment

theorem ready_stays (selector : String) (timeout : Option String) :
    Stays R (ready selector timeout) :=
  (Stays.framed _ _ _ _).bind fun _ => (Stays.framed _ _ _ _).bind fun _ => pure _

theorem fillField_stays (selector : String) (timeout : Option String) (label value : String) :
    Stays R (fillField selector timeout label value) :=
  (ready_stays _ _).bind fun _ => (note _ _).bind fun _ => Stays.fill _ _

/-- Submit is the last call of a payment; that it has been pressed is noted before it is known where
that has led. -/
theorem submitForm_eq :
    submitForm = (do
      let before ← toSubmit
      Walk.note .success "Payment submitted successfully"
      if (← Walk.site).navigations = before then throw .timeout else return true) := by
  unfold submitForm toSubmit Browser.expectNavigation
  simp only [bind_assoc, pure_bind]
  repeat refine bind_congr fun _ => ?_
  split <;> rfl

theorem toSubmit_stays : Stays R toSubmit :=
  (Stays.waitForLoad _ _).bind fun _ => (note _ _).bind fun _ =>
    (Stays.visible _ _).bind fun _ => (note _ _).bind fun _ =>
      (fillField_stays _ _ _ _).bind fun _ => (fillField_stays _ _ _ _).bind fun _ =>
        (fillField_stays _ _ _ _).bind fun _ => (fillField_stays _ _ _ _).bind fun _ =>
          (note _ _).bind fun _ => (ready_stays _ _).bind fun _ => (note _ _).bind fun _ =>
            (Stays.call rfl).bind fun _ => site.bind fun _ => (Stays.click _).bind fun _ => pure _

end Payment

section
variable {kind : Option Bool → Prop} (told : ∀ text, StaysWhen kind R (saying text true))
include told

theorem Home.arrive_when : StaysWhen kind R Home.arrive :=
  .bind (note _ _).when fun _ => .bind (Stays.goto _).when fun _ =>
    .bind (Stays.visible _ _).when fun _ => told _

theorem Home.followButton_when (k : ProductKind) : StaysWhen kind R (Home.followButton k) :=
  .bind (note _ _).when fun _ =>
    .bind (Stays.expectNavigation none (Stays.pageClick _)).when fun _ =>
      .bind (Stays.navigation _ _ _).when fun _ => .bind site.when fun _ => told _

theorem Products.pressAdd_when (button : Value) : StaysWhen kind R (Products.pressAdd button) := by
  refine .bind (Stays.textContent _).when fun _ => .bind (settle _).when fun before =>
    .bind (note _ _).when fun _ => .bind (Products.clickOn_stays button).when fun _ =>
      .bind (note _ _).when fun _ => .bind (Stays.text _ _ _ _).when fun _ =>
        .bind (Stays.textContent _).when fun _ => .bind (settle _).when fun after => ?_
  split
  · exact told _
  · exact ((note _ _).bind fun _ => pure _).when

end

section
variable [AdmitsSuccess R]

theorem Home.arrive_stays : Stays R Home.arrive :=
  (Home.arrive_when fun _ => saying_stays.when).always

theorem Home.followButton_stays (k : ProductKind) : Stays R (Home.followButton k) :=
  (Home.followButton_when (fun _ => saying_stays.when) k).always

theorem Products.pressAdd_stays (button : Value) : Stays R (Products.pressAdd button) :=
  (Products.pressAdd_when (fun _ => saying_stays.when) button).always

theorem Payment.submitForm_stays : Stays R Payment.submitForm := by
  rw [Payment.submitForm_eq]
  refine Payment.toSubmit_stays.bind fun before => (AdmitsSuccess.admits _).bind fun _ =>
    site.bind fun s => ?_
  split
  · exact throw _
  · exact pure _

variable [AdmitsEvidence R]

namespace Home

theorem load_stays : Stays R load := arrive_stays.recovering

theorem goToProducts_stays (k : ProductKind) : Stays R (goToProducts k) :=
  (followButton_stays k).recovering

theorem goByTemperature_stays (temperature : Value) : Stays R (goByTemperature temperature) := by
  refine StaysWhen.always ?_
  exact goByTemperature_when (fun k => (goToProducts_stays k).when) (fun _ _ => id) temperature

theorem chooseProducts_stays (temperature : Value) : Stays R (chooseProducts temperature) :=
  (goByTemperature_stays temperature).recovering

end Home

namespace Products

theorem addToCart_stays (button : Value) : Stays R (addToCart button) :=
  (pressAdd_stays button).recovering

theorem addCheapest_stays (criterion criterionKind : String) :
    Stays R (addCheapest criterion criterionKind) :=
  (findCheapest_stays _ _).bind fun _ => (addToCart_stays _).bind fun _ =>
    (note _ _).bind fun _ => pure _

theorem addPair_stays (k : ProductKind) : Stays R (addPair k) :=
  (note _ _).bind fun _ => (addCheapest_stays _ _).bind fun _ =>
    (addCheapest_stays _ _).bind fun _ => pure _

end Products

end

end

end

end Shopwalk
