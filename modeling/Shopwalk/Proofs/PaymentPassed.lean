import Shopwalk.Scenario
import Shopwalk.Proofs.PaymentForm
import Shopwalk.Proofs.Scenes

/-!
What it means that the payment scenario passes. It ends with the confirmation alone: whether the
form was submitted is not looked at, so that a confirmation which is there already will do.
-/

namespace Shopwalk

namespace Payment

open Shop

/-- The confirmation: its url, and an element that is visible and says that the payment was made. -/
structure ConfirmationShown (s : Site) : Prop where
  url : Check.UrlHas "confirmation" s
  element : ∃ e, s.resolve (.top Selector.paymentSuccess) = [e] ∧ e.visible = true ∧
    Text.contains (e.text.getD "") "PAYMENT SUCCESS" = true

/-- What happens when the confirmation is looked at. -/
def confirmationEvents : List Event :=
  [.expectPage .url "/.*confirmation.*/i",
   .expectQuality .visible Selector.paymentSuccess (some "10000"),
   .expectQuality .visible Selector.paymentSuccess none,
   .expectText .contain Selector.paymentSuccess "'PAYMENT SUCCESS'" none]

/-- The confirmation is shown, and no rule fails a call that looks at it. -/
structure Confirmed (w : World) : Prop where
  spared : Rule.Spares w.rules confirmationEvents
  shown : ConfirmationShown w.site

/-- The calls that look at the confirmation, on a site. -/
def confirmationSteps (s : Site) : List Step :=
  [.url s (Check.wordPattern "confirmation"),
   .quality s .visible (.top Selector.paymentSuccess) (some "10000"),
   .quality s .visible (.top Selector.paymentSuccess) none,
   .contains s (.top Selector.paymentSuccess) (.text "PAYMENT SUCCESS") none]

theorem confirmationSteps_events (s : Site) :
    (confirmationSteps s).map Step.event = confirmationEvents := rfl

theorem readConfirmation_follows (s : Site) :
    Follows s readConfirmation (confirmationSteps s) (.ok true) := by
  refine Follows.site.bind (a := []) ?_
  refine (Follows.note _ _).bind (a := []) ?_
  refine (Follows.url (by decide)).bind (a := [_]) ?_
  refine (Follows.visible _ _ _).bind (a := [_]) ?_
  refine (Follows.text _ _ rfl none).bind (a := [_, _]) ?_
  exact (Follows.note _ _).bind (Follows.pure true) (a := [])

theorem confirmationSteps_faultless_iff {s : Site} :
    (∀ step ∈ confirmationSteps s, step.fault = none) ↔ ConfirmationShown s := by
  simp only [confirmationSteps, List.forall_mem_cons, List.not_mem_nil, false_implies,
    implies_true, and_true, Step.url_fault_iff, Step.quality_fault_iff,
    Step.contains_text_fault_iff, Browser.has]
  rw [Site.resolve_and_iff]
  constructor
  · rintro ⟨url, _, element⟩
    exact ⟨url, element⟩
  · rintro ⟨url, e, found, visible, worded⟩
    exact ⟨url, ⟨e, found, visible⟩, e, found, visible, worded⟩

/-- The confirmation is found exactly when it is shown and can be looked at. -/
theorem verifySuccess_true_iff {w : World} :
    (∃ after, verifySuccess w = .ok true after) ↔ Confirmed w := by
  obtain ⟨notes, _, run⟩ := readConfirmation_follows w.site w rfl
  have quiet_iff : (play w.rules (confirmationSteps w.site)).fault = none ↔ Confirmed w := by
    rw [play_fault_eq_none_iff, confirmationSteps_events, confirmationSteps_faultless_iff]
    exact ⟨fun h => ⟨h.1, h.2⟩, fun h => ⟨h.spared, h.shown⟩⟩
  cases fault : (play w.rules (confirmationSteps w.site)).fault with
  | none =>
    rw [fault] at run
    exact ⟨fun _ => quiet_iff.1 fault, fun _ => ⟨_, Evidence.recovering_of_ok run⟩⟩
  | some f =>
    rw [fault] at run
    have unconfirmed : ¬ Confirmed w := by
      intro h
      rw [quiet_iff.2 h] at fault
      cases fault
    refine ⟨fun h => ?_, fun h => absurd h unconfirmed⟩
    obtain ⟨after, verified⟩ := h
    rw [verifySuccess, Evidence.recovering, tryCatch_of_error run, bind_ok_iff] at verified
    obtain ⟨_, _, _, substituted⟩ := verified
    cases substituted

end Payment

namespace Scenario

open Payment Shop

/-- The payment up to where the form is filled in. -/
def openForm (total : Value) : Walk Unit := do
  Check.navigation (.str "cart") (.str "Checkout") Selector.heading
  let words ← Walk.textOf total
  Walk.note .info s!"Proceeding to payment with total price: {words}"
  let _ ← Check.enabled Selector.payButton
  let (opened, text) ← Cart.proceedToPayment
  if !opened then
    Walk.note .error text
    Evidence.capture "test_05_payment_workflow_payment_navigation"
    throw (.paymentNotOpened text)
  Walk.note .info "Payment form opened successfully"

theorem pay_eq (total : Value) :
    pay total = (do
      openForm total
      Evidence.reporting "Payment form fill error" "test_05_payment_workflow_payment_form" fillForm
      Evidence.reporting "Payment success verification error"
        "test_05_payment_workflow_success_verification" confirm) := by
  simp only [pay, openForm, bind_assoc]
  refine bind_congr fun _ => ?_
  refine bind_congr fun _ => ?_
  refine bind_congr fun _ => ?_
  refine bind_congr fun _ => ?_
  refine bind_congr fun _ => ?_
  split <;> simp

/-- As `openForm`, up to the last entry of the log before the form is filled in. -/
def approachForm (total : Value) : Walk Unit := do
  openForm total
  Walk.note .info "Filling payment details"

/-- What comes before the form is filled in, from the stages on. -/
def toForm : Scene Unit := do
  let total ← Stage.cartVerified
  Scene.walk (approachForm total)

/-- The form has been opened, and is now to be filled in. -/
def FormOpened (s : Stage) (w : World) : Prop := ∃ t, toForm s = .ok () t ∧ t.world = w

/-- The form was filled in and submitted, and that led to another page. -/
def Submitted (s : Stage) : Prop :=
  ∃ w after, FormOpened s w ∧ fillDetails w = .ok true after ∧
    after.trace = w.trace ++ formEvents ∧ Leads w.site

/-- The form was opened but did not go through, and yet the confirmation is shown. Nothing led
there: the url was that of the confirmation before the form was filled in. -/
def ConfirmedUnsubmitted (s : Stage) : Prop :=
  ∃ w after, FormOpened s w ∧ ¬ GoesThrough w ∧ Check.UrlHas "confirmation" w.site ∧
    fillDetails w = .ok false after ∧ Confirmed after

theorem confirm_ok_iff {w : World} : (∃ after, confirm w = .ok () after) ↔ Confirmed w := by
  rw [← verifySuccess_true_iff]
  constructor
  · rintro ⟨after, run⟩
    obtain ⟨verified, later, verify, rest⟩ := bind_ok_iff.1 run
    cases verified with
    | true => exact ⟨later, verify⟩
    | false => cases rest
  · rintro ⟨after, verify⟩
    exact ⟨_, bind_of_ok verify⟩

theorem pay_ok_iff {total : Value} {w : World} :
    (∃ after, pay total w = .ok () after) ↔
      ∃ opened b filled, approachForm total w = .ok () opened ∧
        fillDetails opened = .ok b filled ∧ Confirmed filled := by
  simp only [pay_eq, approachForm, bind_ok_iff, Evidence.reporting_ok_iff, ← confirm_ok_iff,
    fillForm]
  constructor
  · rintro ⟨after, _, u, form, _, v, ⟨_, opened, noted, b, filled, fill, done⟩, confirmed⟩
    cases done
    exact ⟨opened, b, v, ⟨_, u, form, noted⟩, fill, after, confirmed⟩
  · rintro ⟨opened, b, filled, ⟨_, u, form, noted⟩, fill, after, confirmed⟩
    exact ⟨after, _, u, form, _, filled, ⟨_, opened, noted, b, filled, fill, rfl⟩, confirmed⟩

theorem toForm_ok_iff {s t : Stage} :
    toForm s = .ok () t ↔ ∃ total u w, Stage.cartVerified s = .ok total u ∧
      approachForm total u.world = .ok () w ∧ t = { u with world := w } := by
  simp only [toForm, bind_ok_iff, Scene.walk_ok_iff]
  constructor
  · rintro ⟨total, u, stage, w, form, rfl⟩; exact ⟨total, u, w, stage, form, rfl⟩
  · rintro ⟨total, u, w, stage, form, rfl⟩; exact ⟨total, u, stage, w, form, rfl⟩

/-- The scenario passes when the form has been opened, filling it in has come to an end, whether
well or not, and then the confirmation is shown. -/
theorem paymentWorkflow_ok_iff {s : Stage} :
    (∃ after, paymentWorkflow s = .ok () after) ↔
      ∃ w b filled, FormOpened s w ∧ fillDetails w = .ok b filled ∧ Confirmed filled := by
  simp only [paymentWorkflow, bind_ok_iff, Scene.walk_ok_iff, Evidence.reporting_ok_iff]
  constructor
  · rintro ⟨_, total, u, stage, w, paid, _⟩
    obtain ⟨opened, b, filled, form, fill, confirmed⟩ := pay_ok_iff.1 ⟨w, paid⟩
    exact ⟨opened, b, filled, ⟨_, toForm_ok_iff.2 ⟨total, u, opened, stage, form, rfl⟩, rfl⟩,
      fill, confirmed⟩
  · rintro ⟨_, b, filled, ⟨_, run, rfl⟩, fill, confirmed⟩
    obtain ⟨total, u, opened, stage, form, rfl⟩ := toForm_ok_iff.1 run
    obtain ⟨w, paid⟩ := pay_ok_iff.2 ⟨opened, b, filled, form, fill, confirmed⟩
    exact ⟨_, total, u, stage, w, paid, rfl⟩

theorem FormOpened.unique {s : Stage} {v w : World} (first : FormOpened s v)
    (second : FormOpened s w) : v = w := by
  obtain ⟨t, run, rfl⟩ := first
  obtain ⟨u, again, rfl⟩ := second
  rw [run] at again
  cases again
  rfl

/-- A scenario that passes has submitted the form, but for the case that the form did not go through
on a page which had the url of the confirmation already. -/
theorem passed_submitted_iff (s : Stage) :
    ((∃ after, paymentWorkflow s = .ok () after) → Submitted s) ↔ ¬ ConfirmedUnsubmitted s := by
  rw [paymentWorkflow_ok_iff]
  constructor
  · rintro submits ⟨w, after, opened, stopped, _, fill, confirmed⟩
    obtain ⟨v, _, opened', filled, _⟩ := submits ⟨w, false, after, opened, fill, confirmed⟩
    obtain rfl := opened.unique opened'
    exact stopped (fillDetails_true_iff.1 ⟨_, filled⟩)
  · rintro none_unsubmitted ⟨w, b, filled, opened, fill, confirmed⟩
    by_cases through : GoesThrough w
    · obtain ⟨after, run, trace⟩ := fillDetails_of_goesThrough through
      exact ⟨w, after, opened, run, trace, through.leads⟩
    · obtain ⟨_, after, _, url, ⟨_, _, run⟩ | ⟨_, _, f, run⟩⟩ :=
        fillDetails_of_not_goesThrough through
      · rw [run] at fill
        cases fill
        have there : Check.UrlHas "confirmation" w.site := by
          have shown := confirmed.shown.url
          rw [Check.UrlHas, url] at shown
          exact shown
        exact absurd ⟨w, filled, opened, through, there, run, confirmed⟩ none_unsubmitted
      · rw [run] at fill
        cases fill

/-- A shop whose button for paying leads straight to the confirmation. Its form has an e-mail field
and nothing else. -/
def hastyShop : Site where
  title := "Checkout"
  onGoto := [.setUrl (baseUrl ++ "cart")]
  elements :=
    [(Selector.temperature, [.mk (some "20 ℃") true true [] []]),
     (Selector.heading, [.mk (some "Checkout") true true [] []]),
     (Selector.payButton,
       [.mk (some "Pay with Card") true true [] [.setUrl (baseUrl ++ "confirmation")]]),
     (Selector.paymentFrame, [.mk (some "") true true [] []]),
     (Selector.paymentSuccess, [.mk (some "PAYMENT SUCCESS") true true [] []])]
  frames := [(Selector.paymentFrame, [(Selector.email, [.mk (some "") true true [] []])])]

def hastyStage : Stage where
  world := { site := hastyShop }
  clock := Moment.first.clock
  opened := Moment.first

/-- In the hasty shop the scenario passes, and nothing is submitted. -/
theorem hasty_shop_passes_unsubmitted :
    (∃ after, paymentWorkflow hastyStage = .ok () after) ∧ ¬ Submitted hastyStage := by
  have passes : answer? (paymentWorkflow hastyStage) = some () := by decide +kernel
  have unfilled :
      answer? ((toForm >>= fun _ => Scene.walk fillDetails) hastyStage) = some false := by
    decide +kernel
  refine ⟨answer?_eq_some_iff.1 passes, ?_⟩
  rintro ⟨_, _, ⟨t, opened, rfl⟩, filled, _⟩
  obtain ⟨_, run⟩ := answer?_eq_some_iff.1 unfilled
  rw [bind_of_ok opened, Scene.walk_ok_iff] at run
  obtain ⟨_, unfilled, _⟩ := run
  rw [filled] at unfilled
  cases unfilled

end Scenario

end Shopwalk
