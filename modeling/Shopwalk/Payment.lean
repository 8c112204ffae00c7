import Shopwalk.Check
import Shopwalk.Evidence
import Shopwalk.Shop

/-!
The payment form, which stands in a frame, and the confirmation that follows it.
-/

namespace Shopwalk.Payment

open Walk Browser Shop

/-- An element of the form has to be visible and enabled. -/
def ready (selector : String) (timeout : Option String) : Walk Locator := do
  let l ← Check.framed .visible (.frame Selector.paymentFrame) selector timeout
  let _ ← Check.framed .enabled (.frame Selector.paymentFrame) selector none
  return l

/-- Fills one field of the form. -/
def fillField (selector : String) (timeout : Option String) (label value : String) :
    Walk Unit := do
  let l ← ready selector timeout
  note .info s!"Filling {label} field"
  fill l value

/-- Fills the form field by field and submits it, which has to lead to another page. -/
def submitForm : Walk Bool := do
  waitForLoad "networkidle" none
  note .info "Locating payment frame..."
  let _ ← Check.visible (Check.bySelector Selector.paymentFrame) (some "10000")
  note .info "Successfully located payment frame"
  fillField Selector.email (some "5000") "email" Card.email
  fillField Selector.cardNumber none "card number" Card.number
  fillField Selector.expiry none "expiry date" (Card.expiryMonth ++ Card.expiryYear)
  fillField Selector.cvc none "CVC" Card.cvc
  note .info "Locating pay button..."
  let button ← ready Selector.submit none
  note .info "Ready to submit payment"
  expectNavigation (some "networkidle") do
    click button
    note .success "Payment submitted successfully"
  return true

/-- Fills the form and submits it; whether it worked. -/
def fillDetails : Walk Bool :=
  Evidence.recovering "Error during payment form filling" "fill_payment_details_error"
    (fun _ => false) submitForm

/-- The confirmation has to be at its url and to say that the payment was made. -/
def readConfirmation : Walk Bool := do
  let url := (← site).url
  note .info s!"Verifying payment success at URL: {url}"
  Check.url "confirmation" false
  let place := Check.bySelector Selector.paymentSuccess
  let _ ← Check.visible place (some "10000")
  let _ ← Check.text place (.str "PAYMENT SUCCESS") false none
  note .success "Payment completed successfully"
  return true

/-- Whether the confirmation of the payment is shown. -/
def verifySuccess : Walk Bool :=
  Evidence.recovering "Payment verification failed" "verify_payment_success_error"
    (fun _ => false) readConfirmation

end Shopwalk.Payment
