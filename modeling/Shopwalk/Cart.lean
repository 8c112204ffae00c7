import Shopwalk.Check
import Shopwalk.Evidence
import Shopwalk.Shop
import Shopwalk.Shop.Name
import Shopwalk.Shop.Total

/-!
The cart page: its rows, the check that expected items are in it, the check of its total, and the
way to the payment form.
-/

namespace Shopwalk

structure CartItem where
  name : Option String
  price : Nat
  deriving DecidableEq, Repr

namespace Cart

open Walk Browser Shop

/-- The item in one row. The name may be missing, the price text may not. -/
def readRow (row : Locator) : Walk CartItem := do
  let name ← textContent (row.inside Selector.itemName)
  let priceText ← textContent (row.inside Selector.itemPrice)
  let price ← settle (numberOrZeroOf (textValue priceText))
  return ⟨name, price⟩

/-- The readable rows from row `i` on. A row that cannot be read is logged and left out. -/
def readRows : Nat → List Locator → Walk (List CartItem)
  | _, [] => return []
  | i, row :: rest => do
    match ← attempt (readRow row) with
    | .ok item =>
      let words := (textValue item.name).display
      note .debug s!"Cart item {i + 1}: {words} = {item.price}"
      return item :: (← readRows (i + 1) rest)
    | .error e =>
      note .error s!"Error processing cart row {i}: {e.message}"
      readRows (i + 1) rest

/-- Reads all rows of the table, which has to be visible. -/
def readTable : Walk (List CartItem) := do
  let _ ← Check.visible (Check.bySelector Selector.cartTable) none
  let rows := Locator.top Selector.cartRows
  let n ← count rows
  if n = 0 then
    note .warning "No items found in cart"
    return []
  else
    note .info s!"Found {n} items in cart"
    readRows 0 (positions rows n)

/-- The items in the cart, in row order. -/
def items : Walk (List CartItem) :=
  Evidence.reporting "Failed to get cart items" "get_cart_items_error" readTable

/-- Whether an item is in the cart: its normalised name stands in a normalised name there. -/
def hasItem (names : List String) (expected : String) : Bool :=
  names.any fun n => Text.contains n expected

/-- Compares expected items with the normalised names in the cart, in order; the ones without a
match are returned. -/
def unmatched (names : List String) : List Value → Walk (List Value)
  | [] => return []
  | item :: rest => do
    let expected ← settle (normalizedNameOf item)
    let words ← textOf item
    if hasItem names expected then
      note .info s!"✓ Found match for: {words}"
      unmatched names rest
    else
      note .error s!"❌ Failed to find match for: {words}"
      return item :: (← unmatched names rest)

/-- Compares expected items with the names in the cart, which have to be there. -/
def compareNames (expected : Value) (names : List Value) : Walk Bool := do
  note .info "Verifying cart items"
  let words ← textOf expected
  note .info s!"Expected items: {words}"
  let actual := (Value.list names).display
  note .info s!"Actual items in cart: {actual}"
  let normal ← settle (names.mapM normalizedNameOf)
  let failed ← unmatched normal (← settle expected.items)
  if failed.isEmpty then
    note .success "Successfully verified all items in cart"
    return true
  else
    let missing ← textOf (.list failed)
    note .error s!"Failed to verify the following items: {missing}"
    Evidence.capture "cart_verification_error"
    return false

/-- Compares expected items, if there are any, with the items in the cart. -/
def compareItems (expected : Value) : Walk Bool := do
  if !expected.truthy then
    note .warning "No expected items provided for verification"
    return true
  else
    let found ← items
    if found.isEmpty then
      note .error "Cart is empty but expected items were provided"
      Evidence.capture "empty_cart_error"
      return false
    else compareNames expected (found.map fun item => textValue item.name)

/-- Whether all expected items are in the cart. To expect nothing is always met. -/
def verifyItems (expected : Value) : Walk Bool :=
  Evidence.recovering "Error during cart verification" "cart_verification_exception"
    (fun _ => false) (compareItems expected)

/-- The total that the page shows. -/
def displayedTotal : Walk Nat := do
  note .info "Extracting displayed total from cart page UI"
  let total := Locator.top Selector.total
  let _ ← Check.visible (Check.byLocator total) none
  let text := textValue (← textContent total)
  note .debug s!"Raw total text from UI: {text.display}"
  let n ← Check.number text
  note .debug s!"Extracted total: {n}"
  return n

/-- The sum of the prices. -/
def totalPrice : List CartItem → Nat
  | [] => 0
  | item :: rest => item.price + totalPrice rest

/-- The total shown has to be the sum of the prices; it is returned. -/
def verifyTotal : Walk Nat := do
  note .info "Verifying cart total price"
  let found ← items
  let displayed ← displayedTotal
  let calculated := totalPrice found
  if displayed = calculated then
    note .success s!"Cart total verified: {displayed}"
    return displayed
  else
    let d ← textOf (.int displayed)
    let c ← textOf (.int calculated)
    note .error s!"Total price mismatch: displayed {d} vs calculated {c}"
    throw (.totalMismatch d c)

/-- Presses the pay button, which has to open the payment form. -/
def openPayment : Walk (Bool × String) := do
  let button ← Check.enabled Selector.payButton
  note .info "Clicking Pay with Card button"
  click button
  note .info "Waiting for payment form iframe to load"
  let _ ← Check.visible (Check.bySelector Selector.paymentFrame) none
  let _ ← Check.framed .visible (.frame Selector.paymentFrame) Selector.email (some "10000")
  note .info "Successfully loaded payment form"
  return (true, "Payment form loaded successfully")

/-- Opens the payment form; whether it worked, and a message. -/
def proceedToPayment : Walk (Bool × String) :=
  Evidence.recovering "Failed to proceed to payment" "payment_navigation_error"
    (fun e => (false, s!"Failed to proceed to payment: {e.message}")) openPayment

end Cart

end Shopwalk
