import Shopwalk.Cart
import Shopwalk.Payment
import Shopwalk.Products
import Shopwalk.Stage

/-!
The five scenarios of a shopping trip. They run one after the other and hand on what they found in
the session.
-/

namespace Shopwalk.Scenario

open Scene Shop

/-- The home page shows a temperature. -/
def homePageLoads : Scene Unit := do
  Stage.browserReady
  walk (Check.title (.str "Current Temperature") false)
  let t ← walk Home.temperature
  modifySession fun s => { s with temperature := .int t }
  note .info s!"Stored temperature {t}°C in session data for reuse"
  note .success s!"Test 1: Successfully loaded home page and found temperature: {t}°C"

/-- The heading that is expected on the page of a product type. -/
def headingOf (productType : String) : String :=
  if productType = "moisturizer" then "Moisturizers" else "Sunscreens"

/-- The temperature decides which products are looked at. When their page cannot be reached,
evidence is to be taken of a page that has not been named yet, and that is the fault reported. -/
def productSelection : Scene Unit := do
  Stage.homeLoaded
  let temperature := (← sessionNow).temperature
  let t ← textOf temperature
  note .info s!"Using temperature from session_data: {t}°C"
  let (kind, reached) ← walk (Home.chooseProducts temperature)
  if reached then
    note .info s!"Selected product type: {kind.name}"
    modifySession fun s => { s with productType := .str kind.name }
    walk (Check.navigation (.str kind.name) (.str (headingOf kind.name)) Selector.heading)
    note .success s!"Test 2: Selected {kind.name} based on temperature {t}°C"
  else
    note .error s!"Failed to navigate to {kind.name} page"
    throw (.unassigned "page")

/-- The kind of products to add: moisturizers by name, sunscreens otherwise. -/
def kindToAdd : Value → ProductKind
  | .str s => if s = ProductKind.moisturizer.name then .moisturizer else .sunscreen
  | _ => .sunscreen

/-- A picture and the content of the page, named after the product type. -/
def keepPage (productType : Value) : Walk Unit := do
  let words ← Walk.textOf productType
  Browser.screenshot s!"error_test3_{words}.png"
  Evidence.saveContent s!"error_test3_{words}.html"

/-- Puts two products in the cart and opens it, on the page of a product type. -/
def fillCart (productType : Value) : Scene Unit := do
  walk (Check.urlOf productType (.bool false))
  let (first, second) ← walk (Products.addPair (kindToAdd productType))
  let added := Value.tuple [.str first, .str second]
  note .info s!"Added items to cart: {added.display}"
  modifySession fun s => { s with addedItems := added }
  let _ ← walk (Check.cartNotEmpty Selector.cart)
  walk Products.goToCart
  walk (Check.url "cart" false)
  walk (Check.heading (.str "Checkout") Selector.heading)
  let words ← textOf productType
  note .success s!"Test 3: Successfully added 2 {words} products to cart"

/-- Two products are put in the cart, and the cart is opened. -/
def addProducts : Scene Unit := do
  let (productType, _) ← Stage.productSelected
  tryCatch (fillCart productType) fun e => do
    note .error s!"Error adding products to cart: {e.message}"
    walk (keepPage productType)
    throw e

/-- The total has to be right and not zero; it is stored. -/
def storePrice : Scene Unit := do
  let total ← walk Cart.verifyTotal
  if total = 0 then
    note .error "Could not determine total price"
    walk (Evidence.capture "test_04_cart_verification_price_verification")
    throw .noTotal
  else
    modifySession fun s => { s with totalPrice := some (.int total) }
    note .success s!"Test 4: Verified cart contents and total price: {total}"

/-- Checks and stores the total. -/
def verifyPrice : Scene Unit :=
  Scene.reporting "Error verifying total price" "test_04_cart_verification_price_calculation"
    storePrice

/-- The items to look for in the cart: the stored ones, or else the ones handed on by the stage. -/
def expectedItems (productType added : Value) : Scene Value := do
  let stored := (← sessionNow).addedItems
  let p ← textOf productType
  let words ← textOf stored
  note .info s!"Verifying cart items for {p} products: {words}"
  if stored.truthy then return stored
  else
    note .warning "No items in session data to verify in cart"
    let others ← textOf added
    note .info s!"Using items from fixture instead: {others}"
    return added

/-- The cart has to be open, to hold the items and to show the right total. -/
def verifyCart (productType added : Value) : Scene Unit := do
  walk (Check.navigation (.str "cart") (.str "Checkout") Selector.heading)
  let _ ← walk (Check.enabled Selector.payButton)
  let expected ← expectedItems productType added
  if ← walk (Cart.verifyItems expected) then verifyPrice
  else
    note .error "Cart verification failed: Missing expected items"
    walk (Evidence.capture "test_04_cart_verification_items_verification")
    throw .itemsMissing

/-- The cart holds what was added, and its total is right. -/
def cartVerification : Scene Unit := do
  let (productType, added) ← Stage.productsAdded
  Scene.reporting "Error during cart verification" "test_04_cart_verification_error"
    (verifyCart productType added)

/-- Fills the form. How that went is not looked at here. -/
def fillForm : Walk Unit := do
  Walk.note .info "Filling payment details"
  let _ ← Payment.fillDetails

/-- The confirmation has to be shown. -/
def confirm : Walk Unit := do
  if ← Payment.verifySuccess then
    Walk.note .success "Test 5: Successfully completed payment workflow"
  else throw .paymentUnverified

/-- The payment, from the cart to the confirmation. -/
def pay (total : Value) : Walk Unit := do
  Check.navigation (.str "cart") (.str "Checkout") Selector.heading
  let words ← Walk.textOf total
  Walk.note .info s!"Proceeding to payment with total price: {words}"
  let _ ← Check.enabled Selector.payButton
  let (opened, text) ← Cart.proceedToPayment
  if !opened then
    Walk.note .error text
    Evidence.capture "test_05_payment_workflow_payment_navigation"
    throw (.paymentNotOpened text)
  Walk.note .info "Payment form opened successfully"
  Evidence.reporting "Payment form fill error" "test_05_payment_workflow_payment_form" fillForm
  Evidence.reporting "Payment success verification error"
    "test_05_payment_workflow_success_verification" confirm

/-- The cart is paid for. -/
def paymentWorkflow : Scene Unit := do
  let total ← Stage.cartVerified
  walk (Evidence.reporting "Error during payment workflow" "test_05_payment_workflow_error"
    (pay total))

end Shopwalk.Scenario
