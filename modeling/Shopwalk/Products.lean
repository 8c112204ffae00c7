import Shopwalk.Check
import Shopwalk.Evidence
import Shopwalk.Page
import Shopwalk.Shop
import Shopwalk.Text.Lowercase

/-!
The product page: the products on offer, the cheapest one that meets a criterion, and the cart.
-/

namespace Shopwalk

structure Product where
  name : String
  price : Nat
  addButton : Locator
  deriving DecidableEq, Repr

namespace Products

open Walk Browser Shop

/-- The product in one container, which has to be complete. -/
def readContainer (container : Locator) : Walk Product := do
  let nameAt := container.inside Selector.productName
  let priceAt := container.inside Selector.productPrice
  let buttonAt := container.inside Selector.addButton
  let _ ← Check.visible (Check.byLocator nameAt) none
  let _ ← Check.visible (Check.byLocator priceAt) none
  let _ ← Check.visible (Check.byLocator buttonAt) none
  let name ← Page.textAt nameAt
  let priceText ← Page.textAt priceAt
  let price ← settle (numberOrZero priceText)
  return ⟨name, price, buttonAt⟩

/-- The complete products among containers; `k` numbers the first of them. -/
def readContainers : Nat → List Locator → Walk (List Product)
  | _, [] => return []
  | k, container :: rest => do
    match ← attempt (readContainer container) with
    | .ok p =>
      note .debug s!"Product {k}: {p.name}, ${p.price}"
      return p :: (← readContainers (k + 1) rest)
    | .error e =>
      note .warning s!"Skipping incomplete product {k}: {e.message}"
      readContainers (k + 1) rest

/-- Reads all containers, of which there has to be one. -/
def readPage : Walk (List Product) := do
  let url := (← site).url
  note .info s!"Loading products from: {url}"
  let found ← Check.leastCount Selector.containers (.int 1)
  note .info s!"Verified {found.length} product containers on page"
  waitForLoad "networkidle" (some "5000")
  let containers ← all (.top Selector.containers)
  let products ← readContainers 1 containers
  note .info s!"Successfully extracted {products.length} complete products"
  return products

/-- All complete products, in page order. -/
def list : Walk (List Product) :=
  Evidence.reporting "Error loading products" "get_all_products_error" readPage

/-- The count on the cart button; zero if it shows none. -/
def cartCount (text : Option String) : Except Fault Nat := do
  return (← countOf? (textValue text)).getD 0

/-- Clicks on a value, which has to be a locator. -/
def clickOn : Value → Walk Unit
  | .locator l => click l
  | v => throw (.noMember v.kindName "click")

/-- Presses an add button between two looks at the cart button; whether the count went up. -/
def pressAdd (button : Value) : Walk Bool := do
  let cart := Locator.top Selector.cartButton
  let before ← settle (cartCount (← textContent cart))
  note .info s!"Current cart count: {before}. Adding new item..."
  clickOn button
  note .debug "Verifying cart indicator update"
  let _ ← Check.text (Check.byLocator cart) (.pattern Check.digits) false (some "5000")
  let after ← settle (cartCount (← textContent cart))
  if before < after then
    note .success s!"Product successfully added to cart. Count: {before} → {after}"
    return true
  else
    note .warning s!"Cart indicator did not increase as expected: {before} → {after}"
    return false

/-- Adds a product by its add button; whether the cart button says so. -/
def addToCart (button : Value) : Walk Bool :=
  Evidence.recovering "Error adding product to cart" "add_to_cart_error" (fun _ => false)
    (pressAdd button)

/-- Whether a name contains a criterion when case is ignored. -/
def meets (criterion : String) (p : Product) : Bool :=
  Text.occursIn (Text.lowered criterion.toList) (Text.lowered p.name.toList)

/-- The first of the cheapest products. -/
def cheapest : List Product → Option Product
  | [] => none
  | p :: ps => some (ps.foldl (fun best q => if q.price < best.price then q else best) p)

/-- The products that meet a criterion; a criterion that is no text is noticed when there is a
product to compare it with. -/
def meeting (criterion : Value) (products : List Product) : Except Fault (List Product) :=
  match criterion, products with
  | .str c, ps => .ok (ps.filter (meets c))
  | _, [] => .ok []
  | v, _ => .error (.noMember v.kindName "lower")

/-- The cheapest product that meets a criterion. -/
def findCheapest (criterion criterionKind : Value) : Walk Product := do
  let products ← list
  let words ← textOf criterion
  let kind ← textOf criterionKind
  note .info s!"Looking for products with {kind}={words}"
  note .info s!"Found {products.length} total products"
  let suitable ← settle (meeting criterion products)
  note .info s!"Found {suitable.length} products with {words} ({kind})"
  match cheapest suitable with
  | none =>
    note .error s!"No products found matching {kind}={words}"
    throw (.noProduct kind words)
  | some p =>
    note .info s!"Selected: {p.name}, Price: {p.price}"
    return p

/-- Adds the cheapest product that meets a criterion. -/
def addCheapest (criterion criterionKind : String) : Walk String := do
  let p ← findCheapest (.str criterion) (.str criterionKind)
  let _ ← addToCart (.locator p.addButton)
  note .info s!"Added {criterion} product: {p.name}"
  return p.name

/-- Adds the two products of a kind that are to be bought, and returns their names. -/
def addPair (k : ProductKind) : Walk (String × String) := do
  note .info s!"Adding {k.plural} to cart: looking for {k.criteria.1} and {k.criteria.2} products"
  let first ← addCheapest k.criteria.1 k.criterionKind
  let second ← addCheapest k.criteria.2 k.criterionKind
  return (first, second)

def addMoisturizers : Walk (String × String) := addPair .moisturizer

def addSunscreens : Walk (String × String) := addPair .sunscreen

/-- The pattern that finds the cart in a url. -/
def cartUrl : Pattern :=
  ⟨".*cart.*", { ignoreCase := true },
    .ofList ([anything] ++ "cart".toList.map (fun c => .lit c.toNat) ++ [anything])⟩
where
  anything : Pattern.Node := .rep .greedy 0 none .any

/-- Presses the cart button, which has to lead to the cart. -/
def openCart : Walk Unit := do
  note .info "Navigating to cart page"
  expectNavigation none (pageClick Selector.cartButton)
  expectPage .url (.pattern cartUrl)
  expectText .contain (.top Selector.heading) (.text "Checkout") none
  let url := (← site).url
  note .info s!"Successfully navigated to cart page: {url}"

/-- Goes to the cart. A picture is taken when that fails. -/
def goToCart : Walk Unit :=
  tryCatch openCart fun e => do
    note .error s!"Error navigating to cart page: {e.message}"
    screenshot "cart_navigation_error.png"
    throw e

end Products

end Shopwalk
