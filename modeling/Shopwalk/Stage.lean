import Shopwalk.Home
import Shopwalk.Logbook
import Shopwalk.Session

/-!
The stages of a run, each of which builds on the one before: the browser is opened once and stays
open, the others are gone through anew for every scenario.
-/

namespace Shopwalk

structure Stage where
  world : World := {}
  session : Session := {}
  /-- Whether the browser is open. -/
  isOpen : Bool := false
  /-- The browser that logs are kept for. -/
  browser : String := "chromium"
  /-- What the clock shows when logs are named. -/
  clock : Clock
  /-- When logs are opened. -/
  opened : Moment

abbrev Scene := EStateM Fault Stage

namespace Scene

/-- A walk leaves the session alone. -/
def walk {α : Type} (w : Walk α) : Scene α := fun s =>
  match w s.world with
  | .ok a world => .ok a { s with world }
  | .error f world => .error f { s with world }

/-- What the session holds now. -/
def sessionNow : Scene Session := return (← get).session

def modifySession (f : Session → Session) : Scene Unit :=
  modify fun s => { s with session := f s.session }

def note (level : Level) (text : String) : Scene Unit := walk (Walk.note level text)

def textOf (v : Value) : Scene String := walk (Walk.textOf v)

/-- As `Evidence.reporting`, for a scene. -/
def reporting {α : Type} (complaint name : String) (scene : Scene α) : Scene α :=
  tryCatch scene fun e => do
    walk (Evidence.keep complaint name e)
    throw e

end Scene

namespace Stage

open Scene

/-- Sets up the log and loads the home page. A home page that does not load is no failure yet. -/
def start (browser : String) (clock : Clock) (opened : Moment) : Walk Unit := do
  let file ← Walk.onDisk (Logbook.prepare clock browser false)
  let _ ← Walk.onDisk (Logbook.openForLines opened file)
  let opening := Logbook.openingEntry browser false
  Walk.note opening.level opening.text
  Walk.note .info
    s!"Starting test session with {browser} browser - all tests will execute sequentially"
  if !(← Home.load) then Walk.note .error "Failed to load home page in fixture"

/-- The browser, opened if it is not open yet. It counts as open only when nothing failed. -/
def browserReady : Scene Unit := do
  let s ← get
  if !s.isOpen then
    walk (start s.browser s.clock s.opened)
    modify fun s => { s with isOpen := true }

/-- Closes the browser if it is open. -/
def close : Scene Unit := do
  if (← get).isOpen then
    note .success "Test session completed"
    modify fun s => { s with isOpen := false }

def homeLoaded : Scene Unit := browserReady

/-- What was chosen: the product type and the temperature. -/
def productSelected : Scene (Value × Value) := do
  homeLoaded
  let s ← sessionNow
  let t ← textOf s.temperature
  let p ← textOf s.productType
  note .debug s!"Current session data: temperature={t}, product_type={p}"
  if s.temperature.isNone || s.productType.isNone then
    note .warning s!"Missing session data - temperature: {t}, product_type: {p}"
  return (s.productType, s.temperature)

/-- Warns when the cart is not open. -/
def warnUnlessCart : Scene Unit := do
  let url := (← get).world.site.url
  if !Text.contains url "/cart" then
    note .warning s!"Not on cart page as expected. Current URL: {url}"

/-- What was put in the cart: the product type and the names of the items. -/
def productsAdded : Scene (Value × Value) := do
  let (productType, _) ← productSelected
  note .info "products_added_to_cart fixture: Current session state:"
  let s ← sessionNow
  let t ← textOf s.temperature
  note .info s!"  Temperature: {t}"
  let p ← textOf s.productType
  note .info s!"  Product type: {p}"
  let items ← textOf s.addedItems
  note .info s!"  Added items: {items}"
  warnUnlessCart
  return (productType, s.addedItems)

/-- What is to be paid. -/
def cartVerified : Scene Value := do
  let _ ← productsAdded
  note .info "cart_contents_verified fixture: Current session state:"
  let s ← sessionNow
  let items ← textOf s.addedItems
  note .info s!"  Added items: {items}"
  let total ← textOf s.total
  note .info s!"  Total price: {total}"
  warnUnlessCart
  return s.total

end Stage

end Shopwalk
