import Shopwalk.Check
import Shopwalk.Evidence
import Shopwalk.Shop
import Shopwalk.Value.Order

/-!
The home page: it shows the temperature and leads to the products.
-/

namespace Shopwalk.Home

open Walk Browser Shop

/-- Goes to the home page, where the temperature has to be visible. -/
def arrive : Walk Bool := do
  note .info s!"Loading home page: {baseUrl}"
  goto baseUrl
  let _ ← Check.visible (Check.bySelector Selector.temperature) none
  note .success "Home page loaded successfully"
  return true

/-- Opens the home page; whether it worked. -/
def load : Walk Bool :=
  Evidence.recovering "Failed to load home page" "home_page_load_error" (fun _ => false) arrive

/-- The number read from the text of the temperature, if one could be read. A text without digits
reads as zero. -/
def reading (text : Option String) : Except Fault (Option Nat) :=
  some <$> numberOrZeroOf (textValue text)

/-- Reads the temperature, which has to be visible and to show digits. -/
def readTemperature : Walk Nat := do
  let place := Check.bySelector Selector.temperature
  let l ← Check.visible place none
  let _ ← Check.text place (.pattern Check.digits) false none
  let text ← textContent l
  match ← settle (reading text) with
  | some n =>
    note .info s!"Current temperature: {n}°C"
    return n
  | none =>
    note .error "Could not extract temperature value from text"
    Evidence.capture "temperature_extraction_error"
    throw (.temperatureUnread (textValue text).display)

/-- The temperature that the page shows. -/
def temperature : Walk Nat :=
  Evidence.reporting "Error getting temperature" "get_temperature_error" readTemperature

/-- Presses the button of a kind of products, which has to lead to their page. -/
def followButton (k : ProductKind) : Walk Bool := do
  note .info s!"Clicking Buy {k.plural} button"
  expectNavigation none (pageClick k.button)
  Check.navigation (.str k.urlPart) (.str k.heading) Selector.heading
  let url := (← site).url
  note .success s!"Successfully navigated to {k.plural} page: {url}"
  return true

/-- Goes to the products of a kind; whether it worked. -/
def goToProducts (k : ProductKind) : Walk Bool :=
  Evidence.recovering s!"Error navigating to {k.plural}" s!"buy_{k.plural}_error" (fun _ => false)
    (followButton k)

/-- As `goToProducts`, of any value; only the names of the kinds lead anywhere. -/
def goToProductsNamed (v : Value) : Walk Bool := do
  match Check.unhashable? v with
  | some k => throw (.unhashable k)
  | none =>
    match v with
    | .str s =>
      match ProductKind.ofName? s with
      | some k => goToProducts k
      | none =>
        note .error s!"Invalid product type: {s}"
        return false
    | v =>
      let words ← textOf v
      note .error s!"Invalid product type: {words}"
      return false

def buyMoisturizers : Walk Bool := goToProducts .moisturizer

def buySunscreens : Walk Bool := goToProducts .sunscreen

/-- Whether a value is below, or above, a whole number. -/
def isBelow (v : Value) (n : Int) : Except Fault Bool :=
  match v with
  | .float x => .ok (Decimal.isAbove n x)
  | v =>
    match v.int? with
    | some m => .ok (m < n)
    | none => .error (.notComparable "<" v.kindName "int")

def isAbove (v : Value) (n : Int) : Except Fault Bool :=
  match v with
  | .float x => .ok (Decimal.isBelow n x)
  | v =>
    match v.int? with
    | some m => .ok (n < m)
    | none => .error (.notComparable ">" v.kindName "int")

/-- Goes to the products for a temperature: moisturizers when it is cold, sunscreens when it is hot,
moisturizers in between. -/
def goByTemperature (temperature : Value) : Walk (ProductKind × Bool) := do
  let t ← textOf temperature
  note .info s!"Using provided temperature: {t}°C"
  if ← settle (isBelow temperature coldBelow) then
    note .info s!"Temperature {t}°C is below 19°C - choosing moisturizers"
    return (.moisturizer, ← buyMoisturizers)
  else if ← settle (isAbove temperature hotAbove) then
    note .info s!"Temperature {t}°C is above 34°C - choosing sunscreens"
    return (.sunscreen, ← buySunscreens)
  else
    note .info s!"Temperature {t}°C is between 19-34°C - defaulting to moisturizers"
    return (.moisturizer, ← buyMoisturizers)

/-- Chooses a kind of product by temperature and goes there; whether it worked. When anything goes
wrong, moisturizers count as chosen. -/
def chooseProducts (temperature : Value) : Walk (ProductKind × Bool) :=
  Evidence.recovering "Error during product selection" "product_selection_error"
    (fun _ => (.moisturizer, false)) (goByTemperature temperature)

end Shopwalk.Home
