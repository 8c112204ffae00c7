/-!
What is fixed about the shop: its address, what it sells, where things stand on its pages, and the
card that walks pay with.
-/

namespace Shopwalk.Shop

def baseUrl : String := "https://weathershopper.pythonanywhere.com/"

/-- How long the browser waits, in milliseconds. -/
def patience : Nat := 30000

/-- The two kinds of products. -/
inductive ProductKind where
  | moisturizer
  | sunscreen
  deriving DecidableEq, Repr

namespace ProductKind

def name : ProductKind → String
  | moisturizer => "moisturizer"
  | sunscreen => "sunscreen"

def ofName? (s : String) : Option ProductKind :=
  if s = "moisturizer" then some moisturizer
  else if s = "sunscreen" then some sunscreen
  else none

/-- The part of the url that tells the page of this kind. -/
def urlPart : ProductKind → String := name

def heading : ProductKind → String
  | moisturizer => "Moisturizers"
  | sunscreen => "Sunscreens"

def plural : ProductKind → String
  | moisturizer => "moisturizers"
  | sunscreen => "sunscreens"

/-- The button of the home page that leads to the products of this kind. -/
def button : ProductKind → String
  | moisturizer => "button:has-text('Buy moisturizers')"
  | sunscreen => "button:has-text('Buy sunscreens')"

/-- What the two products to buy are called, in the order in which they are bought. -/
def criteria : ProductKind → String × String
  | moisturizer => ("Aloe", "Almond")
  | sunscreen => ("SPF-50", "SPF-30")

/-- What the criteria are about. -/
def criterionKind : ProductKind → String
  | moisturizer => "ingredient"
  | sunscreen => "spf"

@[simp] theorem ofName?_name (k : ProductKind) : ofName? k.name = some k := by
  cases k <;> rfl

end ProductKind

/-- Moisturizers are for temperatures below this one. -/
def coldBelow : Int := 19

/-- Sunscreens are for temperatures above this one. -/
def hotAbove : Int := 34

namespace Selector

def temperature : String := "#temperature"

def heading : String := "h2"

def cart : String := "#cart"

def cartButton : String := "button.thin-text.nav-link"

def containers : String := ".container .row .text-center.col-4"

def productName : String := "p.font-weight-bold"

def productPrice : String := "p:has-text('Price:')"

def addButton : String := "button.btn.btn-primary"

def cartTable : String := "table.table"

def cartRows : String := "table.table-striped tbody tr"

def itemName : String := "td:nth-child(1)"

def itemPrice : String := "td:nth-child(2)"

def total : String := "#total"

def payButton : String := "button.stripe-button-el"

def paymentFrame : String := "iframe[name='stripe_checkout_app']"

def email : String := "input[type='email']"

def cardNumber : String := "input[placeholder='Card number']"

def expiry : String := "input[placeholder='MM / YY']"

def cvc : String := "input[placeholder='CVC']"

def zip : String := "input[placeholder='ZIP Code']"

def submit : String := "button[type='submit']"

def paymentSuccess : String := "h2:has-text('PAYMENT SUCCESS')"

end Selector

namespace Card

def email : String := "test@example.com"

def number : String := "4242424242424242"

def expiryMonth : String := "12"

def expiryYear : String := "25"

def cvc : String := "123"

def zip : String := "12345"

end Card

end Shopwalk.Shop
