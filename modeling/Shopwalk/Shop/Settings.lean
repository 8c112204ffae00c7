import Shopwalk.Fault
import Shopwalk.Keyed
import Shopwalk.Shop
import Shopwalk.Value

/-!
The shop's constants by the names under which they can be asked for.
-/

namespace Shopwalk.Shop

open Value

def browserOptions : Value :=
  let shown : Value := dict [("headless", bool false)]
  dict [("chrome", shown), ("firefox", shown), ("webkit", shown)]

def productEntry (k : ProductKind) (button : String) : Value :=
  dict [("url_part", str k.urlPart), ("heading", str k.heading), ("log_name", str k.plural),
    ("button_name", str button)]

def productMap : Value :=
  dict [("moisturizer", productEntry .moisturizer "BUY_MOISTURIZERS"),
    ("sunscreen", productEntry .sunscreen "BUY_SUNSCREENS")]

def payment : Value :=
  dict [("email", str Card.email), ("card_number", str Card.number),
    ("expiry_month", str Card.expiryMonth), ("expiry_year", str Card.expiryYear),
    ("cvc", str Card.cvc), ("zip", str Card.zip)]

/-- Groups of constants. -/
def settings : List (String × List (String × Value)) := [
  ("Config", [
    ("BASE_URL", str baseUrl), ("TIMEOUT", int patience), ("BROWSER_OPTIONS", browserOptions),
    ("PRODUCT_MAP", productMap), ("PAYMENT", payment)]),
  ("HomePageLocators", [
    ("TEMPERATURE", str Selector.temperature),
    ("BUY_MOISTURIZERS", str ProductKind.moisturizer.button),
    ("BUY_SUNSCREENS", str ProductKind.sunscreen.button)]),
  ("ProductPageLocators", [
    ("CART_BUTTON", str Selector.cartButton), ("PRODUCT_CONTAINERS", str Selector.containers),
    ("PRODUCT_NAME", str Selector.productName), ("PRODUCT_PRICE", str Selector.productPrice),
    ("ADD_BUTTON", str Selector.addButton)]),
  ("CartPageLocators", [
    ("CART_TABLE", str Selector.cartTable), ("CART_ITEMS", str Selector.cartRows),
    ("CART_ITEM_NAME", str Selector.itemName), ("CART_ITEM_PRICE", str Selector.itemPrice),
    ("CART_TOTAL", str Selector.total), ("PAY_BUTTON", str Selector.payButton)]),
  ("PaymentPageLocators", [
    ("PAYMENT_FRAME", str Selector.paymentFrame), ("EMAIL_FIELD", str Selector.email),
    ("CARD_NUMBER_FIELD", str Selector.cardNumber), ("EXPIRY_FIELD", str Selector.expiry),
    ("CVC_FIELD", str Selector.cvc), ("ZIP_FIELD", str Selector.zip),
    ("PAY_BUTTON", str Selector.submit),
    ("PAYMENT_SUCCESS_MESSAGE", str Selector.paymentSuccess)])]

/-- The constant `name` of a group. -/
def setting (group name : String) : Except Fault Value :=
  match (Keyed.find? settings group).bind (Keyed.find? · name) with
  | some v => .ok v
  | .none => .error (.noConstant group name)

end Shopwalk.Shop
