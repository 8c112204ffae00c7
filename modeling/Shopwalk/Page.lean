import Shopwalk.Browser
import Shopwalk.Text

/-!
What can be done on any page, with the elements of a selector.
-/

namespace Shopwalk.Page

open Walk

def visit (url : String) : Walk Unit := Browser.goto url

def press (selector : String) : Walk Unit := Browser.click (.top selector)

/-- A text without the blanks at its ends; it has to be there. -/
def stripped : Option String → Except Fault String
  | some s => .ok (Text.strip s)
  | none => .error (.noMember "NoneType" "strip")

/-- The text of the one element of a locator, without the blanks at its ends. -/
def textAt (l : Locator) : Walk String := do settle (stripped (← Browser.textContent l))

def text (selector : String) : Walk String := textAt (.top selector)

def shows (selector : String) : Walk Bool := Browser.isVisible (.top selector)

end Shopwalk.Page
