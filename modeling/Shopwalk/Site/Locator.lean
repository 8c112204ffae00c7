/-!
Locators: descriptions of where elements are, looked up anew each time they are used.
-/

namespace Shopwalk

inductive Locator where
  | top (selector : String)
  /-- The elements of `selector` inside each element of `base`. -/
  | inside (base : Locator) (selector : String)
  /-- The element of `base` with that position, counted from zero. -/
  | nth (base : Locator) (index : Int)
  /-- The elements of `selector` inside a frame. -/
  | framed (frame selector : String)
  deriving DecidableEq, Repr

namespace Locator

/-- The locator as one text, the steps joined in order. -/
def selector : Locator → String
  | top s => s
  | inside base s => base.selector ++ " >> " ++ s
  | nth base i => base.selector ++ " >> nth=" ++ toString i
  | framed f s => f ++ " >> control=enter-frame >> " ++ s

/-- How a locator is shown in messages. -/
def text (l : Locator) : String := "<Locator selector='" ++ l.selector ++ "'>"

end Locator

end Shopwalk
