import Shopwalk.Site.Element
import Shopwalk.Site.Locator

/-!
A scripted site: what the open page shows, and what changes it.
-/

namespace Shopwalk

/-- The open page of a scripted site. -/
structure Site where
  url : String := "about:blank"
  title : String := ""
  content : String := "<html></html>"
  elements : Catalog := []
  frames : List (String × Catalog) := []
  /-- What happens after every visit by url. -/
  onGoto : List Action := []
  /-- How many items have been counted by `Action.bump`. -/
  bumps : Nat := 0
  /-- How many navigations have happened. -/
  navigations : Nat := 0

namespace Site

/-- The label of a cart that holds `n` items. -/
def cartLabel (n : Nat) : String := "Cart - " ++ Nat.repr n ++ " item(s)"

def act (s : Site) : Action → Site
  | .setUrl url => { s with url, navigations := s.navigations + 1 }
  | .setTitle title => { s with title }
  | .setText selector text => { s with elements := s.elements.setText selector text }
  | .bump selector =>
    { s with bumps := s.bumps + 1,
             elements := s.elements.setText selector (some (cartLabel (s.bumps + 1))) }
  | .setElements selector es => { s with elements := s.elements.set selector es }
  | .setFrame selector c => { s with frames := Keyed.insert s.frames selector c }

def actAll (s : Site) (actions : List Action) : Site := actions.foldl act s

/-- Opens a url and runs what the site does then. -/
def visit (s : Site) (url : String) : Site :=
  { s with url, navigations := s.navigations + 1 }.actAll s.onGoto

/-- The elements that a locator finds now, in page order. -/
def resolve (s : Site) : Locator → List Element
  | .top selector => s.elements.get selector
  | .inside base selector => (s.resolve base).flatMap fun e => Catalog.get e.children selector
  | .nth base i => if 0 ≤ i then ((s.resolve base)[i.toNat]?).toList else []
  | .framed frame selector => Catalog.get ((Keyed.find? s.frames frame).getD []) selector

end Site

end Shopwalk
