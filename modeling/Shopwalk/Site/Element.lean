import Shopwalk.Keyed

/-!
The elements of a scripted site and what pressing them does.

Selectors are opaque keys: a catalog says which elements a selector finds, and a selector that it
does not list finds none.
-/

namespace Shopwalk

mutual

/-- An element of a page. Its children are found by selectors of their own. -/
inductive Element where
  | mk (text : Option String) (visible enabled : Bool)
      (children : List (String × List Element)) (onClick : List Action)

/-- One scripted change of the site. -/
inductive Action where
  /-- Moves to a url; counts as a navigation. -/
  | setUrl (url : String)
  | setTitle (title : String)
  /-- Sets the text of every top-level element of the selector. -/
  | setText (selector : String) (text : Option String)
  /-- Counts one more item and shows the count on the elements of the selector. -/
  | bump (selector : String)
  | setElements (selector : String) (elements : List Element)
  | setFrame (selector : String) (elements : List (String × List Element))

end

/-- Elements by selector. -/
abbrev Catalog := List (String × List Element)

instance : Inhabited Element := ⟨.mk (some "") true true [] []⟩

instance : Inhabited Action := ⟨.setTitle ""⟩

namespace Element

def text : Element → Option String
  | mk t _ _ _ _ => t

def visible : Element → Bool
  | mk _ v _ _ _ => v

def enabled : Element → Bool
  | mk _ _ e _ _ => e

def children : Element → Catalog
  | mk _ _ _ c _ => c

def onClick : Element → List Action
  | mk _ _ _ _ a => a

def withText (e : Element) (t : Option String) : Element :=
  mk t e.visible e.enabled e.children e.onClick

@[simp] theorem text_withText (e : Element) (t : Option String) : (e.withText t).text = t := rfl

@[simp] theorem visible_withText (e : Element) (t : Option String) :
    (e.withText t).visible = e.visible := rfl

@[simp] theorem enabled_withText (e : Element) (t : Option String) :
    (e.withText t).enabled = e.enabled := rfl

@[simp] theorem children_withText (e : Element) (t : Option String) :
    (e.withText t).children = e.children := rfl

@[simp] theorem onClick_withText (e : Element) (t : Option String) :
    (e.withText t).onClick = e.onClick := rfl

end Element

namespace Catalog

/-- The elements of a selector. -/
def get (c : Catalog) (selector : String) : List Element := (Keyed.find? c selector).getD []

/-- Replaces the elements of a selector. -/
def set (c : Catalog) (selector : String) (elements : List Element) : Catalog :=
  Keyed.insert c selector elements

@[simp] theorem get_set (c : Catalog) (selector s : String) (elements : List Element) :
    (c.set selector elements).get s = if selector = s then elements else c.get s := by
  simp only [get, set, Keyed.find?_insert]
  split <;> simp

/-- Sets the text of the elements of a selector. -/
def setText (c : Catalog) (selector : String) (text : Option String) : Catalog :=
  match Keyed.find? c selector with
  | none => c
  | some es => c.set selector (es.map (·.withText text))

@[simp] theorem get_setText (c : Catalog) (selector s : String) (text : Option String) :
    (c.setText selector text).get s =
      if selector = s then (c.get s).map (·.withText text) else c.get s := by
  unfold setText
  cases h : Keyed.find? c selector with
  | none =>
    by_cases hs : selector = s
    · subst hs; simp [get, h]
    · simp [hs]
  | some es =>
    by_cases hs : selector = s
    · subst hs; simp [get, h, set, Keyed.find?_insert]
    · simp [hs]

end Catalog

end Shopwalk
