import Shopwalk.Pattern.Possessive
import Shopwalk.Text
import Shopwalk.Value.Order
import Shopwalk.World

/-!
The calls of the browser: each is an event of the trace, may fail by a rule, and only then looks at
the site or changes it.
-/

namespace Shopwalk.Browser

open Walk

/-- The one element of a locator. -/
def single (l : Locator) : Walk Element := do
  match (← site).resolve l with
  | [] => throw .timeout
  | [e] => return e
  | es => throw (.ambiguous l.selector es.length)

def goto (url : String) : Walk Unit := do
  perform (.goto url)
  modifySite (·.visit url)

def title : Walk String := do
  perform .title
  return (← site).title

def content : Walk String := do
  perform .content
  return (← site).content

/-- Pictures are not kept. -/
def screenshot (path : String) : Walk Unit := perform (.screenshot path)

def waitForLoad (state : String) (timeout : Option String) : Walk Unit :=
  perform (.waitForLoad state timeout)

/-- Runs a walk that has to bring about a navigation. -/
def expectNavigation {α : Type} (waitUntil : Option String) (walk : Walk α) : Walk α := do
  perform (.expectNavigation waitUntil)
  let before := (← site).navigations
  let a ← walk
  if (← site).navigations = before then throw .timeout else return a

/-- Presses the one element of a locator, which must be visible and enabled. -/
def press (l : Locator) : Walk Unit := do
  let e ← single l
  if e.visible && e.enabled then modifySite (·.actAll e.onClick) else throw .timeout

def pageClick (selector : String) : Walk Unit := do
  perform (.pageClick selector)
  press (.top selector)

def click (l : Locator) : Walk Unit := do
  perform (.click l.selector)
  press l

/-- What is typed into a field shows nowhere else. -/
def fill (l : Locator) (value : String) : Walk Unit := do
  perform (.fill l.selector value)
  let _ ← single l

def textContent (l : Locator) : Walk (Option String) := do
  perform (.textContent l.selector)
  return (← single l).text

def isVisible (l : Locator) : Walk Bool := do
  perform (.isVisible l.selector)
  if ((← site).resolve l).isEmpty then return false else return (← single l).visible

def count (l : Locator) : Walk Nat := do
  perform (.count l.selector)
  return ((← site).resolve l).length

/-- Positions of a locator's elements, one locator each. -/
def positions (l : Locator) (n : Nat) : List Locator :=
  (List.range n).map fun i => .nth l (Int.ofNat i)

def all (l : Locator) : Walk (List Locator) := do
  perform (.all l.selector)
  return positions l ((← site).resolve l).length

/-- What a text is compared with. -/
inductive Expected where
  | text (s : String)
  | pattern (p : Pattern)
  /-- Neither a text nor a pattern. -/
  | other (v : Value)

namespace Expected

def ofValue : Value → Expected
  | .str s => text s
  | .pattern p => pattern p
  | v => other v

/-- A text between quotes, a pattern between slashes. -/
def shown : Expected → String
  | text s => "'" ++ s ++ "'"
  | pattern p => "/" ++ p.source ++ "/" ++ (if p.flags.ignoreCase then "i" else "")
  | other v => "'" ++ v.display ++ "'"

def equals : Expected → String → Bool
  | text s, t => t == s
  | pattern p, t => p.found t
  | other _, _ => false

def occursIn : Expected → String → Except Fault Bool
  | text s, t => .ok (Text.contains t s)
  | pattern p, t => .ok (p.found t)
  | other v, _ => .error (.notContainable v.kindName)

end Expected

/-- What a relation between a text and what is expected of it says. -/
def relates (r : Fault.Relation) (e : Expected) (t : String) : Except Fault Bool :=
  match r with
  | .contain => e.occursIn t
  | .equal => .ok (e.equals t)
  | .notContain => (! ·) <$> e.occursIn t

def field (s : Site) : Fault.PageField → String
  | .url => s.url
  | .title => s.title

def expectPage (f : Fault.PageField) (e : Expected) : Walk Unit := do
  perform (.expectPage f e.shown)
  let actual := field (← site) f
  if e.equals actual then return () else throw (.unmetPage f e.shown actual)

def has (e : Element) : Fault.Quality → Bool
  | .visible => e.visible
  | .enabled => e.enabled

/-- Expects that a locator finds one element, and that it is visible or enabled. -/
def expectQuality (q : Fault.Quality) (l : Locator) (timeout : Option String) : Walk Unit := do
  perform (.expectQuality q l.selector timeout)
  match (← site).resolve l with
  | [] => throw (.unmetQuality q)
  | [e] => if has e q then return () else throw (.unmetQuality q)
  | es => throw (.ambiguous l.selector es.length)

/-- Expects something of the text of the one element of a locator; no text counts as empty. -/
def expectText (r : Fault.Relation) (l : Locator) (e : Expected) (timeout : Option String) :
    Walk Unit := do
  perform (.expectText r l.selector e.shown timeout)
  match (← site).resolve l with
  | [] => throw (.unmetText r e.shown none)
  | [element] =>
    let actual := element.text.getD ""
    if ← settle (relates r e actual) then return ()
    else throw (.unmetText r e.shown (some actual))
  | es => throw (.ambiguous l.selector es.length)

def expectCount (l : Locator) (expected : Value) : Walk Unit := do
  let shown ← textOf expected
  perform (.expectCount l.selector shown)
  let n := ((← site).resolve l).length
  if expected.same (.int n) then return () else throw (.unmetCount shown n)

end Shopwalk.Browser
