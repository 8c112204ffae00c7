import Shopwalk.Browser
import Shopwalk.Pattern.Parse
import Shopwalk.Shop
import Shopwalk.Shop.Number
import Shopwalk.Value.Order

/-!
Checks: a check says in the log what it verifies, states expectations to the browser, and says so
when they are met. A check that is not met fails with the first expectation that is not.
-/

namespace Shopwalk.Check

open Walk Browser

def compile (source : String) (flags : Pattern.Flags) : Except Fault Pattern :=
  match Pattern.parse source flags with
  | .ok p => .ok p
  | .error d => .error (.badPattern d source)

/-- The pattern that finds a run of digits. -/
def digits : Pattern := ⟨"\\d+", {}, .rep .greedy 1 none (.set true [.kind .digit true])⟩

/-- The kind of the first part of a value that cannot be a key. -/
def unhashable? : Value → Option String
  | .list _ => some "list"
  | .dict _ => some "dict"
  | .tuple xs => first xs
  | _ => none
where
  first : List Value → Option String
    | [] => none
    | v :: vs =>
      match unhashable? v with
      | some k => some k
      | none => first vs

/-- A pattern given as a text or already read. -/
def patternOf : Value → Except Fault Pattern
  | .str s => compile s {}
  | .pattern p => .ok p
  | v =>
    match unhashable? v with
    | some k => .error (.unhashable k)
    | none => .error .notPattern

/-- A part of a url as a pattern: anything may stand around it, unless the pattern says so itself at
one of its ends. -/
def wrapped (p : String) : String :=
  let cs := p.toList
  if ['.', '*'].isPrefixOf cs || ['.', '*'].isSuffixOf cs then p else ".*" ++ p ++ ".*"

/-- The url has to match. -/
def url (p : String) (caseSensitive : Bool) : Walk Unit := do
  let re ← settle (compile (wrapped p) { ignoreCase := !caseSensitive })
  note .info s!"Verifying URL contains: {p}"
  expectPage .url (.pattern re)
  let current := (← site).url
  note .debug s!"URL verification passed: {current} contains {p}"

/-- As `url`, of any value. -/
def urlOf (p caseSensitive : Value) : Walk Unit :=
  match p with
  | .str s => url s caseSensitive.truthy
  | v => throw (.noMember v.kindName "startswith")

/-- A heading has to be visible and to contain what is expected. -/
def heading (expected : Value) (selector : String) : Walk Unit := do
  let text ← textOf expected
  note .info s!"Verifying page heading: {text}"
  expectQuality .visible (.top selector) none
  expectText .contain (.top selector) (.ofValue expected) none
  note .debug s!"Heading verification passed: '{text}'"

def headingOf (expected selector : Value) : Walk Unit := heading expected selector.display

/-- The url has to match, and then the heading, if one is given. -/
def navigation (p : Value) (expected : Value) (selector : String) : Walk Unit := do
  urlOf p (.bool false)
  if expected.truthy then heading expected selector

def navigationOf (p expected selector : Value) : Walk Unit :=
  navigation p expected selector.display

/-- A locator as it is named in the log, and what it locates. Other values are named and then found
to be no locator. -/
structure Place where
  label : String
  locator? : Except Fault Locator

def bySelector (s : String) : Place := ⟨s, .ok (.top s)⟩

def byLocator (l : Locator) : Place := ⟨l.text, .ok l⟩

def placeOf : Value → Except Fault Place
  | .str s => .ok (bySelector s)
  | .locator l => .ok (byLocator l)
  | v => do return ⟨← v.text, .error (.notExpectable v.kindName)⟩

/-- A timeout counts when it is given and not zero. -/
def timeoutOf (v : Value) : Except Fault (Option String) :=
  if v.truthy then some <$> v.text else .ok none

/-- An element has to be visible. -/
def visible (place : Place) (timeout : Option String) : Walk Locator := do
  note .info s!"Verifying element is visible: {place.label}"
  let l ← settle place.locator?
  expectQuality .visible l timeout
  note .debug s!"Element visible: {place.label}"
  return l

def visibleOf (target timeout : Value) : Walk Locator := do
  visible (← settle (placeOf target)) (← settle (timeoutOf timeout))

/-- An element has to be visible and enabled. -/
def enabled (selector : String) : Walk Locator := do
  note .info s!"Verifying element is enabled: {selector}"
  expectQuality .visible (.top selector) none
  expectQuality .enabled (.top selector) none
  note .debug s!"Element enabled: {selector}"
  return .top selector

def enabledOf (selector : Value) : Walk Locator := do enabled (← textOf selector)

/-- How an expected text is named in the log: a pattern by its source. -/
def wording : Value → Except Fault String
  | .pattern p => .ok p.source
  | v => v.text

/-- An element has to be visible, and its text to be or to contain what is expected. -/
def text (place : Place) (expected : Value) (exact : Bool) (timeout : Option String) :
    Walk Locator := do
  let words ← settle (wording expected)
  note .info s!"Verifying text content: {words} in {place.label}"
  let label := (place.locator?.map Locator.text).toOption.getD place.label
  let l ← visible { place with label } timeout
  expectText (if exact then .equal else .contain) l (.ofValue expected) timeout
  note .debug s!"Text verification passed: {words}"
  return l

def textFor (target expected exact timeout : Value) : Walk Locator := do
  text (← settle (placeOf target)) expected exact.truthy (← settle (timeoutOf timeout))

/-- There have to be so many elements, or at least so many. -/
def exactCount (selector : String) (expected : Value) : Walk (List Locator) := do
  let n ← count (.top selector)
  let words ← textOf expected
  note .info s!"Verifying element count: exactly {words} for {selector}"
  expectCount (.top selector) expected
  note .debug s!"Count verification passed: found exactly {n} elements"
  return positions (.top selector) n

/-- Whether a whole number is below a value. -/
def isBelow (n : Nat) (v : Value) : Except Fault Bool :=
  match v with
  | .float x => .ok (Decimal.isBelow n x)
  | v =>
    match v.int? with
    | some m => .ok ((n : Int) < m)
    | none => .error (.notComparable "<" "int" v.kindName)

def leastCount (selector : String) (least : Value) : Walk (List Locator) := do
  let n ← count (.top selector)
  let words ← textOf least
  note .info s!"Verifying element count: at least {words} for {selector}"
  if ← settle (isBelow n least) then throw (.tooFew words selector n)
  note .debug s!"Count verification passed: found {n} elements (minimum required: {words})"
  return positions (.top selector) n

/-- The exact count wins when both are given; one of them has to be. -/
def countOf (selector expected least : Value) : Walk (List Locator) := do
  if expected.isNone then
    if least.isNone then throw .noCountGiven
    leastCount selector.display least
  else
    if !least.isNone then
      note .warning "Both expected_count and min_count provided; using expected_count"
    exactCount selector.display expected

/-- The title has to match a pattern, or to be a text exactly. -/
def title (expected : Value) (exact : Bool) : Walk Unit := do
  let words ← textOf expected
  note .info s!"Verifying page title contains: {words}"
  if exact then expectPage .title (.ofValue expected)
  else expectPage .title (.pattern (← settle (patternOf expected)))
  let current ← Browser.title
  note .debug s!"Page title verification passed: {current}"

def titleOf (expected exact : Value) : Walk Unit := title expected exact.truthy

/-- The text of an element has to match a pattern. -/
def textMatching (target pattern timeout : Value) : Walk Locator := do
  let re ← settle (patternOf pattern)
  textFor target (.pattern re) (.bool false) timeout

/-- The cart has to be visible and must not say that it is empty. -/
def cartNotEmpty (selector : String) : Walk Locator := do
  note .info "Verifying cart is not empty"
  expectQuality .visible (.top selector) none
  expectText .notContain (.top selector) (.text "Empty") none
  note .debug "Cart is verified to be not empty"
  return .top selector

def cartNotEmptyOf (selector : Value) : Walk Locator := cartNotEmpty selector.display

/-- The elements of a selector inside a frame, or inside a locator. -/
def within (frame : Value) (selector : String) : Except Fault Locator :=
  match frame with
  | .frame f => .ok (.framed f selector)
  | .locator l => .ok (.inside l selector)
  | v => .error (.noMember v.kindName "locator")

/-- An element inside a frame has to be visible, or enabled. -/
def framed (q : Fault.Quality) (frame : Value) (selector : String) (timeout : Option String) :
    Walk Locator := do
  note .info s!"Verifying frame element is {q.text}: {selector}"
  let l ← settle (within frame selector)
  expectQuality q l timeout
  note .debug s!"Frame element {q.text}: {selector}"
  return l

def framedOf (q : Fault.Quality) (frame selector timeout : Value) : Walk Locator := do
  let words ← textOf selector
  framed q frame words (← settle (timeoutOf timeout))

/-- The first number of a text, with what is found said in the log. -/
def number (v : Value) : Walk Nat := do
  let words ← textOf v
  note .debug s!"Extracting number from text: {words}"
  let s ← settle (Shop.searchable v)
  if Shop.Reading.of s = .absent then
    note .error s!"Failed to extract numeric value from text: {s}"
  let n ← settle (Shop.numberIn s)
  note .debug s!"Extracted number: {n}"
  return n

end Shopwalk.Check
