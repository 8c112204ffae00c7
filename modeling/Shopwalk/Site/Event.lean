import Shopwalk.Fault

/-!
The calls that reach the browser. A trace is a list of them, and rules of the script look at their
texts.
-/

namespace Shopwalk

inductive Event where
  | goto (url : String)
  | title
  | content
  | screenshot (path : String)
  | waitForLoad (state : String) (timeout : Option String)
  | expectNavigation (waitUntil : Option String)
  | pageClick (selector : String)
  | click (selector : String)
  | fill (selector value : String)
  | textContent (selector : String)
  | isVisible (selector : String)
  | count (selector : String)
  | all (selector : String)
  | expectPage (field : Fault.PageField) (expected : String)
  | expectQuality (quality : Fault.Quality) (selector : String) (timeout : Option String)
  | expectText (relation : Fault.Relation) (selector expected : String) (timeout : Option String)
  | expectCount (selector expected : String)
  deriving DecidableEq, Repr

namespace Event

/-- An option that is written only when it is given. -/
def option (name : String) : Option String → String
  | none => ""
  | some v => " " ++ name ++ "=" ++ v

def text : Event → String
  | goto u => "goto " ++ u
  | title => "title"
  | content => "content"
  | screenshot p => "screenshot " ++ p
  | waitForLoad s t => "wait_for_load_state " ++ s ++ option "timeout" t
  | expectNavigation w => "expect_navigation" ++ option "wait_until" w
  | pageClick s => "page.click " ++ s
  | click s => "click " ++ s
  | fill s v => "fill " ++ s ++ " = " ++ v
  | textContent s => "text_content " ++ s
  | isVisible s => "is_visible " ++ s
  | count s => "count " ++ s
  | all s => "all " ++ s
  | expectPage f e => "expect " ++ f.text ++ " " ++ e
  | expectQuality q s t => "expect " ++ q.text ++ " " ++ s ++ option "timeout" t
  | expectText r s e t => "expect " ++ r.text ++ " " ++ s ++ " " ++ e ++ option "timeout" t
  | expectCount s n => "expect count " ++ s ++ " " ++ n

end Event

end Shopwalk
