import Shopwalk.Decimal.Written
import Shopwalk.Pattern.Syntax
import Shopwalk.Site.Locator
import Shopwalk.Text.Digit
import Shopwalk.Text.Quoted

/-!
Values that an operation may be handed or that session data may hold, of any kind, and their texts.
-/

namespace Shopwalk

inductive Value where
  | none
  | bool (b : Bool)
  | int (n : Int)
  | float (x : Float)
  | str (s : String)
  | list (items : List Value)
  | tuple (items : List Value)
  | dict (entries : List (String × Value))
  | locator (l : Locator)
  | frame (selector : String)
  | pattern (p : Pattern)

namespace Value

instance : Inhabited Value := ⟨none⟩

instance : Coe String Value := ⟨str⟩

instance : Coe Locator Value := ⟨locator⟩

/-- The name of the kind of a value, as messages give it. -/
def kindName : Value → String
  | none => "NoneType"
  | bool _ => "bool"
  | int _ => "int"
  | float _ => "float"
  | str _ => "str"
  | list _ => "list"
  | tuple _ => "tuple"
  | dict _ => "dict"
  | locator _ => "Locator"
  | frame _ => "FrameLocator"
  | pattern _ => "re.Pattern"

/-- The name of the kind of a value without the group that the kind is in. -/
def shortKind : Value → String
  | pattern _ => "Pattern"
  | v => v.kindName

/-- Whether a value counts as true: all do but zeros, empty collections and the missing value. -/
def truthy : Value → Bool
  | none => false
  | bool b => b
  | int n => n ≠ 0
  | float x => x != 0
  | str s => !s.isEmpty
  | list xs | tuple xs => !xs.isEmpty
  | dict es => !es.isEmpty
  | locator _ | frame _ | pattern _ => true

def isNone : Value → Bool
  | none => true
  | _ => false

/-- Whether a whole number is short enough to be written. -/
def writable (n : Int) : Bool := n.natAbs < Nat.pow 10 Text.digitLimit

mutual

/-- Whether every number inside is short enough to be written. -/
def printable : Value → Bool
  | int n => writable n
  | list xs | tuple xs => printableAll xs
  | dict es => printableEntries es
  | _ => true

def printableAll : List Value → Bool
  | [] => true
  | v :: vs => v.printable && printableAll vs

def printableEntries : List (String × Value) → Bool
  | [] => true
  | (_, v) :: es => v.printable && printableEntries es

end

def boolText (b : Bool) : String := if b then "True" else "False"

/-- Names of the flags of a pattern, in the order in which they are listed. -/
def flagNames (f : Pattern.Flags) : List String :=
  (if f.template then ["re.TEMPLATE"] else []) ++
  (if f.ignoreCase then ["re.IGNORECASE"] else []) ++
  (if f.multiline then ["re.MULTILINE"] else []) ++
  (if f.dotAll then ["re.DOTALL"] else []) ++
  (if f.verbose then ["re.VERBOSE"] else []) ++
  (if f.ascii then ["re.ASCII"] else [])

/-- A pattern as shown in messages; long ones are cut. -/
def patternText (p : Pattern) : String :=
  let names := flagNames p.flags
  "re.compile(" ++ String.ofList ((Text.quoted p.source).toList.take 200) ++
    (if names.isEmpty then "" else ", " ++ "|".intercalate names) ++ ")"

mutual

/-- A value inside a collection: texts are quoted. -/
def shown : Value → String
  | none => "None"
  | bool b => boolText b
  | int n => toString n
  | float x => Decimal.text x
  | str s => Text.quoted s
  | list xs => "[" ++ shownAll xs ++ "]"
  | tuple [x] => "(" ++ x.shown ++ ",)"
  | tuple xs => "(" ++ shownAll xs ++ ")"
  | dict es => "\x7b" ++ shownEntries es ++ "\x7d"
  | locator l => l.text
  | frame s => "<FrameLocator selector='" ++ s ++ "'>"
  | pattern p => patternText p

def shownAll : List Value → String
  | [] => ""
  | [v] => v.shown
  | v :: vs => v.shown ++ ", " ++ shownAll vs

def shownEntries : List (String × Value) → String
  | [] => ""
  | [(k, v)] => Text.quoted k ++ ": " ++ v.shown
  | (k, v) :: es => Text.quoted k ++ ": " ++ v.shown ++ ", " ++ shownEntries es

end

/-- The text of a value; a text is its own text. -/
def display : Value → String
  | str s => s
  | v => v.shown

/-- The whole number that a value counts as, truth values included. -/
def int? : Value → Option Int
  | int n => some n
  | bool b => some (if b then 1 else 0)
  | _ => Option.none

end Value

end Shopwalk
