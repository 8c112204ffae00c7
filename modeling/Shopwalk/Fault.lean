import Shopwalk.Pattern.Flaw
import Shopwalk.Template.Flaw
import Shopwalk.Text.Quoted

/-!
Everything that can go wrong, by cause, and how each cause is worded.
-/

namespace Shopwalk

namespace Fault

/-- Families of faults, which callers can tell apart. -/
inductive Kind where
  | value
  | type
  | member
  | key
  | index
  | assertion
  | unassigned
  | notFound
  | alreadyExists
  | notDirectory
  | isDirectory
  | os
  | overflow
  | runtime
  | pattern
  | browser
  | timeout
  | exit
  | interrupt
  deriving DecidableEq, Repr

/-- Reasons for which the file system refuses an operation. -/
inductive Refusal where
  | noEntry
  | alreadyExists
  | notDirectory
  | isDirectory
  | nameTooLong
  deriving DecidableEq, Repr

def Refusal.kind : Refusal → Kind
  | .noEntry => .notFound
  | .alreadyExists => .alreadyExists
  | .notDirectory => .notDirectory
  | .isDirectory => .isDirectory
  | .nameTooLong => .os

def Refusal.message : Refusal → String
  | .noEntry => "[Errno 2] No such file or directory"
  | .alreadyExists => "[Errno 17] File exists"
  | .notDirectory => "[Errno 20] Not a directory"
  | .isDirectory => "[Errno 21] Is a directory"
  | .nameTooLong => "[Errno 36] File name too long"

/-- What a page can be expected to have. -/
inductive PageField where
  | url
  | title
  deriving DecidableEq, Repr

def PageField.text : PageField → String
  | .url => "url"
  | .title => "title"

/-- What an element can be expected to be. -/
inductive Quality where
  | visible
  | enabled
  deriving DecidableEq, Repr

def Quality.text : Quality → String
  | .visible => "visible"
  | .enabled => "enabled"

/-- How an element's text can be expected to relate to another text. -/
inductive Relation where
  | contain
  | equal
  | notContain
  deriving DecidableEq, Repr

def Relation.text : Relation → String
  | .contain => "contain_text"
  | .equal => "have_text"
  | .notContain => "not_contain_text"

/-- Sequences, in which a position can be out of range. -/
inductive Sequence where
  | list
  | tuple
  | text
  deriving DecidableEq, Repr

end Fault

open Fault in
inductive Fault where
  /-- A failure that a rule of the script brings about. -/
  | scripted (kind : Kind) (message : String)
  | timeout
  /-- A locator that must find one element finds several. -/
  | ambiguous (selector : String) (count : Nat)
  | unmetPage (field : PageField) (expected actual : String)
  | unmetQuality (quality : Quality)
  | unmetText (relation : Relation) (expected : String) (actual : Option String)
  | unmetCount (expected : String) (actual : Nat)
  | tooFew (required selector : String) (found : Nat)
  | noCountGiven
  /-- Expectations are stated on pages and locators only. -/
  | notExpectable (kind : String)
  | noNumber (text : String)
  | numeralTooLong (digits : Nat)
  | numberTooLong
  | notSearchable (kind : String)
  | noMember (kind name : String)
  | noConstant (group name : String)
  | notComparable (operator left right : String)
  | notAddable (left right : String)
  | notJoinable (left right : String)
  | numberTooBig
  | notIterable (kind : String)
  | notSubscriptable (kind : String)
  | kindNotSubscriptable (kind : String)
  | notFormattable (kind : String)
  | textIndex (kind : String)
  | listIndex (sequence : String) (kind : String)
  | outOfRange (sequence : Sequence)
  | noLength (kind : String)
  | notText (position : Nat) (kind : String)
  | notContainable (kind : String)
  | unhashable (kind : String)
  | missingKey (key : String)
  | missingIndex (index : Nat)
  | missingArguments (operation : String) (names : List String)
  | unexpectedArgument (operation name : String)
  | multipleValues (operation name : String)
  | unknownPage (name : String)
  | unknownBrowser (name : String)
  | noProduct (criterionKind criterion : String)
  | totalMismatch (displayed calculated : String)
  | itemsMissing
  | noTotal
  | paymentNotOpened (message : String)
  | paymentUnverified
  | temperatureUnread (text : String)
  | unassigned (name : String)
  | refused (refusal : Refusal) (path : String)
  | nulInPath
  | notPath (kind : String)
  | notPattern
  | badPattern (defect : Pattern.Defect) (source : String)
  | badTemplate (flaw : Template.Flaw)
  | placeholder (name : String)
  | nothingStarted
  | exit (code : String)
  deriving DecidableEq, Repr

namespace Fault

def kind : Fault → Kind
  | scripted k _ => k
  | timeout => .timeout
  | ambiguous _ _ => .browser
  | unmetPage _ _ _ | unmetQuality _ | unmetText _ _ _ | unmetCount _ _ | tooFew _ _ _ => .assertion
  | noCountGiven | notExpectable _ | noNumber _ | numeralTooLong _ | numberTooLong => .value
  | notSearchable _ => .type
  | noMember _ _ | noConstant _ _ => .member
  | notComparable _ _ _ | notAddable _ _ | notJoinable _ _ => .type
  | numberTooBig => .overflow
  | notIterable _ | notSubscriptable _ | kindNotSubscriptable _ | notFormattable _ => .type
  | textIndex _ | listIndex _ _ => .type
  | outOfRange _ => .index
  | noLength _ | notText _ _ | notContainable _ | unhashable _ => .type
  | missingKey _ | missingIndex _ => .key
  | missingArguments _ _ | unexpectedArgument _ _ | multipleValues _ _ => .type
  | unknownPage _ | unknownBrowser _ | noProduct _ _ => .value
  | totalMismatch _ _ | itemsMissing | noTotal | paymentNotOpened _
  | paymentUnverified => .assertion
  | temperatureUnread _ => .value
  | unassigned _ => .unassigned
  | refused r _ => r.kind
  | nulInPath => .value
  | notPath _ | notPattern => .type
  | badPattern d _ =>
    match d.flaw with
    | .countTooLarge => .overflow
    | .countTooLong _ | .clashingFlags => .value
    | .wideLookBehind => .runtime
    | _ => .pattern
  | badTemplate .noCharacter => .overflow
  | badTemplate _ => .value
  | placeholder _ => .key
  | nothingStarted => .index
  | exit _ => .exit

/-- Names in a list as messages give them: `'a'`, `'a' and 'b'`, `'a', 'b', and 'c'`. -/
def nameList : List String → String
  | [] => ""
  | [a] => "'" ++ a ++ "'"
  | [a, b] => "'" ++ a ++ "' and '" ++ b ++ "'"
  | names =>
    ", ".intercalate (names.dropLast.map fun n => "'" ++ n ++ "'") ++
      ", and '" ++ names.getLastD "" ++ "'"

def message : Fault → String
  | scripted .key m => Text.quoted m
  | scripted _ m => m
  | timeout => "Timeout 30000ms exceeded."
  | ambiguous s n =>
    "strict mode violation: \"" ++ s ++ "\" resolved to " ++ Nat.repr n ++ " elements"
  | unmetPage f e a =>
    "Page " ++ f.text ++ " expected to be " ++ e ++ ", actual '" ++ a ++ "'"
  | unmetQuality q => "Locator expected to be " ++ q.text
  | unmetText r e none => "Locator expected to " ++ r.text ++ " " ++ e ++ ", actual none"
  | unmetText r e (some a) =>
    "Locator expected to " ++ r.text ++ " " ++ e ++ ", actual '" ++ a ++ "'"
  | unmetCount e a =>
    "Locator expected to have count " ++ e ++ ", actual " ++ Nat.repr a
  | tooFew n s m =>
    "Expected at least " ++ n ++ " elements for selector '" ++ s ++ "', found " ++ Nat.repr m
  | noCountGiven => "Either expected_count or min_count must be provided"
  | notExpectable k => "Unsupported type: <class '" ++ k ++ "'>"
  | noNumber t => "Could not extract numeric value from: " ++ t
  | numeralTooLong n => Text.numeralTooLong n
  | numberTooLong =>
    "Exceeds the limit (4300 digits) for integer string conversion; " ++
      "use sys.set_int_max_str_digits() to increase the limit"
  | notSearchable k => "expected string or bytes-like object, got '" ++ k ++ "'"
  | noMember k a => "'" ++ k ++ "' object has no attribute '" ++ a ++ "'"
  | noConstant g n => "type object '" ++ g ++ "' has no attribute '" ++ n ++ "'"
  | notComparable o l r =>
    "'" ++ o ++ "' not supported between instances of '" ++ l ++ "' and '" ++ r ++ "'"
  | notAddable l r => "unsupported operand type(s) for +: '" ++ l ++ "' and '" ++ r ++ "'"
  | notJoinable l r => "unsupported operand type(s) for /: '" ++ l ++ "' and '" ++ r ++ "'"
  | numberTooBig => "int too large to convert to float"
  | notIterable k => "'" ++ k ++ "' object is not iterable"
  | notSubscriptable k => "'" ++ k ++ "' object is not subscriptable"
  | kindNotSubscriptable k => "type '" ++ k ++ "' is not subscriptable"
  | notFormattable k => "unsupported format string passed to " ++ k ++ ".__format__"
  | textIndex k => "string indices must be integers, not '" ++ k ++ "'"
  | listIndex s k => s ++ " indices must be integers or slices, not " ++ k
  | outOfRange .list => "list index out of range"
  | outOfRange .tuple => "tuple index out of range"
  | outOfRange .text => "string index out of range"
  | noLength k => "object of type '" ++ k ++ "' has no len()"
  | notText i k =>
    "sequence item " ++ Nat.repr i ++ ": expected str instance, " ++ k ++ " found"
  | notContainable k => "'in <string>' requires string as left operand, not " ++ k
  | unhashable k => "unhashable type: '" ++ k ++ "'"
  | missingKey k => Text.quoted k
  | missingIndex i => Nat.repr i
  | missingArguments op names =>
    op ++ "() missing " ++ Nat.repr names.length ++ " required positional argument" ++
      (if names.length = 1 then "" else "s") ++ ": " ++ nameList names
  | unexpectedArgument op n => op ++ "() got an unexpected keyword argument '" ++ n ++ "'"
  | multipleValues op n => op ++ "() got multiple values for argument '" ++ n ++ "'"
  | unknownPage n => "Invalid page name: " ++ n
  | unknownBrowser n => "Unsupported browser type: " ++ n
  | noProduct k c => "No products found matching " ++ k ++ "=" ++ c
  | totalMismatch d c => "Total price mismatch: displayed " ++ d ++ " vs calculated " ++ c
  | itemsMissing => "Cart verification failed: one or more expected items not found"
  | noTotal => "Total price verification failed"
  | paymentNotOpened m => "Failed to proceed to payment: " ++ m
  | paymentUnverified => "Payment verification failed"
  | temperatureUnread t => "Could not extract temperature from '" ++ t ++ "'"
  | unassigned n =>
    "cannot access local variable '" ++ n ++ "' where it is not associated with a value"
  | refused r p => r.message ++ ": " ++ Text.quoted p
  | nulInPath => "embedded null byte"
  | notPath k => "expected str, bytes or os.PathLike object, not " ++ k
  | notPattern => "first argument must be string or compiled pattern"
  | badPattern d source => d.message source
  | badTemplate flaw => flaw.message
  | placeholder n => Text.quoted n
  | nothingStarted => "pop from empty list"
  | exit code => code

end Fault

end Shopwalk
