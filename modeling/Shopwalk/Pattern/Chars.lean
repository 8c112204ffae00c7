import Shopwalk.Pattern.Syntax
import Shopwalk.Text
import Shopwalk.Text.Caseless
import Shopwalk.Text.Digit
import Shopwalk.Text.Word

/-!
Which characters an item of a pattern stands for.

When case is ignored, a character of the text is lowered first and an item is known by the lowered
code points it stands for.
-/

namespace Shopwalk.Pattern

/-- A character of the text and the code point of its lowercase form. -/
structure Letter where
  char : Char
  lower : Nat
  deriving DecidableEq, Repr

def Letter.ofChar (c : Char) : Letter := ⟨c, Text.lowerCode c.toNat⟩

/-- A character of the text as items are compared with it. -/
def Flags.lowered (f : Flags) (x : Letter) : Nat :=
  if !f.ignoreCase then x.char.toNat
  else if f.ascii then Text.asciiLowerCode x.char.toNat
  else x.lower

/-- The lowered code points that `code` stands for. -/
def Flags.letters (f : Flags) (code : Nat) : List Nat :=
  if !f.ignoreCase then [code]
  else if f.ascii then [Text.asciiLowerCode code]
  else Text.letterClass (Text.lowerCode code)

def CharKind.has (ascii : Bool) (x : Char) : CharKind → Bool
  | .digit => if ascii then x.isDigit else Text.isDigit x
  | .blank => Text.isBlank x && (!ascii || (9 ≤ x.toNat && x.toNat ≤ 13) || x == ' ')
  | .word => Text.isWord x && (!ascii || x.toNat < 128)

/-- The greatest code point of two bytes. -/
def lastShortCode : Nat := 65535

/-- A test of a code point that may have been lowered. -/
structure CodeTest where
  has : Nat → Bool

/-- Code points that share an uppercase form with one of `runs`. -/
def relatives (runs : List Text.CaseRun) : List Nat :=
  (Text.sharedUppercase.filter fun letters => letters.any fun n => runs.any (·.has n)).flatten

/-- The test of a range when case is ignored. Beyond two bytes a range is not lowered: there a
lowered code point is in it if it or its uppercase is. -/
def caselessRange (f : Flags) (first last : Nat) : CodeTest :=
  let capitals := if f.ascii then [Text.asciiCapitals] else Text.capitals
  let short :=
    if first ≤ lastShortCode then Text.loweredRange capitals first (min last lastShortCode) else []
  let more := if f.ascii then [] else relatives short
  let long := lastShortCode < last
  ⟨fun x =>
    short.any (·.has x) || more.contains x ||
      (long && ((first ≤ x && x ≤ last) ||
        (first ≤ Text.upperCode x && Text.upperCode x ≤ last)))⟩

/-- A test of a character of the text. -/
structure CharTest where
  has : Letter → Bool

/-- The test of a member of a set. Beyond two bytes a member is not lowered, so that a capital there
stands for nothing when case is ignored. -/
def SetItem.test (f : Flags) : SetItem → CharTest
  | .one code =>
    let letters := if lastShortCode < code then [code] else f.letters code
    ⟨fun x => letters.contains (f.lowered x)⟩
  | .range first last =>
    let range :=
      if f.ignoreCase then caselessRange f first last else ⟨fun x => first ≤ x && x ≤ last⟩
    ⟨fun x => range.has (f.lowered x)⟩
  | .kind k positive => ⟨fun x => k.has f.ascii x.char == positive⟩

def anyTest (f : Flags) : CharTest := ⟨fun x => f.dotAll || x.char != '\n'⟩

def codeTest (f : Flags) (positive : Bool) (code : Nat) : CharTest :=
  let letters := f.letters code
  ⟨fun x => letters.contains (f.lowered x) == positive⟩

def setTest (f : Flags) (positive : Bool) (items : List SetItem) : CharTest :=
  let tests := items.map (·.test f)
  ⟨fun x => (tests.any fun test => test.has x) == positive⟩

/-- Whether a member of a set goes beyond two bytes. -/
def SetItem.isLong : SetItem → Bool
  | .one code | .range _ code => lastShortCode < code
  | .kind _ _ => false

/-- Whether a member of a set stands for characters that have another case. A range that goes beyond
two bytes counts as one that does. -/
def SetItem.hasCase (f : Flags) : SetItem → Bool
  | .one code =>
    if f.ascii then 65 ≤ code && code ≤ 90 || 97 ≤ code && code ≤ 122
    else Text.lowerCode code != code || Text.upperCode code != code
  | .range first last =>
    (SetItem.range first last).isLong || first ≤ 122 && 97 ≤ last ||
      if f.ascii then first ≤ 90 && 65 ≤ last
      else (Text.capitals ++ Text.uppercaseRuns).any fun r => (r.image? first last).isSome
  | .kind _ _ => false

/-- The test of an item that stands for one character. -/
def Node.test? (f : Flags) : Node → Option CharTest
  | .any => some (anyTest f)
  | .lit code => some (codeTest f true code)
  | .notLit code => some (codeTest f false code)
  | .set positive items => some (setTest f positive items)
  | .scoped on off body => body.test? (f.within on off)
  | _ => none

/-- The test that the first character of every match passes, for a tree that begins with one. -/
def Node.firstTest? (f : Flags) : Node → Option CharTest
  | .seq a _ => a.firstTest? f
  | .scoped on off body => body.firstTest? (f.within on off)
  | .capture _ body | .atomic body => body.firstTest? f
  | n => n.test? f

/-- The test of a member of a set that is looked for. Kinds of characters are those of the flags
`whole` of the whole pattern, also where the set itself is read with others. -/
def SetItem.leadTest (whole f : Flags) : SetItem → CharTest
  | .kind k positive => (SetItem.kind k positive).test whole
  | it => it.test f

/-- The test that a character has to pass before a match is tried at it, for a tree that begins with
a set. A set with characters that have another case is not looked for when case is ignored. -/
def Node.leadTest? (whole f : Flags) : Node → Option CharTest
  | .seq a _ => a.leadTest? whole f
  | .capture _ body => body.leadTest? whole f
  | .scoped on off body => body.leadTest? whole (f.within on off)
  | .set positive items =>
    if f.ignoreCase && items.any (·.hasCase f) then none
    else
      let tests := items.map (·.leadTest whole f)
      some ⟨fun x => (tests.any fun test => test.has x) == positive⟩
  | _ => none

end Shopwalk.Pattern
