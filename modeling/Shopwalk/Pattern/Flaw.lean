import Shopwalk.Pattern.Syntax
import Shopwalk.Text.Digit
import Shopwalk.Text.Quoted

/-!
What can be wrong with the text of a pattern, and how it is reported.
-/

namespace Shopwalk.Pattern

inductive Flaw where
  | danglingEscape
  | badEscape (escape : String)
  | incompleteEscape (escape : String)
  | octalOutOfRange (escape : String)
  | missingBrace
  | missingName (what : String)
  | unterminatedName (terminator : Char)
  | unknownCharacter (name : String)
  | openGroupReference
  | lookBehindReference
  | unknownGroup (number : Nat)
  | unknownGroupName (name : String)
  | badGroupName (name : String)
  | badGroupNumber
  | duplicateGroup (name : String) (number earlier : Nat)
  | unterminatedSet
  | badRange (first last : String)
  | boundsReversed
  | nothingToRepeat
  | multipleRepeat
  | countTooLarge
  | countTooLong (digits : Nat)
  | unexpectedEnd
  | unknownExtension (text : String)
  | unterminatedComment
  | unterminatedGroup
  | unbalanced
  | tooManyBranches
  | lateFlags
  | localeFlag
  | mixedFlags
  | expectedAfterFlags (what : String)
  | unknownFlag
  | globalFlagOn
  | globalFlagOff
  | kindFlagOff
  | flagBothWays
  | clashingFlags
  | noRepetition (greed : Greed)
  | variableLookBehind
  | wideLookBehind
  deriving DecidableEq, Repr

/-- The name of a repetition in reports. -/
def Greed.name : Greed → String
  | .greedy => "MAX_REPEAT"
  | .lazy => "MIN_REPEAT"
  | .possessive => "POSSESSIVE_REPEAT"

def Flaw.message : Flaw → String
  | .danglingEscape => "bad escape (end of pattern)"
  | .badEscape e => "bad escape " ++ e
  | .incompleteEscape e => "incomplete escape " ++ e
  | .octalOutOfRange e => "octal escape value " ++ e ++ " outside of range 0-0o377"
  | .missingBrace => "missing \x7b"
  | .missingName what => "missing " ++ what
  | .unterminatedName t => "missing " ++ String.singleton t ++ ", unterminated name"
  | .unknownCharacter name => "undefined character name " ++ Text.quoted name
  | .openGroupReference => "cannot refer to an open group"
  | .lookBehindReference =>
    "cannot refer to group defined in the same lookbehind subpattern"
  | .unknownGroup n => "invalid group reference " ++ Nat.repr n
  | .unknownGroupName name => "unknown group name " ++ Text.quoted name
  | .badGroupName name => "bad character in group name " ++ Text.quoted name
  | .badGroupNumber => "bad group number"
  | .duplicateGroup name n earlier =>
    "redefinition of group name " ++ Text.quoted name ++ " as group " ++ Nat.repr n ++
      "; was group " ++ Nat.repr earlier
  | .unterminatedSet => "unterminated character set"
  | .badRange a b => "bad character range " ++ a ++ "-" ++ b
  | .boundsReversed => "min repeat greater than max repeat"
  | .nothingToRepeat => "nothing to repeat"
  | .multipleRepeat => "multiple repeat"
  | .countTooLarge => "the repetition number is too large"
  | .countTooLong n => Text.numeralTooLong n
  | .unexpectedEnd => "unexpected end of pattern"
  | .unknownExtension t => "unknown extension " ++ t
  | .unterminatedComment => "missing ), unterminated comment"
  | .unterminatedGroup => "missing ), unterminated subpattern"
  | .unbalanced => "unbalanced parenthesis"
  | .tooManyBranches => "conditional backref with more than two branches"
  | .lateFlags => "global flags not at the start of the expression"
  | .localeFlag => "bad inline flags: cannot use 'L' flag with a str pattern"
  | .mixedFlags => "bad inline flags: flags 'a', 'u' and 'L' are incompatible"
  | .expectedAfterFlags what => "missing " ++ what
  | .unknownFlag => "unknown flag"
  | .globalFlagOn => "bad inline flags: cannot turn on global flag"
  | .globalFlagOff => "bad inline flags: cannot turn off global flag"
  | .kindFlagOff => "bad inline flags: cannot turn off flags 'a', 'u' and 'L'"
  | .flagBothWays => "bad inline flags: flag turned on and off"
  | .clashingFlags => "ASCII and UNICODE flags are incompatible"
  | .noRepetition g => "internal: unsupported template operator " ++ g.name
  | .variableLookBehind => "look-behind requires fixed-width pattern"
  | .wideLookBehind => "invalid SRE code"

/-- A flaw with its place: how many characters of the pattern stand from there to the end. -/
structure Defect where
  flaw : Flaw
  left : Option Nat
  deriving DecidableEq, Repr

/-- Line and column of a place, both counted from one. -/
def lineColumn (before : List Char) : Nat × Nat :=
  (before.count '\n' + 1, (before.reverse.takeWhile (· != '\n')).length + 1)

/-- The report of a defect in the pattern `source`. The line and the column are given only when the
pattern has more than one line. -/
def Defect.message (d : Defect) (source : String) : String :=
  match d.left with
  | none => d.flaw.message
  | some left =>
    let cs := source.toList
    let position := cs.length - left
    let place := d.flaw.message ++ " at position " ++ Nat.repr position
    if cs.contains '\n' then
      let (line, column) := lineColumn (cs.take position)
      place ++ " (line " ++ Nat.repr line ++ ", column " ++ Nat.repr column ++ ")"
    else place

end Shopwalk.Pattern
