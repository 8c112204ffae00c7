/-!
What can be wrong with a template, and how it is reported.
-/

namespace Shopwalk.Template

/-- What a layout can ask for. -/
inductive Wish where
  | sign
  | blankSign
  | plainZero
  | alternate
  | inside
  | precision
  deriving DecidableEq, Repr

def Wish.text : Wish → String
  | .sign => "Sign"
  | .blankSign => "Space"
  | .plainZero => "Negative zero coercion (z)"
  | .alternate => "Alternate form (#)"
  | .inside => "'=' alignment"
  | .precision => "Precision"

inductive Flaw where
  | loneBrace (brace : Char)
  | braceInName
  | unclosed
  | noConversion
  | afterConversion
  | unclosedSpec
  | unnamed
  | numberTooLong
  | emptyStep
  | afterIndex
  | unknownConversion (letter : Char)
  | tooDeep
  | fineSeconds
  | badLayout (layout kind : String)
  | noPrecision
  | hugePrecision
  | bothSeparators
  | separatorWith (separator letter : Char)
  | unknownLetter (letter : Char) (kind : String)
  | notForText (wish : Wish)
  | notForWhole (wish : Wish)
  | notForCharacter (wish : Wish)
  | noCharacter
  deriving DecidableEq, Repr

/-- A character as reports name it: itself between a blank and a limit, else its number. -/
def charName (limit : Nat) (c : Char) : String :=
  if 32 < c.toNat ∧ c.toNat < limit then String.singleton c
  else "\\x" ++ String.ofList (Nat.toDigits 16 c.toNat)

def Flaw.message : Flaw → String
  | .loneBrace b => "Single '" ++ String.singleton b ++ "' encountered in format string"
  | .braceInName => "unexpected '\x7b' in field name"
  | .unclosed => "expected '\x7d' before end of string"
  | .noConversion => "end of string while looking for conversion specifier"
  | .afterConversion => "expected ':' after conversion specifier"
  | .unclosedSpec => "unmatched '\x7b' in format spec"
  | .unnamed => "Format string contains positional fields"
  | .numberTooLong => "Too many decimal digits in format string"
  | .emptyStep => "Empty attribute in format string"
  | .afterIndex => "Only '.' or '[' may follow ']' in format field specifier"
  | .unknownConversion c => "Unknown conversion specifier " ++ charName 127 c
  | .tooDeep => "Max string recursion exceeded"
  | .fineSeconds =>
    "Invalid time format: the provided format string contains more than six successive 'S' " ++
      "characters. This may be due to an attempt to use nanosecond precision, which is not " ++
      "supported."
  | .badLayout l k => "Invalid format specifier '" ++ l ++ "' for object of type '" ++ k ++ "'"
  | .noPrecision => "Format specifier missing precision"
  | .hugePrecision => "precision too big"
  | .bothSeparators => "Cannot specify both ',' and '_'."
  | .separatorWith s c =>
    "Cannot specify '" ++ String.singleton s ++ "' with '" ++ charName 128 c ++ "'."
  | .unknownLetter c k =>
    "Unknown format code '" ++ charName 128 c ++ "' for object of type '" ++ k ++ "'"
  | .notForText w => w.text ++ " not allowed in string format specifier"
  | .notForWhole w => w.text ++ " not allowed in integer format specifier"
  | .notForCharacter w => w.text ++ " not allowed with integer format specifier 'c'"
  | .noCharacter => "%c arg not in range(0x110000)"

end Shopwalk.Template
