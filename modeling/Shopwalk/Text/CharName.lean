import Shopwalk.Text
import Shopwalk.Text.CharName.Aliases
import Shopwalk.Text.CharName.Alphabets
import Shopwalk.Text.CharName.Scripts
import Shopwalk.Text.CharName.Signs
import Shopwalk.Text.CharName.Symbols

/-!
Characters by name. Most names stand in tables; the names of ideographs end in their code point, and
the name of a Hangul syllable is spelled from its letters.
-/

namespace Shopwalk.Text

/-- The value of a digit or a capital letter, ten for the first letter. -/
def digitValue (c : Char) : Nat := if c.isDigit then c.toNat - 48 else c.toNat - 55

def isHexCapital (c : Char) : Bool := c.isDigit || ('A' ≤ c && c ≤ 'F')

def hexNumber (cs : List Char) : Nat := cs.foldl (fun n c => 16 * n + digitValue c) 0

/-- Looks a name up, word by word, in the entries of a table. `code` belongs to the next name and
`last` are the words of the name before it. -/
def findName (name : List (List Char)) : List (List Char) → Nat → List (List Char) → Option Nat
  | [], _, _ => none
  | [] :: es, code, last => findName name es code last
  | (c :: cs) :: es, code, last =>
    if c = '=' then findName name es (hexNumber cs) last
    else
      let words := last.take (digitValue c) ++ if cs.isEmpty then [] else cs.splitOn ' '
      if words = name then some code else findName name es (code + 1) words

/-- The code point of a name in a table. -/
def inTable? (name : List Char) (table : List String) : Option Nat :=
  findName (name.splitOn ' ') (table.flatMap fun line => line.toList.splitOn ';') 0 []

/-- Names that end in a code point: what stands in front of it, and which code points there are. -/
def numberedNames : List (String × Ranges) := [
  ("CJK COMPATIBILITY IDEOGRAPH-", [(63744, 64109), (64112, 64217), (194560, 195101)]),
  ("KHITAN SMALL SCRIPT CHARACTER-", [(101120, 101589)]),
  ("NUSHU CHARACTER-", [(110960, 111355)])]

/-- Code points of the unified ideographs. -/
def ideographs : Ranges := [
  (13312, 19903), (19968, 40959), (131072, 173791), (173824, 177976), (177984, 178205),
  (178208, 183969), (183984, 191456), (196608, 201546)]

/-- The code point in four or five hexadecimal digits that `start` stands in front of. -/
def numbered? (name : List Char) (start : String) (codes : Ranges) : Option Nat :=
  let digits := name.drop start.length
  let code := hexNumber digits
  if start.toList.isPrefixOf name && (digits.length == 4 || digits.length == 5) &&
      digits.all isHexCapital && codes.any (fun r => r.1 ≤ code && code ≤ r.2) then some code
  else none

/-- A name with a number in the table, which has no more digits than it needs. -/
def numberedName? (name : List Char) : Option Nat :=
  numberedNames.findSome? fun (start, codes) =>
    if (name.drop start.length).head? = some '0' then none else numbered? name start codes

def hangulInitials : List String := [
  "G", "GG", "N", "D", "DD", "R", "M", "B", "BB", "S", "SS", "", "J", "JJ", "C", "K", "T", "P", "H"]

def hangulVowels : List String := [
  "A", "AE", "YA", "YAE", "EO", "E", "YEO", "YE", "O", "WA", "WAE", "OE", "YO", "U", "WEO", "WE",
  "WI", "YU", "EU", "YI", "I"]

def hangulFinals : List String := [
  "", "G", "GG", "GS", "N", "NJ", "NH", "D", "L", "LG", "LM", "LB", "LS", "LT", "LP", "LH", "M",
  "B", "BS", "S", "SS", "NG", "J", "C", "K", "T", "P", "H"]

/-- The longest of some spellings at the start of a text, by its index, and what follows it. -/
def spelled? (spellings : List String) (cs : List Char) : Option (Nat × List Char) :=
  let fits := spellings.zipIdx.filter fun (s, _) => s.toList.isPrefixOf cs
  let longest := fits.foldl (fun n (s, _) => max n s.length) 0
  (fits.find? fun (s, _) => s.length == longest).map fun (_, i) => (i, cs.drop longest)

/-- The syllable that is spelled by an initial, a vowel and a final. -/
def hangul? (cs : List Char) : Option Nat := do
  let (l, cs) ← spelled? hangulInitials cs
  let (v, cs) ← spelled? hangulVowels cs
  let (t, cs) ← spelled? hangulFinals cs
  if cs.isEmpty then return 44032 + (l * 21 + v) * 28 + t else none

/-- The code point of the character of a name. Case matters only in names that are not in the
tables. -/
def charNamed? (name : String) : Option Nat :=
  let cs := name.toList
  let syllable := "HANGUL SYLLABLE ".toList
  if syllable.isPrefixOf cs then hangul? (cs.drop syllable.length)
  else
    let capitals := cs.map Char.toUpper
    numbered? cs "CJK UNIFIED IDEOGRAPH-" ideographs <|>
      numberedName? capitals <|>
      [alphabetNames, signNames, scriptNames, symbolNames, aliasNames].findSome? (inTable? capitals)

end Shopwalk.Text
