import Shopwalk.Pattern.Flaw
import Shopwalk.Pattern.Syntax
import Shopwalk.Text
import Shopwalk.Text.CharName
import Shopwalk.Text.Digit
import Shopwalk.Text.Identifier
import Shopwalk.Text.Word

/-!
Reading the text of a pattern into a tree.

The reader goes through the text once and looks one token ahead; a token is a character, or a
backslash with the character behind it. A place is known by the number of characters left, which is
how defects are placed.
-/

namespace Shopwalk.Pattern

inductive Token where
  | plain (c : Char)
  | escaped (c : Char)
  deriving DecidableEq, Repr

def Token.chars : Token → List Char
  | .plain c => [c]
  | .escaped c => ['\\', c]

def Token.text (t : Token) : String := String.ofList t.chars

/-- The text still to be read, and what is known of the groups so far. -/
structure Reader where
  rest : List Char
  flags : Flags
  groups : Nat
  openGroups : List Nat
  names : List (String × Nat)
  /-- Widths of the groups that are closed. -/
  widths : List (Nat × Width)
  /-- Number of groups when the outermost look behind began. -/
  lookBehind : Option Nat
  /-- Groups named by number in conditions, with the place of the condition. -/
  conditions : List (Nat × Nat)

abbrev Read := EStateM Defect Reader

/-- Reports a flaw `offset` characters before the next token. -/
def fail {α : Type} (flaw : Flaw) (offset : Nat) : Read α := do
  throw ⟨flaw, some ((← get).rest.length + offset)⟩

def peek : Read (Option Token) := do
  match (← get).rest with
  | [] => return none
  | '\\' :: c :: _ => return some (.escaped c)
  | c :: _ => return some (.plain c)

/-- Passes the next token. A backslash that ends the pattern is noticed when it comes next. -/
def advance : Read Unit := do
  let rest :=
    match (← get).rest with
    | [] => []
    | '\\' :: _ :: cs => cs
    | _ :: cs => cs
  if rest = ['\\'] then throw ⟨.danglingEscape, some 1⟩
  modify fun r => { r with rest }

def take : Read (Option Token) := do
  let t ← peek
  advance
  return t

def accept (c : Char) : Read Bool := do
  if (← peek) = some (.plain c) then
    advance
    return true
  else return false

/-- At most `n` characters of a class. -/
def takeWhileUpTo (p : Char → Bool) : Nat → Read (List Char)
  | 0 => return []
  | n + 1 => do
    match ← peek with
    | some (.plain c) =>
      if p c then
        advance
        return c :: (← takeWhileUpTo p n)
      else return []
    | _ => return []

/-- All characters of a class that come next. -/
def takeAll (p : Char → Bool) : Read (List Char) := do
  takeWhileUpTo p (← get).rest.length

/-- A name up to its terminator. -/
def takeName (terminator : Char) (what : String) : Nat → List Char → Read String
  | 0, _ => fail .unexpectedEnd 0
  | fuel + 1, name => do
    match ← take with
    | none =>
      if name.isEmpty then fail (.missingName what) 0
      else fail (.unterminatedName terminator) name.length
    | some t =>
      if t = .plain terminator then
        if name.isEmpty then fail (.missingName what) 1
        else return String.ofList name
      else takeName terminator what fuel (name ++ t.chars)

def nameUntil (terminator : Char) (what : String) : Read String := do
  takeName terminator what ((← get).rest.length + 1) []

def isHex (c : Char) : Bool := (c.isDigit || ('a' ≤ c && c ≤ 'f') || ('A' ≤ c && c ≤ 'F'))

def isOctal (c : Char) : Bool := '0' ≤ c && c ≤ '7'

def hexValue (c : Char) : Nat :=
  if c.isDigit then c.toNat - 48 else if 'a' ≤ c then c.toNat - 87 else c.toNat - 55

def numeralIn (base : Nat) (cs : List Char) : Nat :=
  cs.foldl (fun n c => base * n + hexValue c) 0

/-- An escape of exactly `width` hexadecimal digits. -/
def hexEscape (letter : Char) (width : Nat) : Read Nat := do
  let ds ← takeWhileUpTo isHex width
  let escape := String.ofList ('\\' :: letter :: ds)
  if ds.length ≠ width then fail (.incompleteEscape escape) (2 + ds.length)
  else
    let n := numeralIn 16 ds
    if n < 0x110000 then return n
    else fail (.badEscape escape) (2 + ds.length)

/-- An escape by the name of a character. -/
def namedEscape : Read Nat := do
  if !(← accept '\x7b') then fail .missingBrace 0
  let name ← nameUntil '\x7d' "character name"
  match Text.charNamed? name with
  | some n => return n
  | none => fail (.unknownCharacter name) (name.length + 4)

/-- Escapes that mean one character, inside and outside sets. -/
def controlEscape? : Char → Option Char
  | 'a' => some '\x07'
  | 'f' => some '\x0c'
  | 'n' => some '\n'
  | 'r' => some '\r'
  | 't' => some '\t'
  | 'v' => some '\x0b'
  | '\\' => some '\\'
  | _ => none

/-- Escapes that mean one code point, inside and outside sets. -/
def codeEscape? (c : Char) : Read (Option Nat) := do
  match controlEscape? c with
  | some x => return some x.toNat
  | none =>
    match c with
    | 'x' => return some (← hexEscape c 2)
    | 'u' => return some (← hexEscape c 4)
    | 'U' => return some (← hexEscape c 8)
    | 'N' => return some (← namedEscape)
    | _ => return none

/-- Escapes that mean a class of characters, with their sense. -/
def kindEscape? : Char → Option (CharKind × Bool)
  | 'd' => some (.digit, true)
  | 'D' => some (.digit, false)
  | 's' => some (.blank, true)
  | 'S' => some (.blank, false)
  | 'w' => some (.word, true)
  | 'W' => some (.word, false)
  | _ => none

def anchorEscape? : Char → Option Anchor
  | 'A' => some .textStart
  | 'b' => some .boundary
  | 'B' => some .notBoundary
  | 'Z' => some .textEnd
  | _ => none

/-- Refuses a reference to a group that is open, or that the same look behind defines. -/
def checkLookBehind (group : Nat) : Read Unit := do
  let r ← get
  match r.lookBehind with
  | none => return ()
  | some first =>
    if r.groups ≤ group || r.openGroups.contains group then fail .openGroupReference 0
    else if first ≤ group then fail .lookBehindReference 0

/-- A backslash and a digit from one to nine: an octal escape if three octal digits stand there, and
otherwise a reference to a group. -/
def digitEscape (d : Char) : Read Node := do
  let more ← takeWhileUpTo Char.isDigit 1
  let ds := d :: more
  let third ←
    if ds.length = 2 && ds.all isOctal then takeWhileUpTo isOctal 1 else pure []
  if third.length = 1 then
    let n := numeralIn 8 (ds ++ third)
    if n > 255 then fail (.octalOutOfRange (String.ofList ('\\' :: ds ++ third))) 4
    else return .lit n
  else
    let group := numeralIn 10 ds
    let r ← get
    if group < r.groups then
      if r.openGroups.contains group then fail .openGroupReference (ds.length + 1)
      checkLookBehind group
      return .again group
    else fail (.unknownGroup group) ds.length

/-- What an escape outside a set stands for. -/
def escapeNode (c : Char) : Read Node := do
  match anchorEscape? c, kindEscape? c with
  | some a, _ => return .anchor a
  | _, some (k, positive) => return .set true [.kind k positive]
  | _, _ =>
    match ← codeEscape? c with
    | some n => return .lit n
    | none =>
      if c = '0' then return .lit (numeralIn 8 (← takeWhileUpTo isOctal 2))
      else if c.isDigit then digitEscape c
      else if c.isAlpha then fail (.badEscape (Token.escaped c).text) 2
      else return .lit c.toNat

/-- What an escape inside a set stands for. -/
def setEscape (c : Char) : Read SetItem := do
  match kindEscape? c with
  | some (k, positive) => return .kind k positive
  | none =>
    match ← codeEscape? c with
    | some n => return .one n
    | none =>
      if c = 'b' then return .one 8
      else if isOctal c then
        let ds := c :: (← takeWhileUpTo isOctal 2)
        let n := numeralIn 8 ds
        if n > 255 then
          fail (.octalOutOfRange (String.ofList ('\\' :: ds))) (ds.length + 1)
        else return .one n
      else if c.isAlphanum then fail (.badEscape (Token.escaped c).text) 2
      else return .one c.toNat

def setMember (t : Token) : Read SetItem :=
  match t with
  | .plain c => return .one c.toNat
  | .escaped c => setEscape c

/-- The members of a set up to its closing bracket; `opened` places the opening one. A closing
bracket that comes first is a member. -/
def setItems (opened : Nat) : Nat → Bool → List SetItem → Read (List SetItem)
  | 0, _, _ => throw ⟨.unterminatedSet, some opened⟩
  | fuel + 1, started, items => do
    match ← take with
    | none => throw ⟨.unterminatedSet, some opened⟩
    | some this =>
      if this = .plain ']' && started then return items
      let first ← setMember this
      if ← accept '-' then
        match ← take with
        | none => throw ⟨.unterminatedSet, some opened⟩
        | some that =>
          if that = .plain ']' then return items ++ [first, .one '-'.toNat]
          match first, ← setMember that with
          | .one a, .one b =>
            if b < a then reversed this that
            else setItems opened fuel true (items ++ [.range a b])
          | _, _ => reversed this that
      else setItems opened fuel true (items ++ [first])
where
  reversed (this that : Token) : Read (List SetItem) :=
    fail (.badRange this.text that.text) (this.chars.length + 1 + that.chars.length)

/-- A set behind its opening bracket. A set of one code point is that code point. -/
def bracketSet : Read Node := do
  let opened := (← get).rest.length + 1
  let negative ← accept '^'
  let items ← setItems opened (opened + 1) false []
  match items.eraseDups, negative with
  | [.one n], false => return .lit n
  | [.one n], true => return .notLit n
  | members, _ => return .set (!negative) members

/-- The largest count a repetition may have. -/
def countLimit : Nat := 4294967295

/-- The count that digits write; none means zero. -/
def countOf (ds : List Char) : Read Nat := do
  if Text.digitLimit < ds.length then throw ⟨.countTooLong ds.length, none⟩
  let n := numeralIn 10 ds
  if countLimit ≤ n then throw ⟨.countTooLarge, none⟩
  return n

/-- The bounds of a repetition that begins with `c`; none if a brace is only a brace. -/
def bounds? (c : Char) : Read (Option (Nat × Option Nat)) := do
  match c with
  | '?' => return some (0, some 1)
  | '*' => return some (0, none)
  | '+' => return some (1, none)
  | _ =>
    let start ← get
    if (← peek) = some (.plain '\x7d') then return none
    let lo ← takeAll Char.isDigit
    let hi ← if ← accept ',' then takeAll Char.isDigit else pure lo
    if !(← accept '\x7d') then
      set start
      return none
    let least ← countOf lo
    if hi.isEmpty then return some (least, none)
    let most ← countOf hi
    if most < least then throw ⟨.boundsReversed, some start.rest.length⟩
    return some (least, some most)

/-- The mark behind a repetition that says which number of copies it prefers. -/
def greed : Read Greed := do
  if ← accept '?' then return .lazy
  if ← accept '+' then return .possessive
  return .greedy

/-- Puts a repetition on the last item. Items stand last first; `here` places the repetition. -/
def repeatLast (here : Nat) (least : Nat) (most : Option Nat) : List Node → Read (List Node)
  | [] | .anchor _ :: _ => throw ⟨.nothingToRepeat, some here⟩
  | .rep _ _ _ _ :: _ => throw ⟨.multipleRepeat, some here⟩
  | item :: items => do
    let body :=
      match item with
      | .scoped on off inner => if on = {} ∧ off = {} then inner else item
      | _ => item
    return .rep (← greed) least most body :: items

def checkName (name : String) : Read Unit := do
  if !Text.isName name then fail (.badGroupName name) (name.length + 1)

def openGroup (name : Option String) : Read Nat := do
  let r ← get
  let n := r.groups
  match name with
  | none => set { r with groups := n + 1, openGroups := n :: r.openGroups }
  | some name =>
    match r.names.lookup name with
    | some earlier =>
      fail (.duplicateGroup name n earlier) (name.length + 1)
    | none =>
      set { r with groups := n + 1, openGroups := n :: r.openGroups,
                   names := (name, n) :: r.names }
  return n

def closeGroup (n : Nat) (body : Node) : Read Unit :=
  modify fun r =>
    { r with
      openGroups := r.openGroups.filter (· != n)
      widths := (n, body.width r.widths) :: r.widths }

/-- A flag letter: the flag it sets, and whether it chooses the kind of characters. -/
def flag? : Char → Option (Flags × Bool)
  | 'i' => some ({ ignoreCase := true }, false)
  | 'm' => some ({ multiline := true }, false)
  | 's' => some ({ dotAll := true }, false)
  | 'x' => some ({ verbose := true }, false)
  | 'a' => some ({ ascii := true }, true)
  | 'u' => some ({ unicode := true }, true)
  | 'L' => some ({}, true)
  | 't' => some ({ template := true }, false)
  | _ => none

/-- How a list of flags goes on. -/
inductive FlagScope where
  | whole
  | group (on off : Flags)

/-- Flags to turn off, behind a minus sign. -/
def flagsOff (on : Flags) (letters : List Char) : Nat → Char → Flags → List Char → Read FlagScope
  | 0, _, _, _ => fail .unexpectedEnd 0
  | fuel + 1, c, off, seen => do
    match flag? c with
    | none => fail .unknownFlag 1
    | some (flag, kind) =>
      if kind then fail .kindFlagOff 0
      let off := off.union flag
      let seen := c :: seen
      match ← take with
      | none => fail (.expectedAfterFlags ":") 0
      | some (.plain ':') =>
        if seen.contains 't' then fail .globalFlagOff 1
        if seen.any letters.contains then fail .flagBothWays 1
        return .group on off
      | some (.plain d) =>
        if (flag? d).isSome then flagsOff on letters fuel d off seen
        else if Text.isLetter d then fail .unknownFlag 1
        else fail (.expectedAfterFlags ":") 1
      | some (.escaped _) => fail (.expectedAfterFlags ":") 2

/-- What follows the flags that are turned on. -/
def flagsEnd (on : Flags) (letters : List Char) (c : Char) : Read FlagScope := do
  if c = ')' then
    modify fun r => { r with flags := r.flags.union on }
    return .whole
  if letters.contains 't' then fail .globalFlagOn 1
  if c = '-' then
    match ← take with
    | none => fail (.expectedAfterFlags "flag") 0
    | some (.plain d) =>
      if (flag? d).isSome then flagsOff on letters ((← get).rest.length + 1) d {} []
      else if Text.isLetter d then fail .unknownFlag 1
      else fail (.expectedAfterFlags "flag") 1
    | some (.escaped _) => fail (.expectedAfterFlags "flag") 2
  else return .group on {}

/-- Flags to turn on, the letter `c` first. -/
def flagsOn : Nat → Char → Flags → List Char → Read FlagScope
  | 0, _, _, _ => fail .unexpectedEnd 0
  | fuel + 1, c, on, letters => do
    match flag? c with
    | none => fail .unknownFlag 1
    | some (flag, kind) =>
      if c = 'L' then fail .localeFlag 0
      if kind && letters.any (fun l => (l == 'a' || l == 'u') && l != c) then fail .mixedFlags 0
      let on := on.union flag
      let letters := c :: letters
      match ← take with
      | none => fail (.expectedAfterFlags "-, : or )") 0
      | some (.plain d) =>
        if d = ')' || d = '-' || d = ':' then flagsEnd on letters d
        else if (flag? d).isSome then flagsOn fuel d on letters
        else if Text.isLetter d then fail .unknownFlag 1
        else fail (.expectedAfterFlags "-, : or )") 1
      | some (.escaped _) => fail (.expectedAfterFlags "-, : or )") 2

def flagList (c : Char) : Read FlagScope := do
  if c = '-' then flagsEnd {} [] '-'
  else flagsOn ((← get).rest.length + 1) c {} []

/-- A comment up to its closing parenthesis. -/
def skipComment (opened : Nat) : Nat → Read Unit
  | 0 => throw ⟨.unterminatedComment, some opened⟩
  | fuel + 1 => do
    match ← take with
    | none => throw ⟨.unterminatedComment, some opened⟩
    | some t => if t = .plain ')' then return () else skipComment opened fuel

/-- A line comment of a verbose pattern. -/
def skipLine : Nat → Read Unit
  | 0 => return ()
  | fuel + 1 => do
    match ← take with
    | none => return ()
    | some t => if t = .plain '\n' then return () else skipLine fuel

/-- What stands behind an opening parenthesis, before the body of the group. -/
inductive Opening where
  | capture (name : Option String)
  | plain
  | scoped (on off : Flags)
  | atomic
  | look (ahead positive : Bool)
  | condition (group : Nat)
  /-- Complete already: a comment, flags for the whole pattern. -/
  | nothing
  /-- Complete already: a reference. -/
  | item (n : Node)

/-- A whole number as people write it: blanks around it, a sign, and underscores between digits are
allowed. -/
def wholeNumber? (s : String) : Option Int :=
  let cs := ((s.toList.dropWhile Text.isBlank).reverse.dropWhile Text.isBlank).reverse
  let (negative, body) :=
    match cs with
    | '-' :: rest => (true, rest)
    | '+' :: rest => (false, rest)
    | rest => (false, rest)
  let runs := body.splitOn '_'
  let ds := runs.flatten
  if runs.any (·.isEmpty) || !ds.all Text.isDigit || Text.digitLimit < ds.length then none
  else
    let n : Int := Text.decimalValue ds
    some (if negative then -n else n)

/-- The least number that no group can have. -/
def groupLimit : Nat := 1073741823

/-- A group named in a condition, by name or by number. -/
def conditionGroup : Read Nat := do
  let name ← nameUntil ')' "group name"
  let offset := name.length + 1
  let group : Nat ←
    if Text.isName name then
      match (← get).names.lookup name with
      | none => fail (.unknownGroupName name) offset
      | some n => pure n
    else
      match wholeNumber? name with
      | none | some (.negSucc _) => fail (.badGroupName name) offset
      | some (.ofNat n) =>
        if n = 0 then fail .badGroupNumber offset
        if groupLimit ≤ n then fail (.unknownGroup n) offset
        let place := (← get).rest.length + offset
        modify fun r => { r with conditions := r.conditions ++ [(n, place)] }
        pure n
  checkLookBehind group
  return group

/-- The opening of a group behind `(?`. `opened` places the parenthesis, `initial` says that nothing
stands before it. -/
def extension (opened : Nat) (initial : Bool) : Read Opening := do
  match ← take with
  | none => fail .unexpectedEnd 0
  | some (.escaped c) => fail (.unknownExtension ("?" ++ (Token.escaped c).text)) 3
  | some (.plain c) =>
    match c with
    | 'P' =>
      if ← accept '<' then
        let name ← nameUntil '>' "group name"
        checkName name
        return .capture (some name)
      else if ← accept '=' then
        let name ← nameUntil ')' "group name"
        checkName name
        let r ← get
        match r.names.lookup name with
        | none => fail (.unknownGroupName name) (name.length + 1)
        | some n =>
          if r.openGroups.contains n then fail .openGroupReference (name.length + 1)
          checkLookBehind n
          return .item (.again n)
      else
        match ← take with
        | none => fail .unexpectedEnd 0
        | some t => fail (.unknownExtension ("?P" ++ t.text)) (t.chars.length + 2)
    | ':' => return .plain
    | '>' => return .atomic
    | '#' =>
      skipComment opened ((← get).rest.length + 1)
      return .nothing
    | '=' => return .look true true
    | '!' => return .look true false
    | '<' =>
      match ← take with
      | none => fail .unexpectedEnd 0
      | some (.plain '=') => return .look false true
      | some (.plain '!') => return .look false false
      | some t => fail (.unknownExtension ("?<" ++ t.text)) (t.chars.length + 2)
    | '(' =>
      return .condition (← conditionGroup)
    | _ =>
      if c = '-' || (flag? c).isSome then
        match ← flagList c with
        | .whole =>
          if !initial then throw ⟨.lateFlags, some opened⟩
          return .nothing
        | .group on off => return .scoped on off
      else fail (.unknownExtension ("?" ++ String.singleton c)) 2

def opening (opened : Nat) (initial : Bool) : Read Opening := do
  if ← accept '?' then extension opened initial else return .capture none

def closeParen (opened : Nat) : Read Unit := do
  if !(← accept ')') then throw ⟨.unterminatedGroup, some opened⟩

def isVerboseBlank (c : Char) : Bool := (9 ≤ c.toNat && c.toNat ≤ 13) || c == ' '

/-- The items of a sequence that are read last first. A group that neither captures nor sets a flag
is no more than its items. -/
def unpacked (items : List Node) : List Node :=
  items.reverse.flatMap fun item =>
    match item with
    | .scoped on off body => if on = {} ∧ off = {} then body.items else [item]
    | _ => [item]

/-- Items that are the same wherever they are written alike. -/
def Node.isPlain : Node → Bool
  | .any | .lit _ | .notLit _ | .set _ _ | .anchor _ | .again _ => true
  | _ => false

/-- What all alternatives begin with, and what is left of the first and of the others. -/
def sharedStart : List Node → List (List Node) → List Node × List Node × List (List Node)
  | [], others => ([], [], others)
  | n :: ns, others =>
    if n.isPlain && others.all (·.head? == some n) then
      let (shared, first, rest) := sharedStart ns (others.map List.tail)
      (n :: shared, first, rest)
    else ([], n :: ns, others)

/-- The members of a set that an alternative of one character is. -/
def members? : List Node → Option (List SetItem)
  | [.lit n] => some [.one n]
  | [.set true items] => some items
  | _ => none

/-- Alternatives as one sequence. What they all begin with stands in front, and alternatives of one
character are a set. -/
def joined (first : List Node) : List (List Node) → List Node
  | [] => first
  | second :: others =>
    let (shared, first, others) := sharedStart first (second :: others)
    let choice :=
      match (first :: others).mapM members? with
      | some items => .set true items.flatten.eraseDups
      | none => .ofAlternatives (.ofList first) (others.map .ofList)
    shared ++ [choice]

mutual

/-- Alternatives, up to a closing parenthesis or the end, as one tree. -/
def choices (nested verbose : Bool) : Nat → Read Node
  | 0 => fail .unexpectedEnd 0
  | fuel + 1 => do
    let first ← sequence (!nested) verbose [] fuel
    return .ofList (joined first (← alternatives nested verbose fuel))

/-- The alternatives behind the first. The flags of the whole pattern can change how the later
alternatives of the outermost level are read. -/
def alternatives (nested verbose : Bool) : Nat → Read (List (List Node))
  | 0 => fail .unexpectedEnd 0
  | fuel + 1 => do
    if ← accept '|' then
      let whole := (← get).flags
      let verbose := if nested then verbose else whole.verbose
      let items ← sequence false verbose [] fuel
      return items :: (← alternatives nested verbose fuel)
    else return []

/-- The items of one alternative; `items` are those read so far, last first. -/
def sequence (initial verbose : Bool) (items : List Node) : Nat → Read (List Node)
  | 0 => fail .unexpectedEnd 0
  | fuel + 1 => do
    match ← peek with
    | none => return unpacked items
    | some (.escaped c) =>
      advance
      let node ← escapeNode c
      sequence initial verbose (node :: items) fuel
    | some (.plain c) =>
      if c = '|' || c = ')' then return unpacked items
      advance
      if verbose && isVerboseBlank c then sequence initial verbose items fuel
      else if verbose && c = '#' then
        skipLine ((← get).rest.length + 1)
        sequence initial verbose items fuel
      else
        match c with
        | '.' => sequence initial verbose (.any :: items) fuel
        | '^' => sequence initial verbose (.anchor .lineStart :: items) fuel
        | '$' => sequence initial verbose (.anchor .lineEnd :: items) fuel
        | '[' =>
          let node ← bracketSet
          sequence initial verbose (node :: items) fuel
        | '(' =>
          let opened := (← get).rest.length + 1
          match ← opening opened (initial && items.isEmpty) with
          | .nothing =>
            let whole := (← get).flags
            let verbose := verbose || (initial && whole.verbose)
            sequence initial verbose items fuel
          | .item node => sequence initial verbose (node :: items) fuel
          | .capture name =>
            let n ← openGroup name
            let body ← choices true verbose fuel
            closeParen opened
            closeGroup n body
            sequence initial verbose (.capture n body :: items) fuel
          | .plain =>
            let body ← choices true verbose fuel
            closeParen opened
            sequence initial verbose (.scoped {} {} body :: items) fuel
          | .scoped on off =>
            let inner := (verbose || on.verbose) && !off.verbose
            let body ← choices true inner fuel
            closeParen opened
            sequence initial verbose (.scoped on off body :: items) fuel
          | .atomic =>
            let body ← choices true verbose fuel
            closeParen opened
            sequence initial verbose (.atomic body :: items) fuel
          | .look true positive =>
            let body ← choices true verbose fuel
            closeParen opened
            sequence initial verbose (.ahead positive body :: items) fuel
          | .look false positive =>
            let outer := (← get).lookBehind
            modify fun r => { r with lookBehind := outer.getD r.groups }
            let body ← choices true verbose fuel
            modify fun r => { r with lookBehind := outer }
            closeParen opened
            let width := body.width (← get).widths
            sequence initial verbose (.behind positive width body :: items) fuel
          | .condition group =>
            let yes ← sequence false verbose [] fuel
            let no ←
              if ← accept '|' then
                let items ← sequence false verbose [] fuel
                if (← peek) = some (.plain '|') then fail .tooManyBranches 0
                pure items
              else pure []
            closeParen opened
            sequence initial verbose (.ifHeld group (.ofList yes) (.ofList no) :: items) fuel
        | _ =>
          if c = '*' || c = '+' || c = '?' || c = '\x7b' then
            let here := (← get).rest.length + 1
            match ← bounds? c with
            | none => sequence initial verbose (.lit c.toNat :: items) fuel
            | some (least, most) =>
              let items ← repeatLast here least most items
              sequence initial verbose items fuel
          else sequence initial verbose (.lit c.toNat :: items) fuel

end

/-- Whether a width is fixed. From `countLimit` on widths are not told apart. -/
def Width.isFixed (w : Width) : Bool := w.most == some w.least && w.least < countLimit

/-- The first part of a tree that cannot be used: a repetition where none is allowed, or a look
behind whose width is not fixed. -/
def Node.flaw? (template : Bool) : Node → Option Flaw
  | .empty | .any | .lit _ | .notLit _ | .set _ _ | .anchor _ | .again _ => none
  | .seq a b | .alt a b | .ifHeld _ a b => a.flaw? template <|> b.flaw? template
  | .rep greed _ _ body => if template then some (.noRepetition greed) else body.flaw? template
  | .capture _ body | .atomic body | .ahead _ body | .scoped _ _ body => body.flaw? template
  | .behind _ width body =>
    if width.isFixed then body.flaw? template else some .variableLookBehind

/-- The width from which on nothing can look behind. -/
def lookBehindLimit : Nat := 2147483648

/-- Whether a tree looks too far behind. -/
def Node.looksTooFar : Node → Bool
  | .empty | .any | .lit _ | .notLit _ | .set _ _ | .anchor _ | .again _ => false
  | .seq a b | .alt a b | .ifHeld _ a b => a.looksTooFar || b.looksTooFar
  | .rep _ _ _ body | .capture _ body | .atomic body | .ahead _ body | .scoped _ _ body =>
    body.looksTooFar
  | .behind _ width body => lookBehindLimit ≤ width.least || body.looksTooFar

/-- The whole pattern: all text must be used, and conditions must name groups that exist. -/
def wholePattern (verbose : Bool) : Read Node := do
  let fuel := 2 * (← get).rest.length + 3
  if (← get).rest = ['\\'] then throw ⟨.danglingEscape, some 1⟩
  let node ← choices false verbose fuel
  let r ← get
  if r.flags.ascii && r.flags.unicode then throw ⟨.clashingFlags, none⟩
  if !r.rest.isEmpty then fail .unbalanced 0
  match r.conditions.find? fun (n, _) => r.groups ≤ n with
  | some (n, place) => throw ⟨.unknownGroup n, some place⟩
  | none => pure ()
  match node.flaw? r.flags.template with
  | some flaw => throw ⟨flaw, none⟩
  | none => if node.looksTooFar then throw ⟨.wideLookBehind, none⟩ else return node

end Shopwalk.Pattern

namespace Shopwalk

/-- Reads the text of a pattern. -/
def Pattern.parse (source : String) (flags : Pattern.Flags) : Except Pattern.Defect Pattern :=
  let start : Pattern.Reader :=
    { rest := source.toList, flags, groups := 1, openGroups := [], names := [], widths := [],
      lookBehind := none, conditions := [] }
  match (Pattern.wholePattern flags.verbose).run start with
  | .ok node r => .ok ⟨source, r.flags, node⟩
  | .error d _ => .error d

end Shopwalk
