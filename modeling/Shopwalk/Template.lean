import Shopwalk.Template.Thing

/-!
Templates: texts with placeholders between braces, which are filled from left to right.

A placeholder has a name, then steps into what the name stands for, then a conversion behind an
exclamation mark, and then a format behind a colon, which may have placeholders of its own. Doubled
braces are single ones.
-/

namespace Shopwalk.Template

structure Field where
  name : List Char
  conversion : Option Char
  format : List Char
  deriving DecidableEq, Repr

/-- A name up to its end, what ended it, and the rest. Between brackets everything is part of it. -/
def fieldName : Bool → List Char → Except Flaw (List Char × Char × List Char)
  | _, [] => .error .unclosed
  | inside, c :: cs =>
    if !inside && (c = '\x7d' || c = ':' || c = '!') then .ok ([], c, cs)
    else if !inside && c = '\x7b' then .error .braceInName
    else do
      let (name, stop, rest) ← fieldName (if inside then c != ']' else c == '[') cs
      return (c :: name, stop, rest)

/-- A format up to the brace that closes its placeholder; `depth` braces are open. -/
def fieldFormat (depth : Nat) : List Char → Except Flaw (List Char × List Char)
  | [] => .error .unclosedSpec
  | c :: cs =>
    if c = '\x7d' && depth = 0 then .ok ([], cs)
    else do
      let depth := if c = '\x7b' then depth + 1 else if c = '\x7d' then depth - 1 else depth
      let (format, rest) ← fieldFormat depth cs
      return (c :: format, rest)

/-- A placeholder behind its opening brace, and the rest. -/
def field (cs : List Char) : Except Flaw (Field × List Char) := do
  let (name, stop, rest) ← fieldName false cs
  let formatted (conversion : Option Char) (cs : List Char) : Except Flaw (Field × List Char) := do
    let (format, rest) ← fieldFormat 0 cs
    return (⟨name, conversion, format⟩, rest)
  if stop = ':' then formatted none rest
  else if stop = '!' then
    match rest with
    | [] => .error .noConversion
    | [c] => formatted (some c) []
    | c :: d :: rest =>
      if d = '\x7d' then return (⟨name, some c, []⟩, rest)
      else if d = ':' then formatted (some c) rest
      else .error .afterConversion
  else return (⟨name, none, []⟩, rest)

/-- What comes next: plain text, a placeholder behind it if there is one, and the rest. -/
def next (cs : List Char) : Except Flaw (List Char × Option Field × List Char) :=
  let plain := cs.takeWhile fun c => c != '\x7b' && c != '\x7d'
  match cs.drop plain.length with
  | [] => .ok (plain, none, [])
  | c :: d :: rest =>
    if c = d then .ok (plain ++ [c], none, rest)
    else if c = '\x7d' then .error (.loneBrace c)
    else do
      let (f, rest) ← field (d :: rest)
      return (plain, some f, rest)
  | [c] => .error (.loneBrace c)

/-- Whether a template can be read from end to end. -/
def check : Nat → List Char → Except Flaw Unit
  | 0, _ => .ok ()
  | fuel + 1, cs =>
    match next cs with
    | .error e => .error e
    | .ok (_, _, []) => .ok ()
    | .ok (_, _, rest) => check fuel rest

/-- A text as a number, if it is one. -/
def number? (cs : List Char) : Except Flaw (Option Nat) := do
  let (n, rest) ← numeral 0 cs
  return if rest.isEmpty && !cs.isEmpty then some n else none

/-- Steps from a thing to another: to what it has under a name behind a point, or to what stands at
a place between brackets. -/
def stepInto : Nat → Thing → List Char → Except Fault Thing
  | 0, t, _ => .ok t
  | _, t, [] => .ok t
  | fuel + 1, t, '.' :: cs => do
    let name := cs.takeWhile fun c => c != '.' && c != '['
    if name.isEmpty then throw (.badTemplate .emptyStep)
    stepInto fuel (← t.member (String.ofList name)) (cs.drop name.length)
  | fuel + 1, t, '[' :: cs =>
    let index := cs.takeWhile (· != ']')
    match number? index with
    | .error e => .error (.badTemplate e)
    | .ok n => do
      if index.isEmpty then throw (.badTemplate .emptyStep)
      stepInto fuel (← t.item index n) (cs.drop (index.length + 1))
  | _, _, _ => .error (.badTemplate .afterIndex)

/-- What a placeholder stands for among the known names. -/
def meaning (known : List (String × Thing)) (name : List Char) : Except Fault Thing :=
  let first := name.takeWhile fun c => c != '.' && c != '['
  match number? first with
  | .error e => .error (.badTemplate e)
  | .ok n =>
    if first.isEmpty || n.isSome then .error (.badTemplate .unnamed)
    else
      match known.lookup (String.ofList first) with
      | none => .error (.placeholder (String.ofList first))
      | some t => stepInto name.length t (name.drop first.length)

/-- Fills the placeholders in turn; `expand` fills a format. -/
def fillWith (known : List (String × Thing)) (expand : List Char → Except Fault (List Char)) :
    Nat → List Char → Except Fault (List Char)
  | 0, _ => .ok []
  | fuel + 1, cs =>
    match next cs with
    | .error e => .error (.badTemplate e)
    | .ok (plain, f, rest) => do
      let filled ←
        match f with
        | none => pure []
        | some f => do
          let t ← meaning known f.name
          let t ←
            match f.conversion with
            | none => pure t
            | some c => t.converted c
          let format ← if f.format.contains '\x7b' then expand f.format else pure f.format
          t.write format
      if rest.isEmpty then return plain ++ filled
      else return plain ++ filled ++ (← fillWith known expand fuel rest)

/-- Fills a template whose formats have placeholders of their own up to some depth. -/
def fill (known : List (String × Thing)) : Nat → List Char → Except Fault (List Char)
  | 0, _ => .error (.badTemplate .tooDeep)
  | depth + 1, cs => fillWith known (fill known depth) (cs.length + 1) cs

end Shopwalk.Template
