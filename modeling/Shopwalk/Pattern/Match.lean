import Shopwalk.Pattern.Chars

/-!
Searching a text for a pattern.

A matcher starts at a place in the text and tries the ways in which its part of the pattern can
match there, in order of preference, until one is found with which the rest of the pattern matches,
too. What the groups hold is part of the state that is handed on, so that a way that is given up
leaves no trace.
-/

namespace Shopwalk.Pattern

/-- Where a group was opened last and where it was closed last. -/
structure Span where
  opened : Nat
  closed : Option Nat
  deriving DecidableEq, Repr

/-- The spans of the groups that have been opened. -/
abbrev Captures := List (Nat × Span)

namespace Captures

def insert (cs : Captures) (group : Nat) (span : Span) : Captures :=
  (group, span) :: cs.filter (·.1 != group)

def start (cs : Captures) (group place : Nat) : Captures :=
  cs.insert group ⟨place, (cs.lookup group).bind (·.closed)⟩

def finish (cs : Captures) (group place : Nat) : Captures :=
  match cs.lookup group with
  | none => cs
  | some span => cs.insert group { span with closed := some place }

/-- Start and end of the text that a group holds. A group that has been opened again behind its last
end holds none. -/
def held? (cs : Captures) (group : Nat) : Option (Nat × Nat) := do
  let span ← cs.lookup group
  let stop ← span.closed
  if span.opened ≤ stop then return (span.opened, stop) else none

end Captures

/-- Where a match ended and what its groups hold. -/
abbrev Outcome := Option (Nat × Captures)

/-- What follows: from a place and the captures so far to the outcome of the whole. -/
abbrev Rest := Nat → Captures → Outcome

structure Matcher where
  run : Rest → Nat → Captures → Outcome

/-- Where the characters from `i` on stop passing a test, at most `limit` characters further. -/
def runEnd (text : Array Letter) (test : CharTest) : Nat → Nat → Nat
  | 0, i => i
  | limit + 1, i =>
    match text[i]? with
    | none => i
    | some c => if test.has c then runEnd text test limit (i + 1) else i

/-- Whether the rest can match at `i`, if it begins with a character that passes a test. -/
@[inline] def mayFollow (text : Array Letter) (next : Option CharTest) (i : Nat) : Bool :=
  match next with
  | none => true
  | some test =>
    match text[i]? with
    | none => false
    | some c => test.has c

@[simp] theorem mayFollow_none (text : Array Letter) (i : Nat) : mayFollow text none i = true := rfl

/-- The rest at `i + n`, or else with one character less, down to `i`. -/
@[specialize] def downFrom (k : Rest) (cs : Captures) (i : Nat) : Nat → Outcome
  | 0 => k i cs
  | n + 1 =>
    match k (i + n + 1) cs with
    | some r => some r
    | none => downFrom k cs i n

/-- The rest at `i`, or else with one character more, `n` times. -/
@[specialize] def upFrom (k : Rest) (cs : Captures) : Nat → Nat → Outcome
  | 0, i => k i cs
  | n + 1, i =>
    match k i cs with
    | some r => some r
    | none => upFrom k cs n (i + 1)

namespace Matcher

/-- One character that passes a test. -/
def char (text : Array Letter) (test : CharTest) : Matcher where
  run k i cs :=
    match text[i]? with
    | none => none
    | some c => if test.has c then k (i + 1) cs else none

/-- Copies of an item that stands for one character. The rest is tried only where its first
character passes the test `next`. -/
def chars (text : Array Letter) (test : CharTest) (greed : Greed) (least : Nat) (most : Option Nat)
    (next : Option CharTest) : Matcher where
  run k i cs :=
    let left := text.size - i
    let n := runEnd text test (min left (most.getD left)) i - i
    if n < least then none
    else
      match greed with
      | .greedy =>
        downFrom (fun j ds => if mayFollow text next j then k j ds else none) cs (i + least)
          (n - least)
      | .lazy =>
        upFrom (fun j ds => if mayFollow text next j then k j ds else none) cs (n - least)
          (i + least)
      | .possessive => k (i + n) cs

/-- The first match alone. -/
def first (m : Matcher) (i : Nat) (cs : Captures) : Outcome := m.run (fun j ds => some (j, ds)) i cs

/-- Exactly `n` copies. -/
def copies (m : Matcher) (k : Rest) : Nat → Nat → Captures → Outcome
  | 0, i, cs => k i cs
  | n + 1, i, cs => m.run (fun j ds => m.copies k n j ds) i cs

/-- At most `n` copies, many before few. A copy may be empty, but no other follows it; `last` is
where the copy before began. -/
def many (m : Matcher) (k : Rest) : Nat → Option Nat → Nat → Captures → Outcome
  | 0, _, i, cs => k i cs
  | n + 1, last, i, cs =>
    if last = some i then k i cs
    else
      match m.run (fun j ds => m.many k n (some i) j ds) i cs with
      | some r => some r
      | none => k i cs

/-- At most `n` copies, few before many; see `many`. -/
def few (m : Matcher) (k : Rest) : Nat → Option Nat → Nat → Captures → Outcome
  | 0, _, i, cs => k i cs
  | n + 1, last, i, cs =>
    match k i cs with
    | some r => some r
    | none => if last = some i then none else m.run (fun j ds => m.few k n (some i) j ds) i cs

/-- Exactly `n` copies, each with its first match alone. -/
def firsts (m : Matcher) (k : Rest) : Nat → Nat → Captures → Outcome
  | 0, i, cs => k i cs
  | n + 1, i, cs =>
    match m.first i cs with
    | none => none
    | some (j, ds) => m.firsts k n j ds

/-- As many copies as there are, at most `n`, each with its first match alone. -/
def allFirsts (m : Matcher) (k : Rest) : Nat → Nat → Captures → Outcome
  | 0, i, cs => k i cs
  | n + 1, i, cs =>
    match m.first i cs with
    | none => k i cs
    | some (j, ds) => if j = i then k j ds else m.allFirsts k n j ds

/-- Copies of a part. Every copy but the last takes a character, so that no more are needed than
there are characters left, and one. -/
def repeated (text : Array Letter) (m : Matcher) (greed : Greed) (least : Nat) (most : Option Nat) :
    Matcher where
  run k i cs :=
    let more (j : Nat) : Nat :=
      let enough := text.size - j + 1
      match most with
      | none => enough
      | some n => min (n - least) enough
    match greed with
    | .greedy => m.copies (fun j ds => m.many k (more j) none j ds) least i cs
    | .lazy => m.copies (fun j ds => m.few k (more j) none j ds) least i cs
    | .possessive => m.firsts (fun j ds => m.allFirsts k (more j) j ds) least i cs

end Matcher

def wordAt (text : Array Letter) (f : Flags) (i : Nat) : Bool :=
  match text[i]? with
  | none => false
  | some x => CharKind.word.has f.ascii x.char

def wordBefore (text : Array Letter) (f : Flags) (i : Nat) : Bool := 0 < i && wordAt text f (i - 1)

def isBreak (text : Array Letter) (i : Nat) : Bool :=
  match text[i]? with
  | none => false
  | some x => x.char == '\n'

/-- A line ends at the end of the text, and before a line break that ends the text. -/
def Anchor.holds (text : Array Letter) (f : Flags) (i : Nat) : Anchor → Bool
  | .textStart => i == 0
  | .textEnd => i == text.size
  | .lineStart => i == 0 || (f.multiline && isBreak text (i - 1))
  | .lineEnd =>
    i == text.size || (isBreak text i && (i + 1 == text.size || f.multiline))
  | .boundary => text.size != 0 && wordBefore text f i != wordAt text f i
  | .notBoundary => text.size != 0 && wordBefore text f i == wordAt text f i

/-- Whether the `n` characters from `i` on stand again at `j`. -/
def standsAgain (text : Array Letter) (f : Flags) : Nat → Nat → Nat → Bool
  | 0, _, _ => true
  | n + 1, i, j =>
    match text[i]?, text[j]? with
    | some a, some b =>
      f.lowered a == f.lowered b && standsAgain text f n (i + 1) (j + 1)
    | _, _ => false

/-- The ways in which a tree matches in a text. If the rest begins with a character, `next` is the
test that it passes. -/
def Node.matcher (text : Array Letter) : Node → Flags → Option CharTest → Matcher
  | .empty, _, _ => ⟨fun k i cs => k i cs⟩
  | .any, f, _ => .char text (anyTest f)
  | .lit code, f, _ => .char text (codeTest f true code)
  | .notLit code, f, _ => .char text (codeTest f false code)
  | .set positive items, f, _ => .char text (setTest f positive items)
  | .anchor a, f, _ => ⟨fun k i cs => if a.holds text f i then k i cs else none⟩
  | .seq a b, f, next =>
    let m := a.matcher text f (b.firstTest? f)
    let n := b.matcher text f next
    ⟨fun k i cs => m.run (fun j ds => n.run k j ds) i cs⟩
  | .alt a b, f, next =>
    let m := a.matcher text f next
    let n := b.matcher text f next
    ⟨fun k i cs =>
      match m.run k i cs with
      | some r => some r
      | none => n.run k i cs⟩
  | .rep greed least most body, f, next =>
    match body.test? f with
    | some test => .chars text test greed least most next
    | none => .repeated text (body.matcher text f none) greed least most
  | .capture group body, f, next =>
    let m := body.matcher text f next
    ⟨fun k i cs => m.run (fun j ds => k j (ds.finish group j)) i (cs.start group i)⟩
  | .atomic body, f, _ =>
    let m := body.matcher text f none
    ⟨fun k i cs =>
      match m.first i cs with
      | none => none
      | some (j, ds) => k j ds⟩
  | .again group, f, _ =>
    ⟨fun k i cs =>
      match cs.held? group with
      | none => none
      | some (start, stop) =>
        if standsAgain text f (stop - start) start i then k (i + (stop - start)) cs else none⟩
  | .ifHeld group yes no, f, next =>
    let m := yes.matcher text f next
    let n := no.matcher text f next
    ⟨fun k i cs => if (cs.held? group).isSome then m.run k i cs else n.run k i cs⟩
  | .ahead positive body, f, _ =>
    let m := body.matcher text f none
    ⟨fun k i cs =>
      match m.first i cs, positive with
      | some (_, ds), true => k i ds
      | none, false => k i cs
      | _, _ => none⟩
  | .behind positive width body, f, _ =>
    let m := body.matcher text f none
    ⟨fun k i cs =>
      match (if i < width.least then none else m.first (i - width.least) cs), positive with
      | some (_, ds), true => k i ds
      | none, false => k i cs
      | _, _ => none⟩
  | .scoped on off body, f, next => body.matcher text (f.within on off) next

/-- Whether a tree begins with any number of any characters. Then what it matches from a place it
also matches from the start of that line. -/
def Node.beginsAnywhere : Node → Bool
  | .seq a _ => a.beginsAnywhere
  | .rep .greedy 0 none .any | .rep .lazy 0 none .any => true
  | _ => false

/-- Whether a match has to be looked for at a place. -/
def Node.mayStart (text : Array Letter) (f : Flags) (n : Node) (i : Nat) : Bool :=
  i == 0 || !n.beginsAnywhere || (!f.dotAll && isBreak text (i - 1))

/-- Whether there is a match that starts at `i` or at one of the `n` places behind it. -/
def Matcher.foundFrom (m : Matcher) (mayStart : Nat → Bool) : Nat → Nat → Bool
  | 0, i => mayStart i && (m.first i []).isSome
  | n + 1, i => mayStart i && (m.first i []).isSome || m.foundFrom mayStart n (i + 1)

end Shopwalk.Pattern
