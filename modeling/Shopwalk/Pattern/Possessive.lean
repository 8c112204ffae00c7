import Shopwalk.Pattern.Match

/-!
Searching for patterns of every kind, also for those that repeat a part of several characters with
no way back.

In a pattern of that kind a way that is given up leaves traces. Groups keep what they took on it,
except that inside an ordinary repetition they get back what they held. And when a copy fails, what
follows goes on from the place where the copy was tried last, which need not be where it began.
-/

namespace Shopwalk.Pattern

/-- What a search leaves behind: the places where groups were opened and closed, by mark, how many
marks count, and the place of the last try. Group `n` has the marks `2 * n - 2` and `2 * n - 1`. -/
structure Trace where
  marks : List (Nat × Nat) := []
  count : Nat := 0
  place : Nat := 0

namespace Trace

def moved (t : Trace) (place : Nat) : Trace := { t with place }

/-- Sets a mark. Marks that did not count any more are gone for good when a later one is set. -/
def put (t : Trace) (mark place : Nat) : Trace :=
  let kept := t.marks.filter fun m => m.1 != mark && (mark < t.count || m.1 < t.count)
  { t with marks := (mark, place) :: kept, count := max t.count (mark + 1) }

/-- Start and end of the text that a group holds. -/
def held? (t : Trace) (group : Nat) : Option (Nat × Nat) := do
  let start ← t.marks.lookup (2 * group - 2)
  let stop ← t.marks.lookup (2 * group - 1)
  if 2 * group ≤ t.count && start ≤ stop then return (start, stop) else none

/-- What is left of a way that was given up: as many marks count as before it. -/
def retreat (before after : Trace) (restores : Bool) : Trace :=
  { marks := if restores then before.marks else after.marks
    count := before.count
    place := after.place }

end Trace

/-- The trace at the end of a match, or the trace of a failure. -/
abbrev Traced := Except Trace Trace

/-- What follows: from a place and the trace so far to the outcome of the whole. -/
abbrev TracedRest := Nat → Trace → Traced

structure Tracer where
  run : TracedRest → Nat → Trace → Traced

/-- What a tree begins with, as far as it is looked at before the tree is tried. -/
inductive Beginning where
  | nothing
  | letter (test : CharTest)
  | oneOf (test : CharTest)
  | other

def Node.beginning (f : Flags) : Node → Beginning
  | .empty => .nothing
  | .lit code =>
    if f.ignoreCase && (SetItem.one code).hasCase f then .other
    else .letter (codeTest f true code)
  | .set positive items =>
    if f.ignoreCase && items.any (fun it => it.isLong || it.hasCase f) then .other
    else .oneOf (setTest f positive items)
  | .seq a b =>
    match a.beginning f with
    | .nothing => b.beginning f
    | o => o
  | .scoped on off body => body.beginning (f.within on off)
  | _ => .other

/-- Whether a way is worth a try at a place. -/
def Beginning.admits (text : Array Letter) (i : Nat) : Beginning → Bool
  | .letter test | .oneOf test =>
    match text[i]? with
    | none => false
    | some c => test.has c
  | _ => true

/-- Only a letter is looked for behind a run of characters. -/
def Beginning.onlyLetter : Beginning → Beginning
  | .letter test => .letter test
  | _ => .other

/-- A rest that is tried where it is worth a try. -/
def tried (text : Array Letter) (beginning : Beginning) (k : TracedRest) (i : Nat) (t : Trace) :
    Traced :=
  if beginning.admits text i then k i (t.moved i) else .error t

/-- As `downFrom`, with traces. -/
def tracedDown (k : TracedRest) (restores : Bool) (i : Nat) : Nat → Trace → Traced
  | 0, t =>
    match k i t with
    | .ok r => .ok r
    | .error u => .error (t.retreat u restores)
  | n + 1, t =>
    match k (i + n + 1) t with
    | .ok r => .ok r
    | .error u => tracedDown k restores i n (t.retreat u restores)

/-- As `upFrom`, with traces. -/
def tracedUp (k : TracedRest) (restores : Bool) : Nat → Nat → Trace → Traced
  | 0, i, t =>
    match k i (t.moved i) with
    | .ok r => .ok r
    | .error u => .error ((t.retreat u restores).moved i)
  | n + 1, i, t =>
    match k i (t.moved i) with
    | .ok r => .ok r
    | .error u => tracedUp k restores n (i + 1) ((t.retreat u restores).moved i)

namespace Tracer

def char (text : Array Letter) (test : CharTest) : Tracer where
  run k i t :=
    match text[i]? with
    | none => .error t
    | some c => if test.has c then k (i + 1) t else .error t

/-- Copies of an item that stands for one character. -/
def chars (text : Array Letter) (test : CharTest) (greed : Greed) (least : Nat) (most : Option Nat)
    (restores : Bool) (next : Beginning) : Tracer where
  run k i t :=
    let left := text.size - i
    let n := runEnd text test (min left (most.getD left)) i - i
    if left < least then .error t
    else if n < least then .error (t.moved i)
    else
      match greed with
      | .greedy =>
        tracedDown (tried text next.onlyLetter k) restores (i + least) (n - least) (t.moved i)
      | .lazy => tracedUp k restores (n - least) (i + least) (t.moved i)
      | .possessive => k (i + n) (t.moved i)

/-- The first match alone. -/
def first (m : Tracer) (i : Nat) (t : Trace) : Traced :=
  m.run (fun j u => .ok (u.moved j)) i t

/-- A failure that goes back to where the part began. -/
def orBack (i : Nat) (result : Traced) : Traced :=
  match result with
  | .ok r => .ok r
  | .error u => .error (u.moved i)

/-- Exactly `n` copies. -/
def copies (m : Tracer) (k : TracedRest) : Nat → Nat → Trace → Traced
  | 0, i, t => k i t
  | n + 1, i, t => orBack i (m.run (fun j u => m.copies k n j u) i (t.moved i))

/-- At most `n` copies, many before few; see `Matcher.many`. -/
def many (m : Tracer) (k : TracedRest) : Nat → Option Nat → Nat → Trace → Traced
  | 0, _, i, t => orBack i (k i (t.moved i))
  | n + 1, last, i, t =>
    let t := t.moved i
    if last = some i then orBack i (k i t)
    else
      match m.run (fun j u => m.many k n (some i) j u) i t with
      | .ok r => .ok r
      | .error _ => orBack i (k i t)

/-- At most `n` copies, few before many; see `Matcher.few`. -/
def few (m : Tracer) (k : TracedRest) (restores : Bool) : Nat → Option Nat → Nat → Trace → Traced
  | 0, _, i, t =>
    let t := t.moved i
    match k i t with
    | .ok r => .ok r
    | .error u => .error ((t.retreat u restores).moved i)
  | n + 1, last, i, t =>
    let t := t.moved i
    match k i t with
    | .ok r => .ok r
    | .error u =>
      let t := (t.retreat u restores).moved i
      if last = some i then .error t
      else orBack i (m.run (fun j u => m.few k restores n (some i) j u) i t)

/-- Exactly `n` copies, each with its first match alone. -/
def firsts (m : Tracer) (k : TracedRest) (start : Nat) : Nat → Trace → Traced
  | 0, t => k t.place t
  | n + 1, t =>
    match m.first t.place t with
    | .ok u => m.firsts k start n u
    | .error u => .error (u.moved start)

/-- As many copies as there are, at most `n`, each with its first match alone. The copy that fails
takes no marks away, and what follows goes on from where that copy was tried last. -/
def allFirsts (m : Tracer) (k : TracedRest) : Nat → Trace → Traced
  | 0, t => k t.place t
  | n + 1, t =>
    match m.first t.place t with
    | .error u => k u.place (t.moved u.place)
    | .ok u => if u.place = t.place then k u.place u else m.allFirsts k n u

/-- Copies of a part; see `Matcher.repeated`. -/
def repeated (text : Array Letter) (m : Tracer) (greed : Greed) (least : Nat) (most : Option Nat)
    (restores : Bool) : Tracer where
  run k i t :=
    let more (j : Nat) : Nat :=
      let enough := text.size - j + 1
      match most with
      | none => enough
      | some n => min (n - least) enough
    match greed with
    | .greedy => m.copies (fun j u => m.many k (more j) none j u) least i (t.moved i)
    | .lazy => m.copies (fun j u => m.few k restores (more j) none j u) least i (t.moved i)
    | .possessive => m.firsts (fun j u => m.allFirsts k (more j) u) i least (t.moved i)

end Tracer

/-- The ways in which a tree matches in a text, with the traces that they leave. Groups get back
what they held if `restores` says so, and `next` is what the rest begins with. -/
def Node.tracer (text : Array Letter) : Node → Flags → Bool → Beginning → Tracer
  | .empty, _, _, _ => ⟨fun k i t => k i t⟩
  | .any, f, _, _ => .char text (anyTest f)
  | .lit code, f, _, _ => .char text (codeTest f true code)
  | .notLit code, f, _, _ => .char text (codeTest f false code)
  | .set positive items, f, _, _ => .char text (setTest f positive items)
  | .anchor a, f, _, _ => ⟨fun k i t => if a.holds text f i then k i t else .error t⟩
  | .seq a b, f, restores, next =>
    let behind :=
      match b.beginning f with
      | .nothing => next
      | o => o
    let m := a.tracer text f restores behind
    let n := b.tracer text f restores next
    ⟨fun k i t => m.run (fun j u => n.run k j u) i t⟩
  | .alt a b, f, restores, _ =>
    let m := a.tracer text f restores .other
    let n := b.tracer text f restores .other
    let firstOf := a.beginning f
    let secondOf := b.beginning f
    ⟨fun k i t =>
      match tried text firstOf (m.run k) i t with
      | .ok r => .ok r
      | .error u =>
        let t := t.retreat u restores
        let second :=
          match b with
          | .alt _ _ => n.run k i t
          | _ => tried text secondOf (n.run k) i t
        match second with
        | .ok r => .ok r
        | .error u => .error (t.retreat u restores)⟩
  | .rep greed least most body, f, restores, next =>
    match body.test? f with
    | some test => .chars text test greed least most restores next
    | none =>
      let m := body.tracer text f (restores || greed != .possessive) .other
      .repeated text m greed least most restores
  | .capture group body, f, restores, _ =>
    let m := body.tracer text f restores .other
    ⟨fun k i t =>
      m.run (fun j u => k j (u.put (2 * group - 1) j)) i (t.put (2 * group - 2) i)⟩
  | .atomic body, f, restores, _ =>
    let m := body.tracer text f restores .other
    ⟨fun k i t =>
      match m.first i (t.moved i) with
      | .ok u => k u.place u
      | .error u => .error (u.moved i)⟩
  | .again group, f, _, _ =>
    ⟨fun k i t =>
      match t.held? group with
      | none => .error t
      | some (start, stop) =>
        if standsAgain text f (stop - start) start i then k (i + (stop - start)) t
        else .error t⟩
  | .ifHeld group yes no, f, restores, next =>
    let m := yes.tracer text f restores (match no with | .empty => next | _ => .other)
    let n := no.tracer text f restores next
    ⟨fun k i t => if (t.held? group).isSome then m.run k i t else n.run k i t⟩
  | .ahead positive body, f, restores, _ =>
    let m := body.tracer text f restores .other
    ⟨fun k i t =>
      match m.first i (t.moved i), positive with
      | .ok u, true => k i u
      | .ok u, false => .error u
      | .error u, true => .error u
      | .error u, false => k i (t.retreat u restores)⟩
  | .behind positive width body, f, restores, _ =>
    let m := body.tracer text f restores .other
    ⟨fun k i t =>
      if i < width.least then if positive then .error t else k i t
      else
        match m.first (i - width.least) (t.moved (i - width.least)), positive with
        | .ok u, true => k i u
        | .ok u, false => .error u
        | .error u, true => .error u
        | .error u, false => k i (t.retreat u restores)⟩
  | .scoped on off body, f, restores, next => body.tracer text (f.within on off) restores next

/-- Whether a tree repeats a part of several characters with no way back. -/
def Node.isPossessive : Node → Bool
  | .empty | .any | .lit _ | .notLit _ | .set _ _ | .anchor _ | .again _ => false
  | .seq a b | .alt a b | .ifHeld _ a b => a.isPossessive || b.isPossessive
  | .rep greed _ _ body => (greed == .possessive && (body.test? {}).isNone) || body.isPossessive
  | .capture _ body | .atomic body | .ahead _ body | .behind _ _ body | .scoped _ _ body =>
    body.isPossessive

/-- The widths of the groups of a tree, before which others may stand. -/
def Node.groupWidths (groups : List (Nat × Width)) : Node → List (Nat × Width)
  | .empty | .any | .lit _ | .notLit _ | .set _ _ | .anchor _ | .again _ => groups
  | .seq a b | .alt a b | .ifHeld _ a b => b.groupWidths (a.groupWidths groups)
  | .rep _ _ _ body | .atomic body | .ahead _ body | .behind _ _ body | .scoped _ _ body =>
    body.groupWidths groups
  | .capture n body =>
    let inner := body.groupWidths groups
    (n, body.width inner) :: inner

/-- How many characters a match of a whole tree takes at least. -/
def Node.leastWidth (n : Node) : Nat := (n.width (n.groupWidths [])).least

/-- Whether there is a match that starts at `i` or at one of the `n` places behind it. -/
def Tracer.foundFrom (m : Tracer) (mayStart : Nat → Bool) : Nat → Nat → Bool
  | 0, i => mayStart i && (m.first i { place := i }).isOk
  | n + 1, i =>
    mayStart i && (m.first i { place := i }).isOk || m.foundFrom mayStart n (i + 1)

/-- Whether a tree is found in a text, from a place where it may start. A match is looked for where
enough characters are left. -/
def Node.foundTraced (text : Array Letter) (f : Flags) (mayStart : Nat → Bool) (n : Node) : Bool :=
  n.leastWidth ≤ text.size &&
    (n.tracer text f false .nothing).foundFrom mayStart (text.size - n.leastWidth) 0

/-- Whether a pattern of any kind is found somewhere in the text. -/
def found (p : Pattern) (s : String) : Bool :=
  let text := (s.toList.map Letter.ofChar).toArray
  let lead := p.node.leadTest? p.flags p.flags
  if p.node.isPossessive then p.node.foundTraced text p.flags (mayFollow text lead)
  else
    (p.node.matcher text p.flags none).foundFrom
      (fun i => mayFollow text lead i && p.node.mayStart text p.flags i) text.size 0

end Shopwalk.Pattern
