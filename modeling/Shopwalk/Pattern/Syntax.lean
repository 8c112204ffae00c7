/-!
Search patterns as trees. Characters are given by their code points, because a pattern can name code
points that are no characters.
-/

namespace Shopwalk

namespace Pattern

/-- The ways in which a pattern can be read. -/
structure Flags where
  ignoreCase : Bool := false
  multiline : Bool := false
  dotAll : Bool := false
  verbose : Bool := false
  ascii : Bool := false
  /-- The characters of every script are asked for. They are meant anyway without `ascii`. -/
  unicode : Bool := false
  /-- Repetitions are not allowed. -/
  template : Bool := false
  deriving DecidableEq, Repr

def Flags.union (a b : Flags) : Flags :=
  ⟨a.ignoreCase || b.ignoreCase, a.multiline || b.multiline, a.dotAll || b.dotAll,
   a.verbose || b.verbose, a.ascii || b.ascii, a.unicode || b.unicode, a.template || b.template⟩

def Flags.without (a b : Flags) : Flags :=
  ⟨a.ignoreCase && !b.ignoreCase, a.multiline && !b.multiline, a.dotAll && !b.dotAll,
   a.verbose && !b.verbose, a.ascii && !b.ascii, a.unicode && !b.unicode,
   a.template && !b.template⟩

/-- The flags in force where some are turned on and others off. A choice between ASCII and all
characters takes the place of an earlier choice. -/
def Flags.within (f on off : Flags) : Flags :=
  let kept := if on.ascii || on.unicode then { f with ascii := false, unicode := false } else f
  (kept.union on).without off

inductive CharKind where
  | digit
  | blank
  | word
  deriving DecidableEq, Repr

/-- A member of a bracketed set. -/
inductive SetItem where
  | one (code : Nat)
  | range (first last : Nat)
  | kind (k : CharKind) (positive : Bool)
  deriving DecidableEq, Repr

/-- Conditions on a place in the text that take no character. -/
inductive Anchor where
  | lineStart
  | lineEnd
  | textStart
  | textEnd
  | boundary
  | notBoundary
  deriving DecidableEq, Repr

/-- Which of several numbers of copies a repetition prefers: many, few, or as many as there are with
no way back. -/
inductive Greed where
  | greedy
  | lazy
  | possessive
  deriving DecidableEq, Repr

/-- Least number of characters a match takes, and the greatest if there is one. -/
structure Width where
  least : Nat
  most : Option Nat
  deriving DecidableEq, Repr

namespace Width

def zero : Width := ⟨0, some 0⟩

def one : Width := ⟨1, some 1⟩

def add (v w : Width) : Width := ⟨v.least + w.least, do return (← v.most) + (← w.most)⟩

def either (v w : Width) : Width :=
  ⟨min v.least w.least, do return max (← v.most) (← w.most)⟩

/-- Between `least` and `most` copies; copies without a character stay without one. -/
def copies (least : Nat) (most : Option Nat) (w : Width) : Width :=
  ⟨least * w.least, if w.most = some 0 then some 0 else do return (← most) * (← w.most)⟩

end Width

inductive Node where
  | empty
  | any
  | lit (code : Nat)
  | notLit (code : Nat)
  | set (positive : Bool) (items : List SetItem)
  | anchor (a : Anchor)
  | seq (a b : Node)
  | alt (a b : Node)
  /-- At least `least` and, when given, at most `most` copies. -/
  | rep (greed : Greed) (least : Nat) (most : Option Nat) (body : Node)
  /-- What the body matches is kept under a number. -/
  | capture (group : Nat) (body : Node)
  /-- Only the first match of the body counts. -/
  | atomic (body : Node)
  /-- The text that a group holds once more. -/
  | again (group : Nat)
  /-- Goes on with `yes` if a group holds a text. -/
  | ifHeld (group : Nat) (yes no : Node)
  | ahead (positive : Bool) (body : Node)
  | behind (positive : Bool) (width : Width) (body : Node)
  | scoped (on off : Flags) (body : Node)
  deriving DecidableEq, Repr

/-- The items of a sequence in order, as one tree. -/
def Node.ofList : List Node → Node
  | [] => .empty
  | [n] => n
  | n :: ns => .seq n (Node.ofList ns)

/-- The items of a sequence; the reverse of `ofList` for items that are no sequences. -/
def Node.items : Node → List Node
  | .empty => []
  | .seq a b => a :: b.items
  | n => [n]

def Node.ofAlternatives (n : Node) : List Node → Node
  | [] => n
  | m :: ms => .alt n (Node.ofAlternatives m ms)

/-- The width of a match, given the widths of the groups so far. -/
def Node.width (groups : List (Nat × Width)) : Node → Width
  | .empty | .anchor _ | .ahead _ _ | .behind _ _ _ => .zero
  | .any | .lit _ | .notLit _ | .set _ _ => .one
  | .seq a b => (a.width groups).add (b.width groups)
  | .alt a b => (a.width groups).either (b.width groups)
  | .rep _ least most body => (body.width groups).copies least most
  | .capture _ body | .atomic body | .scoped _ _ body => body.width groups
  | .again n => (groups.lookup n).getD .zero
  | .ifHeld _ yes no => (yes.width groups).either (no.width groups)

end Pattern

/-- A pattern that has been read: its text, the flags in force for all of it, and its tree. -/
structure Pattern where
  source : String
  flags : Pattern.Flags
  node : Pattern.Node
  deriving DecidableEq, Repr

end Shopwalk
