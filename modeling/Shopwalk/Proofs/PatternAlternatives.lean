import Shopwalk.Proofs.Lowercase
import Shopwalk.Proofs.PatternMatching
import Shopwalk.Proofs.PatternWrapped

/-!
Alternatives of a pattern. A pattern matches where one of its alternatives does, although what they
all begin with is matched only once and single characters are read as one set. There is one
exception: in a set a character beyond two bytes is not lowered, so that a capital there stands for
nothing when case is ignored, while by itself it stands for its lowercase form.
-/

namespace Shopwalk

namespace Text

open Pattern (lastShortCode)

/-- No character beyond two bytes shares its uppercase form with another one. -/
theorem letterClass_of_long {n : Nat} (long : lastShortCode < n) : letterClass n = [n] := by
  have bounds : ∀ letters ∈ sharedUppercase, ∀ l ∈ letters, l ≤ lastShortCode := by decide
  have alone : sharedUppercase.find? (·.contains n) = none := by
    rw [List.find?_eq_none]
    intro letters member there
    have := bounds letters member n (List.contains_iff_mem.1 there)
    omega
  rw [letterClass, alone, Option.getD_none]

end Text

namespace Pattern

/-! ### Parts of a tree -/

/-- A property that a sequence or a choice has if all its parts do, and that single characters
have. -/
structure Partwise (P : Node → Prop) : Prop where
  empty : P .empty
  lit : ∀ code, P (.lit code)
  set : ∀ positive items, P (.set positive items)
  seq : ∀ a b, P (.seq a b) ↔ P a ∧ P b
  alt : ∀ a b, P (.alt a b) ↔ P a ∧ P b

theorem partwise_flawless : Partwise fun n => n.flaw? false = none := by
  constructor <;> simp [Node.flaw?]

theorem partwise_near : Partwise fun n => n.looksTooFar = false := by
  constructor <;> simp [Node.looksTooFar]

theorem partwise_ordinary : Partwise fun n => n.isPossessive = false := by
  constructor <;> simp [Node.isPossessive]

theorem partwise_unscoped : Partwise fun n => n.isScoped = false := by
  constructor <;> simp [Node.isScoped]

/-- What all alternatives begin with can be put back before each of them. -/
theorem of_sharedStart {first shared first' : List Node} {others others' : List (List Node)}
    (split : sharedStart first others = (shared, first', others')) :
    first :: others = (first' :: others').map (shared ++ ·) ∧ ∀ n ∈ shared, n.isPlain = true := by
  induction first generalizing others shared with
  | nil =>
    cases split
    simp
  | cons n ns ih =>
    unfold sharedStart at split
    split at split
    · next all =>
      obtain ⟨plain, heads⟩ := Bool.and_eq_true_iff.1 all
      rcases tails : sharedStart ns (others.map List.tail) with ⟨shared, first, rest⟩
      rw [tails] at split
      cases split
      obtain ⟨same, plains⟩ := ih tails
      refine ⟨?_, List.forall_mem_cons.2 ⟨plain, plains⟩⟩
      rw [List.map_cons, List.cons.injEq] at same ⊢
      refine ⟨by rw [List.cons_append, ← same.1], ?_⟩
      have whole : (others.map List.tail).map (n :: ·) = others := by
        rw [List.map_map]
        refine (List.map_congr_left fun a member => ?_).trans (List.map_id _)
        have head : a.head? = some n := by simpa using List.all_eq_true.1 heads a member
        exact List.cons_head?_tail head
      rw [← whole, same.2, List.map_map]
      rfl
    · cases split
      simp

/-- Alternatives behind what they all begin with, as one tree. -/
def choiceOf (first : List Node) (others : List (List Node)) : Node :=
  match (first :: others).mapM members? with
  | some items => .set true items.flatten.eraseDups
  | none => .ofAlternatives (.ofList first) (others.map .ofList)

theorem joined_cons (first second : List Node) (others : List (List Node)) :
    ∃ shared first' others', first :: second :: others = (first' :: others').map (shared ++ ·) ∧
      (∀ n ∈ shared, n.isPlain = true) ∧
      sharedStart first (second :: others) = (shared, first', others') ∧
      joined first (second :: others) = shared ++ [choiceOf first' others'] := by
  rcases start : sharedStart first (second :: others) with ⟨shared, first', others'⟩
  obtain ⟨split, plain⟩ := of_sharedStart start
  refine ⟨shared, first', others', split, plain, rfl, ?_⟩
  rw [joined, start]
  rfl

/-- An alternative of one character is a character or a set. -/
theorem of_members? {a : List Node} {items : List SetItem} (single : members? a = some items) :
    (∃ code, a = [.lit code] ∧ items = [.one code]) ∨ a = [.set true items] := by
  unfold members? at single
  split at single
  · cases single
    exact .inl ⟨_, rfl, rfl⟩
  · cases single
    exact .inr rfl
  · cases single

/-- If all alternatives are single characters, their members are those of the set. -/
theorem mem_flatten_of_mapM {as : List (List Node)} {itemss : List (List SetItem)}
    (all : as.mapM members? = some itemss) :
    (∀ a ∈ as, ∃ items, members? a = some items) ∧
      ∀ it, it ∈ itemss.flatten ↔ ∃ a ∈ as, ∃ items, members? a = some items ∧ it ∈ items := by
  induction as generalizing itemss with
  | nil =>
    cases all
    simp
  | cons a as ih =>
    rw [List.mapM_cons] at all
    obtain ⟨items, single, all⟩ := Option.bind_eq_some_iff.1 all
    obtain ⟨itemss, rest, ⟨⟩⟩ := Option.bind_eq_some_iff.1 all
    obtain ⟨singles, members⟩ := ih rest
    refine ⟨List.forall_mem_cons.2 ⟨⟨items, single⟩, singles⟩, fun it => ?_⟩
    rw [List.flatten_cons, List.mem_append, members]
    simp [single]

namespace Partwise

variable {P : Node → Prop}

theorem ofList_iff (partwise : Partwise P) {ns : List Node} :
    P (.ofList ns) ↔ ∀ n ∈ ns, P n := by
  fun_induction Node.ofList ns with
  | case1 => simp [partwise.empty]
  | case2 n => simp
  | case3 n ns _ ih => rw [partwise.seq, ih, List.forall_mem_cons]

theorem ofAlternatives_iff (partwise : Partwise P) {n : Node} {ns : List Node} :
    P (.ofAlternatives n ns) ↔ ∀ m ∈ n :: ns, P m := by
  fun_induction Node.ofAlternatives n ns with
  | case1 n => simp
  | case2 n m ms ih => rw [partwise.alt, ih, List.forall_mem_cons (l := m :: ms)]

theorem choiceOf_iff (partwise : Partwise P) {first : List Node} {others : List (List Node)} :
    P (choiceOf first others) ↔ ∀ a ∈ first :: others, ∀ n ∈ a, P n := by
  unfold choiceOf
  split
  · next items all =>
    refine iff_of_true (partwise.set _ _) fun a member n part => ?_
    obtain ⟨items, single⟩ := (mem_flatten_of_mapM all).1 a member
    rcases of_members? single with ⟨code, rfl, -⟩ | rfl
    · cases List.mem_singleton.1 part
      exact partwise.lit code
    · cases List.mem_singleton.1 part
      exact partwise.set _ _
  · rw [partwise.ofAlternatives_iff, ← List.map_cons (f := Node.ofList), List.forall_mem_map]
    exact forall₂_congr fun a _ => partwise.ofList_iff

/-- A whole tree has the property if every item of every alternative does. -/
theorem joined_iff (partwise : Partwise P) {first : List Node} {others : List (List Node)} :
    P (.ofList (joined first others)) ↔ ∀ a ∈ first :: others, ∀ n ∈ a, P n := by
  rw [partwise.ofList_iff]
  cases others with
  | nil => simp [joined]
  | cons second others =>
    obtain ⟨shared, first', others', split, -, -, whole⟩ := joined_cons first second others
    rw [whole, split, List.forall_mem_append, List.forall_mem_singleton, partwise.choiceOf_iff,
      List.forall_mem_map]
    constructor
    · rintro ⟨front, back⟩ a member
      exact List.forall_mem_append.2 ⟨front, back a member⟩
    · intro all
      have parts (a) (member : a ∈ first' :: others') := List.forall_mem_append.1 (all a member)
      exact ⟨(parts first' List.mem_cons_self).1, fun a member => (parts a member).2⟩

end Partwise

/-- More behind the last alternative takes no property away that it has itself. -/
theorem forall_mem_appendLast {P : Node → Prop} {more : List Node} (also : ∀ n ∈ more, P n)
    {as : List (List Node)} (all : ∀ a ∈ as, ∀ n ∈ a, P n) :
    ∀ a ∈ appendLast more as, ∀ n ∈ a, P n := by
  fun_induction appendLast more as with
  | case1 => exact all
  | case2 a =>
    rw [List.forall_mem_singleton] at all ⊢
    exact List.forall_mem_append.2 ⟨all, also⟩
  | case3 a b others ih =>
    rw [List.forall_mem_cons] at all ⊢
    exact ⟨all.1, ih all.2⟩

/-- Between two wildcards a pattern keeps the properties that the wildcards have. -/
theorem Partwise.wrapped {P : Node → Prop} (partwise : Partwise P) (wild : P anything)
    {first first' : List Node} {others others' : List (List Node)}
    (all : appendLast [anything] ((anything :: first) :: others) = first' :: others')
    (alone : P (.ofList (joined first others))) : P (.ofList (joined first' others')) := by
  rw [partwise.joined_iff, List.forall_mem_cons] at alone
  rw [partwise.joined_iff, ← all]
  refine forall_mem_appendLast (List.forall_mem_singleton.2 wild) ?_
  exact List.forall_mem_cons.2 ⟨List.forall_mem_cons.2 ⟨wild, alone.1⟩, alone.2⟩

theorem exists_appendLast (more a : List Node) (others : List (List Node)) :
    ∃ first' others', appendLast more (a :: others) = first' :: others' := by
  cases others with
  | nil => exact ⟨_, _, rfl⟩
  | cons second others => exact ⟨_, _, rfl⟩

/-! ### One alternative -/

section Matching

variable {text : Array Letter} {f : Flags} {k : Rest} {i : Nat} {cs : Captures}

theorem run_ofList_cons (n : Node) (ns : List Node) :
    ((Node.ofList (n :: ns)).matcher text f none).run k i cs =
      (n.matcher text f ((Node.ofList ns).firstTest? f)).run
        (fun j ds => ((Node.ofList ns).matcher text f none).run k j ds) i cs := by
  cases ns <;> rfl

theorem firstTest?_ofList_cons (n : Node) (ns : List Node) :
    (Node.ofList (n :: ns)).firstTest? f = n.firstTest? f := by
  cases ns <;> rfl

/-- A wildcard at the end is matched behind what stands before it. -/
theorem run_ofList_append_anything (ns : List Node) :
    ((Node.ofList (ns ++ [anything])).matcher text f none).run k i cs =
      ((Node.ofList ns).matcher text f none).run
        (fun j ds => (anything.matcher text f none).run k j ds) i cs := by
  induction ns generalizing i cs with
  | nil => rfl
  | cons n ns ih =>
    have next : (Node.ofList (ns ++ [anything])).firstTest? f = (Node.ofList ns).firstTest? f := by
      cases ns with
      | nil => rfl
      | cons m ms => rw [List.cons_append, firstTest?_ofList_cons, firstTest?_ofList_cons]
    rw [List.cons_append, run_ofList_cons, run_ofList_cons, next]
    simp only [ih]

/-- A wildcard matches anywhere. -/
theorem isSome_anything (always : ∀ j ds, (k j ds).isSome = true) :
    ((anything.matcher text f none).run k i cs).isSome = true :=
  (isSome_anything_iff (by decide)).2
    ⟨i, Nat.le_refl i, fun m low high => absurd low (Nat.not_le.2 high), rfl, always i cs⟩

/-- A wildcard at the end changes nothing. -/
theorem hasMatch_append_anything {ns : List Node} :
    HasMatch text f (.ofList (ns ++ [anything])) ↔ HasMatch text f (.ofList ns) := by
  have same : Alike (fun j ds => (anything.matcher text f none).run (fun j ds => some (j, ds)) j ds)
      (fun j ds => some (j, ds)) := fun j ds => isSome_anything fun _ _ => rfl
  unfold HasMatch Matcher.first
  refine exists_congr fun i => and_congr_right fun _ => ?_
  rw [run_ofList_append_anything, fair_matcher (Node.ofList ns) f none same i []]

/-- A wildcard at the start changes nothing. -/
theorem hasMatch_cons_anything {ns : List Node} :
    HasMatch text f (.ofList (anything :: ns)) ↔ HasMatch text f (.ofList ns) := by
  unfold HasMatch Matcher.first
  simp only [run_ofList_cons]
  constructor
  · rintro ⟨i, bound, hit⟩
    obtain ⟨j, low, passes, -, matched⟩ := (isSome_anything_iff (by decide)).1 hit
    rcases Nat.eq_or_lt_of_le low with rfl | later
    · exact ⟨i, bound, matched⟩
    · exact ⟨j, passes.le_size later, matched⟩
  · rintro ⟨i, bound, matched⟩
    exact ⟨i, bound, (isSome_anything_iff (by decide)).2 ⟨i, Nat.le_refl i,
      fun m low high => absurd low (Nat.not_le.2 high), mayFollow_firstTest matched, matched⟩⟩

/-- Plain items match in one way and leave the captures alone. -/
theorem run_of_isPlain (text : Array Letter) (f : Flags) {n : Node} (plain : n.isPlain = true) :
    ∃ step : Nat → Captures → Option Nat, ∀ next k i cs,
      (n.matcher text f next).run k i cs = (step i cs).bind fun j => k j cs := by
  have char (test : CharTest) : ∃ step : Nat → Captures → Option Nat, ∀ k i cs,
      (Matcher.char text test).run k i cs = (step i cs).bind fun j => k j cs := by
    refine ⟨fun i _ => text[i]?.bind fun c => if test.has c then some (i + 1) else none, ?_⟩
    intro k i cs
    simp only [Matcher.char]
    cases text[i]? with
    | none => rfl
    | some c => by_cases passes : test.has c = true <;> simp [passes]
  cases n with
  | any | lit | notLit | set =>
    obtain ⟨step, steps⟩ := char _
    exact ⟨step, fun _ => steps⟩
  | anchor a =>
    refine ⟨fun i _ => if a.holds text f i then some i else none, fun next k i cs => ?_⟩
    by_cases holds : a.holds text f i = true <;> simp [Node.matcher, holds]
  | again group =>
    refine ⟨fun i cs => (cs.held? group).bind fun held =>
      if standsAgain text f (held.2 - held.1) held.1 i then some (i + (held.2 - held.1))
      else none, ?_⟩
    intro next k i cs
    simp only [Node.matcher]
    cases cs.held? group with
    | none => rfl
    | some held =>
      by_cases again : standsAgain text f (held.2 - held.1) held.1 i = true <;> simp [again]
  | _ => cases plain

/-- What all alternatives begin with takes the same way before each of them. -/
theorem run_ofList_append_of_isPlain (text : Array Letter) (f : Flags) {shared : List Node}
    (plain : ∀ n ∈ shared, n.isPlain = true) :
    ∃ walk : Nat → Captures → Option Nat, ∀ ns k i cs,
      ((Node.ofList (shared ++ ns)).matcher text f none).run k i cs =
        (walk i cs).bind fun j => ((Node.ofList ns).matcher text f none).run k j cs := by
  induction shared with
  | nil => exact ⟨fun i _ => some i, fun ns k i cs => rfl⟩
  | cons n shared ih =>
    rw [List.forall_mem_cons] at plain
    obtain ⟨step, steps⟩ := run_of_isPlain text f plain.1
    obtain ⟨walk, walks⟩ := ih plain.2
    refine ⟨fun i cs => (step i cs).bind fun j => walk j cs, fun ns k i cs => ?_⟩
    rw [List.cons_append, run_ofList_cons, steps, Option.bind_assoc]
    simp only [walks]

/-! ### Several alternatives -/

theorem isSome_ofAlternatives_iff {n : Node} {ns : List Node} {next : Option CharTest} :
    (((Node.ofAlternatives n ns).matcher text f next).run k i cs).isSome = true ↔
      ∃ m ∈ n :: ns, ((m.matcher text f next).run k i cs).isSome = true := by
  induction ns generalizing n with
  | nil => simp [Node.ofAlternatives]
  | cons m ms ih =>
    rw [Node.ofAlternatives, matcher_alt, Option.isSome_or, Bool.or_eq_true, ih,
      List.exists_mem_cons_iff _ n]

end Matching

/-- A character beyond two bytes with another lowercase form. -/
def isLongCapital (code : Nat) : Bool := lastShortCode < code && Text.lowerCode code != code

/-- An alternative that stands for nothing as a member of a set when case is ignored. -/
def isLost : List Node → Bool
  | [.lit code] => isLongCapital code
  | _ => false

/-- The alternatives that are lost where all of them are read as one set. -/
def lostAmong (as : List (List Node)) : List (List Node) :=
  if (as.mapM members?).isSome then as.filter isLost else []

/-- The alternatives of a pattern that are lost when case is ignored. -/
def lostAlternatives : List (List Node) → List (List Node)
  | first :: second :: others =>
    let (shared, first, others) := sharedStart first (second :: others)
    (lostAmong (first :: others)).map (shared ++ ·)
  | _ => []

section Sets

variable {text : String} {f : Flags} {k : Rest} {i : Nat} {cs : Captures}

theorem exists_ofChar_of_getElem? {c : Letter} (there : (Check.lettersOf text)[i]? = some c) :
    ∃ x, c = .ofChar x := by
  rw [List.getElem?_toArray, List.getElem?_map] at there
  obtain ⟨x, -, rfl⟩ := Option.map_eq_some_iff.1 there
  exact ⟨x, rfl⟩

/-- As a member of a set a character stands for what it stands for by itself, but for a capital
beyond two bytes when case is ignored. -/
theorem test_one_iff (wide : f.ascii = false) {code : Nat} {c : Char} :
    ((SetItem.one code).test f).has (.ofChar c) = true ↔
      (f.ignoreCase = true → isLongCapital code = false) ∧
        (codeTest f true code).has (.ofChar c) = true := by
  by_cases caseless : f.ignoreCase = true
  · by_cases long : lastShortCode < code
    · have capital : isLongCapital code = false ↔ Text.lowerCode code = code := by
        simp [isLongCapital, long]
      have member : ((SetItem.one code).test f).has (.ofChar c) = true ↔
          Text.lowerCode c.toNat = code := by
        simp [SetItem.test, Flags.lowered, Letter.ofChar, caseless, wide, long]
      have alone : (codeTest f true code).has (.ofChar c) = true ↔
          Text.lowerCode c.toNat ∈ Text.letterClass (Text.lowerCode code) := by
        simp [codeTest, Flags.letters, Flags.lowered, Letter.ofChar, caseless, wide]
      rw [member, alone, capital]
      constructor
      · rintro rfl
        have same := Text.lowerCode_lowerCode c.toNat
        refine ⟨fun _ => same, ?_⟩
        rw [same, Text.letterClass_of_long long]
        exact List.mem_singleton_self _
      · rintro ⟨same, there⟩
        rw [same caseless, Text.letterClass_of_long long] at there
        exact List.mem_singleton.1 there
    · simp [SetItem.test, codeTest, isLongCapital, long]
  · simp [SetItem.test, codeTest, Flags.letters, caseless]

/-- An alternative of one character matches where its members in a set do, unless it is lost. -/
theorem isSome_single_iff (wide : f.ascii = false) {a : List Node} {items : List SetItem}
    (single : members? a = some items) :
    (∃ c, (Check.lettersOf text)[i]? = some c ∧ (∃ it ∈ items, (it.test f).has c = true) ∧
        (k (i + 1) cs).isSome = true) ↔
      (f.ignoreCase = true → isLost a = false) ∧
        (((Node.ofList a).matcher (Check.lettersOf text) f none).run k i cs).isSome = true := by
  rcases of_members? single with ⟨code, rfl, rfl⟩ | rfl
  · refine Iff.trans ?_ (and_congr_right fun _ => isSome_char_iff).symm
    constructor
    · rintro ⟨c, there, ⟨it, member, has⟩, rest⟩
      cases List.mem_singleton.1 member
      obtain ⟨x, rfl⟩ := exists_ofChar_of_getElem? there
      obtain ⟨kept, own⟩ := (test_one_iff wide).1 has
      exact ⟨kept, _, there, own, rest⟩
    · rintro ⟨kept, c, there, own, rest⟩
      obtain ⟨x, rfl⟩ := exists_ofChar_of_getElem? there
      exact ⟨_, there, ⟨_, List.mem_singleton_self _, (test_one_iff wide).2 ⟨kept, own⟩⟩, rest⟩
  · refine Iff.trans ?_ (and_iff_right fun _ => rfl).symm
    refine Iff.trans ?_ isSome_char_iff.symm
    simp [setTest]

/-- One of several alternatives matches where one of those does that are not lost. -/
theorem isSome_choiceOf_iff (wide : f.ascii = false) {first : List Node}
    {others : List (List Node)} :
    (((choiceOf first others).matcher (Check.lettersOf text) f none).run k i cs).isSome = true ↔
      ∃ a ∈ first :: others, (f.ignoreCase = true → a ∉ lostAmong (first :: others)) ∧
        (((Node.ofList a).matcher (Check.lettersOf text) f none).run k i cs).isSome = true := by
  cases all : (first :: others).mapM members? with
  | none =>
    have kept : lostAmong (first :: others) = [] := by simp [lostAmong, all]
    rw [choiceOf, all, kept]
    refine isSome_ofAlternatives_iff.trans ?_
    rw [← List.map_cons (f := Node.ofList)]
    simp only [List.mem_map, exists_exists_and_eq_and, List.not_mem_nil, not_false_eq_true,
      implies_true, true_and]
  | some itemss =>
    obtain ⟨singles, members⟩ := mem_flatten_of_mapM all
    have kept {a : List Node} (member : a ∈ first :: others) :
        a ∉ lostAmong (first :: others) ↔ isLost a = false := by
      simp [lostAmong, all, List.mem_filter, member]
    rw [choiceOf, all]
    refine isSome_char_iff.trans ?_
    simp only [setTest, List.any_map, List.any_eq_true, List.mem_eraseDups, members, beq_true,
      Function.comp_apply]
    constructor
    · rintro ⟨c, there, ⟨it, ⟨a, member, items, single, part⟩, has⟩, rest⟩
      obtain ⟨whole, hit⟩ := (isSome_single_iff wide single).1 ⟨c, there, ⟨it, part, has⟩, rest⟩
      exact ⟨a, member, fun caseless => (kept member).2 (whole caseless), hit⟩
    · rintro ⟨a, member, whole, hit⟩
      obtain ⟨items, single⟩ := singles a member
      obtain ⟨c, there, ⟨it, part, has⟩, rest⟩ := (isSome_single_iff wide single).2
        ⟨fun caseless => (kept member).1 (whole caseless), hit⟩
      exact ⟨c, there, ⟨it, ⟨a, member, items, single, part⟩, has⟩, rest⟩

/-- A pattern matches where one of its alternatives does that are not lost. -/
theorem hasMatch_joined_iff (wide : f.ascii = false) {first : List Node}
    {others : List (List Node)} :
    HasMatch (Check.lettersOf text) f (.ofList (joined first others)) ↔
      ∃ a ∈ first :: others, (f.ignoreCase = true → a ∉ lostAlternatives (first :: others)) ∧
        HasMatch (Check.lettersOf text) f (.ofList a) := by
  cases others with
  | nil => simp [joined, lostAlternatives]
  | cons second others =>
    obtain ⟨shared, first', others', split, plain, start, whole⟩ := joined_cons first second others
    obtain ⟨walk, walks⟩ := run_ofList_append_of_isPlain (Check.lettersOf text) f plain
    have lost (a : List Node) : shared ++ a ∈ lostAlternatives (first :: second :: others) ↔
        a ∈ lostAmong (first' :: others') := by
      simp [lostAlternatives, start]
    have behind (ns : List Node) : HasMatch (Check.lettersOf text) f (.ofList (shared ++ ns)) ↔
        ∃ i, i ≤ (Check.lettersOf text).size ∧ ∃ j, walk i [] = some j ∧
          (((Node.ofList ns).matcher (Check.lettersOf text) f none).first j []).isSome = true := by
      unfold HasMatch Matcher.first
      refine exists_congr fun i => and_congr_right fun _ => ?_
      rw [walks]
      cases walk i [] <;> simp
    rw [split] at lost
    rw [whole, behind, split]
    simp only [Node.ofList, Matcher.first, isSome_choiceOf_iff wide, List.mem_map,
      exists_exists_and_eq_and, lost, behind]
    constructor
    · rintro ⟨i, bound, j, walked, a, member, kept, hit⟩
      exact ⟨a, member, kept, i, bound, j, walked, hit⟩
    · rintro ⟨a, member, kept, i, bound, j, walked, hit⟩
      exact ⟨i, bound, j, walked, a, member, kept, hit⟩

/-- What both alternatives begin with does not keep the first one from being lost. -/
example : lostAlternatives (alternativesOf "x𐐀|xb") = [[.lit 120, .lit 66560]] := by decide

/-- Behind a wildcard no alternative is lost. -/
theorem lostAlternatives_cons_anything (ns : List Node) (others : List (List Node)) :
    lostAlternatives ((anything :: ns) :: others) = [] := by
  cases others with
  | nil => rfl
  | cons second others =>
    have start : sharedStart (anything :: ns) (second :: others) =
        ([], anything :: ns, second :: others) := rfl
    have single : members? (anything :: ns) = none := rfl
    simp [lostAlternatives, start, lostAmong, single]

theorem exists_hasMatch_appendLast {letters : Array Letter} {as : List (List Node)} :
    (∃ a ∈ appendLast [anything] as, HasMatch letters f (.ofList a)) ↔
      ∃ a ∈ as, HasMatch letters f (.ofList a) := by
  fun_induction appendLast [anything] as with
  | case1 => rfl
  | case2 a => simp [hasMatch_append_anything]
  | case3 a b others ih => rw [List.exists_mem_cons_iff, ih, List.exists_mem_cons_iff _ a]

theorem mem_of_mem_lostAlternatives {as : List (List Node)} {a : List Node}
    (lost : a ∈ lostAlternatives as) : a ∈ as := by
  unfold lostAlternatives at lost
  split at lost
  · next first second others =>
    rcases start : sharedStart first (second :: others) with ⟨shared, first', others'⟩
    rw [start] at lost
    obtain ⟨b, member, rfl⟩ := List.mem_map.1 lost
    rw [(of_sharedStart start).1]
    refine List.mem_map_of_mem ?_
    unfold lostAmong at member
    split at member
    · exact (List.mem_filter.1 member).1
    · cases member
  · cases lost

/-- Between two wildcards a pattern matches where it does by itself, and where an alternative does
that is lost there. -/
theorem hasMatch_wrapped_iff (wide : f.ascii = false) {first first' : List Node}
    {others others' : List (List Node)}
    (all : appendLast [anything] ((anything :: first) :: others) = first' :: others') :
    HasMatch (Check.lettersOf text) f (.ofList (joined first' others')) ↔
      HasMatch (Check.lettersOf text) f (.ofList (joined first others)) ∨
        f.ignoreCase = true ∧ ∃ a ∈ lostAlternatives (first :: others),
          HasMatch (Check.lettersOf text) f (.ofList a) := by
  have none : lostAlternatives (first' :: others') = [] := by
    cases others with
    | nil =>
      cases all
      exact lostAlternatives_cons_anything _ _
    | cons second others =>
      cases all
      exact lostAlternatives_cons_anything _ _
  have either : HasMatch (Check.lettersOf text) f (.ofList (joined first' others')) ↔
      ∃ a ∈ first :: others, HasMatch (Check.lettersOf text) f (.ofList a) := by
    rw [hasMatch_joined_iff wide, none, ← all]
    simp only [List.not_mem_nil, not_false_eq_true, implies_true, true_and,
      exists_hasMatch_appendLast, List.exists_mem_cons_iff, hasMatch_cons_anything]
  rw [either, hasMatch_joined_iff wide]
  constructor
  · rintro ⟨a, member, hit⟩
    by_cases lost : f.ignoreCase = true ∧ a ∈ lostAlternatives (first :: others)
    · exact .inr ⟨lost.1, a, lost.2, hit⟩
    · exact .inl ⟨a, member, fun caseless there => lost ⟨caseless, there⟩, hit⟩
  · rintro (⟨a, member, -, hit⟩ | ⟨-, a, lost, hit⟩)
    · exact ⟨a, member, hit⟩
    · exact ⟨a, mem_of_mem_lostAlternatives lost, hit⟩

end Sets

end Pattern

end Shopwalk
