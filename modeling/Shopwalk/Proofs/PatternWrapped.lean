import Shopwalk.Proofs.PatternInContext

/-!
A pattern between two wildcards. Its alternatives are those that it has by itself, but the first one
begins with the one wildcard and the last one ends with the other.
-/

namespace Shopwalk.Pattern

/-- Any number of any characters. -/
def anything : Node := .rep .greedy 0 none .any

section Whole

variable {x : Context} {r r' : Reader} {initial : Bool} {items more : List Node} {n steps : Nat}

theorem unpacked_append (items before : List Node) :
    unpacked (items ++ before) = unpacked before ++ unpacked items := by
  simp only [unpacked, List.reverse_append, List.flatMap_append]

/-- A wildcard is read as such where no mark stands behind it. -/
theorem sequence_anything {cs : List Char} (sound : cs ≠ ['\\'])
    (unmarked : ∀ c, token? cs = some (.plain c) → c ≠ '?' ∧ c ≠ '+') :
    sequence initial false items (n + 2) { r with rest := '.' :: '*' :: cs } =
      sequence initial false (anything :: items) n { r with rest := cs } := by
  have first : advance { r with rest := '.' :: '*' :: cs } = .ok () { r with rest := '*' :: cs } :=
    advance_ok_iff.2 ⟨by simp [behindToken], by simp [behindToken]⟩
  have second : advance { r with rest := '*' :: cs } = .ok () { r with rest := cs } :=
    advance_ok_iff.2 ⟨by simpa [behindToken] using sound, by simp [behindToken]⟩
  have absent (c : Char) (mark : c = '?' ∨ c = '+') :
      accept c { r with rest := cs } = .ok false { r with rest := cs } := by
    unfold accept
    rw [bind_of_ok (peek_run _), if_neg]
    · rfl
    · intro here
      have other := unmarked c here
      grind
  have greedy : greed { r with rest := cs } = .ok .greedy { r with rest := cs } := by
    unfold greed
    rw [bind_of_ok (absent '?' (.inl rfl))]
    exact (bind_of_ok (absent '+' (.inr rfl))).trans rfl
  have repeated : repeatLast (cs.length + 1) 0 none (.any :: items) { r with rest := cs } =
      .ok (anything :: items) { r with rest := cs } :=
    (bind_of_ok greedy).trans rfl
  have dot : sequence initial false items (n + 2) { r with rest := '.' :: '*' :: cs } =
      sequence initial false (.any :: items) (n + 1) { r with rest := '*' :: cs } := by
    unfold sequence
    rw [bind_of_ok (peek_run _)]
    exact (bind_of_ok first).trans rfl
  have star : sequence initial false (.any :: items) (n + 1) { r with rest := '*' :: cs } =
      sequence initial false (anything :: items) n { r with rest := cs } := by
    conv => lhs; unfold sequence
    rw [bind_of_ok (peek_run _)]
    exact (bind_of_ok second).trans ((bind_of_ok repeated).trans rfl)
  exact dot.trans star

/-- What the text behind a pattern is read as, in how many steps. -/
def Closes (x : Context) (steps : Nat) (more : List Node) : Prop :=
  ∀ initial items n (s : Reader), s.rest = x.tail →
    sequence initial false items (n + steps + 1) s =
      .ok (unpacked items ++ more) { s with rest := [] }

/-- The reader in the context when all text is used up. -/
def Context.done (x : Context) (r : Reader) : Reader := { x.around r with rest := [] }

/-- A sequence in a context goes on with what stands behind the pattern if it comes to its end. -/
theorem sequence_around (closes : Closes x steps more) {a : List Node} (sound : r.rest ≠ ['\\'])
    (run : sequence initial false items n r = .ok a r') (plain : r'.flags = {}) (b : Before)
    (enough : steps ≤ b.spare) :
    sequence b.initial false (items ++ b.items) (b.spare + n) (x.around r) =
      if r'.rest = [] then .ok (unpacked b.items ++ a ++ more) (x.done r')
      else .ok (unpacked b.items ++ a) (x.around r') := by
  obtain ⟨onward, stops, finished⟩ := (together x n).sequence initial false items r a r' sound run
  obtain ⟨last, left, rfl, goes⟩ := finished ⟨plain, nofun⟩
  refine (goes b).trans ?_
  rw [← unpacked_append]
  split
  · next ended =>
    obtain ⟨m, fuel⟩ : ∃ m, b.spare + (left + 1) = m + steps + 1 :=
      ⟨b.spare + left - steps, by omega⟩
    rw [fuel]
    refine closes _ _ _ _ ?_
    change r'.rest ++ x.tail = x.tail
    rw [ended, List.nil_append]
  · next left =>
    exact sequence_of_ends (stops.append left (onward.sound sound) x.tail)

/-- Alternatives with more behind the last one. -/
def appendLast (more : List Node) : List (List Node) → List (List Node)
  | [] => []
  | [a] => [a ++ more]
  | a :: b :: others => a :: appendLast more (b :: others)

theorem accept_ok_false_iff {c : Char} :
    accept c r = .ok false r' ↔ token? r.rest ≠ some (.plain c) ∧ r' = r := by
  unfold accept
  rw [bind_of_ok (peek_run r)]
  split
  · next here =>
    constructor
    · intro run
      obtain ⟨_, _, -, ⟨⟩⟩ := bind_ok_iff.1 run
    · rintro ⟨absent, -⟩
      exact absurd here absent
  · next absent =>
    constructor
    · rintro ⟨⟩
      exact ⟨absent, rfl⟩
    · rintro ⟨-, rfl⟩
      rfl

/-- Alternatives behind the first one stand behind bars. -/
theorem alternatives_ok_iff {nested verbose : Bool} {others : List (List Node)} :
    alternatives nested verbose (n + 1) r = .ok others r' ↔
      (accept '|' r = .ok false r' ∧ others = []) ∨
      ∃ s t items rest inner, accept '|' r = .ok true s ∧
        inner = (if nested = true then verbose else s.flags.verbose) ∧
        sequence false inner [] n s = .ok items t ∧
        alternatives nested inner n t = .ok rest r' ∧ others = items :: rest := by
  conv => lhs; unfold alternatives
  rw [bind_ok_iff]
  constructor
  · rintro ⟨bar, s, accepted, run⟩
    cases bar with
    | false =>
      cases run
      exact .inl ⟨accepted, rfl⟩
    | true =>
      rw [if_pos rfl, get_bind] at run
      obtain ⟨items, t, read, run⟩ := bind_ok_iff.1 run
      obtain ⟨rest, u, behind, ⟨⟩⟩ := bind_ok_iff.1 run
      exact .inr ⟨s, _, _, rest, _, accepted, rfl, read, behind, rfl⟩
  · rintro (⟨absent, rfl⟩ | ⟨s, t, items, rest, _, accepted, rfl, read, behind, rfl⟩)
    · exact ⟨false, r', absent, rfl⟩
    · refine ⟨true, s, accepted, ?_⟩
      rw [if_pos rfl, get_bind]
      exact bind_ok_iff.2 ⟨items, t, read, bind_ok_iff.2 ⟨rest, r', behind, rfl⟩⟩

theorem alternatives_of_end {nested verbose : Bool} (ended : r.rest = []) :
    alternatives nested verbose (n + 1) r = .ok [] r := by
  refine alternatives_ok_iff.2 (.inl ⟨accept_ok_false_iff.2 ⟨?_, rfl⟩, rfl⟩)
  rw [ended]
  nofun

/-- At the end of the text there are no further alternatives. -/
theorem eq_nil_of_alternatives_of_end {nested verbose : Bool} {others : List (List Node)}
    (ended : r.rest = []) (run : alternatives nested verbose n r = .ok others r') :
    ∃ m, n = m + 1 ∧ others = [] ∧ r' = r := by
  cases n with
  | zero => exact absurd run (fails_fail _ _ r others r')
  | succ m =>
    cases (alternatives_of_end ended).symm.trans run
    exact ⟨m, rfl, rfl, rfl⟩

theorem alternatives_onward {nested verbose : Bool} {others : List (List Node)}
    (sound : r.rest ≠ ['\\']) (run : alternatives nested verbose n r = .ok others r') :
    r.Onward r' := by
  let x : Context := ⟨[], {}, nofun, rfl⟩
  induction n generalizing r verbose others with
  | zero => exact absurd run (fails_fail _ _ r others r')
  | succ n ih =>
    rcases alternatives_ok_iff.1 run with
      ⟨absent, -⟩ | ⟨s, t, items, rest, inner, accepted, -, read, behind, -⟩
    · exact (Agrees.accept (x := x) (E := .any) (by decide) _ _ sound absent).1
    · have first := (Agrees.accept (x := x) (E := .any) (by decide) _ _ sound accepted).1
      have second := ((together x n).sequence _ _ _ s items t (first.sound sound) read).1
      have onward := first.trans second
      exact onward.trans (ih (onward.sound sound) behind)

/-- The alternatives behind the first one in a context. -/
theorem alternatives_around (closes : Closes x steps more) {verbose : Bool} (verbose' : Bool)
    {spare : Nat} {others : List (List Node)} (sound : r.rest ≠ ['\\']) (left : r.rest ≠ [])
    (run : alternatives false verbose n r = .ok others r') (plain : r'.flags = {})
    (ended : r'.rest = []) (enough : steps ≤ spare) :
    others ≠ [] ∧ alternatives false verbose' (spare + n) (x.around r) =
        .ok (appendLast more others) (x.done r') := by
  induction n generalizing r verbose verbose' others with
  | zero => exact absurd run (fails_fail _ _ r others r')
  | succ n ih =>
    rcases alternatives_ok_iff.1 run with
      ⟨absent, -⟩ | ⟨s, t, items, rest, inner, accepted, outer, read, behind, rfl⟩
    · obtain ⟨-, rfl⟩ := accept_ok_false_iff.1 absent
      exact absurd ended left
    · obtain ⟨first, same⟩ := Agrees.accept (x := x) (E := .any) (by decide) _ _ sound accepted
      have second := ((together x n).sequence _ _ _ s items t (first.sound sound) read).1
      have onward := first.trans second
      have flags : t.flags = {} := (alternatives_onward (onward.sound sound) behind).flags plain
      obtain rfl : inner = false := by simp [outer, second.flags flags]
      have there := sequence_around closes (first.sound sound) read flags ⟨[], spare, false⟩ enough
      refine ⟨nofun, alternatives_ok_iff.2 (.inr ?_)⟩
      by_cases last : t.rest = []
      · rw [if_pos last] at there
        obtain ⟨m, rfl, rfl, rfl⟩ := eq_nil_of_alternatives_of_end last behind
        exact ⟨_, _, items ++ more, [], false, same trivial, x.terse.symm, there,
          alternatives_of_end rfl, rfl⟩
      · rw [if_neg last] at there
        obtain ⟨some, others⟩ := ih false (onward.sound sound) last behind
        refine ⟨_, _, items, appendLast more rest, false, same trivial, x.terse.symm, there,
          others, ?_⟩
        cases rest with
        | nil => exact absurd rfl some
        | cons second rest => rfl

theorem endsSequence_nil : EndsSequence [] := fun _ seen => nomatch seen

theorem closes_nothing (tail : x.tail = []) : Closes x 0 [] := by
  intro initial items n s ended
  rw [tail] at ended
  rw [List.append_nil, sequence_of_ends (ended ▸ endsSequence_nil)]
  obtain ⟨⟩ := s
  cases ended
  rfl

theorem closes_anything (tail : x.tail = ['.', '*']) : Closes x 2 [anything] := by
  intro initial items n s wildcard
  rw [tail] at wildcard
  have read : sequence initial false items (n + 3) { s with rest := ['.', '*'] } =
      sequence initial false (anything :: items) (n + 1) { s with rest := [] } :=
    sequence_anything nofun nofun
  rw [← wildcard] at read
  rw [read, sequence_of_ends endsSequence_nil,
    show anything :: items = [anything] ++ items from rfl, unpacked_append]
  rfl

/-- All alternatives in a context, behind the items before. -/
theorem all_alternatives_around (closes : Closes x steps more) {s : Reader} {first : List Node}
    {others : List (List Node)} (sound : r.rest ≠ ['\\'])
    (read : sequence initial false [] n r = .ok first s)
    (behind : alternatives false false n s = .ok others r') (plain : r'.flags = {})
    (ended : r'.rest = []) (b : Before) (enough : steps ≤ b.spare) {spare : Nat}
    (also : steps ≤ spare) :
    ∃ first' others' s', appendLast more ((unpacked b.items ++ first) :: others) =
        first' :: others' ∧
      sequence b.initial false b.items (b.spare + n) (x.around r) = .ok first' s' ∧
      alternatives false false (spare + n) s' = .ok others' (x.done r') := by
  have onward := ((together x n).sequence _ _ _ r first s sound read).1
  have flags := (alternatives_onward (onward.sound sound) behind).flags plain
  have there := sequence_around closes sound read flags b enough
  rw [List.nil_append] at there
  by_cases last : s.rest = []
  · rw [if_pos last] at there
    obtain ⟨m, rfl, rfl, rfl⟩ := eq_nil_of_alternatives_of_end last behind
    exact ⟨_, [], _, rfl, there, alternatives_of_end rfl⟩
  · rw [if_neg last] at there
    obtain ⟨some, rest⟩ := alternatives_around closes false (onward.sound sound) last behind plain
      ended also
    cases others with
    | nil => exact absurd rfl some
    | cons second others => exact ⟨_, _, _, rfl, there, rest⟩

end Whole

theorem choices_ok_iff {r r' : Reader} {n : Nat} {node : Node} :
    choices false false (n + 1) r = .ok node r' ↔ ∃ first others s,
      sequence true false [] n r = .ok first s ∧ alternatives false false n s = .ok others r' ∧
        node = .ofList (joined first others) := by
  conv => lhs; unfold choices
  rw [bind_ok_iff]
  constructor
  · rintro ⟨first, s, read, run⟩
    obtain ⟨others, t, behind, ⟨⟩⟩ := bind_ok_iff.1 run
    exact ⟨first, others, s, read, behind, rfl⟩
  · rintro ⟨first, others, s, read, behind, rfl⟩
    exact ⟨first, s, read, bind_ok_iff.2 ⟨others, r', behind, rfl⟩⟩

theorem appendLast_nil (alternatives : List (List Node)) :
    appendLast [] alternatives = alternatives := by
  fun_induction appendLast [] alternatives with
  | case1 => rfl
  | case2 a => rw [List.append_nil]
  | case3 a b others ih => rw [ih]

/-- What a whole pattern has to be beyond its alternatives. -/
structure Reader.Accepts (r : Reader) (node : Node) : Prop where
  clear : (r.flags.ascii && r.flags.unicode) = false
  ended : r.rest = []
  known : ∀ c ∈ r.conditions, c.1 < r.groups
  flawless : node.flaw? r.flags.template = none
  near : node.looksTooFar = false

theorem guarded_ok_iff {α β : Type} {c : Prop} [Decidable c] {m : Read α} (fails : Fails m)
    {k : α → Read β} {n : Read β} {r r' : Reader} {b : β} :
    (if c then m >>= k else n) r = .ok b r' ↔ ¬ c ∧ n r = .ok b r' := by
  split
  · next holds => exact ⟨fun run => absurd run (fails.bind r b r'), fun h => absurd holds h.1⟩
  · next lacks => exact ⟨fun run => ⟨lacks, run⟩, fun h => h.2⟩

theorem wholePattern_ok_iff {r r' : Reader} {node : Node} :
    wholePattern false r = .ok node r' ↔ r.rest ≠ ['\\'] ∧
      choices false false (2 * r.rest.length + 3) r = .ok node r' ∧ r'.Accepts node := by
  unfold wholePattern
  rw [get_bind, get_bind]
  refine (guarded_ok_iff (fails_throw _)).trans (and_congr_right fun _ => ?_)
  rw [bind_ok_iff]
  constructor
  · rintro ⟨tree, s, chosen, run⟩
    rw [get_bind] at run
    obtain ⟨clear, run⟩ := (guarded_ok_iff (fails_throw _)).1 run
    obtain ⟨ended, run⟩ := (guarded_ok_iff (fails_fail _ _)).1 run
    dsimp only at run
    generalize found : s.conditions.find? _ = unknown at run
    cases unknown with
    | some c => exact absurd run ((fails_throw _).bind _ _ _)
    | none =>
      dsimp only at run
      cases flaw : tree.flaw? s.flags.template with
      | some flaw =>
        rw [flaw] at run
        exact absurd run (fails_throw _ _ _ _)
      | none =>
        rw [flaw] at run
        dsimp only at run
        split at run
        · exact absurd run (fails_throw _ _ _ _)
        · next near =>
          cases run
          refine ⟨chosen, by simpa using clear, by simpa using ended, ?_, flaw, by simpa using near⟩
          simpa using List.find?_eq_none.1 found
  · rintro ⟨chosen, accepts⟩
    refine ⟨node, r', chosen, ?_⟩
    rw [get_bind]
    refine (guarded_ok_iff (fails_throw _)).2 ⟨by simp [accepts.clear], ?_⟩
    refine (guarded_ok_iff (fails_fail _ _)).2 ⟨by simp [accepts.ended], ?_⟩
    dsimp only
    generalize found : r'.conditions.find? _ = unknown
    cases unknown with
    | some c =>
      have late : r'.groups ≤ c.1 := by simpa using List.find?_some found
      exact absurd (accepts.known c (List.mem_of_find?_eq_some found)) (Nat.not_lt.2 late)
    | none =>
      dsimp only
      rw [accepts.flawless, accepts.near]
      rfl

/-- A reader before the text of a pattern. -/
def Reader.start (cs : List Char) (f : Flags) : Reader :=
  { rest := cs, flags := f, groups := 1, openGroups := [], names := [], widths := []
    lookBehind := none, conditions := [] }

/-- The alternatives of a pattern as they are read, before they are joined. -/
def alternativesOf (source : String) : List (List Node) :=
  let steps := 2 * source.toList.length + 2
  let reading : Read (List (List Node)) := do
    let first ← sequence true false [] steps
    return first :: (← alternatives false false steps)
  (answer? (reading (.start source.toList {}))).getD []

theorem parse_ok_iff {source : String} {f : Flags} (terse : f.verbose = false) {q : Pattern} :
    Pattern.parse source f = .ok q ↔ ∃ node r',
      wholePattern false (.start source.toList f) = .ok node r' ∧ q = ⟨source, r'.flags, node⟩ := by
  unfold Pattern.parse Reader.start
  rw [terse]
  simp only [EStateM.run]
  split
  · next node r' run =>
    simp only [run, Except.ok.injEq, EStateM.Result.ok.injEq]
    constructor
    · rintro rfl
      exact ⟨node, r', ⟨rfl, rfl⟩, rfl⟩
    · rintro ⟨_, _, ⟨rfl, rfl⟩, rfl⟩
      rfl
  · next d r' run => simp [run]

/-- A pattern is read by itself: the first alternative, the others, and then the text is used up and
no flags are set. -/
structure ReadAlone (source : String) (first : List Node) (others : List (List Node))
    (s r : Reader) : Prop where
  sound : source.toList ≠ ['\\']
  reads : sequence true false [] (2 * source.toList.length + 2) (.start source.toList {}) =
    .ok first s
  behind : alternatives false false (2 * source.toList.length + 2) s = .ok others r
  accepts : r.Accepts (.ofList (joined first others))
  plain : r.flags = {}

theorem readAlone_of_parse {source : String} {q : Pattern} (alone : Pattern.parse source {} = .ok q)
    (unflagged : q.flags = {}) :
    ∃ first others s r, ReadAlone source first others s r ∧
      q = ⟨source, {}, .ofList (joined first others)⟩ := by
  obtain ⟨node, r, whole, rfl⟩ := (parse_ok_iff rfl).1 alone
  obtain ⟨sound, chosen, accepts⟩ := wholePattern_ok_iff.1 whole
  obtain ⟨first, others, s, read, behind, rfl⟩ := choices_ok_iff.1 chosen
  exact ⟨first, others, s, r, ⟨sound, read, behind, accepts, unflagged⟩, by rw [← unflagged]⟩

namespace ReadAlone

variable {source : String} {first first' : List Node} {others others' : List (List Node)}
  {s r : Reader}

theorem alternativesOf (read : ReadAlone source first others s r) :
    alternativesOf source = first :: others := by
  unfold Pattern.alternativesOf
  dsimp only
  rw [bind_of_ok read.reads, bind_of_ok read.behind]
  rfl

/-- The pattern in a context, with the alternatives that it has there. -/
theorem whole (read : ReadAlone source first others s r) {x : Context} {steps : Nat}
    {more : List Node} (closes : Closes x steps more) {cs : List Char} (sound : cs ≠ ['\\'])
    {b : Before} (enough : steps ≤ b.spare)
    (begins : sequence true false [] (2 * cs.length + 2) (.start cs x.flags) =
      sequence b.initial false b.items (b.spare + (2 * source.toList.length + 2))
        (x.around (.start source.toList {})))
    {spare : Nat} (long : 2 * cs.length + 2 = spare + (2 * source.toList.length + 2))
    (also : steps ≤ spare)
    (all : appendLast more ((unpacked b.items ++ first) :: others) = first' :: others')
    (accepts : (x.done r).Accepts (.ofList (joined first' others'))) :
    wholePattern false (.start cs x.flags) =
      .ok (.ofList (joined first' others')) (x.done r) := by
  obtain ⟨_, _, s', same, there, behind⟩ := all_alternatives_around closes read.sound read.reads
    read.behind read.plain read.accepts.ended b enough also
  cases all.symm.trans same
  refine wholePattern_ok_iff.2 ⟨sound, choices_ok_iff.2 ⟨first', others', s', ?_, ?_, rfl⟩, accepts⟩
  · exact begins.trans there
  · change alternatives false false (2 * cs.length + 2) s' = _
    rw [long]
    exact behind

/-- A repetition mark cannot come first. -/
theorem unmarked (read : ReadAlone source first others s r) {c : Char}
    (seen : token? source.toList = some (.plain c)) : c ≠ '?' ∧ c ≠ '+' := by
  have run := read.reads
  have first : token? (Reader.start source.toList {}).rest = some (.plain c) := seen
  unfold sequence at run
  rw [bind_of_ok (peek_run _), first] at run
  constructor
  · rintro rfl
    obtain ⟨_, _, -, run⟩ := bind_ok_iff.1 run
    cases run
  · rintro rfl
    obtain ⟨_, _, -, run⟩ := bind_ok_iff.1 run
    cases run

theorem flawless (read : ReadAlone source first others s r) :
    (Node.ofList (joined first others)).flaw? false = none := by
  have accepted := read.accepts.flawless
  rw [read.plain] at accepted
  exact accepted

/-- In a context only the tree can be a reason to refuse the pattern. -/
theorem accepts_done (read : ReadAlone source first others s r) {x : Context} {node : Node}
    (clear : (x.flags.ascii && x.flags.unicode) = false) (calm : x.flags.template = false)
    (flawless : node.flaw? false = none) (near : node.looksTooFar = false) :
    (x.done r).Accepts node := by
  refine ⟨clear, rfl, ?_, ?_, near⟩
  · intro c there
    obtain ⟨d, known, rfl⟩ := List.mem_map.1 there
    exact read.accepts.known d known
  · change node.flaw? x.flags.template = none
    rw [calm]
    exact flawless

/-- A pattern has the same tree whether case is ignored or not. -/
theorem parse (read : ReadAlone source first others s r) (ignoreCase : Bool) :
    Pattern.parse source { ignoreCase } =
      .ok ⟨source, { ignoreCase }, .ofList (joined first others)⟩ := by
  let x : Context := ⟨[], { ignoreCase }, nofun, rfl⟩
  have start : x.around (.start source.toList {}) = .start source.toList { ignoreCase } := by
    simp [x, Context.around, Reader.start]
  have begins : sequence true false [] (2 * source.toList.length + 2)
      (.start source.toList { ignoreCase }) =
      sequence true false [] (0 + (2 * source.toList.length + 2))
        (x.around (.start source.toList {})) := by
    rw [start, Nat.zero_add]
  have accepts := read.accepts_done (x := x) rfl rfl read.flawless read.accepts.near
  refine (parse_ok_iff rfl).2 ⟨_, x.done r, ?_, rfl⟩
  exact read.whole (closes_nothing rfl) read.sound (b := ⟨[], 0, true⟩) (Nat.le_refl 0) begins
    (Nat.zero_add _).symm (Nat.le_refl 0) (appendLast_nil _) accepts

/-- A pattern between two wildcards has its alternatives, the first one behind a wildcard and the
last one before one. -/
theorem parse_wrapped (read : ReadAlone source first others s r) (ignoreCase : Bool)
    (all : appendLast [anything] ((anything :: first) :: others) = first' :: others')
    (flawless : (Node.ofList (joined first' others')).flaw? false = none)
    (near : (Node.ofList (joined first' others')).looksTooFar = false) :
    Pattern.parse (".*" ++ source ++ ".*") { ignoreCase } =
      .ok ⟨".*" ++ source ++ ".*", { ignoreCase }, .ofList (joined first' others')⟩ := by
  let x : Context := ⟨['.', '*'], { ignoreCase }, by simp, rfl⟩
  have text : (".*" ++ source ++ ".*").toList = '.' :: '*' :: (source.toList ++ ['.', '*']) := by
    simp
  have sound : source.toList ++ ['.', '*'] ≠ ['\\'] := x.append_ne_lone read.sound
  have unmarked : ∀ c, token? (source.toList ++ ['.', '*']) = some (.plain c) →
      c ≠ '?' ∧ c ≠ '+' := by
    intro c seen
    by_cases left : source.toList = []
    · rw [left] at seen
      cases seen
      decide
    · rw [(token_append left read.sound _).1] at seen
      exact read.unmarked seen
  have length : 2 * (".*" ++ source ++ ".*").toList.length + 2 =
      8 + (2 * source.toList.length + 2) := by
    rw [text]
    simp only [List.length_cons, List.length_append, List.length_nil]
    omega
  have begins : sequence true false [] (2 * (".*" ++ source ++ ".*").toList.length + 2)
      (.start (".*" ++ source ++ ".*").toList { ignoreCase }) =
      sequence true false [anything] (6 + (2 * source.toList.length + 2))
        (x.around (.start source.toList {})) := by
    rw [length, text, show 8 + (2 * source.toList.length + 2) =
      6 + (2 * source.toList.length + 2) + 2 by omega]
    exact sequence_anything (r := .start [] { ignoreCase }) sound unmarked
  have accepts := read.accepts_done (x := x) rfl rfl flawless near
  refine (parse_ok_iff rfl).2 ⟨_, x.done r, ?_, rfl⟩
  refine read.whole (closes_anything rfl) ?_ (b := ⟨[anything], 6, true⟩) (by decide) begins length
    (by decide) all accepts
  rw [text]
  nofun

end ReadAlone

end Shopwalk.Pattern
