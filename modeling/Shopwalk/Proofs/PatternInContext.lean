import Shopwalk.Proofs.PatternGroups

/-!
Sequences and alternatives of a pattern that stands in another one. A sequence that is read in a
context begins with the items that stand before it and goes on with the text behind it, so that it
is not the same sequence; but item by item the two go together until the first one ends.
-/

namespace Shopwalk.Pattern

/-- What a sequence is read behind: the items before it, last first, with so much more fuel, and
whether flags for the whole pattern may stand there. -/
structure Before where
  items : List Node
  spare : Nat
  initial : Bool

section Sequences

variable {x : Context} {verbose : Bool} {r : Reader} {α : Type}

/-- A sequence ends before a bar, before a closing parenthesis and at the end of the text. -/
def EndsSequence (cs : List Char) : Prop :=
  ∀ t, token? cs = some t → t = .plain '|' ∨ t = .plain ')'

/-- Wherever the first reading succeeds and ends well, the second, behind whatever items, comes to
where the first one ended, with the same items. -/
def Continues (x : Context) (verbose : Bool) (r : Reader) (m : Read (List Node))
    (m' : Before → Read (List Node)) : Prop :=
  ∀ a r', r.rest ≠ ['\\'] → m r = .ok a r' →
    r.Onward r' ∧ EndsSequence r'.rest ∧
      ((Ending.settled verbose).holds r' → ∃ last left, a = unpacked last ∧
        ∀ b, m' b (x.around r) =
          sequence b.initial verbose (last ++ b.items) (b.spare + (left + 1)) (x.around r'))

theorem ne_nil_of_token {cs : List Char} {t : Token} (seen : token? cs = some t) : cs ≠ [] := by
  rintro rfl
  cases seen

namespace Continues

theorem of_fails {m : Read (List Node)} {m' : Before → Read (List Node)} (fails : Fails m) :
    Continues x verbose r m m' :=
  fun a r' _ run => absurd run (fails r a r')

theorem get_bind {k : Reader → Read (List Node)} {k' : Before → Reader → Read (List Node)}
    (rest : Continues x verbose r (k r) fun b => k' b (x.around r)) :
    Continues x verbose r (get >>= k) fun b => get >>= k' b := rest

theorem ite {c : Prop} [Decidable c] {m n : Read (List Node)} {m' n' : Before → Read (List Node)}
    (yes : c → Continues x verbose r m m') (no : ¬ c → Continues x verbose r n n') :
    Continues x verbose r (if c then m else n) fun b => if c then m' b else n' b := by
  split
  · next holds => exact yes holds
  · next lacks => exact no lacks

/-- What is read next ends well if the whole does. -/
theorem bind_of {E : Ending} {m : Read α} {m' : Before → Read α} {k : α → Read (List Node)}
    {k' : Before → α → Read (List Node)} (first : ∀ b, Agrees x E r m (m' b))
    (well : ∀ a r' c r'', k a r' = .ok c r'' → (Ending.settled verbose).holds r' → E.holds r')
    (rest : ∀ a r', Continues x verbose r' (k a) fun b => k' b a) :
    Continues x verbose r (m >>= k) fun b => m' b >>= k' b := by
  intro c r'' sound run
  obtain ⟨a, r', ran, continued⟩ := bind_ok_iff.1 run
  obtain ⟨onward, -⟩ := first ⟨[], 0, false⟩ a r' sound ran
  obtain ⟨further, stops, finished⟩ := rest a r' c r'' (onward.sound sound) continued
  refine ⟨onward.trans further, stops, fun ends => ?_⟩
  obtain ⟨last, left, same, goes⟩ := finished ends
  refine ⟨last, left, same, fun b => ?_⟩
  have settled := well a r' c r'' continued ((Ending.settled verbose).before further ends)
  exact (bind_of_ok ((first b a r' sound ran).2 settled)).trans (goes b)

theorem bind {m : Read α} {m' : Before → Read α} {k : α → Read (List Node)}
    {k' : Before → α → Read (List Node)} (first : ∀ b, Agrees x (.settled verbose) r m (m' b))
    (rest : ∀ a r', Continues x verbose r' (k a) fun b => k' b a) :
    Continues x verbose r (m >>= k) fun b => m' b >>= k' b :=
  bind_of first (fun _ _ _ _ _ => id) rest

end Continues

/-- A reading that does not succeed at the end of the text. -/
def Needs (m : Read α) : Prop := ∀ r a r', m r = .ok a r' → r.rest ≠ []

namespace Needs

theorem bind {β : Type} {m : Read α} {k : α → Read β} (first : Needs m) : Needs (m >>= k) := by
  intro r b r'' run
  obtain ⟨a, r', ran, -⟩ := bind_ok_iff.1 run
  exact first r a r' ran

/-- Where a token is not there, what comes next is needed. -/
theorem accept_bind {β : Type} {c : Char} {k : Bool → Read β} (rest : Needs (k false)) :
    Needs (accept c >>= k) := by
  intro r b r'' run
  obtain ⟨seen, r', ran, continued⟩ := bind_ok_iff.1 run
  unfold accept at ran
  rw [bind_of_ok (peek_run r)] at ran
  split at ran
  · next here =>
    intro ended
    rw [ended] at here
    cases here
  · cases ran
    exact rest r b r'' continued

theorem closeParen (opened : Nat) : Needs (closeParen opened) :=
  accept_bind fun _ _ _ => nofun

theorem modify_bind {β : Type} {g : Reader → Reader} {m : Read β} (same : ∀ r, (g r).rest = r.rest)
    (rest : Needs m) : Needs (modify g >>= fun _ => m) := by
  intro r b r' run
  rw [← same r]
  exact rest (g r) b r' run

theorem unlessNext {β : Type} {c : Char} {m n : Read β} (fails : Fails m) (rest : Needs n) :
    Needs (peek >>= fun t => if t = some (.plain c) then m else n) := by
  intro r b r' run
  rw [bind_of_ok (peek_run r)] at run
  split at run
  · exact absurd run (fails r b r')
  · exact rest r b r' run

end Needs

namespace Continues

theorem peek_bind {t : Token} {k : Option Token → Read (List Node)}
    {k' : Before → Option Token → Read (List Node)} (seen : token? r.rest = some t)
    (rest : Continues x verbose r (k (some t)) fun b => k' b (some t)) :
    Continues x verbose r (peek >>= k) fun b => peek >>= k' b := by
  intro a r' sound run
  have left : r.rest ≠ [] := ne_nil_of_token seen
  have same : token? (x.around r).rest = some t := (token_append left sound x.tail).1.trans seen
  rw [bind_of_ok (peek_run r), seen] at run
  obtain ⟨onward, stops, finished⟩ := rest a r' sound run
  refine ⟨onward, stops, fun ends => ?_⟩
  obtain ⟨last, left, rfl, goes⟩ := finished ends
  refine ⟨last, left, rfl, fun b => ?_⟩
  rw [← goes b]
  exact (bind_of_ok (peek_run (x.around r))).trans (by rw [same])

/-- A group is read up to its closing parenthesis, whatever the sequence is that it stands in. -/
theorem bind_closed {m : Read α} {m' : Before → Read α} {k : α → Read (List Node)}
    {k' : Before → α → Read (List Node)} (first : ∀ b, Agrees x (.settled true) r m (m' b))
    (closes : ∀ a, Needs (k a)) (rest : ∀ a r', Continues x verbose r' (k a) fun b => k' b a) :
    Continues x verbose r (m >>= k) fun b => m' b >>= k' b :=
  bind_of first (fun a r' c r'' run settled => ⟨settled.1, fun _ => closes a r' c r'' run⟩) rest

/-- A token that must not come next. -/
theorem unlessNext {c : Char} (other : c ≠ '.') {m n : Read (List Node)}
    {m' n' : Before → Read (List Node)} (fails : Fails m) (rest : Continues x verbose r n n') :
    Continues x verbose r (peek >>= fun t => if t = some (.plain c) then m else n)
      fun b => peek >>= fun t => if t = some (.plain c) then m' b else n' b := by
  intro a r' sound run
  rw [bind_of_ok (peek_run r)] at run
  split at run
  · exact absurd run (fails r a r')
  · next absent =>
    obtain ⟨onward, stops, finished⟩ := rest a r' sound run
    refine ⟨onward, stops, fun ends => ?_⟩
    obtain ⟨last, left, same, goes⟩ := finished ends
    refine ⟨last, left, same, fun b => ?_⟩
    have still : token? (x.around r).rest ≠ some (.plain c) := by
      intro next
      exact absent ((x.token?_eq_plain_iff sound other).1 next)
    rw [← goes b]
    exact (bind_of_ok (peek_run (x.around r))).trans (by rw [if_neg still])

/-- Where a sequence ends, it has come to its end. -/
theorem stop {m : Read (List Node)} {items : List Node} {n : Nat} (ends : EndsSequence r.rest)
    (run : m r = .ok (unpacked items) r) :
    Continues x verbose r m
      fun b => sequence b.initial verbose (items ++ b.items) (b.spare + (n + 1)) := by
  intro a r' _ ran
  cases run.symm.trans ran
  exact ⟨.refl r, ends, fun _ => ⟨items, n, rfl, fun b => rfl⟩⟩

end Continues

theorem sequence_of_ends {initial : Bool} {items : List Node} {n : Nat}
    (ends : EndsSequence r.rest) :
    sequence initial verbose items (n + 1) r = .ok (unpacked items) r := by
  unfold sequence
  rw [bind_of_ok (peek_run r)]
  cases seen : token? r.rest with
  | none => rfl
  | some t => rcases ends t seen with rfl | rfl <;> rfl

theorem EndsSequence.append {cs : List Char} (ends : EndsSequence cs) (left : cs ≠ [])
    (sound : cs ≠ ['\\']) (tail : List Char) : EndsSequence (cs ++ tail) := by
  unfold EndsSequence
  rw [(token_append left sound tail).1]
  exact ends

/-- With this much fuel, sequences and what stands in groups are read in the same way in a
context. -/
structure Together (x : Context) (n : Nat) : Prop where
  sequence : ∀ initial verbose items r, Continues x verbose r (sequence initial verbose items n)
    fun b => sequence b.initial verbose (items ++ b.items) (b.spare + n)
  choices : ∀ verbose spare r,
    Agrees x (.settled true) r (choices true verbose n) (choices true verbose (spare + n))
  alternatives : ∀ verbose spare r,
    Agrees x (.settled true) r (alternatives true verbose n) (alternatives true verbose (spare + n))

namespace Together

variable {n : Nat}

/-- Inside a group a sequence does not go on with what stands behind the pattern. -/
theorem closed (t : Together x n) (initial initial' verbose : Bool) (spare : Nat) (r : Reader) :
    Agrees x (.settled true) r (Pattern.sequence initial verbose [] n)
      (Pattern.sequence initial' verbose [] (spare + n)) := by
  intro a r' sound run
  obtain ⟨onward, stops, finished⟩ := t.sequence initial verbose [] r a r' sound run
  refine ⟨onward, fun ends => ?_⟩
  obtain ⟨last, left, rfl, goes⟩ := finished ⟨ends.1, fun _ => ends.2 rfl⟩
  have inside := stops.append (ends.2 rfl) (onward.sound sound) x.tail
  have there := goes ⟨[], spare, initial'⟩
  rw [List.append_nil] at there
  exact there.trans (sequence_of_ends inside)

theorem choices_succ (t : Together x n) (verbose : Bool) (spare : Nat) (r : Reader) :
    Agrees x (.settled true) r (Pattern.choices true verbose (n + 1))
      (Pattern.choices true verbose (spare + (n + 1))) := by
  refine (t.closed _ _ verbose spare r).bind fun first r' => ?_
  exact (t.alternatives verbose spare r').bind fun others _ => .pure _

theorem alternatives_succ (t : Together x n) (verbose : Bool) (spare : Nat) (r : Reader) :
    Agrees x (.settled true) r (Pattern.alternatives true verbose (n + 1))
      (Pattern.alternatives true verbose (spare + (n + 1))) := by
  refine (Agrees.accept (by decide)).bind fun bar r' => ?_
  refine .ite (fun _ => .get_bind ?_) fun _ => .pure []
  refine (t.closed _ _ verbose spare r').bind fun items r' => ?_
  exact (t.alternatives verbose spare r').bind fun others _ => .pure _

/-- A group is read up to its closing parenthesis. -/
theorem group (t : Together x n) (inner : Bool) (place place' : Nat) {k : Node → Read (List Node)}
    {k' : Before → Node → Read (List Node)}
    (rest : ∀ body r', Continues x verbose r' (k body) fun b => k' b body) :
    Continues x verbose r
      (Pattern.choices true inner n >>= fun body => closeParen place >>= fun _ => k body)
      fun b => Pattern.choices true inner (b.spare + n) >>= fun body =>
        closeParen place' >>= fun _ => k' b body := by
  refine .bind_closed (fun b => t.choices inner b.spare r) (fun _ => (Needs.closeParen place).bind)
    fun body r' => ?_
  exact .bind (fun _ => .closeParen place place') fun _ r' => rest body r'

/-- What is looked for before a place. Meanwhile the reader knows the groups from before. -/
theorem lookBehind (t : Together x n) (inner : Bool) (place place' : Nat)
    {k : Node → Read (List Node)} {k' : Before → Node → Read (List Node)}
    (rest : ∀ body r', Continues x verbose r' (k body) fun b => k' b body) :
    Continues x verbose r
      (do
        let outer := (← get).lookBehind
        modify fun r => { r with lookBehind := outer.getD r.groups }
        let body ← Pattern.choices true inner n
        modify fun r => { r with lookBehind := outer }
        closeParen place
        k body)
      (fun b => do
        let outer := (← get).lookBehind
        modify fun r => { r with lookBehind := outer.getD r.groups }
        let body ← Pattern.choices true inner (b.spare + n)
        modify fun r => { r with lookBehind := outer }
        closeParen place'
        k' b body) := by
  refine .get_bind (.bind (fun _ => .modify rfl rfl rfl) fun _ r' => ?_)
  refine .bind_closed (fun b => t.choices _ b.spare r')
    (fun _ => .modify_bind (fun _ => rfl) (Needs.closeParen _).bind) fun body r' => ?_
  refine .bind (fun _ => .modify rfl rfl rfl) fun _ r' => ?_
  exact .bind (fun _ => .closeParen _ _) fun _ r' => rest body r'

/-- The one or two branches of a condition. -/
theorem branches (t : Together x n) (verbose : Bool) (place place' : Nat)
    {k : List Node → List Node → Read (List Node)}
    {k' : Before → List Node → List Node → Read (List Node)}
    (rest : ∀ yes no r', Continues x verbose r' (k yes no) fun b => k' b yes no) :
    Continues x verbose r
      (do
        let yes ← Pattern.sequence false verbose [] n
        let no ←
          if ← accept '|' then
            let items ← Pattern.sequence false verbose [] n
            if (← peek) = some (.plain '|') then fail .tooManyBranches 0
            pure items
          else pure []
        closeParen place
        k yes no)
      (fun b => do
        let yes ← Pattern.sequence false verbose [] (b.spare + n)
        let no ←
          if ← accept '|' then
            let items ← Pattern.sequence false verbose [] (b.spare + n)
            if (← peek) = some (.plain '|') then fail .tooManyBranches 0
            pure items
          else pure []
        closeParen place'
        k' b yes no) := by
  refine .bind_closed (fun b => t.closed false false verbose b.spare r)
    (fun yes => .accept_bind (Needs.closeParen _).bind) fun yes r' => ?_
  refine .bind (fun _ => .accept (by decide)) fun bar r' => ?_
  refine .ite (fun _ => ?_) fun _ => ?_
  · refine .bind_closed (fun b => t.closed false false verbose b.spare r')
      (fun no => .unlessNext (fails_fail _ _).bind (Needs.closeParen _).bind)
      fun no r' => ?_
    refine .unlessNext (by decide) (fails_fail _ _).bind ?_
    refine .bind (fun _ => .pure no) fun no r' => ?_
    exact .bind (fun _ => .closeParen _ _) fun _ r' => rest yes no r'
  · refine .bind (fun _ => .pure []) fun no r' => ?_
    exact .bind (fun _ => .closeParen _ _) fun _ r' => rest yes no r'

/-- Behind flags for the whole pattern nothing ends well. -/
theorem behindFlags (t : Together x n) (initial verbose : Bool) (items : List Node) (r : Reader) :
    Continues x verbose r
      (Pattern.sequence initial (verbose || initial && r.flags.verbose) items n)
      fun b => Pattern.sequence b.initial (verbose || b.initial && (x.around r).flags.verbose)
        (items ++ b.items) (b.spare + n) := by
  have terse : (x.around r).flags.verbose = false := x.terse
  simp only [terse, Bool.and_false, Bool.or_false]
  cases flagged : r.flags.verbose with
  | false =>
    rw [Bool.and_false, Bool.or_false]
    exact t.sequence initial verbose items r
  | true =>
    intro a r' sound run
    obtain ⟨onward, stops, -⟩ := t.sequence _ _ items r a r' sound run
    refine ⟨onward, stops, fun ends => ?_⟩
    rw [onward.flags ends.1] at flagged
    cases flagged

/-- A repetition is put on the last item in the same way whatever stands before. -/
theorem repeatLast_cases (least : Nat) (most : Option Nat) (items : List Node) :
    (∀ here, Fails (repeatLast here least most items)) ∨
      ∃ body rest, ∀ here before, repeatLast here least most (items ++ before) =
        greed >>= fun g => pure (.rep g least most body :: (rest ++ before)) := by
  cases items with
  | nil => exact .inl fun here => fails_throw _
  | cons item rest =>
    cases item <;>
      first
      | exact .inl fun here => fails_throw _
      | exact .inr ⟨_, rest, fun _ _ => rfl⟩

theorem repeated (t : Together x n) (initial verbose : Bool) (here here' least : Nat)
    (most : Option Nat) (items : List Node) (r : Reader) :
    Continues x verbose r
      (repeatLast here least most items >>= fun items => Pattern.sequence initial verbose items n)
      fun b => repeatLast here' least most (items ++ b.items) >>= fun items =>
        Pattern.sequence b.initial verbose items (b.spare + n) := by
  rcases repeatLast_cases least most items with fails | ⟨body, rest, repeats⟩
  · exact .of_fails (fails _).bind
  · have alone := repeats here []
    rw [List.append_nil, List.append_nil] at alone
    simp only [repeats, alone, bind_assoc, pure_bind]
    exact .bind (fun _ => .greed) fun g r' => t.sequence _ _ _ _

/-- One token is read in both readings, and with it the item that it begins. -/
theorem sequence_succ (t : Together x n) (initial verbose : Bool) (items : List Node)
    (r : Reader) :
    Continues x verbose r (Pattern.sequence initial verbose items (n + 1))
      fun b => Pattern.sequence b.initial verbose (items ++ b.items) (b.spare + (n + 1)) := by
  by_cases ends : EndsSequence r.rest
  · exact .stop ends (sequence_of_ends ends)
  · obtain ⟨token, seen, other⟩ :
        ∃ t, token? r.rest = some t ∧ ¬ (t = .plain '|' ∨ t = .plain ')') := by
      simpa [EndsSequence] using ends
    refine .peek_bind seen ?_
    cases token with
    | escaped c =>
      refine .bind (fun _ => .advance (ne_nil_of_token seen)) fun _ r' => ?_
      exact .bind (fun _ => .escapeNode c) fun node r' => t.sequence _ _ _ _
    | plain c =>
      have inside : (decide (c = '|') || decide (c = ')')) = false := by simpa using other
      simp only [inside, Bool.false_eq_true, ↓reduceIte]
      refine .bind (fun _ => .advance (ne_nil_of_token seen)) fun _ r' => ?_
      refine .ite (fun _ => t.sequence _ _ _ _) fun _ => .ite (fun comment => ?_) fun _ => ?_
      · obtain ⟨rfl, -⟩ : verbose = true ∧ c = '#' := by simpa using comment
        have le := Nat.succ_le_succ (x.length_le r')
        exact .get_bind (.bind (fun _ => .skipLine (Nat.lt_succ_self _) le) fun _ _ =>
          t.sequence _ _ _ _)
      · split
        · exact t.sequence _ _ _ _
        · exact t.sequence _ _ _ _
        · exact t.sequence _ _ _ _
        · exact .bind (fun _ => .bracketSet) fun node r' => t.sequence _ _ _ _
        · refine .get_bind (.bind (fun _ => .opening _ _ _ _) fun o r' => ?_)
          match o with
          | .nothing => exact .get_bind (t.behindFlags initial verbose items r')
          | .item node => exact t.sequence _ _ _ _
          | .capture name =>
            refine .bind (fun _ => .openGroup name) fun g r' => t.group _ _ _ fun body r' => ?_
            exact .bind (fun _ => .closeGroup g body) fun _ r' => t.sequence _ _ _ _
          | .plain => exact t.group _ _ _ fun body r' => t.sequence _ _ _ _
          | .scoped on off => exact t.group _ _ _ fun body r' => t.sequence _ _ _ _
          | .atomic => exact t.group _ _ _ fun body r' => t.sequence _ _ _ _
          | .look true positive => exact t.group _ _ _ fun body r' => t.sequence _ _ _ _
          | .look false positive =>
            exact t.lookBehind _ _ _ fun body r' => .get_bind (t.sequence _ _ _ _)
          | .condition group => exact t.branches _ _ _ fun yes no r' => t.sequence _ _ _ _
        · refine .ite (fun _ => .get_bind (.bind (fun _ => .bounds? c) fun bounds r' => ?_))
            fun _ => t.sequence _ _ _ _
          match bounds with
          | none => exact t.sequence _ _ _ _
          | some (least, most) => exact t.repeated _ _ _ _ _ _ _ _

end Together

theorem together (x : Context) (n : Nat) : Together x n := by
  induction n with
  | zero =>
    exact ⟨fun _ _ _ _ => .of_fails (fails_fail _ _), fun _ _ _ => .fail, fun _ _ _ => .fail⟩
  | succ n ih => exact ⟨ih.sequence_succ, ih.choices_succ, ih.alternatives_succ⟩

end Sequences

end Shopwalk.Pattern
