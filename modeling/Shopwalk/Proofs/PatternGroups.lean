import Shopwalk.Proofs.PatternReading

/-!
Groups of a pattern that stands in another one: how they open and close, and which flags they set.
Flags for the whole pattern could be set in no other place than its start, so that a pattern that
sets some is not read in the same way with more text around it.
-/

namespace Shopwalk.Pattern

section Groups

variable {x : Context} {E : Ending} {nested : Bool} {r : Reader} {α β : Type}

namespace Agrees

theorem checkName (name : String) : Agrees x E r (checkName name) (checkName name) :=
  .ite (fun _ => .fail) fun _ => .pure ()

theorem openGroup (name : Option String) : Agrees x E r (openGroup name) (openGroup name) := by
  refine .get_bind ?_
  cases name with
  | none =>
    dsimp only
    exact .bind (.set rfl rfl rfl) fun _ _ => .pure r.groups
  | some name =>
    have names : (x.around r).names = r.names := rfl
    dsimp only
    rw [names]
    split
    · exact .of_fails (fails_fail _ _).bind
    · exact .bind (.set rfl rfl rfl) fun _ _ => .pure r.groups

theorem closeGroup (n : Nat) (body : Node) :
    Agrees x E r (closeGroup n body) (closeGroup n body) :=
  .modify rfl rfl rfl

theorem closeParen (opened opened' : Nat) :
    Agrees x E r (closeParen opened) (closeParen opened') := by
  refine (accept (by decide)).bind fun close r' => ?_
  exact .ite (fun _ => .of_fails (fails_throw _)) fun _ => .pure ()

/-- A group named in a condition. Its place is noted for a defect that may come later. -/
theorem conditionGroup : Agrees x E r conditionGroup conditionGroup := by
  refine (nameUntil _ _).bind fun name r' => ?_
  have checked (group : Nat) (r : Reader) : Agrees x E r
      (Pattern.checkLookBehind group >>= fun _ => Pure.pure group)
      (Pattern.checkLookBehind group >>= fun _ => Pure.pure group) :=
    (checkLookBehind group).bind fun _ _ => .pure group
  refine .ite (fun _ => .get_same rfl ?_) fun _ => ?_
  · split
    · exact .of_fails (fails_fail _ _).bind
    · exact (Agrees.pure _).bind checked
  · dsimp only
    split
    · exact .of_fails (fails_fail _ _).bind
    · exact .of_fails (fails_fail _ _).bind
    · refine .guarded (fails_fail _ _) fun _ => .guarded (fails_fail _ _) fun _ => .get_bind ?_
      refine .bind (.modify rfl rfl ?_) fun _ _ => (Agrees.pure _).bind checked
      simp only [Context.around, List.map_append, List.map_cons, List.map_nil, List.length_append,
        Nat.add_right_comm]

theorem skipComment {opened opened' n n' : Nat} (le : n ≤ n') :
    Agrees x E r (skipComment opened n) (skipComment opened' n') := by
  induction n generalizing n' r with
  | zero => exact .of_fails (fails_throw _)
  | succ n ih =>
    obtain ⟨n', rfl⟩ : ∃ m, n' = m + 1 := ⟨n' - 1, by omega⟩
    refine .take_bind (fails_throw _) fun t r' => ?_
    exact .ite (fun _ => .pure ()) fun _ => ih (Nat.le_of_succ_le_succ le)

/-- A line comment that ends before the text does. -/
theorem skipLine {n n' : Nat} (enough : r.rest.length < n) (le : n ≤ n') :
    Agrees x (.settled true) r (skipLine n) (skipLine n') := by
  induction n generalizing n' r with
  | zero => exact absurd enough (Nat.not_lt_zero _)
  | succ n ih =>
    obtain ⟨n', rfl⟩ : ∃ m, n' = m + 1 := ⟨n' - 1, by omega⟩
    refine .take_bind_of (fun ended _ _ run => ?_) fun t r' shorter => ?_
    · cases run
      exact ⟨.refl r, fun ends => ends.2 rfl ended⟩
    · exact .ite (fun _ => .pure ()) fun _ => ih (by omega) (Nat.le_of_succ_le_succ le)

end Agrees

/-! ### Flags -/

theorem Flags.union_eq_empty_iff {f g : Flags} : f.union g = {} ↔ f = {} ∧ g = {} := by
  obtain ⟨⟩ := f
  obtain ⟨⟩ := g
  simp only [Flags.union, Flags.mk.injEq, Bool.or_eq_false_iff]
  grind

/-- Every letter that may stand there sets a flag. -/
theorem union_ne_empty {c : Char} {flag : Flags} {kind : Bool} (read : flag? c = some (flag, kind))
    (other : c ≠ 'L') (on : Flags) : on.union flag ≠ {} := by
  intro none
  have unset := (Flags.union_eq_empty_iff.1 none).2
  unfold flag? at read
  split at read <;> cases read <;> first | exact absurd rfl other | cases unset

/-- A reading of flags for the whole pattern sets one. -/
def Sets (m : Read FlagScope) : Prop := ∀ r r', m r = .ok .whole r' → r'.flags ≠ {}

namespace Sets

theorem of_fails {m : Read FlagScope} (fails : Fails m) : Sets m :=
  fun r r' run => absurd run (fails r _ r')

theorem fail {flaw : Flaw} {offset : Nat} : Sets (fail flaw offset) :=
  .of_fails (fails_fail flaw offset)

theorem bind {m : Read α} {k : α → Read FlagScope} (rest : ∀ a, Sets (k a)) : Sets (m >>= k) := by
  intro r r' run
  obtain ⟨a, u, -, continued⟩ := bind_ok_iff.1 run
  exact rest a u r' continued

theorem ite {c : Prop} [Decidable c] {m n : Read FlagScope} (yes : c → Sets m) (no : ¬ c → Sets n) :
    Sets (if c then m else n) := by
  split
  · next holds => exact yes holds
  · next lacks => exact no lacks

theorem group (on off : Flags) : Sets (pure (.group on off)) := fun _ _ => nofun

theorem flagsOff (on : Flags) (letters : List Char) (n : Nat) (c : Char) (off : Flags)
    (seen : List Char) : Sets (flagsOff on letters n c off seen) := by
  induction n generalizing c off seen with
  | zero => exact .fail
  | succ n ih =>
    unfold Pattern.flagsOff
    split
    · exact .fail
    · refine .ite (fun _ => .of_fails (fails_fail _ _).bind) fun _ => .bind fun t => ?_
      split
      · exact .fail
      · refine .ite (fun _ => .of_fails (fails_fail _ _).bind) fun _ => ?_
        exact .ite (fun _ => .of_fails (fails_fail _ _).bind) fun _ => .group _ _
      · exact .ite (fun _ => ih _ _ _) fun _ => .ite (fun _ => .fail) fun _ => .fail
      · exact .fail

theorem flagsEnd {on : Flags} (letters : List Char) {c : Char} (some : c = ')' → on ≠ {}) :
    Sets (flagsEnd on letters c) := by
  refine .ite (fun close => ?_) fun _ => .ite (fun _ => .of_fails (fails_fail _ _).bind) fun _ => ?_
  · rintro r _ ⟨⟩ none
    exact some close (Flags.union_eq_empty_iff.1 none).2
  · refine .ite (fun _ => .bind fun t => ?_) fun _ => .group _ _
    split
    · exact .fail
    · refine .ite (fun _ => .bind fun r => flagsOff _ _ _ _ _ _) fun _ => ?_
      exact .ite (fun _ => .fail) fun _ => .fail
    · exact .fail

theorem flagsOn (n : Nat) (c : Char) (on : Flags) (letters : List Char) :
    Sets (flagsOn n c on letters) := by
  induction n generalizing c on letters with
  | zero => exact .fail
  | succ n ih =>
    unfold Pattern.flagsOn
    split
    · exact .fail
    · next flag kind read =>
      refine .ite (fun _ => .of_fails (fails_fail _ _).bind) fun other => ?_
      refine .ite (fun _ => .of_fails (fails_fail _ _).bind) fun _ => .bind fun t => ?_
      split
      · exact .fail
      · refine .ite (fun _ => flagsEnd _ fun _ => ?_) fun _ => .ite (fun _ => ih _ _ _) fun _ => ?_
        · exact union_ne_empty read other on
        · exact .ite (fun _ => .fail) fun _ => .fail
      · exact .fail

theorem flagList (c : Char) : Sets (flagList c) :=
  .ite (fun _ => flagsEnd _ (by decide)) fun _ => .bind fun _ => flagsOn _ _ _ _

end Sets

namespace Agrees

theorem flagsOff (on : Flags) (letters : List Char) {n n' : Nat} (le : n ≤ n') (c : Char)
    (off : Flags) (seen : List Char) :
    Agrees x E r (flagsOff on letters n c off seen) (flagsOff on letters n' c off seen) := by
  induction n generalizing n' r c off seen with
  | zero => exact .fail
  | succ n ih =>
    obtain ⟨n', rfl⟩ : ∃ m, n' = m + 1 := ⟨n' - 1, by omega⟩
    unfold Pattern.flagsOff
    split
    · exact .fail
    · refine .guarded (fails_fail _ _) fun _ => .take_bind (fails_fail _ _) fun t r' => ?_
      split
      · exact .fail
      · refine .guarded (fails_fail _ _) fun _ => .guarded (fails_fail _ _) fun _ => .pure _
      · refine .ite (fun _ => ih (Nat.le_of_succ_le_succ le) _ _ _) fun _ => ?_
        exact .ite (fun _ => .fail) fun _ => .fail
      · exact .fail

theorem flagsEnd (on : Flags) (letters : List Char) (c : Char) :
    Agrees x (.settled nested) r (flagsEnd on letters c) (flagsEnd on letters c) := by
  refine .ite (fun _ => ?_) fun _ => .guarded (fails_fail _ _) fun _ => ?_
  · rintro _ _ - ⟨⟩
    refine ⟨⟨id, List.suffix_refl _, fun none => ?_⟩, fun ends => ?_⟩
    · exact (Flags.union_eq_empty_iff.1 none).1
    · obtain rfl := (Flags.union_eq_empty_iff.1 ends.1).2
      have kept : x.flags.union {} = x.flags := by simp [Flags.union]
      change EStateM.Result.ok _ { x.around r with flags := x.flags.union {} } = _
      rw [kept]
      rfl
  · refine .ite (fun _ => .take_bind (fails_fail _ _) fun t r' => ?_) fun _ => .pure _
    split
    · exact .fail
    · have le := Nat.succ_le_succ (x.length_le r')
      refine .ite (fun _ => .get_bind (flagsOff _ _ le _ _ _)) fun _ => ?_
      exact .ite (fun _ => .fail) fun _ => .fail
    · exact .fail

theorem flagsOn {n n' : Nat} (le : n ≤ n') (c : Char) (on : Flags) (letters : List Char) :
    Agrees x (.settled nested) r (flagsOn n c on letters) (flagsOn n' c on letters) := by
  induction n generalizing n' r c on letters with
  | zero => exact .fail
  | succ n ih =>
    obtain ⟨n', rfl⟩ : ∃ m, n' = m + 1 := ⟨n' - 1, by omega⟩
    unfold Pattern.flagsOn
    split
    · exact .fail
    · refine .guarded (fails_fail _ _) fun _ => .guarded (fails_fail _ _) fun _ => ?_
      refine .take_bind (fails_fail _ _) fun t r' => ?_
      split
      · exact .fail
      · refine .ite (fun _ => flagsEnd _ _ _) fun _ => ?_
        refine .ite (fun _ => ih (Nat.le_of_succ_le_succ le) _ _ _) fun _ => ?_
        exact .ite (fun _ => .fail) fun _ => .fail
      · exact .fail

theorem flagList (c : Char) : Agrees x (.settled nested) r (flagList c) (flagList c) := by
  have le := Nat.succ_le_succ (x.length_le r)
  exact .ite (fun _ => flagsEnd _ _ _) fun _ => .get_bind (flagsOn le _ _ _)

/-- Flags for the whole pattern do not end well, so that it does not matter whether they may stand
here. -/
theorem scope (c : Char) {k k' : FlagScope → Read β}
    (whole : ∀ r b r', k .whole r = .ok b r' → r' = r)
    (group : ∀ on off r', Agrees x (.settled nested) r' (k (.group on off)) (k' (.group on off))) :
    Agrees x (.settled nested) r (Pattern.flagList c >>= k) (Pattern.flagList c >>= k') := by
  refine (flagList c).bind_of fun scope r' read => ?_
  cases scope with
  | group on off => exact group on off r'
  | whole =>
    intro b r'' _ run
    obtain rfl := whole r' b r'' run
    exact ⟨.refl r'', fun ends => absurd ends.1 (Sets.flagList c r r'' read)⟩

/-- What stands behind the opening of a group. -/
theorem extension (opened opened' : Nat)
    (initial initial' : Bool) :
    Agrees x (.settled nested) r (extension opened initial) (extension opened' initial') := by
  refine .take_bind (fails_fail _ _) fun t r' => ?_
  split
  · exact .fail
  · exact .fail
  · next c _ =>
    split
    · refine (accept (by decide)).bind fun named r' => .ite (fun _ => ?_) fun _ => ?_
      · refine (nameUntil _ _).bind fun name r' => ?_
        exact (checkName name).bind fun _ _ => .pure _
      · refine (accept (by decide)).bind fun refers r' => .ite (fun _ => ?_) fun _ => ?_
        · refine (nameUntil _ _).bind fun name r' => (checkName name).bind fun _ r' => ?_
          refine .get_same rfl ?_
          split
          · exact .fail
          · refine .guarded (fails_fail _ _) fun _ => ?_
            exact (checkLookBehind _).bind fun _ _ => .pure _
        · exact .take_bind (fails_fail _ _) fun t r' => .fail
    · exact .pure _
    · exact .pure _
    · have le := Nat.succ_le_succ (x.length_le r')
      exact .get_bind ((skipComment le).bind fun _ _ => .pure _)
    · exact .pure _
    · exact .pure _
    · refine .take_bind (fails_fail _ _) fun t r' => ?_
      split
      · exact .fail
      · exact .pure _
      · exact .pure _
      · exact .fail
    · exact conditionGroup.bind fun group _ => .pure _
    · refine .ite (fun _ => ?_) fun _ => .fail
      refine scope c (fun r b r' run => ?_) fun on off r' => .pure _
      dsimp only at run
      split at run
      · exact absurd run ((fails_throw _).bind r b r')
      · cases run
        rfl

theorem opening (opened opened' : Nat)
    (initial initial' : Bool) :
    Agrees x (.settled nested) r (opening opened initial) (opening opened' initial') := by
  refine (accept (by decide)).bind fun special r' => ?_
  exact .ite (fun _ => extension _ _ _ _) fun _ => .pure _

end Agrees

end Groups

end Shopwalk.Pattern
