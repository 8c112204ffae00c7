import Shopwalk.Pattern.Parse
import Shopwalk.Proofs.Run

/-!
Reading a pattern that stands in another one. A part of a pattern that can be read by itself is read
in the same way with more text behind it, if that text begins with a dot: no name, number, set or
escape goes on with a dot, and all of them end before the text does or are defects.

What is said here of a reader is said of each of its functions, so that it holds for whatever is put
together from them.
-/

namespace Shopwalk.Pattern

/-- What a pattern stands in: the text behind it, which begins with a dot if there is any, and the
flags of the whole. -/
structure Context where
  tail : List Char
  flags : Flags
  dotted : ∀ c ∈ tail.head?, c = '.'
  terse : flags.verbose = false

/-- A reader of the pattern as it is in its context. The end of the text, from which places are
counted, is farther away. -/
def Context.around (x : Context) (r : Reader) : Reader :=
  { r with
    rest := r.rest ++ x.tail
    flags := x.flags
    conditions := r.conditions.map fun c => (c.1, c.2 + x.tail.length) }

namespace Reader

/-- A reader that has gone on: it never stands before a backslash that ends the text, and the flags
of the whole pattern are only added to. -/
structure Onward (r r' : Reader) : Prop where
  sound : r.rest ≠ ['\\'] → r'.rest ≠ ['\\']
  rest : r'.rest <:+ r.rest
  flags : r'.flags = {} → r.flags = {}

theorem Onward.refl (r : Reader) : r.Onward r := ⟨id, List.suffix_refl _, id⟩

theorem Onward.trans {r s t : Reader} (first : r.Onward s) (second : s.Onward t) : r.Onward t :=
  ⟨second.sound ∘ first.sound, second.rest.trans first.rest, first.flags ∘ second.flags⟩

end Reader

/-- A condition on where a reading ends. It has held all along. -/
structure Ending where
  holds : Reader → Prop
  before : ∀ {r r' : Reader}, r.Onward r' → holds r' → holds r

namespace Ending

def any : Ending := ⟨fun _ => True, fun _ _ => trivial⟩

/-- What has been read sets no flags for the whole pattern and, inside a group, does not reach the
end of the text. -/
def settled (nested : Bool) : Ending where
  holds r := r.flags = {} ∧ (nested = true → r.rest ≠ [])
  before := by
    rintro r r' onward ⟨flags, left⟩
    refine ⟨onward.flags flags, fun inside nothing => left inside ?_⟩
    have none := onward.rest
    rw [nothing, List.suffix_nil] at none
    exact none

end Ending

section Readers

variable {x : Context} {E : Ending} {r : Reader} {α β : Type}

/-- Wherever the first reading succeeds and ends well, the second does the same in the context. -/
def Agrees (x : Context) (E : Ending) (r : Reader) (m m' : Read α) : Prop :=
  ∀ a r', r.rest ≠ ['\\'] → m r = .ok a r' →
    r.Onward r' ∧ (E.holds r' → m' (x.around r) = .ok a (x.around r'))

/-- A reading that never succeeds. -/
def Fails (m : Read α) : Prop := ∀ r a r', m r ≠ .ok a r'

theorem fails_throw (d : Defect) : Fails (throw d : Read α) := fun _ _ _ => nofun

theorem fails_fail (flaw : Flaw) (offset : Nat) : Fails (fail flaw offset : Read α) :=
  fun _ _ _ => nofun

theorem Fails.bind {m : Read α} {k : α → Read β} (fails : Fails m) : Fails (m >>= k) := by
  intro r b r' run
  obtain ⟨a, u, first, -⟩ := bind_ok_iff.1 run
  exact fails r a u first

namespace Agrees

theorem of_fails {m m' : Read α} (fails : Fails m) : Agrees x E r m m' :=
  fun a r' _ run => absurd run (fails r a r')

theorem fail {flaw : Flaw} {offset : Nat} {m' : Read α} :
    Agrees x E r (fail flaw offset) m' :=
  .of_fails (fails_fail flaw offset)

theorem pure (a : α) : Agrees x E r (pure a) (pure a) := by
  rintro _ _ - ⟨⟩
  exact ⟨.refl r, fun _ => rfl⟩

theorem bind_of {m m' : Read α} {k k' : α → Read β} (first : Agrees x E r m m')
    (rest : ∀ a r', m r = .ok a r' → Agrees x E r' (k a) (k' a)) :
    Agrees x E r (m >>= k) (m' >>= k') := by
  intro b r'' sound run
  obtain ⟨a, r', ran, continued⟩ := bind_ok_iff.1 run
  obtain ⟨onward, same⟩ := first a r' sound ran
  obtain ⟨further, finished⟩ := rest a r' ran b r'' (onward.sound sound) continued
  refine ⟨onward.trans further, fun ends => ?_⟩
  rw [bind_of_ok (same (E.before further ends))]
  exact finished ends

theorem bind {m m' : Read α} {k k' : α → Read β} (first : Agrees x E r m m')
    (rest : ∀ a r', Agrees x E r' (k a) (k' a)) :
    Agrees x E r (m >>= k) (m' >>= k') :=
  first.bind_of fun a r' _ => rest a r'

theorem get_bind {k k' : Reader → Read β} (rest : Agrees x E r (k r) (k' (x.around r))) :
    Agrees x E r (get >>= k) (get >>= k') := rest

/-- What depends only on the groups read so far. -/
theorem get_same {k : Reader → Read β} (same : k (x.around r) = k r)
    (rest : Agrees x E r (k r) (k r)) : Agrees x E r (get >>= k) (get >>= k) :=
  .get_bind (same.symm ▸ rest)

theorem ite {c : Prop} [Decidable c] {m m' n n' : Read α} (yes : c → Agrees x E r m m')
    (no : ¬ c → Agrees x E r n n') :
    Agrees x E r (if c then m else n) (if c then m' else n') := by
  split
  · next holds => exact yes holds
  · next lacks => exact no lacks

/-- Two ways to go on with the same. -/
theorem ite_bind {c : Prop} [Decidable c] {m m' n n' : Read α} {k k' : α → Read β}
    (yes : Agrees x E r m m') (no : Agrees x E r n n')
    (rest : ∀ a r', Agrees x E r' (k a) (k' a)) :
    Agrees x E r (if c then m >>= k else n >>= k) (if c then m' >>= k' else n' >>= k') :=
  .ite (fun _ => yes.bind rest) fun _ => no.bind rest

/-- A check that fails or lets the reading go on. -/
theorem guarded {c : Prop} [Decidable c] {m m' : Read α} {k k' : α → Read β} {n n' : Read β}
    (fails : Fails m) (rest : ¬ c → Agrees x E r n n') :
    Agrees x E r (if c then m >>= k else n) (if c then m' >>= k' else n') :=
  .ite (fun _ => .of_fails fails.bind) rest

/-- A change of what is known of the groups. -/
theorem set {r' s' : Reader} (rest : r'.rest = r.rest) (flags : r'.flags = r.flags)
    (same : s' = x.around r') : Agrees x E r (set r') (set s') := by
  rintro _ _ - ⟨⟩
  refine ⟨⟨fun sound => ?_, ⟨[], rest⟩, fun none => ?_⟩, fun _ => ?_⟩
  · rw [rest]; exact sound
  · rw [← flags]; exact none
  · rw [same]; rfl

theorem modify {g g' : Reader → Reader} (rest : (g r).rest = r.rest)
    (flags : (g r).flags = r.flags) (same : g' (x.around r) = x.around (g r)) :
    Agrees x E r (modify g) (modify g') :=
  set rest flags same

end Agrees

/-! ### Tokens -/

/-- The token that a text begins with. -/
def token? : List Char → Option Token
  | [] => none
  | '\\' :: c :: _ => some (.escaped c)
  | c :: _ => some (.plain c)

/-- The text behind its first token. -/
def behindToken : List Char → List Char
  | [] => []
  | '\\' :: _ :: cs => cs
  | _ :: cs => cs

theorem peek_run (r : Reader) : peek r = .ok (token? r.rest) r := by
  unfold peek
  rw [get_bind]
  generalize r.rest = cs
  split
  · rfl
  · rfl
  · next c cs other =>
    unfold token?
    split
    · next lone => cases lone
    · next d ds both => cases both; exact absurd rfl (other d ds rfl)
    · next both => cases both; rfl

theorem advance_ok_iff {r r' : Reader} {u : Unit} :
    advance r = .ok u r' ↔
      behindToken r.rest ≠ ['\\'] ∧ r' = { r with rest := behindToken r.rest } := by
  unfold advance
  rw [get_bind]
  change (if behindToken r.rest = ['\\'] then _ else _ : Read Unit) r = _ ↔ _
  split
  · next lone =>
    constructor
    · nofun
    · rintro ⟨other, -⟩
      exact absurd lone other
  · next sound =>
    constructor
    · rintro ⟨⟩
      exact ⟨sound, rfl⟩
    · rintro ⟨-, rfl⟩
      rfl

theorem behindToken_suffix (cs : List Char) : behindToken cs <:+ cs := by
  unfold behindToken
  split
  · exact List.suffix_refl _
  · next c cs => exact (List.suffix_cons c cs).trans (List.suffix_cons _ _)
  · exact List.suffix_cons _ _

/-- A text that is not used up and no lone backslash begins with the same token in a context. -/
theorem token_append {cs : List Char} (left : cs ≠ []) (sound : cs ≠ ['\\']) (tail : List Char) :
    token? (cs ++ tail) = token? cs ∧ behindToken (cs ++ tail) = behindToken cs ++ tail := by
  match cs with
  | [] => exact absurd rfl left
  | [c] =>
    have plain : c ≠ '\\' := fun same => sound (by rw [same])
    simp [token?, behindToken, plain]
  | c :: d :: cs =>
    by_cases escapes : c = '\\'
    · subst escapes
      simp [token?, behindToken]
    · simp [token?, behindToken, escapes]

theorem token?_eq_none_iff {cs : List Char} : token? cs = none ↔ cs = [] := by
  unfold token?
  split <;> simp

theorem take_of_end (ended : r.rest = []) : take r = .ok none r := by
  have stays : advance r = .ok () r := by
    refine advance_ok_iff.2 ⟨?_, ?_⟩
    · rw [ended]; nofun
    · obtain ⟨⟩ := r
      cases ended
      rfl
  unfold take
  rw [bind_of_ok (peek_run r), bind_of_ok stays, ended]
  rfl

theorem length_behindToken_lt {cs : List Char} (left : cs ≠ []) :
    (behindToken cs).length < cs.length := by
  unfold behindToken
  split
  · exact absurd rfl left
  · simp only [List.length_cons]; omega
  · simp

namespace Context

variable (x)

theorem length_le (r : Reader) : r.rest.length ≤ (x.around r).rest.length := by
  simp [around]

/-- A lone backslash does not come about by what stands behind. -/
theorem append_ne_lone {cs : List Char} (sound : cs ≠ ['\\']) : cs ++ x.tail ≠ ['\\'] := by
  intro lone
  rcases List.append_eq_singleton_iff.1 lone with ⟨rfl, behind⟩ | ⟨rfl, -⟩
  · have first := x.dotted '\\' (by rw [behind]; rfl)
    exact absurd first (by decide)
  · exact sound rfl

/-- Behind the pattern there is nothing or a dot. -/
theorem token?_tail : token? x.tail = none ∨ token? x.tail = some (.plain '.') := by
  cases behind : x.tail with
  | nil => exact .inl rfl
  | cons c cs =>
    obtain rfl := x.dotted c (by rw [behind]; rfl)
    exact .inr (by simp [token?])

/-- A token other than the dot comes next in the context where it does without. -/
theorem token?_eq_plain_iff {cs : List Char} {c : Char} (sound : cs ≠ ['\\']) (other : c ≠ '.') :
    token? (cs ++ x.tail) = some (.plain c) ↔ token? cs = some (.plain c) := by
  by_cases left : cs = []
  · subst left
    rw [List.nil_append]
    rcases x.token?_tail with behind | behind
    · rw [behind]; simp [token?]
    · rw [behind]; simp [token?, Ne.symm other]
  · rw [(token_append left sound x.tail).1]

end Context

namespace Agrees

theorem peek_bind {k k' : Option Token → Read β}
    (rest : Agrees x E r (k (token? r.rest)) (k' (token? (r.rest ++ x.tail)))) :
    Agrees x E r (peek >>= k) (peek >>= k') := by
  intro b r' sound run
  rw [bind_of_ok (peek_run r)] at run
  rw [bind_of_ok (peek_run (x.around r))]
  exact rest b r' sound run

/-- Whether a certain token comes next. -/
theorem ifNext {c : Char} (other : c ≠ '.') {m m' n n' : Read β}
    (yes : r.rest ≠ [] → Agrees x E r m m') (no : Agrees x E r n n') :
    Agrees x E r (peek >>= fun t => if t = some (.plain c) then m else n)
      (peek >>= fun t => if t = some (.plain c) then m' else n') := by
  refine .peek_bind fun b r' sound => ?_
  simp only [x.token?_eq_plain_iff sound other]
  refine ite (fun next => yes ?_) (fun _ => no) b r' sound
  rintro nothing
  simp [nothing, token?] at next

theorem advance (left : r.rest ≠ []) : Agrees x E r advance advance := by
  intro u r' sound run
  obtain ⟨ok, rfl⟩ := advance_ok_iff.1 run
  refine ⟨⟨fun _ => ok, behindToken_suffix _, id⟩, fun _ => ?_⟩
  have same := (token_append left sound x.tail).2
  refine advance_ok_iff.2 ⟨?_, ?_⟩
  · exact same ▸ x.append_ne_lone ok
  · change x.around _ = { x.around r with rest := behindToken (r.rest ++ x.tail) }
    rw [same]
    rfl

/-- A token. Where the text is used up, the reading does not end well. -/
theorem take_bind_of {k k' : Option Token → Read β}
    (ended : r.rest = [] → ∀ b r', k none r = .ok b r' → r.Onward r' ∧ ¬ E.holds r')
    (more : ∀ t r', r'.rest.length < r.rest.length → Agrees x E r' (k (some t)) (k' (some t))) :
    Agrees x E r (take >>= k) (take >>= k') := by
  intro b r' sound
  by_cases left : r.rest = []
  · intro run
    rw [bind_of_ok (take_of_end left)] at run
    obtain ⟨onward, not_well⟩ := ended left b r' run
    exact ⟨onward, fun ends => absurd ends not_well⟩
  · obtain ⟨t, seen⟩ := Option.ne_none_iff_exists'.1 fun none => left (token?_eq_none_iff.1 none)
    simp only [take, bind_assoc, pure_bind]
    refine (peek_bind ?_) b r' sound
    rw [(token_append left sound x.tail).1, seen]
    refine (advance left).bind_of fun _ r'' passed => more t r'' ?_
    obtain ⟨-, rfl⟩ := advance_ok_iff.1 passed
    exact length_behindToken_lt left

/-- A token, where the end of the text is a defect. -/
theorem take_bind {k k' : Option Token → Read β} (ended : Fails (k none))
    (more : ∀ t r', Agrees x E r' (k (some t)) (k' (some t))) :
    Agrees x E r (take >>= k) (take >>= k') :=
  .take_bind_of (fun _ b r' run => absurd run (ended r b r')) fun t r' _ => more t r'

theorem accept {c : Char} (other : c ≠ '.') : Agrees x E r (accept c) (accept c) :=
  ifNext other (fun left => (advance left).bind fun _ _ => .pure true) (.pure false)

/-- What stands behind the pattern is in no class without the dot. -/
theorem takeWhileUpTo_of_end {p : Char → Bool} (undotted : p '.' = false) (ended : r.rest = [])
    (n : Nat) : Pattern.takeWhileUpTo p n (x.around r) = .ok [] (x.around r) := by
  cases n with
  | zero => rfl
  | succ n =>
    have behind : token? (x.around r).rest = token? x.tail := by
      change token? (r.rest ++ x.tail) = _
      rw [ended, List.nil_append]
    unfold Pattern.takeWhileUpTo
    rw [bind_of_ok (peek_run (x.around r)), behind]
    rcases x.token?_tail with nothing | dot
    · rw [nothing]; rfl
    · rw [dot]
      simp only [undotted, Bool.false_eq_true, ↓reduceIte]
      rfl

/-- The characters of a class. Where the second reading may take more of them, it is not their
number that ends the first one. -/
theorem takeWhileUpTo {p : Char → Bool} (undotted : p '.' = false) {n n' : Nat} (le : n ≤ n')
    (enough : n < n' → r.rest.length ≤ n) :
    Agrees x E r (takeWhileUpTo p n) (takeWhileUpTo p n') := by
  induction n generalizing n' r with
  | zero =>
    rintro _ _ - ⟨⟩
    refine ⟨.refl r, fun _ => ?_⟩
    cases n' with
    | zero => rfl
    | succ n' =>
      have ended := List.eq_nil_of_length_eq_zero (Nat.le_zero.1 (enough (Nat.succ_pos n')))
      exact takeWhileUpTo_of_end undotted ended _
  | succ n ih =>
    obtain ⟨n', rfl⟩ : ∃ m, n' = m + 1 := ⟨n' - 1, by omega⟩
    intro cs r' sound run
    by_cases left : r.rest = []
    · have behind : Pattern.takeWhileUpTo p (n + 1) r = .ok [] r := by
        unfold Pattern.takeWhileUpTo
        rw [bind_of_ok (peek_run r), left]
        rfl
      cases behind.symm.trans run
      exact ⟨.refl r, fun _ => takeWhileUpTo_of_end undotted left _⟩
    · have step : Agrees x E r (Pattern.takeWhileUpTo p (n + 1))
          (Pattern.takeWhileUpTo p (n' + 1)) := by
        refine .peek_bind ?_
        rw [(token_append left sound x.tail).1]
        cases token? r.rest with
        | none => exact .pure []
        | some t =>
          cases t with
          | escaped c => exact .pure []
          | plain c =>
            refine .ite (fun _ => ?_) fun _ => .pure []
            refine (advance left).bind_of fun _ r' passed => ?_
            obtain ⟨-, rfl⟩ := advance_ok_iff.1 passed
            have shorter := length_behindToken_lt left
            have more := ih (r := { r with rest := behindToken r.rest }) (Nat.le_of_succ_le_succ le)
              fun lt => by
                have bound := enough (Nat.succ_lt_succ lt)
                dsimp only
                omega
            exact more.bind fun cs _ => .pure (c :: cs)
      exact step cs r' sound run

/-- All characters of a class that come next. -/
theorem takeAll {p : Char → Bool} (undotted : p '.' = false) :
    Agrees x E r (takeAll p) (takeAll p) := by
  exact .get_bind (takeWhileUpTo undotted (x.length_le r) fun _ => Nat.le_refl _)

/-- At most `n` characters of a class. -/
theorem takeSome {p : Char → Bool} (undotted : p '.' = false) (n : Nat) :
    Agrees x E r (Pattern.takeWhileUpTo p n) (Pattern.takeWhileUpTo p n) :=
  takeWhileUpTo undotted (Nat.le_refl n) fun lt => absurd lt (Nat.lt_irrefl n)

theorem takeName (terminator : Char) (what : String) {n n' : Nat} (le : n ≤ n')
    (name : List Char) :
    Agrees x E r (takeName terminator what n name) (takeName terminator what n' name) := by
  induction n generalizing n' r name with
  | zero => exact .fail
  | succ n ih =>
    obtain ⟨n', rfl⟩ : ∃ m, n' = m + 1 := ⟨n' - 1, by omega⟩
    refine .take_bind ?_ fun t r' => ?_
    · dsimp only
      split <;> exact fails_fail _ _
    · refine .ite (fun _ => ?_) fun _ => ih (Nat.le_of_succ_le_succ le) _
      exact .ite (fun _ => .fail) fun _ => .pure _

theorem nameUntil (terminator : Char) (what : String) :
    Agrees x E r (nameUntil terminator what) (nameUntil terminator what) := by
  exact .get_bind (takeName terminator what (Nat.succ_le_succ (x.length_le r)) [])

/-! ### Escapes and sets -/

theorem hexEscape (letter : Char) (width : Nat) :
    Agrees x E r (hexEscape letter width) (hexEscape letter width) := by
  refine (takeSome (by decide) width).bind fun ds r' => ?_
  refine .ite (fun _ => .fail) fun _ => ?_
  exact .ite (fun _ => .pure _) fun _ => .fail

theorem namedEscape : Agrees x E r namedEscape namedEscape := by
  refine (accept (by decide)).bind fun brace r' => ?_
  refine .guarded (fails_fail _ _) fun _ => ?_
  refine (nameUntil _ _).bind fun name r' => ?_
  split
  · exact .pure _
  · exact .fail

theorem codeEscape? (c : Char) : Agrees x E r (codeEscape? c) (codeEscape? c) := by
  unfold Pattern.codeEscape?
  split
  · exact .pure _
  · split
    · exact (hexEscape _ 2).bind fun n _ => .pure (some n)
    · exact (hexEscape _ 4).bind fun n _ => .pure (some n)
    · exact (hexEscape _ 8).bind fun n _ => .pure (some n)
    · exact namedEscape.bind fun n _ => .pure (some n)
    · exact .pure none

theorem checkLookBehind (group : Nat) :
    Agrees x E r (checkLookBehind group) (checkLookBehind group) := by
  refine .get_same rfl ?_
  split
  · exact .pure ()
  · refine .ite (fun _ => .fail) fun _ => ?_
    exact .ite (fun _ => .fail) fun _ => .pure ()

theorem digitEscape (d : Char) : Agrees x E r (digitEscape d) (digitEscape d) := by
  refine (takeSome (by decide) 1).bind fun more r' => ?_
  refine .ite_bind (takeSome (by decide) 1) (.pure []) fun third r' => ?_
  refine .ite (fun _ => ?_) fun _ => .get_same rfl ?_
  · exact .ite (fun _ => .fail) fun _ => .pure _
  · refine .ite (fun _ => ?_) fun _ => .fail
    refine .guarded (fails_fail _ _) fun _ => ?_
    exact (checkLookBehind _).bind fun _ _ => .pure _

theorem escapeNode (c : Char) : Agrees x E r (escapeNode c) (escapeNode c) := by
  unfold Pattern.escapeNode
  split
  · exact .pure _
  · exact .pure _
  · refine (codeEscape? c).bind fun code r' => ?_
    split
    · exact .pure _
    · refine .ite (fun _ => ?_) fun _ => .ite (fun _ => digitEscape c) fun _ => ?_
      · exact (takeSome (by decide) 2).bind fun ds _ => .pure _
      · exact .ite (fun _ => .fail) fun _ => .pure _

theorem setEscape (c : Char) : Agrees x E r (setEscape c) (setEscape c) := by
  unfold Pattern.setEscape
  split
  · exact .pure _
  · refine (codeEscape? c).bind fun code r' => ?_
    split
    · exact .pure _
    · refine .ite (fun _ => .pure _) fun _ => .ite (fun _ => ?_) fun _ => ?_
      · refine (takeSome (by decide) 2).bind fun ds r' => ?_
        exact .ite (fun _ => .fail) fun _ => .pure _
      · exact .ite (fun _ => .fail) fun _ => .pure _

theorem setMember (t : Token) : Agrees x E r (setMember t) (setMember t) := by
  cases t with
  | plain c => exact .pure _
  | escaped c => exact setEscape c

theorem setItems {opened opened' n n' : Nat} (le : n ≤ n') (started : Bool)
    (items : List SetItem) :
    Agrees x E r (setItems opened n started items) (setItems opened' n' started items) := by
  induction n generalizing n' r started items with
  | zero => exact .of_fails (fails_throw _)
  | succ n ih =>
    obtain ⟨n', rfl⟩ : ∃ m, n' = m + 1 := ⟨n' - 1, by omega⟩
    have le := Nat.le_of_succ_le_succ le
    refine .take_bind (fails_throw _) fun this r' => ?_
    refine .ite (fun _ => .pure items) fun _ => ?_
    refine (setMember this).bind fun first r' => ?_
    refine (accept (by decide)).bind fun dash r' => ?_
    refine .ite (fun _ => ?_) fun _ => ih le true _
    refine .take_bind (fails_throw _) fun that r' => ?_
    refine .ite (fun _ => .pure _) fun _ => ?_
    refine (setMember that).bind fun last r' => ?_
    split
    · exact .ite (fun _ => .fail) fun _ => ih le true _
    · exact .fail

theorem bracketSet : Agrees x E r bracketSet bracketSet := by
  refine .get_bind ((accept (by decide)).bind fun negative r' => ?_)
  have le := Nat.add_le_add_right (x.length_le r) 2
  refine (setItems le false []).bind fun items r' => ?_
  split <;> exact .pure _

/-! ### Repetitions -/

theorem countOf (ds : List Char) : Agrees x E r (countOf ds) (countOf ds) := by
  refine .guarded (fails_throw _) fun _ => ?_
  exact .guarded (fails_throw _) fun _ => .pure _

theorem greed : Agrees x E r greed greed := by
  refine (accept (by decide)).bind fun mark r' => ?_
  refine .ite (fun _ => .pure _) fun _ => ?_
  refine (accept (by decide)).bind fun mark r' => ?_
  exact .ite (fun _ => .pure _) fun _ => .pure _

end Agrees

/-- As `Agrees`, of a reading that may go back to where it started. -/
def AgreesFrom (x : Context) (E : Ending) (start r : Reader) (m m' : Read α) : Prop :=
  ∀ a r', r.rest ≠ ['\\'] → m r = .ok a r' →
    start.Onward r' ∧ (E.holds r' → m' (x.around r) = .ok a (x.around r'))

namespace AgreesFrom

variable {start : Reader}

theorem of_agrees {m m' : Read α} (agrees : Agrees x E r m m') (onward : start.Onward r) :
    AgreesFrom x E start r m m' := by
  intro a r' sound run
  obtain ⟨further, same⟩ := agrees a r' sound run
  exact ⟨onward.trans further, same⟩

theorem bind {m m' : Read α} {k k' : α → Read β} (onward : start.Onward r)
    (first : Agrees x .any r m m')
    (rest : ∀ a r', start.Onward r' → AgreesFrom x E start r' (k a) (k' a)) :
    AgreesFrom x E start r (m >>= k) (m' >>= k') := by
  intro b r'' sound run
  obtain ⟨a, r', ran, continued⟩ := bind_ok_iff.1 run
  obtain ⟨further, same⟩ := first a r' sound ran
  rw [bind_of_ok (same trivial)]
  exact rest a r' (onward.trans further) b r'' (further.sound sound) continued

theorem ite_bind {c : Prop} [Decidable c] {m m' n n' : Read α} {k k' : α → Read β}
    (onward : start.Onward r) (yes : Agrees x .any r m m') (no : Agrees x .any r n n')
    (rest : ∀ a r', start.Onward r' → AgreesFrom x E start r' (k a) (k' a)) :
    AgreesFrom x E start r (if c then m >>= k else n >>= k)
      (if c then m' >>= k' else n' >>= k') := by
  split
  · exact .bind onward yes rest
  · exact .bind onward no rest

theorem back (a : α) :
    AgreesFrom x E start r (set start >>= fun _ => pure a)
      (set (x.around start) >>= fun _ => pure a) := by
  rintro _ _ - ⟨⟩
  exact ⟨.refl start, fun _ => rfl⟩

end AgreesFrom

namespace Agrees

/-- A brace that opens no bounds is left where it stands. -/
theorem bounds? (c : Char) : Agrees x E r (bounds? c) (bounds? c) := by
  unfold Pattern.bounds?
  split
  · exact .pure _
  · exact .pure _
  · exact .pure _
  · refine .get_bind (.ifNext (by decide) (fun _ => .pure none) ?_)
    change AgreesFrom x E r r _ _
    refine .bind (.refl r) (takeAll (by decide)) fun lo r' onward => ?_
    refine .bind onward (accept (by decide)) fun comma r' onward => ?_
    refine .ite_bind onward (takeAll (by decide)) (.pure lo) fun hi r' onward => ?_
    refine .bind onward (accept (by decide)) fun close r' onward => ?_
    dsimp only
    split
    · exact .back none
    · refine .of_agrees ((countOf lo).bind fun least r' => ?_) onward
      refine .ite (fun _ => .pure _) fun _ => ?_
      refine (countOf hi).bind fun most r' => ?_
      exact .guarded (fails_throw _) fun _ => .pure _

end Agrees

end Readers

end Shopwalk.Pattern
