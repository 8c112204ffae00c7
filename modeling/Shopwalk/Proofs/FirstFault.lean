import Shopwalk.Proofs.Course

/-!
Walks that stop at the first call that fails. What follows the calls of such a walk cannot fail, so
that they alone tell whether it does and with which fault, also when the fault is thrown again after
something has been done about it.
-/

namespace Shopwalk

section
variable {α β : Type} {s t : Site} {walk : Walk α} {next : α → Walk β} {a b : List Step}

/-- The walk has an answer in every world. -/
def Unfailing (walk : Walk α) : Prop := ∀ w, ∃ v after, walk w = .ok v after

namespace Unfailing

theorem pure (v : α) : Unfailing (Pure.pure v) := fun w => ⟨v, w, rfl⟩

theorem note (level : Level) (text : String) : Unfailing (Walk.note level text) :=
  fun _ => ⟨(), _, rfl⟩

theorem attempt (walk : Walk α) : Unfailing (Walk.attempt walk) := by
  intro w
  unfold Walk.attempt
  cases walk w with
  | ok v after => exact ⟨.ok v, after, rfl⟩
  | error e after => exact ⟨.error e, after, rfl⟩

theorem bind (first : Unfailing walk) (rest : ∀ v, Unfailing (next v)) :
    Unfailing (walk >>= next) := by
  intro w
  obtain ⟨v, u, run⟩ := first w
  rw [bind_of_ok run]
  exact rest v u

end Unfailing

/-- On the site `s` the walk stops at the first of these calls that fails, with the files as they
were, and comes to an end when none of them does. -/
structure Stops (s : Site) (walk : Walk α) (steps : List Step) : Prop where
  fails : ∀ w e, w.site = s → (play w.rules steps).fault = some e →
    ∃ after, walk w = .error e after ∧ after.disk = w.disk ∧
      after.rules = (play w.rules steps).rules
  ends : ∀ w, w.site = s → (play w.rules steps).fault = none → ∃ v after, walk w = .ok v after

/-- A call that is refused for one more reason. -/
theorem play_refused (rules : List Rule) (a : List Step) (e : Event) (o : Option Fault)
    (f : Fault) :
    play rules (a ++ [⟨e, o <|> some f⟩]) =
      { play rules (a ++ [⟨e, o⟩]) with
        fault := (play rules (a ++ [⟨e, o⟩])).fault <|> some f } := by
  cases done : (play rules a).fault with
  | some g =>
    rw [play_append_of_fault done, play_append_of_fault done, done]
    change play rules a = { play rules a with fault := some g }
    rw [← done]
  | none =>
    rw [play_append_of_done done, play_append_of_done done]
    cases fired : (Rule.fire e.text (play rules a).rules).2 with
    | some g => simp [play, fired]
    | none => cases o <;> simp [play, fired]

namespace Stops

theorem of_unfailing (unfailing : Unfailing walk) : Stops s walk [] where
  fails _ _ _ none_made := nomatch none_made
  ends w _ _ := unfailing w

theorem bind {v : α} (made : Makes s walk a t (.ok v)) (rest : Stops t (next v) b) :
    Stops s (walk >>= next) (a ++ b) := by
  constructor
  · intro w e site fault
    obtain ⟨notes, -, run⟩ := made w site
    cases done : (play w.rules a).fault with
    | some g =>
      rw [play_append_of_fault done] at fault ⊢
      obtain rfl : g = e := Option.some.inj (done.symm.trans fault)
      simp only [done] at run
      exact ⟨_, bind_of_error run, rfl, rfl⟩
    | none =>
      simp only [done, World.ending] at run
      rw [play_append_of_done done] at fault ⊢
      rw [bind_of_ok run]
      exact rest.fails _ e rfl fault
  · intro w site fault
    obtain ⟨notes, -, run⟩ := made w site
    cases done : (play w.rules a).fault with
    | some g =>
      rw [play_append_of_fault done, done] at fault
      cases fault
    | none =>
      simp only [done, World.ending] at run
      rw [play_append_of_done done] at fault
      rw [bind_of_ok run]
      exact rest.ends _ rfl fault

/-- A walk that fails behind its last call stops at that call. -/
theorem of_error {e : Event} {o : Option Fault} {f : Fault}
    (made : Makes s walk (a ++ [⟨e, o⟩]) t (.error f)) :
    Stops s walk (a ++ [⟨e, o <|> some f⟩]) := by
  constructor
  · intro w g site fault
    obtain ⟨notes, -, run⟩ := made w site
    rw [play_refused] at fault ⊢
    cases done : (play w.rules (a ++ [⟨e, o⟩])).fault with
    | some h =>
      rw [done] at fault run
      cases fault
      exact ⟨_, run, rfl, rfl⟩
    | none =>
      rw [done] at fault run
      cases fault
      exact ⟨_, run, rfl, rfl⟩
  · intro w site fault
    rw [play_refused] at fault
    cases done : (play w.rules (a ++ [⟨e, o⟩])).fault <;> rw [done] at fault <;> cases fault

/-- What comes behind a call that always fails does not matter. -/
theorem append (h : Stops s walk a) (failing : ∀ rules, (play rules a).fault ≠ none)
    (b : List Step) : Stops s walk (a ++ b) := by
  have same (rules : List Rule) : play rules (a ++ b) = play rules a := by
    obtain ⟨f, fault⟩ := Option.ne_none_iff_exists'.1 (failing rules)
    exact play_append_of_fault fault b
  constructor
  · intro w e site fault
    rw [same] at fault ⊢
    exact h.fails w e site fault
  · intro w site fault
    rw [same] at fault
    exact h.ends w site fault

/-- A fault behind the last call of a part is the fault of that call. -/
theorem bind_answer {e : Event} {o : Option Fault} {r : Except Fault α}
    (made : Makes s walk (a ++ [⟨e, o⟩]) t r) (rest : ∀ v, r = .ok v → Stops t (next v) b) :
    Stops s (walk >>= next) (a ++ ⟨e, o <|> faultOf r⟩ :: b) := by
  rw [List.append_cons]
  cases r with
  | ok v =>
    have same : (o <|> faultOf (Except.ok v)) = o := by cases o <;> rfl
    rw [same]
    exact bind made (rest v rfl)
  | error f =>
    refine append (of_error made.bind_error) (fun rules => ?_) b
    rw [play_refused]
    cases (play rules (a ++ [⟨e, o⟩])).fault <;> exact nofun

theorem of_answer {e : Event} {o : Option Fault} {r : Except Fault α}
    (made : Makes s walk (a ++ [⟨e, o⟩]) t r) :
    Stops s walk (a ++ [⟨e, o <|> faultOf r⟩]) := by
  have whole : Stops s (walk >>= fun v => Pure.pure v) (a ++ [⟨e, o <|> faultOf r⟩]) :=
    bind_answer made fun v _ => of_unfailing (.pure v)
  rwa [bind_pure] at whole

/-- A walk that does something about its fault before it throws it again: it fails when one of its
calls does, and with the fault of that call unless what is done about it fails, too. -/
theorem fault_rethrown (h : Stops s walk a) {w : World} (site : w.site = s)
    {handler : Fault → Walk Unit} {evidence : Option Fault}
    (handled : ∀ e after, after.disk = w.disk → after.rules = (play w.rules a).rules →
      fault? (handler e after) = evidence) :
    fault? ((tryCatch walk fun e => handler e >>= fun _ => throw e) w) =
      (play w.rules a).fault.map fun e => evidence.getD e := by
  cases fault : (play w.rules a).fault with
  | none =>
    obtain ⟨v, after, run⟩ := h.ends w site fault
    rw [tryCatch_of_ok run]
    rfl
  | some e =>
    obtain ⟨after, run, disk, rules⟩ := h.fails w e site fault
    rw [tryCatch_of_error run, fault?_bind_throw, handled e after disk rules]
    rfl

end Stops

/-- A call on its own is failed by a rule. -/
theorem fault_perform (e : Event) (w : World) :
    fault? (Walk.perform e w) = (Rule.fire e.text w.rules).2 := by
  unfold Walk.perform
  rcases Rule.fire e.text w.rules with ⟨rules, _ | f⟩ <;> rfl

end

end Shopwalk
