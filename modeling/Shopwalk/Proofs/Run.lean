import Shopwalk.World

/-!
How the run of a walk is put together from the runs of its parts. Scenes run in the same way, so
that what is said here of any state holds for both.
-/

namespace Shopwalk

section
variable {ε σ α β : Type} {x : EStateM ε σ α} {f : α → EStateM ε σ β} {s t : σ} {a : α} {e : ε}

theorem bind_of_ok (h : x s = .ok a t) : (x >>= f) s = f a t := by
  simp only [bind, EStateM.bind, h]

theorem bind_of_error (h : x s = .error e t) : (x >>= f) s = .error e t := by
  simp only [bind, EStateM.bind, h]

/-- A run of two parts succeeds when both do, the second from where the first ended. -/
theorem bind_ok_iff {b : β} :
    (x >>= f) s = .ok b t ↔ ∃ a u, x s = .ok a u ∧ f a u = .ok b t := by
  cases h : x s with
  | ok a u =>
    rw [bind_of_ok h]
    constructor
    · intro hf; exact ⟨a, u, rfl, hf⟩
    · rintro ⟨_, _, eq, hf⟩; cases eq; exact hf
  | error e u =>
    rw [bind_of_error h]
    constructor
    · intro eq; cases eq
    · rintro ⟨_, _, eq, _⟩; cases eq

theorem get_bind (g : σ → EStateM ε σ β) : (get >>= g) s = g s s := rfl

theorem tryCatch_of_ok {handler : ε → EStateM ε σ α} (h : x s = .ok a t) :
    (tryCatch x handler) s = .ok a t := by
  change EStateM.tryCatch x handler s = _
  delta EStateM.tryCatch
  simp only [h]

/-- Nothing is undone before a fault is handled. -/
theorem tryCatch_of_error {handler : ε → EStateM ε σ α} (h : x s = .error e t) :
    (tryCatch x handler) s = handler e t := by
  change EStateM.tryCatch x handler s = _
  delta EStateM.tryCatch
  simp only [h]
  rfl

/-- The state in which a run ends, whether it fails or not. -/
def lastState : EStateM.Result ε σ α → σ
  | .ok _ t => t
  | .error _ t => t

/-- The answer of a run that does not fail. -/
def answer? : EStateM.Result ε σ α → Option α
  | .ok a _ => some a
  | .error _ _ => none

theorem answer?_eq_some_iff {r : EStateM.Result ε σ α} :
    answer? r = some a ↔ ∃ t, r = .ok a t := by
  cases r with
  | ok b u => simp [answer?]
  | error e u => simp [answer?]

/-- The fault of a run that fails. -/
def fault? : EStateM.Result ε σ α → Option ε
  | .ok _ _ => none
  | .error e _ => some e

theorem fault?_eq_some_iff {r : EStateM.Result ε σ α} :
    fault? r = some e ↔ ∃ t, r = .error e t := by
  cases r with
  | ok b u => simp [fault?]
  | error f u => simp [fault?]

/-- What is thrown at the end of a run is its fault unless it has failed before. -/
theorem fault?_bind_throw (x : EStateM ε σ α) (e : ε) (s : σ) :
    fault? ((x >>= fun _ => (throw e : EStateM ε σ β)) s) = some ((fault? (x s)).getD e) := by
  cases h : x s with
  | ok a t =>
    rw [bind_of_ok h]
    rfl
  | error f t =>
    rw [bind_of_error h]
    rfl

/-- However a run ends, its last state stands in this relation to its first one. -/
def Stays (R : σ → σ → Prop) (x : EStateM ε σ α) : Prop := ∀ s, R s (lastState (x s))

namespace Stays

variable {R : σ → σ → Prop}

theorem of_ok (h : Stays R x) (run : x s = .ok a t) : R s t := by
  have last := h s
  rw [run] at last
  exact last

theorem of_error (h : Stays R x) (run : x s = .error e t) : R s t := by
  have last := h s
  rw [run] at last
  exact last

theorem pure [Std.Refl R] (a : α) : Stays R (Pure.pure a : EStateM ε σ α) :=
  fun s => Std.Refl.refl s

theorem throw [Std.Refl R] (e : ε) : Stays R (throw e : EStateM ε σ α) :=
  fun s => Std.Refl.refl s

theorem get [Std.Refl R] : Stays R (get : EStateM ε σ σ) := fun s => Std.Refl.refl s

theorem bind [Trans R R R] (first : Stays R x) (rest : ∀ a, Stays R (f a)) :
    Stays R (x >>= f) := by
  intro s
  cases run : x s with
  | ok a t =>
    rw [bind_of_ok run]
    exact Trans.trans (first.of_ok run) (rest a t)
  | error e t =>
    rw [bind_of_error run]
    exact first.of_error run

/-- What comes after such a part of a run that succeeds. -/
theorem bind_ok {b : β} (h : Stays R x) (run : (x >>= f) s = .ok b t) :
    ∃ a u, x s = .ok a u ∧ f a u = .ok b t ∧ R s u := by
  obtain ⟨a, u, first, rest⟩ := bind_ok_iff.1 run
  exact ⟨a, u, first, rest, h.of_ok first⟩

theorem tryCatch [Trans R R R] {handler : ε → EStateM ε σ α} (tried : Stays R x)
    (handled : ∀ e, Stays R (handler e)) : Stays R (tryCatch x handler) := by
  intro s
  cases run : x s with
  | ok a t =>
    rw [tryCatch_of_ok run]
    exact tried.of_ok run
  | error e t =>
    rw [tryCatch_of_error run]
    exact Trans.trans (tried.of_error run) (handled e t)

end Stays

/-- As `Stays`, of those runs only whose answer, if they have one, is of this kind. -/
def StaysWhen (kind : Option α → Prop) (R : σ → σ → Prop) (x : EStateM ε σ α) : Prop :=
  ∀ s, kind (answer? (x s)) → R s (lastState (x s))

theorem Stays.when {R : σ → σ → Prop} {kind : Option α → Prop} (h : Stays R x) :
    StaysWhen kind R x :=
  fun s _ => h s

namespace StaysWhen

variable {R : σ → σ → Prop}

theorem always (h : StaysWhen (fun _ => True) R x) : Stays R x := fun s => h s trivial

theorem of_never {kind : Option α → Prop} (never : ∀ s, ¬ kind (answer? (x s))) :
    StaysWhen kind R x :=
  fun s fits => absurd fits (never s)

/-- The first part matters when it has an answer, and when it has none if that is of the kind. -/
theorem bind [Trans R R R] {kind : Option β → Prop}
    (first : StaysWhen (fun o => o = none → kind none) R x)
    (rest : ∀ a, StaysWhen kind R (f a)) : StaysWhen kind R (x >>= f) := by
  intro s fits
  cases run : x s with
  | ok a t =>
    rw [bind_of_ok run] at fits ⊢
    have start := first s
    rw [run] at start
    exact Trans.trans (start nofun) (rest a t fits)
  | error e t =>
    rw [bind_of_error run] at fits ⊢
    have start := first s
    rw [run] at start
    exact start fun _ => fits

/-- An answer that is passed on in another form. -/
theorem passing {kind : Option α → Prop} {kind' : Option β → Prop} {form : α → β}
    (h : StaysWhen kind R x) (same : ∀ answer, kind' (answer.map form) → kind answer) :
    StaysWhen kind' R (x >>= fun a => pure (form a)) := by
  intro s fits
  have kept := h s
  cases run : x s with
  | ok a t =>
    rw [bind_of_ok run] at fits ⊢
    rw [run] at kept
    exact kept (same (some a) fits)
  | error e t =>
    rw [bind_of_error run] at fits ⊢
    rw [run] at kept
    exact kept (same none fits)

/-- The fault that is handled matters when what the handler comes to is of the kind. -/
theorem tryCatch [Trans R R R] {kind : Option α → Prop} {handler : ε → EStateM ε σ α}
    (tried : StaysWhen kind R x) (handled : ∀ e, StaysWhen kind R (handler e))
    (counts : ∀ e s, kind (answer? (handler e s)) → kind none) :
    StaysWhen kind R (tryCatch x handler) := by
  intro s fits
  have start := tried s
  cases run : x s with
  | ok a t =>
    rw [tryCatch_of_ok run] at fits ⊢
    rw [run] at start
    exact start fits
  | error e t =>
    rw [tryCatch_of_error run] at fits ⊢
    rw [run] at start
    exact Trans.trans (start (counts e t fits)) (handled e t fits)

end StaysWhen

end

theorem toOption_eq_some_iff {ε α : Type} {r : Except ε α} {a : α} :
    r.toOption = some a ↔ r = .ok a := by
  cases r <;> simp [Except.toOption]

theorem settle_ok_iff {α : Type} {r : Except Fault α} {w after : World} {a : α} :
    Walk.settle r w = .ok a after ↔ r = .ok a ∧ after = w := by
  cases r with
  | ok b =>
    constructor
    · rintro ⟨⟩
      exact ⟨rfl, rfl⟩
    · rintro ⟨⟨⟩, rfl⟩
      rfl
  | error f =>
    constructor
    · rintro ⟨⟩
    · rintro ⟨⟨⟩, -⟩

theorem attempt_ok_iff {α : Type} {walk : Walk α} {w after : World} {a : α} :
    Walk.attempt walk w = .ok (.ok a) after ↔ walk w = .ok a after := by
  unfold Walk.attempt
  cases walk w <;> simp

end Shopwalk
