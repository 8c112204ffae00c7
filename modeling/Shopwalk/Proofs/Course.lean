import Shopwalk.Browser
import Shopwalk.Proofs.Run

/-!
Walks that make their calls in a fixed order until one of them fails. `play` says what becomes of a
list of calls under any rules, and `Makes` that a walk does just that and moves the site at its end;
a walk that only looks `Follows` its calls, with the site left alone. `Follows.bind` puts such walks
together.
-/

namespace Shopwalk

/-- A call that leaves the site alone: its event, and what the site has against it. -/
structure Step where
  event : Event
  fault : Option Fault := none

/-- What became of calls: the events that happened, what the rules have counted since, and the fault
that ended them, if one did. -/
structure Course where
  events : List Event
  rules : List Rule
  fault : Option Fault

/-- Makes calls in order until one fails. The rules are asked before the site is. -/
def play (rules : List Rule) : List Step → Course
  | [] => ⟨[], rules, none⟩
  | step :: rest =>
    match (Rule.fire step.event.text rules).2 <|> step.fault with
    | some f => ⟨[step.event], (Rule.fire step.event.text rules).1, some f⟩
    | none =>
      let later := play (Rule.fire step.event.text rules).1 rest
      { later with events := step.event :: later.events }

/-- No rule fails one of the events when they happen in this order. -/
def Rule.Spares : List Rule → List Event → Prop
  | _, [] => True
  | rules, e :: rest => (fire e.text rules).2 = none ∧ Spares (fire e.text rules).1 rest

theorem Rule.spares_nil (events : List Event) : Spares [] events := by
  induction events with
  | nil => trivial
  | cons _ _ ih => exact ⟨rfl, ih⟩

/-- A call that failed is the last one. -/
theorem play_append_of_fault {rules : List Rule} {a : List Step} {f : Fault}
    (h : (play rules a).fault = some f) (b : List Step) : play rules (a ++ b) = play rules a := by
  induction a generalizing rules with
  | nil => cases h
  | cons step rest ih =>
    simp only [List.cons_append, play] at h ⊢
    cases hf : (Rule.fire step.event.text rules).2 <|> step.fault with
    | some g => rfl
    | none =>
      simp only [hf] at h
      simp only [ih h]

theorem play_append_of_done {rules : List Rule} {a : List Step}
    (h : (play rules a).fault = none) (b : List Step) :
    play rules (a ++ b) =
      { play (play rules a).rules b with
        events := (play rules a).events ++ (play (play rules a).rules b).events } := by
  induction a generalizing rules with
  | nil => rfl
  | cons step rest ih =>
    simp only [List.cons_append, play] at h ⊢
    cases hf : (Rule.fire step.event.text rules).2 <|> step.fault with
    | some g => simp [hf] at h
    | none =>
      simp only [hf] at h
      simp only [ih h, List.cons_append]

theorem play_events_isPrefix (rules : List Rule) (steps : List Step) :
    (play rules steps).events <+: steps.map Step.event := by
  induction steps generalizing rules with
  | nil => exact List.nil_prefix
  | cons step rest ih =>
    simp only [play, List.map_cons]
    split
    · exact List.prefix_append [step.event] _
    · exact List.cons_prefix_cons.2 ⟨rfl, ih _⟩

/-- Calls come to their end exactly when no rule fails one and the site has nothing against any. -/
theorem play_fault_eq_none_iff (rules : List Rule) (steps : List Step) :
    (play rules steps).fault = none ↔
      Rule.Spares rules (steps.map Step.event) ∧ ∀ step ∈ steps, step.fault = none := by
  induction steps generalizing rules with
  | nil => simp [play, Rule.Spares]
  | cons step rest ih =>
    simp only [play, List.map_cons, Rule.Spares, List.forall_mem_cons]
    cases hr : (Rule.fire step.event.text rules).2 with
    | some f => simp
    | none =>
      cases hs : step.fault with
      | some f => simp
      | none => simpa using ih _

/-- The faults of rules are known as such. -/
theorem Rule.fire_fault {text : String} {rules : List Rule} {f : Fault}
    (fired : (fire text rules).2 = some f) : ∃ kind message, f = .scripted kind message := by
  induction rules with
  | nil => cases fired
  | cons r rest ih =>
    simp only [fire] at fired
    split at fired
    · split at fired
      · exact ⟨r.kind.toFault, r.message, (Option.some.inj fired).symm⟩
      · exact ih fired
    · exact ih fired

/-- A fault that ends calls comes from a rule or is what the site has against one of them. -/
theorem play_fault_cases {rules : List Rule} {steps : List Step} {f : Fault}
    (ended : (play rules steps).fault = some f) :
    (∃ kind message, f = .scripted kind message) ∨ ∃ step ∈ steps, step.fault = some f := by
  induction steps generalizing rules with
  | nil => cases ended
  | cons step rest ih =>
    simp only [play] at ended
    cases fired : (Rule.fire step.event.text rules).2 with
    | some g =>
      rw [fired] at ended
      cases ended
      exact .inl (Rule.fire_fault fired)
    | none =>
      cases refused : step.fault with
      | some g =>
        rw [fired, refused] at ended
        cases ended
        exact .inr ⟨step, List.mem_cons_self, refused⟩
      | none =>
        rw [fired, refused] at ended
        obtain scripted | ⟨later, there, fault⟩ := ih ended
        · exact .inl scripted
        · exact .inr ⟨later, List.mem_cons_of_mem step there, fault⟩

theorem play_events_of_fault_eq_none {rules : List Rule} {steps : List Step}
    (h : (play rules steps).fault = none) :
    (play rules steps).events = steps.map Step.event := by
  induction steps generalizing rules with
  | nil => rfl
  | cons step rest ih =>
    simp only [play] at h ⊢
    split at h
    · cases h
    · simp only [List.map_cons]
      rw [ih h]

/-- When more happens than a first part of the calls, that part went without a fault. -/
theorem play_fault_of_length_lt {rules : List Rule} {a b : List Step}
    (h : a.length < (play rules (a ++ b)).events.length) : (play rules a).fault = none := by
  cases hf : (play rules a).fault with
  | none => rfl
  | some f =>
    rw [play_append_of_fault hf] at h
    have short := (play_events_isPrefix rules a).length_le
    rw [List.length_map] at short
    omega

/-- A call happens, whether it fails or not. -/
theorem play_single (rules : List Rule) (step : Step) :
    (play rules [step]).events = [step.event] := by
  simp only [play]
  split <;> rfl

/-- Without rules, calls are ended only by the site. -/
theorem play_nil (steps : List Step) :
    (play [] steps).fault = steps.findSome? Step.fault ∧ (play [] steps).rules = [] := by
  induction steps with
  | nil => exact ⟨rfl, rfl⟩
  | cons step rest ih =>
    simp only [play, Rule.fire_nil, List.findSome?_cons]
    cases step.fault with
    | some f => exact ⟨rfl, rfl⟩
    | none => exact ih

/-- The fault of an answer that is one. -/
def faultOf {α : Type} : Except Fault α → Option Fault
  | .ok _ => none
  | .error f => some f

@[simp] theorem faultOf_map {α β : Type} (f : α → β) (r : Except Fault α) :
    faultOf (r.map f) = faultOf r := by
  cases r <;> rfl

namespace World

/-- The world when calls have become of that and notes have been written. -/
def past (w : World) (c : Course) (notes : List LogEntry) : World :=
  { w with trace := w.trace ++ c.events, rules := c.rules, journal := w.journal ++ notes }

/-- A run that ends in this world. -/
def ending {α : Type} (w : World) : Except Fault α → EStateM.Result Fault World α
  | .ok a => .ok a w
  | .error f => .error f w

end World

/-- A level at which no error is reported. -/
class Level.Calm (level : Level) : Prop where
  ne_error : level ≠ .error

instance : Level.Calm .debug := ⟨nofun⟩

instance : Level.Calm .info := ⟨nofun⟩

instance : Level.Calm .success := ⟨nofun⟩

instance : Level.Calm .warning := ⟨nofun⟩

/-- The entries of the log that report an error. -/
def complaints (notes : List LogEntry) : List LogEntry := notes.filter (·.level = .error)

@[simp] theorem complaints_append (a b : List LogEntry) :
    complaints (a ++ b) = complaints a ++ complaints b :=
  List.filter_append ..

section
variable {α β : Type}

/-- On the site `s` the walk makes just these calls. If none of them fails, the site is `t` then and
the walk ends in `r`; until then nothing but the trace, the rules and the log has changed, and the
log reports no error. -/
def Makes (s : Site) (walk : Walk α) (steps : List Step) (t : Site) (r : Except Fault α) : Prop :=
  ∀ w : World, w.site = s →
    ∃ notes, complaints notes = [] ∧ walk w =
      match (play w.rules steps).fault with
      | some f => .error f (w.past (play w.rules steps) notes)
      | none => World.ending { w.past (play w.rules steps) notes with site := t } r

/-- On the site `s` the walk makes just these calls, leaves the site alone, and ends in `r` if none
of them fails. -/
def Follows (s : Site) (walk : Walk α) (steps : List Step) (r : Except Fault α) : Prop :=
  Makes s walk steps s r

variable {s t : Site} {walk : Walk α} {next : α → Walk β} {a b : List Step}

/-- A walk that makes no call. -/
theorem Makes.of_silent {r : Except Fault α}
    (h : ∀ w : World, w.site = s →
      ∃ notes, complaints notes = [] ∧
        walk w = World.ending { w with site := t, journal := w.journal ++ notes } r) :
    Makes s walk [] t r := by
  intro w hw
  obtain ⟨notes, calm, hn⟩ := h w hw
  exact ⟨notes, calm, by simpa [World.past, play] using hn⟩

/-- What is done in silence after a move. -/
theorem Makes.bind_silent {v : α} {r : Except Fault β} (hx : Makes s walk a t (.ok v))
    (hf : Follows t (next v) [] r) : Makes s (walk >>= next) a t r := by
  intro w hw
  obtain ⟨notes, calm, hn⟩ := hx w hw
  cases hc : (play w.rules a).fault with
  | some f =>
    simp only [hc] at hn
    exact ⟨notes, calm, bind_of_error hn⟩
  | none =>
    simp only [hc, World.ending] at hn
    obtain ⟨later, calm', hl⟩ :=
      hf _ (rfl : ({ w.past (play w.rules a) notes with site := t }).site = t)
    refine ⟨notes ++ later, by simp [calm, calm'], ?_⟩
    rw [bind_of_ok hn, hl]
    simp [World.past, play]

theorem Makes.bind_error {f : Fault} (hx : Makes s walk a t (.error f)) :
    Makes s (walk >>= next) a t (.error f) := by
  intro w hw
  obtain ⟨notes, calm, hn⟩ := hx w hw
  refine ⟨notes, calm, ?_⟩
  cases hc : (play w.rules a).fault <;> simp only [hc, World.ending] at hn ⊢ <;>
    exact bind_of_error hn

/-- Whatever the rules do, a walk that ends well has the answer that the site gives. -/
theorem Makes.answer {r : Except Fault α} {w after : World} {v : α} (h : Makes s walk a t r)
    (site : w.site = s) (run : walk w = .ok v after) : r = .ok v := by
  obtain ⟨notes, -, made⟩ := h w site
  rw [run] at made
  split at made
  · cases made
  · cases r with
    | ok u => cases made; rfl
    | error e => cases made

/-- None of the calls of a walk that ends well has failed. -/
theorem Makes.unfailed {r : Except Fault α} {w after : World} {v : α} (h : Makes s walk a t r)
    (site : w.site = s) (run : walk w = .ok v after) : (play w.rules a).fault = none := by
  obtain ⟨notes, -, made⟩ := h w site
  rw [run] at made
  split at made
  · cases made
  · next unfailed => exact unfailed

/-- A walk fails with the fault of one of its calls or with the answer that the site gives. -/
theorem Makes.fault_cases {r : Except Fault α} {w after : World} {f : Fault}
    (h : Makes s walk a t r) (site : w.site = s) (run : walk w = .error f after) :
    (play w.rules a).fault = some f ∨ r = .error f := by
  obtain ⟨notes, -, made⟩ := h w site
  rw [run] at made
  split at made
  · next g failed =>
    cases made
    exact .inl failed
  · cases r with
    | ok u => cases made
    | error g => cases made; exact .inr rfl

namespace Follows

theorem bind_error {f : Fault} (hx : Follows s walk a (.error f)) :
    Follows s (walk >>= next) a (.error f) :=
  Makes.bind_error hx

theorem settle (r : Except Fault α) : Follows s (Walk.settle r) [] r := by
  apply Makes.of_silent
  rintro w rfl
  refine ⟨[], rfl, ?_⟩
  cases r <;> simp [World.ending, Walk.settle] <;> rfl

theorem pure (v : α) : Follows s (Pure.pure v) [] (.ok v) := settle (.ok v)

theorem throw (f : Fault) : Follows s (throw f : Walk α) [] (.error f) := settle (.error f)

theorem note (level : Level) [calm : level.Calm] (text : String) :
    Follows s (Walk.note level text) [] (.ok ()) := by
  apply Makes.of_silent
  rintro w rfl
  exact ⟨[⟨level, text⟩], by simp [complaints, calm.ne_error], rfl⟩

theorem site : Follows s Walk.site [] (.ok s) := by
  apply Makes.of_silent
  rintro w rfl
  refine ⟨[], rfl, ?_⟩
  simp only [List.append_nil, World.ending]
  rfl

theorem perform (e : Event) : Follows s (Walk.perform e) [⟨e, none⟩] (.ok ()) := by
  rintro w rfl
  refine ⟨[], rfl, ?_⟩
  simp only [Walk.perform, play, Option.orElse_eq_orElse]
  cases (Rule.fire e.text w.rules).2 <;> simp [World.past, World.ending]

/-- Walks one after the other make their calls one after the other. -/
theorem bind {v : α} {r : Except Fault β} (hx : Follows s walk a (.ok v))
    (hf : Makes s (next v) b t r) : Makes s (walk >>= next) (a ++ b) t r := by
  intro w hw
  obtain ⟨notes, calm, hn⟩ := hx w hw
  cases hc : (play w.rules a).fault with
  | some f =>
    simp only [hc] at hn
    refine ⟨notes, calm, ?_⟩
    rw [play_append_of_fault hc]
    simp only [hc]
    exact bind_of_error hn
  | none =>
    simp only [hc, World.ending] at hn
    obtain ⟨later, calm', hl⟩ :=
      hf _ (rfl : ({ w.past (play w.rules a) notes with site := s }).site = s)
    refine ⟨notes ++ later, by simp [calm, calm'], ?_⟩
    rw [play_append_of_done hc, bind_of_ok hn, hl]
    subst hw
    simp [World.past]

/-- What is told in silence by the answer of a walk. -/
theorem andThen {r : Except Fault α} {answer : α → Except Fault β} (hx : Follows s walk a r)
    (hf : ∀ v, Follows s (next v) [] (answer v)) :
    Follows s (walk >>= next) a (r >>= answer) := by
  cases r with
  | ok v => exact Makes.bind_silent hx (hf v)
  | error f => exact hx.bind_error

/-- However a walk that looks ends, it has made its calls and changed nothing that it looks at. -/
theorem ends {r : Except Fault α} (h : Follows s walk a r) {w : World} (site : w.site = s) :
    ∃ after last, walk w = World.ending after last ∧ after.site = s ∧ after.disk = w.disk ∧
      after.trace = w.trace ++ (play w.rules a).events := by
  obtain ⟨notes, _, hn⟩ := h w site
  cases hc : (play w.rules a).fault with
  | some f =>
    simp only [hc] at hn
    exact ⟨_, .error f, hn, site, rfl, rfl⟩
  | none =>
    simp only [hc] at hn
    exact ⟨_, r, hn, rfl, rfl, rfl⟩

end Follows

/-- A call that the site answers at once. If the answer is a fault, it is this call that failed;
else the answer may move the site. -/
theorem Makes.call {e : Event} {answer : Walk Unit} {r : Except Fault Unit}
    (done : ∀ u, r = .ok u → Makes s answer [] t r)
    (refused : ∀ f, r = .error f → Follows s answer [] r) :
    Makes s (Walk.perform e >>= fun _ => answer) [⟨e, faultOf r⟩] t (.ok ()) := by
  cases r with
  | ok u => exact (Follows.perform e).bind (done u rfl)
  | error f =>
    intro w hw
    obtain ⟨notes, calm, hn⟩ := ((Follows.perform e).bind (refused f rfl) : Makes s
      (Walk.perform e >>= fun _ => answer) ([⟨e, none⟩] ++ []) s (.error f)) w hw
    refine ⟨notes, calm, hn.trans ?_⟩
    simp only [List.append_nil, play, faultOf, Option.orElse_eq_orElse]
    cases (Rule.fire e.text w.rules).2 <;> subst hw <;> rfl

theorem Follows.call {e : Event} {answer : Walk Unit} {r : Except Fault Unit}
    (h : Follows s answer [] r) :
    Follows s (Walk.perform e >>= fun _ => answer) [⟨e, faultOf r⟩] (.ok ()) :=
  Makes.call (fun _ _ => h) fun _ _ => h

end

end Shopwalk
