import Shopwalk.Proofs.Checks

/-!
Walks in a world without rules. What becomes of the site, what a walk ends in and which errors it
reports on the way is then told by the site alone. So is what it writes to the log of any other
kind.
-/

namespace Shopwalk

section
variable {α β : Type}

/-- On the site `s`, when there are no rules, the walk ends in `r` on the site `t`, and of its notes
those of this kind are the ones told. Nothing else changes but the trace and the log. -/
def Carries (kind : LogEntry → Bool) (s : Site) (walk : Walk α) (told : List LogEntry) (t : Site)
    (r : Except Fault α) : Prop :=
  ∀ w : World, w.site = s → w.rules = [] →
    ∃ events notes, notes.filter kind = told ∧ walk w =
      World.ending { w with site := t, trace := w.trace ++ events, journal := w.journal ++ notes } r

/-- As `Carries`, for a walk that leaves the site alone. -/
def Tells (kind : LogEntry → Bool) (s : Site) (walk : Walk α) (told : List LogEntry)
    (r : Except Fault α) : Prop :=
  Carries kind s walk told s r

/-- As `Carries`, for the errors that a walk reports. -/
def Brings (s : Site) (walk : Walk α) (errors : List LogEntry) (t : Site) (r : Except Fault α) :
    Prop :=
  Carries (·.level = .error) s walk errors t r

/-- As `Brings`, for a walk that leaves the site alone. -/
def Yields (s : Site) (walk : Walk α) (errors : List LogEntry) (r : Except Fault α) : Prop :=
  Brings s walk errors s r

/-- A world later on: its site is `t`, it has no rules, and these errors have been reported. -/
structure Later (w after : World) (t : Site) (errors : List LogEntry) : Prop where
  site : after.site = t
  rules : after.rules = []
  disk : after.disk = w.disk
  journal : ∃ notes, after.journal = w.journal ++ notes ∧ complaints notes = errors

theorem Later.trans {u v w : World} {s t : Site} {a b : List LogEntry} (first : Later u v s a)
    (second : Later v w t b) : Later u w t (a ++ b) := by
  obtain ⟨notes, journal, reported⟩ := first.journal
  obtain ⟨more, journal', reported'⟩ := second.journal
  refine ⟨second.site, second.rules, second.disk.trans first.disk, notes ++ more, ?_, ?_⟩
  · rw [journal', journal, List.append_assoc]
  · rw [complaints_append, reported, reported']

variable {s t u : Site} {walk : Walk α} {f : α → Walk β} {a b : List LogEntry}

/-- Without rules a walk that no call of is refused by the site gets through. -/
theorem Makes.brings {steps : List Step} {r : Except Fault α} (h : Makes s walk steps t r)
    (granted : steps.findSome? Step.fault = none) : Brings s walk [] t r := by
  intro w site rules
  obtain ⟨notes, calm, run⟩ := h w site
  obtain ⟨fault, rest⟩ := play_nil steps
  rw [rules, fault, granted] at run
  refine ⟨(play [] steps).events, notes, calm, run.trans ?_⟩
  simp only [World.past, rest, rules]

/-- Without rules the first call that the site refuses ends a walk. -/
theorem Makes.refused {steps : List Step} {r : Except Fault α} {e : Fault}
    (h : Makes s walk steps t r) (refused : steps.findSome? Step.fault = some e) :
    Yields s walk [] (.error e) := by
  intro w site rules
  obtain ⟨notes, calm, run⟩ := h w site
  obtain ⟨fault, rest⟩ := play_nil steps
  rw [rules, fault, refused] at run
  refine ⟨(play [] steps).events, notes, calm, run.trans ?_⟩
  simp only [World.past, World.ending, rest, rules, ← site]

theorem Follows.yields_of_granted {steps : List Step} {r : Except Fault α}
    (h : Follows s walk steps r) (granted : steps.findSome? Step.fault = none) :
    Yields s walk [] r :=
  Makes.brings h granted

/-- Calls that the site has nothing against. -/
class Granted (steps : List Step) : Prop where
  faultless : steps.findSome? Step.fault = none

instance : Granted [] := ⟨rfl⟩

instance {e : Event} {steps : List Step} [rest : Granted steps] : Granted (⟨e, none⟩ :: steps) :=
  ⟨rest.faultless⟩

/-- A walk that makes no call that could be refused. -/
theorem Follows.yields {steps : List Step} [granted : Granted steps] {r : Except Fault α}
    (h : Follows s walk steps r) : Yields s walk [] r :=
  h.yields_of_granted granted.faultless

namespace Carries

variable {kind : LogEntry → Bool}

theorem bind {v : α} {r : Except Fault β} (hx : Carries kind s walk a t (.ok v))
    (hf : Carries kind t (f v) b u r) : Carries kind s (walk >>= f) (a ++ b) u r := by
  intro w site rules
  obtain ⟨events, notes, told, run⟩ := hx w site rules
  obtain ⟨more, later, told', run'⟩ :=
    hf { w with site := t, trace := w.trace ++ events, journal := w.journal ++ notes } rfl rules
  refine ⟨events ++ more, notes ++ later, by rw [List.filter_append, told, told'], ?_⟩
  rw [bind_of_ok run, run']
  simp only [List.append_assoc]

theorem bind_error {e : Fault} (hx : Carries kind s walk a t (.error e)) :
    Carries kind s (walk >>= f) a t (.error e) := by
  intro w site rules
  obtain ⟨events, notes, told, run⟩ := hx w site rules
  exact ⟨events, notes, told, bind_of_error run⟩

theorem attempt {r : Except Fault α} (h : Carries kind s walk a t r) :
    Carries kind s (Walk.attempt walk) a t (.ok r) := by
  intro w site rules
  obtain ⟨events, notes, told, run⟩ := h w site rules
  refine ⟨events, notes, told, ?_⟩
  cases r <;> simp only [Walk.attempt, run, World.ending]

end Carries

namespace Brings

/-- What comes after a walk that reports nothing. -/
theorem bind_calm {v : α} {r : Except Fault β} (hx : Brings s walk [] t (.ok v))
    (hf : Brings t (f v) a u r) : Brings s (walk >>= f) a u r :=
  hx.bind hf

/-- The run of a walk. -/
theorem run {r : Except Fault α} (h : Brings s walk a t r) {w : World} (site : w.site = s)
    (rules : w.rules = []) : ∃ after, walk w = World.ending after r ∧ Later w after t a := by
  obtain ⟨events, notes, reported, run⟩ := h w site rules
  exact ⟨_, run, rfl, rules, rfl, notes, rfl, reported⟩

/-- What a run that ends well shows of a walk. -/
theorem of_run {r : Except Fault α} (h : Brings s walk a t r) {w after : World} {v : α}
    (site : w.site = s) (rules : w.rules = []) (run : walk w = .ok v after) :
    r = .ok v ∧ Later w after t a := by
  obtain ⟨last, run', later⟩ := h.run site rules
  rw [run] at run'
  cases r with
  | ok u =>
    obtain ⟨rfl, rfl⟩ := EStateM.Result.ok.inj run'
    exact ⟨rfl, later⟩
  | error e => cases run'

end Brings

/-- The site has granted all calls of a walk that ends well. -/
theorem Makes.granted {steps : List Step} {r : Except Fault α} {w after : World} {v : α}
    (h : Makes s walk steps t r) (site : w.site = s) (rules : w.rules = [])
    (run : walk w = .ok v after) : steps.findSome? Step.fault = none := by
  cases fault : steps.findSome? Step.fault with
  | none => rfl
  | some e => cases ((h.refused fault).of_run site rules run).1

namespace Yields

theorem report (text : String) :
    Yields s (Walk.note .error text) [⟨.error, text⟩] (.ok ()) := by
  rintro w rfl _
  refine ⟨[], [⟨.error, text⟩], by simp, ?_⟩
  rw [List.append_nil]
  rfl

theorem settled {r : Except Fault α} {v : α} (h : r = .ok v) :
    Yields s (Walk.settle r) [] (.ok v) :=
  h ▸ (Follows.settle _).yields

/-- Answers that are put together as the walks are. -/
theorem andThen {r : Except Fault α} {g : α → Except Fault β} (hx : Yields s walk [] r)
    (hf : ∀ v, Yields s (f v) [] (g v)) : Yields s (walk >>= f) [] (r >>= g) := by
  cases r with
  | ok v => exact hx.bind (hf v)
  | error e => exact hx.bind_error

/-- An element can be shown: it is the only one, and it is visible. -/
theorem visible {label : String} {l : Locator} {timeout : Option String}
    (shown : ∃ e, s.resolve l = [e] ∧ e.visible = true) :
    Yields s (Check.visible ⟨label, .ok l⟩ timeout) [] (.ok l) := by
  have seen : (Step.quality s .visible l timeout).fault = none := Step.quality_fault_iff.2 shown
  exact (Follows.visible label l timeout).yields_of_granted (by simp [seen])

theorem visible_refused {label : String} {l : Locator} {timeout : Option String}
    (hidden : ¬ ∃ e, s.resolve l = [e] ∧ e.visible = true) :
    ∃ e, Yields s (Check.visible ⟨label, .ok l⟩ timeout) [] (.error e) := by
  cases fault : (Step.quality s .visible l timeout).fault with
  | none => exact absurd (Step.quality_fault_iff.1 fault) hidden
  | some e => exact ⟨e, Makes.refused (Follows.visible label l timeout) (by simp [fault])⟩

theorem textContent {l : Locator} {e : Element} (found : s.resolve l = [e]) :
    Yields s (Browser.textContent l) [] (.ok e.text) := by
  have read : Yields s (Browser.textContent l) [] ((s.one l).map Element.text) :=
    (Follows.textContent l).yields
  rw [Site.one_eq_ok_iff.2 found] at read
  exact read

end Yields

end

namespace Check

/-- What is reported of a text that has to hold a number. -/
def numberReports (text : String) : List LogEntry :=
  if Shop.Reading.of text = .absent then
    [⟨.error, s!"Failed to extract numeric value from text: {text}"⟩]
  else []

theorem number_yields (s : Site) (text : String) :
    Yields s (number (.str text)) (numberReports text) (Shop.numberIn text) := by
  have found : Yields s (do
        let n ← Walk.settle (Shop.numberIn text)
        Walk.note .debug s!"Extracted number: {n}"
        return n) [] (Shop.numberIn text) := by
    cases Shop.numberIn text with
    | error f => exact (Follows.throw f).yields.bind_error
    | ok n =>
      refine (Follows.pure n).yields.bind_calm ?_
      exact (Follows.note _ _).yields.bind_calm (Follows.pure n).yields
  refine (Follows.settle (.ok text)).yields.bind_calm ?_
  refine (Follows.note _ _).yields.bind_calm ?_
  refine (Follows.settle (.ok text)).yields.bind_calm ?_
  unfold numberReports
  split
  · exact (Yields.report _).bind (a := [_]) found
  · exact found

theorem number_none_yields (s : Site) :
    Yields s (number .none) [] (.error (.notSearchable "NoneType")) := by
  refine (Follows.settle (.ok "None")).yields.bind_calm ?_
  refine (Follows.note _ _).yields.bind_calm ?_
  exact (Follows.throw _).yields.bind_error

end Check

end Shopwalk
