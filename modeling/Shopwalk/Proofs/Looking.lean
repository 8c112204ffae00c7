import Shopwalk.Check
import Shopwalk.Evidence
import Shopwalk.Page
import Shopwalk.Proofs.Run

/-!
Looking at the site leaves it as it was. A walk looks when, however it ends, it has made no call
that acts on the site; the checks look, and so does keeping evidence of a fault. Walks that do act
still add no rule to a script that has none.

What the calls and the checks keep is said once, for every relation between worlds that admits them.
To record the page and to note a success are things apart: a relation may admit all other calls and
notes but not these.
-/

namespace Shopwalk

/-- Whether a call acts on the site, or waits for it to be acted on. -/
def Event.acts : Event → Bool
  | .goto _ | .expectNavigation _ | .pageClick _ | .click _ | .fill _ _ => true
  | _ => false

/-- The calls among some that act on the site. -/
def deeds (events : List Event) : List Event := events.filter Event.acts

@[simp] theorem deeds_append (a b : List Event) : deeds (a ++ b) = deeds a ++ deeds b :=
  List.filter_append ..

/-- Whether a call records the page: takes a picture of it, or asks for its content. -/
def Event.records : Event → Bool
  | .screenshot _ | .content => true
  | _ => false

/-- One list is the other one with entries of a kind added at its end. -/
def Grown {α : Type} (kind : α → Prop) (before after : List α) : Prop :=
  ∃ more, after = before ++ more ∧ ∀ x ∈ more, kind x

namespace Grown

variable {α : Type} {kind : α → Prop} {a b c : List α}

theorem refl (a : List α) : Grown kind a a := ⟨[], (List.append_nil a).symm, by simp⟩

theorem trans (first : Grown kind a b) (second : Grown kind b c) : Grown kind a c := by
  obtain ⟨more, rfl, fit⟩ := first
  obtain ⟨rest, rfl, fit'⟩ := second
  exact ⟨more ++ rest, List.append_assoc a more rest, List.forall_mem_append.2 ⟨fit, fit'⟩⟩

theorem single {x : α} (h : kind x) (added : b = a ++ [x]) : Grown kind a b :=
  ⟨[x], added, List.forall_mem_singleton.2 h⟩

end Grown

/-- A world after nothing but looking. -/
structure Looked (before after : World) : Prop where
  site : after.site = before.site
  rules : before.rules = [] → after.rules = []
  calls : ∃ events, after.trace = before.trace ++ events ∧ deeds events = []

/-- A world after calls and notes that have touched no file, when the page has not been recorded and
no success has been noted. -/
structure Walked (before after : World) : Prop where
  rules : before.rules = [] → after.rules = []
  disk : after.disk = before.disk
  trace : Grown (·.records = false) before.trace after.trace
  journal : Grown (·.level ≠ .success) before.journal after.journal

/-- As `Walked`, after nothing but looking. -/
structure Glanced (before after : World) : Prop extends Looked before after, Walked before after

/-- No rule has come to a script that has none. -/
def Unscripted (before after : World) : Prop := before.rules = [] → after.rules = []

instance : Std.Refl Looked := ⟨fun _ => ⟨rfl, id, [], (List.append_nil _).symm, rfl⟩⟩

instance : Trans Looked Looked Looked where
  trans {u v w} first second := by
    obtain ⟨events, trace, idle⟩ := first.calls
    obtain ⟨more, trace', idle'⟩ := second.calls
    refine ⟨second.site.trans first.site, second.rules ∘ first.rules, events ++ more, ?_, ?_⟩
    · rw [trace', trace, List.append_assoc]
    · rw [deeds_append, idle, idle', List.append_nil]

instance : Std.Refl Unscripted := ⟨fun _ => id⟩

instance : Trans Unscripted Unscripted Unscripted := ⟨fun first second => second ∘ first⟩

/-- A level at which no success is noted. -/
class Level.Plain (level : Level) : Prop where
  ne_success : level ≠ .success

instance : Level.Plain .debug := ⟨nofun⟩

instance : Level.Plain .info := ⟨nofun⟩

instance : Level.Plain .warning := ⟨nofun⟩

instance : Level.Plain .error := ⟨nofun⟩

/-- A relation between worlds that is kept by the calls that only look. -/
class AdmitsGlances (R : World → World → Prop) : Prop where
  admits : ∀ e : Event, e.acts = false → e.records = false → Stays R (Walk.perform e)

/-- A relation between worlds that is kept by looking and by writing to the log. -/
class AdmitsLooks (R : World → World → Prop) : Prop where
  admits : Subrelation Glanced R

/-- A relation between worlds that is kept by all calls. -/
class AdmitsCalls (R : World → World → Prop) : Prop where
  admits : Subrelation Walked R

/-- A relation between worlds that is kept by recording the page. -/
class AdmitsRecords (R : World → World → Prop) : Prop where
  admits : ∀ e : Event, e.records = true → Stays R (Walk.perform e)

/-- A relation between worlds that is kept by noting a success. -/
class AdmitsSuccess (R : World → World → Prop) : Prop where
  admits : ∀ text, Stays R (Walk.note .success text)

/-- What is noted while evidence is captured, and at which level. -/
inductive Evidence.Remark : Level → String → Prop
  | pictured (path : String) : Remark .debug s!"Captured error screenshot: {path}"
  | saved (path : String) : Remark .debug s!"Captured error HTML: {path}"
  | missed (e : Fault) : Remark .error s!"Failed to capture artifacts: {e.message}"

/-- A relation between worlds that is kept by capturing evidence. -/
class AdmitsEvidence (R : World → World → Prop) : Prop where
  admits : ∀ name, Stays R (Evidence.capture name)

instance {R : World → World → Prop} [AdmitsCalls R] : AdmitsLooks R where
  admits glanced := AdmitsCalls.admits glanced.toWalked

instance : AdmitsLooks Looked := ⟨Glanced.toLooked⟩

instance : AdmitsSuccess Looked := ⟨fun _ _ => ⟨rfl, id, [], (List.append_nil _).symm, rfl⟩⟩

instance : AdmitsCalls Unscripted := ⟨Walked.rules⟩

instance : AdmitsSuccess Unscripted := ⟨fun _ _ => id⟩

/-- However it ends, the walk has only looked. -/
abbrev Looks {α : Type} (walk : Walk α) : Prop := Stays Looked walk

section
variable {α : Type} {walk : Walk α} {R : World → World → Prop}

theorem looked_unscripted : Subrelation Looked Unscripted := fun looked => looked.rules

theorem Looks.unscripted (h : Looks walk) : Stays Unscripted walk := fun w => (h w).rules

theorem lastState_perform (e : Event) (w : World) :
    lastState (Walk.perform e w) =
      { w with trace := w.trace ++ [e], rules := (Rule.fire e.text w.rules).1 } := by
  unfold Walk.perform
  rcases Rule.fire e.text w.rules with ⟨rules, _ | f⟩ <;> rfl

theorem lastState_onDisk (work : DiskWork α) (w : World) :
    ∃ disk, lastState (Walk.onDisk work w) = { w with disk } := by
  unfold Walk.onDisk
  cases work w.disk with
  | ok a disk => exact ⟨disk, rfl⟩
  | error f disk => exact ⟨disk, rfl⟩

theorem Rule.fire_rules_of_nil {text : String} {rules : List Rule} (none_left : rules = []) :
    (fire text rules).1 = [] := by
  rw [none_left, fire_nil]

instance [AdmitsLooks R] : AdmitsGlances R where
  admits e idle unrecorded w := by
    rw [lastState_perform]
    apply AdmitsLooks.admits
    exact { site := rfl
            rules := Rule.fire_rules_of_nil
            calls := ⟨[e], rfl, by simp [deeds, idle]⟩
            disk := rfl
            trace := .single unrecorded rfl
            journal := .refl _ }

instance : AdmitsRecords Looked where
  admits e recording w := by
    have idle : deeds [e] = [] := by
      cases e with
      | screenshot | content => rfl
      | _ => cases recording
    rw [lastState_perform]
    exact ⟨rfl, Rule.fire_rules_of_nil, [e], rfl, idle⟩

instance : AdmitsRecords Unscripted where
  admits e _ w := by
    rw [lastState_perform]
    exact Rule.fire_rules_of_nil

namespace Stays

/-- What comes after a look finds the site as it was. -/
theorem look_ok {β : Type} {next : α → Walk β} {w after : World} {b : β} (h : Looks walk)
    (unscripted : w.rules = []) (run : (walk >>= next) w = .ok b after) :
    ∃ a u, walk w = .ok a u ∧ next a u = .ok b after ∧ u.site = w.site ∧ u.rules = [] := by
  obtain ⟨a, u, looked, rest, same⟩ := bind_ok h run
  exact ⟨a, u, looked, rest, same.site, same.rules unscripted⟩

theorem settle [Std.Refl R] (r : Except Fault α) : Stays R (Walk.settle r) := by
  cases r with
  | ok a => exact pure a
  | error f => exact throw f

theorem textOf [Std.Refl R] (v : Value) : Stays R (Walk.textOf v) := settle _

theorem site [Std.Refl R] : Stays R Walk.site := fun w => Std.Refl.refl w

theorem attempt (h : Stays R walk) : Stays R (Walk.attempt walk) := by
  intro w
  cases run : walk w with
  | ok a after =>
    simp only [Walk.attempt, run]
    exact h.of_ok run
  | error f after =>
    simp only [Walk.attempt, run]
    exact h.of_error run

theorem single [Std.Refl R] [Trans R R R] (l : Locator) : Stays R (Browser.single l) := by
  refine site.bind fun s => ?_
  split
  · exact throw _
  · exact pure _
  · exact throw _

section
variable [AdmitsRecords R]

theorem screenshot (path : String) : Stays R (Browser.screenshot path) :=
  AdmitsRecords.admits _ rfl

variable [Std.Refl R] [Trans R R R]

theorem content : Stays R Browser.content :=
  (AdmitsRecords.admits .content rfl).bind fun _ => site.bind fun _ => pure _

theorem saveContent (files : ∀ {β : Type} (work : DiskWork β), Stays R (Walk.onDisk work))
    (path : String) : Stays R (Evidence.saveContent path) :=
  (files _).bind fun _ => content.bind fun _ => files _

end

section
variable [AdmitsRecords R] [Std.Refl R] [Trans R R R]

/-- Once its directory is ready, evidence is captured by recording the page, by saving its content
and by remarks on that. -/
theorem since_ready
    (remarks : ∀ {level text}, Evidence.Remark level text → Stays R (Walk.note level text))
    (saving : ∀ path, Stays R (Evidence.saveContent path)) (name : String) {w ready : World}
    (asked : Walk.onDisk (Disk.ensureDirectory Evidence.directory) w = .ok () ready) :
    R ready (lastState (Evidence.capture name w)) := by
  unfold Evidence.capture Evidence.captureIn
  rw [bind_assoc, bind_of_ok asked]
  refine (?_ : Stays R _) ready
  refine bind ((screenshot _).attempt.bind fun shot => ?_) fun _ => pure ()
  cases shot with
  | error e => exact (remarks (.missed e)).bind fun _ => pure _
  | ok _ =>
    refine (remarks (.pictured _)).bind fun _ => (saving _).attempt.bind fun saved => ?_
    cases saved with
    | error e => exact (remarks (.missed e)).bind fun _ => pure _
    | ok _ => exact (remarks (.saved _)).bind fun _ => pure _

/-- Evidence is captured in this way after work on the files, whether that works or not. -/
theorem capture
    (remarks : ∀ {level text}, Evidence.Remark level text → Stays R (Walk.note level text))
    (files : ∀ {β : Type} (work : DiskWork β), Stays R (Walk.onDisk work)) (name : String) :
    Stays R (Evidence.capture name) := by
  intro w
  cases asked : Walk.onDisk (Disk.ensureDirectory Evidence.directory) w with
  | ok _ ready =>
    exact Trans.trans ((files _).of_ok asked) (since_ready remarks (saveContent files) name asked)
  | error f after =>
    have stopped : Evidence.capture name w = .error f after := bind_of_error (bind_of_error asked)
    rw [stopped]
    exact (files _).of_error asked

end

section
variable [AdmitsGlances R]

theorem perform {e : Event} (idle : e.acts = false) (unrecorded : e.records = false) :
    Stays R (Walk.perform e) :=
  AdmitsGlances.admits e idle unrecorded

theorem waitForLoad (state : String) (timeout : Option String) :
    Stays R (Browser.waitForLoad state timeout) :=
  perform rfl rfl

variable [Std.Refl R] [Trans R R R]

theorem title : Stays R Browser.title := (perform rfl rfl).bind fun _ => site.bind fun _ => pure _

theorem textContent (l : Locator) : Stays R (Browser.textContent l) :=
  (perform rfl rfl).bind fun _ => (single l).bind fun _ => pure _

theorem isVisible (l : Locator) : Stays R (Browser.isVisible l) := by
  refine (perform rfl rfl).bind fun _ => site.bind fun s => ?_
  split
  · exact pure _
  · exact (single l).bind fun _ => pure _

theorem textAt (l : Locator) : Stays R (Page.textAt l) := (textContent l).bind fun _ => settle _

theorem count (l : Locator) : Stays R (Browser.count l) :=
  (perform rfl rfl).bind fun _ => site.bind fun _ => pure _

theorem all (l : Locator) : Stays R (Browser.all l) :=
  (perform rfl rfl).bind fun _ => site.bind fun _ => pure _

theorem expectPage (f : Fault.PageField) (e : Browser.Expected) :
    Stays R (Browser.expectPage f e) := by
  refine (perform rfl rfl).bind fun _ => site.bind fun s => ?_
  dsimp only
  split
  · exact pure ()
  · exact throw _

theorem expectQuality (q : Fault.Quality) (l : Locator) (timeout : Option String) :
    Stays R (Browser.expectQuality q l timeout) := by
  refine (perform rfl rfl).bind fun _ => site.bind fun s => ?_
  split
  · exact throw _
  · split
    · exact pure ()
    · exact throw _
  · exact throw _

theorem expectText (r : Fault.Relation) (l : Locator) (e : Browser.Expected)
    (timeout : Option String) : Stays R (Browser.expectText r l e timeout) := by
  refine (perform rfl rfl).bind fun _ => site.bind fun s => ?_
  split
  · exact throw _
  · refine (settle _).bind fun holds => ?_
    split
    · exact pure ()
    · exact throw _
  · exact throw _

theorem expectCount (l : Locator) (expected : Value) :
    Stays R (Browser.expectCount l expected) := by
  refine (textOf _).bind fun shown => (perform rfl rfl).bind fun _ => site.bind fun s => ?_
  dsimp only
  split
  · exact pure ()
  · exact throw _

end

section
variable [AdmitsLooks R]

theorem note (level : Level) [plain : level.Plain] (text : String) :
    Stays R (Walk.note level text) := by
  intro w
  apply AdmitsLooks.admits
  exact { site := rfl
          rules := id
          calls := ⟨[], (List.append_nil _).symm, rfl⟩
          disk := rfl
          trace := .refl _
          journal := .single plain.ne_success rfl }

theorem anyNote [AdmitsSuccess R] (level : Level) (text : String) :
    Stays R (Walk.note level text) := by
  by_cases told : level = .success
  · rw [told]
    exact AdmitsSuccess.admits text
  · have plain : level.Plain := ⟨told⟩
    exact note level text

theorem remark {level : Level} {text : String} (remark : Evidence.Remark level text) :
    Stays R (Walk.note level text) := by
  cases remark with
  | pictured path | saved path => exact note _ _
  | missed e => exact note _ _

variable [Std.Refl R] [Trans R R R]

theorem url (p : String) (caseSensitive : Bool) : Stays R (Check.url p caseSensitive) :=
  (settle _).bind fun _ => (note _ _).bind fun _ => (expectPage _ _).bind fun _ =>
    site.bind fun _ => note _ _

theorem urlOf (p caseSensitive : Value) : Stays R (Check.urlOf p caseSensitive) := by
  unfold Check.urlOf
  split
  · exact url _ _
  · exact throw _

theorem heading (expected : Value) (selector : String) :
    Stays R (Check.heading expected selector) :=
  (textOf _).bind fun _ => (note _ _).bind fun _ => (expectQuality _ _ _).bind fun _ =>
    (expectText _ _ _ _).bind fun _ => note _ _

theorem navigation (p expected : Value) (selector : String) :
    Stays R (Check.navigation p expected selector) := by
  refine (urlOf _ _).bind fun _ => ?_
  split
  · exact heading _ _
  · exact pure ()

theorem visible (place : Check.Place) (timeout : Option String) :
    Stays R (Check.visible place timeout) :=
  (note _ _).bind fun _ => (settle _).bind fun _ => (expectQuality _ _ _).bind fun _ =>
    (note _ _).bind fun _ => pure _

theorem enabled (selector : String) : Stays R (Check.enabled selector) :=
  (note _ _).bind fun _ => (expectQuality _ _ _).bind fun _ => (expectQuality _ _ _).bind fun _ =>
    (note _ _).bind fun _ => pure _

theorem text (place : Check.Place) (expected : Value) (exact : Bool) (timeout : Option String) :
    Stays R (Check.text place expected exact timeout) :=
  (settle _).bind fun _ => (note _ _).bind fun _ => (visible _ _).bind fun _ =>
    (expectText _ _ _ _).bind fun _ => (note _ _).bind fun _ => pure _

theorem leastCount (selector : String) (least : Value) :
    Stays R (Check.leastCount selector least) := by
  refine (count _).bind fun n => (textOf _).bind fun _ => (note _ _).bind fun _ =>
    (settle _).bind fun below => ?_
  split
  · exact (throw _).bind fun _ => (note _ _).bind fun _ => pure _
  · exact (note _ _).bind fun _ => pure _

theorem cartNotEmpty (selector : String) : Stays R (Check.cartNotEmpty selector) :=
  (note _ _).bind fun _ => (expectQuality _ _ _).bind fun _ => (expectText _ _ _ _).bind fun _ =>
    (note _ _).bind fun _ => pure _

theorem framed (q : Fault.Quality) (frame : Value) (selector : String) (timeout : Option String) :
    Stays R (Check.framed q frame selector timeout) :=
  (note _ _).bind fun _ => (settle _).bind fun _ => (expectQuality _ _ _).bind fun _ =>
    (note _ _).bind fun _ => pure _

/-- The title of the page is looked at twice, once in the trace only. -/
theorem pageTitle (expected : Value) (exact : Bool) : Stays R (Check.title expected exact) := by
  have said : Stays R (do
      let current ← Browser.title
      Walk.note .debug s!"Page title verification passed: {current}") :=
    title.bind fun _ => note _ _
  refine (textOf _).bind fun _ => (note _ _).bind fun _ => ?_
  split
  · exact (expectPage _ _).bind fun _ => said
  · exact (settle _).bind fun _ => (expectPage _ _).bind fun _ => said

theorem number (v : Value) : Stays R (Check.number v) := by
  refine (textOf _).bind fun _ => (note _ _).bind fun _ => (settle _).bind fun s => ?_
  have found : Stays R (do
      let n ← Walk.settle (Shop.numberIn s)
      Walk.note .debug s!"Extracted number: {n}"
      return n) := (settle _).bind fun _ => (note _ _).bind fun _ => pure _
  split
  · exact (note _ _).bind fun _ => found
  · exact found

end

section
variable [AdmitsLooks R] [AdmitsEvidence R] [Trans R R R]

theorem keep (complaint name : String) (e : Fault) : Stays R (Evidence.keep complaint name e) :=
  (note _ _).bind fun _ => AdmitsEvidence.admits name

variable [Std.Refl R]

theorem recovering {complaint name : String} {substitute : Fault → α} (h : Stays R walk) :
    Stays R (Evidence.recovering complaint name substitute walk) :=
  h.tryCatch fun e => (keep complaint name e).bind fun _ => pure _

theorem reporting {complaint name : String} (h : Stays R walk) :
    Stays R (Evidence.reporting complaint name walk) :=
  h.tryCatch fun e => (keep complaint name e).bind fun _ => throw e

/-- What a walk that recovers from its fault has done since then. -/
theorem since_recovering (complaint name : String) (substitute : Fault → α) (walk : Walk α)
    (w : World) :
    R (lastState (walk w)) (lastState (Evidence.recovering complaint name substitute walk w)) := by
  cases run : walk w with
  | ok a after =>
    rw [Evidence.recovering, tryCatch_of_ok run]
    exact Std.Refl.refl after
  | error e after =>
    have kept : Stays R (Evidence.keep complaint name e >>= fun _ => Pure.pure (substitute e)) :=
      (keep _ _ e).bind fun _ => pure _
    rw [Evidence.recovering, tryCatch_of_error run]
    exact kept after

end

section
variable [AdmitsCalls R]

theorem call {e : Event} (unrecorded : e.records = false) : Stays R (Walk.perform e) := by
  intro w
  rw [lastState_perform]
  exact AdmitsCalls.admits ⟨Rule.fire_rules_of_nil, rfl, .single unrecorded rfl, .refl _⟩

theorem modifySite (f : Site → Site) : Stays R (Walk.modifySite f) :=
  fun _ => AdmitsCalls.admits ⟨id, rfl, .refl _, .refl _⟩

variable [Trans R R R]

theorem goto (url : String) : Stays R (Browser.goto url) := (call rfl).bind fun _ => modifySite _

variable [Std.Refl R]

theorem press (l : Locator) : Stays R (Browser.press l) := by
  refine (single l).bind fun e => ?_
  split
  · exact modifySite _
  · exact throw _

theorem click (l : Locator) : Stays R (Browser.click l) := (call rfl).bind fun _ => press l

theorem pageClick (selector : String) : Stays R (Browser.pageClick selector) :=
  (call rfl).bind fun _ => press _

theorem fill (l : Locator) (value : String) : Stays R (Browser.fill l value) :=
  (call rfl).bind fun _ => (single l).bind fun _ => pure _

theorem expectNavigation (waitUntil : Option String) (h : Stays R walk) :
    Stays R (Browser.expectNavigation waitUntil walk) := by
  refine (call rfl).bind fun _ => site.bind fun _ => h.bind fun _ => site.bind fun _ => ?_
  split
  · exact throw _
  · exact pure _

end

end Stays

namespace Looks

theorem onDisk (work : DiskWork α) : Looks (Walk.onDisk work) := by
  intro w
  obtain ⟨disk, last⟩ := lastState_onDisk work w
  rw [last]
  exact ⟨rfl, id, [], (List.append_nil _).symm, rfl⟩

theorem saveContent (path : String) : Looks (Evidence.saveContent path) :=
  Stays.saveContent onDisk path

/-- Evidence is captured by looking, whether that works or not. -/
theorem capture (name : String) : Looks (Evidence.capture name) :=
  Stays.capture Stays.remark onDisk name

instance : AdmitsEvidence Looked := ⟨capture⟩

instance : AdmitsEvidence Unscripted := ⟨fun name => (capture name).unscripted⟩

end Looks

end

end Shopwalk
