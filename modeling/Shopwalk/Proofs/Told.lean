import Shopwalk.Proofs.Evidence
import Shopwalk.Proofs.Looking
import Shopwalk.Proofs.Unscripted

/-!
What the log tells of a kind. A message is known by the words it opens with, whatever follows them;
a text that parts from these words early on stays apart from them. What a walk says in such messages
can then be put together from what its parts say, most of which do not mention the matter at all.
-/

namespace Shopwalk

/-- The text opens with one of these words. -/
def Opens (words : List String) (text : String) : Prop := ∃ w ∈ words, w.toList <+: text.toList

/-- The text parts from each of these words: neither is the beginning of the other. -/
def Apart (words : List String) (text : String) : Prop :=
  ∀ w ∈ words, ¬ w.toList <+: text.toList ∧ ¬ text.toList <+: w.toList

instance (words : List String) (text : String) : Decidable (Opens words text) :=
  inferInstanceAs (Decidable (∃ w ∈ words, _))

instance (words : List String) (text : String) : Decidable (Apart words text) :=
  inferInstanceAs (Decidable (∀ w ∈ words, _))

theorem Opens.append {words : List String} {a : String} (opens : Opens words a) (b : String) :
    Opens words (a ++ b) := by
  obtain ⟨w, there, before⟩ := opens
  refine ⟨w, there, ?_⟩
  rw [String.toList_append]
  exact before.trans (List.prefix_append _ _)

/-- What has parted from the words stays apart from them. -/
theorem Apart.append {words : List String} {a : String} (apart : Apart words a) (b : String) :
    Apart words (a ++ b) := by
  intro w there
  obtain ⟨shorter, longer⟩ := apart w there
  rw [String.toList_append]
  constructor
  · intro opens
    -- Two beginnings of one text: one of them is the beginning of the other.
    rcases List.prefix_or_prefix_of_prefix opens (List.prefix_append a.toList b.toList) with h | h
    · exact shorter h
    · exact longer h
  · intro before
    exact longer ((List.prefix_append _ _).trans before)

/-- Whether a note opens with one of these words. -/
def LogEntry.opens (words : List String) (n : LogEntry) : Bool := decide (Opens words n.text)

theorem Opens.told {words : List String} {level : Level} {text : String}
    (opens : Opens words text) : LogEntry.opens words ⟨level, text⟩ = true :=
  decide_eq_true opens

theorem Apart.untold {words : List String} {level : Level} {text : String}
    (apart : Apart words text) : LogEntry.opens words ⟨level, text⟩ = false := by
  apply decide_eq_false
  rintro ⟨w, there, before⟩
  exact (apart w there).1 before

/-- The log has grown by notes that are not of this kind. -/
def Unmentioned (kind : LogEntry → Bool) (before after : World) : Prop :=
  Grown (kind · = false) before.journal after.journal

namespace Unmentioned

variable {kind : LogEntry → Bool} {words : List String}

instance : Std.Refl (Unmentioned kind) := ⟨fun _ => .refl _⟩

instance : Trans (Unmentioned kind) (Unmentioned kind) (Unmentioned kind) :=
  ⟨fun first second => first.trans second⟩

theorem perform (e : Event) : Stays (Unmentioned kind) (Walk.perform e) := by
  intro w
  rw [lastState_perform]
  exact Grown.refl w.journal

instance : AdmitsGlances (Unmentioned kind) := ⟨fun e _ _ => perform e⟩

instance : AdmitsRecords (Unmentioned kind) := ⟨fun e _ => perform e⟩

theorem note {level : Level} {text : String} (other : kind ⟨level, text⟩ = false) :
    Stays (Unmentioned kind) (Walk.note level text) :=
  fun _ => .single other rfl

theorem onDisk {α : Type} (work : DiskWork α) : Stays (Unmentioned kind) (Walk.onDisk work) := by
  intro w
  obtain ⟨disk, last⟩ := lastState_onDisk work w
  rw [last]
  exact Grown.refl w.journal

theorem visible
    (asked : ∀ label : String, kind ⟨.info, s!"Verifying element is visible: {label}"⟩ = false)
    (seen : ∀ label : String, kind ⟨.debug, s!"Element visible: {label}"⟩ = false)
    (place : Check.Place) (timeout : Option String) :
    Stays (Unmentioned kind) (Check.visible place timeout) := by
  refine (note (asked _)).bind fun _ => (Stays.settle _).bind fun _ => ?_
  exact (Stays.expectQuality _ _ _).bind fun _ => (note (seen _)).bind fun _ => Stays.pure _

/-- The check that an element is visible reports no errors. -/
theorem visible_calm (place : Check.Place) (timeout : Option String) :
    Stays (Unmentioned (·.level = .error)) (Check.visible place timeout) :=
  visible (fun _ => rfl) (fun _ => rfl) place timeout

theorem visible_of_apart (asked : Apart words "Verifying element is visible: ")
    (seen : Apart words "Element visible: ") (place : Check.Place) (timeout : Option String) :
    Stays (Unmentioned (LogEntry.opens words)) (Check.visible place timeout) :=
  visible (fun label => (asked.append label).untold) (fun label => (seen.append label).untold)
    place timeout

theorem text_of_apart (asked : Apart words "Verifying text content: ")
    (found : Apart words "Text verification passed: ")
    (sought : Apart words "Verifying element is visible: ")
    (seen : Apart words "Element visible: ") (place : Check.Place) (expected : Value)
    (exact : Bool) (timeout : Option String) :
    Stays (Unmentioned (LogEntry.opens words)) (Check.text place expected exact timeout) := by
  refine (Stays.settle _).bind fun text => ?_
  refine (note (((asked.append text).append _).append _).untold).bind fun _ => ?_
  refine (visible_of_apart sought seen _ _).bind fun _ => ?_
  refine (Stays.expectText _ _ _ _).bind fun _ => ?_
  exact (note (found.append text).untold).bind fun _ => Stays.pure _

/-- What the log has gained then, none of it is of the kind. -/
theorem silent {before after : World} (h : Unmentioned kind before after) :
    ∃ more, after.journal = before.journal ++ more ∧ more.filter kind = [] := by
  obtain ⟨more, added, other⟩ := h
  refine ⟨more, added, List.filter_eq_nil_iff.2 fun n there => ?_⟩
  simp [other n there]

/-- Words that no remark on evidence opens with. -/
theorem capture (pictured : Apart words "Captured error screenshot: ")
    (saved : Apart words "Captured error HTML: ")
    (missed : Apart words "Failed to capture artifacts: ") (name : String) :
    Stays (Unmentioned (LogEntry.opens words)) (Evidence.capture name) := by
  refine Stays.capture (fun remark => ?_) onDisk name
  cases remark with
  | pictured path => exact note (pictured.append path).untold
  | saved path => exact note (saved.append path).untold
  | missed e => exact note (missed.append e.message).untold

theorem keep {complaint name : String} (worded : Apart words complaint)
    (captured : Stays (Unmentioned (LogEntry.opens words)) (Evidence.capture name)) (e : Fault) :
    Stays (Unmentioned (LogEntry.opens words)) (Evidence.keep complaint name e) :=
  (note ((worded.append _).append _).untold).bind fun _ => captured

end Unmentioned

namespace Tells

variable {α β : Type} {kind : LogEntry → Bool} {s : Site} {told : List LogEntry}

theorem pure (v : α) : Tells kind s (Pure.pure v) [] (.ok v) := by
  rintro w rfl _
  exact ⟨[], [], rfl, by simp only [List.append_nil]; rfl⟩

/-- A note tells of itself if it is of the kind. -/
theorem note_bind {level : Level} {text : String} {f : Unit → Walk β} {r : Except Fault β}
    {notes : List LogEntry} (hf : Tells kind s (f ()) (notes.filter kind) r) :
    Tells kind s (Walk.note level text >>= f) (List.filter kind (⟨level, text⟩ :: notes)) r := by
  have noted : Tells kind s (Walk.note level text) (List.filter kind [⟨level, text⟩]) (.ok ()) := by
    rintro w rfl _
    exact ⟨[], [⟨level, text⟩], rfl, by rw [List.append_nil]; rfl⟩
  rw [← List.singleton_append, List.filter_append]
  exact noted.bind hf

/-- What comes before something that does not mention the matter. -/
theorem before {walk : Walk α} {f : α → Walk β} {v : α} {r : Except Fault β}
    (tells : Tells kind s walk told (.ok v)) (hf : Tells kind s (f v) [] r) :
    Tells kind s (walk >>= f) told r := by
  have whole := tells.bind hf
  rwa [List.append_nil] at whole

/-- A walk that does not mention a matter. -/
theorem unmentioned {walk : Walk α} {errors : List LogEntry} {r : Except Fault α}
    (yields : Yields s walk errors r) (unsaid : Stays (Unmentioned kind) walk) :
    Tells kind s walk [] r := by
  intro w site rules
  obtain ⟨events, notes, -, run⟩ := yields w site rules
  obtain ⟨more, added, silent⟩ := (unsaid w).silent
  have grown : (lastState (walk w)).journal = w.journal ++ notes := by
    rw [run]
    cases r <;> rfl
  obtain rfl : notes = more := List.append_cancel_left (grown.symm.trans added)
  exact ⟨events, notes, silent, run⟩

/-- What comes after a walk that does not mention the matter. -/
theorem after {walk : Walk α} {f : α → Walk β} {errors : List LogEntry} {v : α}
    {r : Except Fault β} (yields : Yields s walk errors (.ok v))
    (unsaid : Stays (Unmentioned kind) walk) (hf : Tells kind s (f v) told r) :
    Tells kind s (walk >>= f) told r :=
  (unmentioned yields unsaid).bind hf

theorem reporting {walk : Walk α} {v : α} (tells : Tells kind s walk told (.ok v))
    (complaint name : String) :
    Tells kind s (Evidence.reporting complaint name walk) told (.ok v) := by
  intro w site rules
  obtain ⟨events, notes, said, run⟩ := tells w site rules
  exact ⟨events, notes, said, Evidence.reporting_ok_iff.2 run⟩

/-- What the log has gained when a walk has reported its fault, if it had one, whether evidence of
it could be kept or not. -/
theorem reported {walk : Walk α} {r : Except Fault α} {complaint name : String}
    (tells : Tells kind s walk told r)
    (kept : ∀ e, Stays (Unmentioned kind) (Evidence.keep complaint name e)) {w : World}
    (site : w.site = s) (rules : w.rules = []) :
    ∃ notes, (lastState (Evidence.reporting complaint name walk w)).journal = w.journal ++ notes ∧
      notes.filter kind = told := by
  obtain ⟨events, notes, said, run⟩ := tells w site rules
  cases r with
  | ok v =>
    rw [Evidence.reporting_ok_iff.2 run]
    exact ⟨notes, rfl, said⟩
  | error e =>
    -- Keeping evidence may fail in its turn, but it does not mention the matter either way.
    have handled : Stays (Unmentioned kind)
        (Evidence.keep complaint name e >>= fun _ => (throw e : Walk α)) :=
      (kept e).bind fun _ => Stays.throw e
    obtain ⟨more, added, silent⟩ := (handled
      { w with site := s, trace := w.trace ++ events, journal := w.journal ++ notes }).silent
    refine ⟨notes ++ more, ?_, ?_⟩
    · rw [Evidence.reporting, tryCatch_of_error run, added, List.append_assoc]
    · rw [List.filter_append, said, silent, List.append_nil]

end Tells

end Shopwalk
