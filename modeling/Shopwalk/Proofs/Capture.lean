import Shopwalk.Proofs.Directories
import Shopwalk.Proofs.FirstFault

/-!
What is left of the page when evidence is captured under any name and in any directory. What is
listed as captured is there: the picture was taken, and the file of the content holds the content.
No other file has changed and no directory has been made that is not on the way. What is not listed
may be gone: a file is emptied before the page is asked for its content, and stays empty when the
page does not give it.
-/

namespace Shopwalk

theorem Keyed.insert_insert {κ α : Type} [DecidableEq κ] (m : List (κ × α)) (key : κ) (v w : α) :
    insert (insert m key v) key w = insert m key w := by
  induction m with
  | nil => simp [insert]
  | cons p rest ih =>
    by_cases same : p.1 = key
    · simp [insert, same]
    · simp [insert, same, ih]

namespace Disk

variable {d opened : Disk} {path : String} {p : Place}

/-- The place that a path leads to, be it vacant or not. -/
def LeadsTo (d : Disk) (path : String) (p : Place) : Prop :=
  d.locate path = .ok (.entry p) ∨ d.locate path = .ok (.vacant p)

/-- The content of the file at a place. -/
def fileAt (d : Disk) (p : Place) : Option String :=
  match d.get? p with
  | some (.file content) => some content
  | _ => none

theorem put_put (d : Disk) (p : Place) (e f : Entry) : (d.put p e).put p f = d.put p f := by
  simp only [put, Keyed.insert_insert]

@[simp] theorem fileAt_put (d : Disk) (p q : Place) (content : String) :
    (d.put p (.file content)).fileAt q = if p = q then some content else d.fileAt q := by
  simp only [fileAt, get?_put]
  by_cases same : p = q
  · simp only [if_pos same]
  · simp only [if_neg same]

theorem Made.fileAt {after : Disk} (made : Made path d after) (p : Place) :
    after.fileAt p = d.fileAt p := by
  unfold Disk.fileAt
  rcases made.places p with same | ⟨free, new, -⟩
  · rw [same]
  · rw [free, new]

theorem LeadsTo.unique {q : Place} (leads : d.LeadsTo path p) (other : d.LeadsTo path q) :
    p = q := by
  rcases leads with leads | leads
  · rcases other with other | other
    · cases leads.symm.trans other
      rfl
    · cases leads.symm.trans other
  · rcases other with other | other
    · cases leads.symm.trans other
    · cases leads.symm.trans other
      rfl

/-- The path of a file that has been opened leads to it, and names no directory. -/
theorem openFile_leads (run : openFile path d = .ok p opened) :
    hasNul path = false ∧ endsInSlash path = false ∧ d.LeadsTo path p := by
  rw [openFile_run] at run
  split at run
  · cases run
  · next clean =>
    refine ⟨eq_false_of_ne_true clean, ?_⟩
    split at run
    · cases run
    · next vacant =>
      split at run
      · cases run
      · next bare =>
        cases run
        exact ⟨eq_false_of_ne_true bare, .inr vacant⟩
    · next there =>
      split at run
      · cases run
      · next bare =>
        cases run
        rw [Bool.or_eq_true, not_or] at bare
        exact ⟨eq_false_of_ne_true bare.1, .inl there⟩

/-- It leads to the file whatever has been written to it. -/
theorem locate_of_opened (run : openFile path d = .ok p opened) (content : String) :
    (d.put p (.file content)).locate path = .ok (.entry p) := by
  have grows : Grows d (d.put p (.file content)) := Grows.put _ (openFile_ok run).2
  obtain ⟨-, -, there | vacant⟩ := openFile_leads run
  · obtain ⟨worded, short, leads⟩ := locate_ok_iff.1 there
    exact locate_ok_iff.2 ⟨worded, short, grows.follow leads⟩
  · obtain ⟨worded, short, leads⟩ := locate_ok_iff.1 vacant
    exact locate_ok_iff.2 ⟨worded, short, follow_put leads _⟩

theorem lookup_of_opened (run : openFile path d = .ok p opened) (content : String) :
    (d.put p (.file content)).lookup path = some (.file content) := by
  obtain ⟨clean, bare, -⟩ := openFile_leads run
  simp [lookup, clean, bare, locate_of_opened run]

end Disk

namespace Evidence

open Walk

variable {dir name : String} {w after : World} {ready : Disk} {kept : Evidence}

/-- Where the picture of a page is kept. -/
def picturePath (dir name : String) : String := dir ++ "/" ++ name ++ "_error.png"

/-- Where the content of a page is kept. -/
def contentPath (dir name : String) : String := dir ++ "/" ++ name ++ "_error.html"

/-- The call that takes a picture does not fail. -/
def Pictured (dir name : String) (w : World) : Prop :=
  fault? (Browser.screenshot (picturePath dir name) w) = none

/-- How capturing evidence goes once its directory is there: what is listed, the calls that are
made, and what becomes of the file system. -/
inductive Captures (dir name : String) (w : World) (ready : Disk) :
    Evidence → List Event → Disk → Prop
  | unpictured (missed : ¬ Pictured dir name w) :
      Captures dir name w ready {} [.screenshot (picturePath dir name)] ready
  | unopened (pictured : Pictured dir name w) :
      Captures dir name w ready { screenshot := picturePath dir name }
        [.screenshot (picturePath dir name)] ready
  | unread {p : Place} {opened : Disk} (pictured : Pictured dir name w)
      (run : Disk.openFile (contentPath dir name) ready = .ok p opened) :
      Captures dir name w ready { screenshot := picturePath dir name }
        [.screenshot (picturePath dir name), .content] (ready.put p (.file ""))
  | saved {p : Place} {opened : Disk} (pictured : Pictured dir name w)
      (run : Disk.openFile (contentPath dir name) ready = .ok p opened) :
      Captures dir name w ready
        { screenshot := picturePath dir name, html := contentPath dir name }
        [.screenshot (picturePath dir name), .content]
        (ready.put p (.file w.site.content))

/-- What the rules make of a call that is put in the trace. -/
theorem perform_run (e : Event) (w : World) :
    ∃ rules, perform e w = World.ending { w with trace := w.trace ++ [e], rules }
      (match (Rule.fire e.text w.rules).2 with
        | none => .ok ()
        | some f => .error f) := by
  refine ⟨(Rule.fire e.text w.rules).1, ?_⟩
  unfold perform
  rcases Rule.fire e.text w.rules with ⟨rules, _ | f⟩ <;> rfl

theorem pictured_iff (dir name : String) (w : World) :
    Pictured dir name w ↔
      (Rule.fire (Event.screenshot (picturePath dir name)).text w.rules).2 = none := by
  rw [Pictured, Browser.screenshot, fault_perform]

theorem onDisk_ok {α : Type} {work : DiskWork α} {a : α} (run : onDisk work w = .ok a after) :
    ∃ disk, work w.disk = .ok a disk ∧ after = { w with disk } := by
  unfold onDisk at run
  cases worked : work w.disk with
  | ok b disk =>
    rw [worked] at run
    cases run
    exact ⟨disk, rfl, rfl⟩
  | error f disk =>
    rw [worked] at run
    cases run

/-- How saving the content goes: the file cannot be opened, or it has been emptied when the page is
asked, and is written when the page answers. -/
theorem saveContent_cases (path : String) (w : World) :
    (∃ f, saveContent path w = .error f w) ∨
    ∃ p opened rules, Disk.openFile path w.disk = .ok p opened ∧
      ((∃ f, saveContent path w = .error f
        { w with disk := w.disk.put p (.file ""), trace := w.trace ++ [.content], rules }) ∨
      saveContent path w = .ok ()
        { w with disk := w.disk.put p (.file w.site.content), trace := w.trace ++ [.content]
                 rules }) := by
  cases run : Disk.openFile path w.disk with
  | error f d =>
    obtain rfl := Disk.openFile_error run
    have refused : onDisk (Disk.openFile path) w = .error f w := by simp only [onDisk, run]
    exact .inl ⟨f, bind_of_error refused⟩
  | ok p d =>
    obtain ⟨rfl, -⟩ := Disk.openFile_ok run
    have ready : onDisk (Disk.openFile path) w =
        .ok p { w with disk := w.disk.put p (.file "") } := by simp only [onDisk, run]
    obtain ⟨rules, asked⟩ := perform_run .content { w with disk := w.disk.put p (.file "") }
    refine .inr ⟨p, _, rules, rfl, ?_⟩
    unfold saveContent
    rw [bind_of_ok ready]
    dsimp only at asked
    split at asked
    · refine .inr ?_
      have read : Browser.content { w with disk := w.disk.put p (.file "") } = .ok w.site.content
          { w with disk := w.disk.put p (.file ""), trace := w.trace ++ [.content], rules } :=
        bind_of_ok asked
      rw [bind_of_ok read, ← Disk.put_put w.disk p (.file "") (.file w.site.content)]
      rfl
    · next f _ => exact .inl ⟨f, bind_of_error (bind_of_error asked)⟩

/-- What there is when evidence has been captured. -/
theorem captureIn_ok (run : captureIn dir name w = .ok kept after) :
    ∃ ready events, Disk.ensureDirectory dir w.disk = .ok () ready ∧ after.site = w.site ∧
      after.trace = w.trace ++ events ∧ Captures dir name w ready kept events after.disk := by
  obtain ⟨_, _, asked, -⟩ := bind_ok_iff.1 run
  obtain ⟨ready, made, rfl⟩ := onDisk_ok asked
  obtain ⟨rules, shot⟩ := perform_run (.screenshot (picturePath dir name)) { w with disk := ready }
  have pictured := pictured_iff dir name w
  dsimp only at shot
  split at shot
  · next spared =>
    have tried := attempt_of_ending shot
    -- The picture is noted, and then the content is asked for in this world.
    let noted : World := { w with
      disk := ready
      trace := w.trace ++ [.screenshot (picturePath dir name)]
      rules
      journal := w.journal ++
        [⟨.debug, s!"Captured error screenshot: {picturePath dir name}"⟩] }
    have missed {f : Fault} {v : World}
        (saved : saveContent (contentPath dir name) noted = .error f v) :
        ∃ journal, captureIn dir name w =
          .ok { screenshot := picturePath dir name } { v with journal } :=
      ⟨_, (bind_of_ok asked).trans ((bind_of_ok tried).trans
        ((bind_of_ok (attempt_of_ending (r := .error f) saved)).trans rfl))⟩
    rcases saveContent_cases (contentPath dir name) noted with
      ⟨f, saved⟩ | ⟨p, opened, later, opens, ⟨f, saved⟩ | saved⟩
    · obtain ⟨journal, whole⟩ := missed saved
      cases whole.symm.trans run
      exact ⟨ready, _, made, rfl, rfl, .unopened (pictured.2 spared)⟩
    · obtain ⟨journal, whole⟩ := missed saved
      cases whole.symm.trans run
      exact ⟨ready, _, made, rfl, List.append_assoc _ _ _, .unread (pictured.2 spared) opens⟩
    · have whole : ∃ journal, captureIn dir name w =
          .ok { screenshot := picturePath dir name, html := contentPath dir name }
            { noted with disk := ready.put p (.file w.site.content)
                         trace := noted.trace ++ [.content], rules := later, journal } :=
        ⟨_, (bind_of_ok asked).trans ((bind_of_ok tried).trans
          ((bind_of_ok (attempt_of_ending (r := .ok ()) saved)).trans rfl))⟩
      obtain ⟨journal, whole⟩ := whole
      cases whole.symm.trans run
      exact ⟨ready, _, made, rfl, List.append_assoc _ _ _, .saved (pictured.2 spared) opens⟩
  · next f hit =>
    rw [hit] at pictured
    have whole : ∃ journal, captureIn dir name w = .ok {}
        { w with disk := ready, trace := w.trace ++ [.screenshot (picturePath dir name)], rules
                 journal } :=
      ⟨_, (bind_of_ok asked).trans ((bind_of_ok (attempt_of_ending shot)).trans rfl)⟩
    obtain ⟨journal, whole⟩ := whole
    cases whole.symm.trans run
    exact ⟨ready, _, made, rfl, rfl, .unpictured (by simp [pictured])⟩

section
variable {events : List Event} {disk : Disk}

/-- Only the file of the content is touched, and it is a file then. -/
theorem Captures.places (h : Captures dir name w ready kept events disk) (p : Place) :
    disk.get? p = ready.get? p ∨
      disk.locate (contentPath dir name) = .ok (.entry p) ∧ ready.get? p ≠ some .directory ∧
        ∃ content, disk.get? p = some (.file content) := by
  have written {q : Place} {opened : Disk} (content : String)
      (run : Disk.openFile (contentPath dir name) ready = .ok q opened) :
      (ready.put q (.file content)).get? p = ready.get? p ∨
        (ready.put q (.file content)).locate (contentPath dir name) = .ok (.entry p) ∧
          ready.get? p ≠ some .directory ∧
          ∃ content', (ready.put q (.file content)).get? p = some (.file content') := by
    by_cases same : q = p
    · subst same
      exact .inr ⟨Disk.locate_of_opened run content, (Disk.openFile_ok run).2, content, by simp⟩
    · exact .inl (by simp [same])
  cases h with
  | unpictured | unopened => exact .inl rfl
  | unread _ run => exact written "" run
  | saved _ run => exact written w.site.content run

theorem Captures.grows (h : Captures dir name w ready kept events disk) :
    Disk.Grows ready disk := by
  have refl : Disk.Grows ready ready := ⟨Std.Refl.refl ready, fun _ there => there⟩
  cases h with
  | unpictured | unopened => exact refl
  | unread _ run | saved _ run => exact Disk.Grows.put _ (Disk.openFile_ok run).2

end

/-- When evidence has been captured, it is what is listed: the picture exactly when the call for it
did not fail, and the content only with the picture, in a file that holds it. Nothing has changed
but that file and the directory and those above it that were missing. -/
theorem captured_as_listed (run : captureIn dir name w = .ok kept after) :
    (∃ later, after.trace = w.trace ++ .screenshot (picturePath dir name) :: later) ∧
    (kept.screenshot.isSome = true ↔ Pictured dir name w) ∧
    (∀ path, kept.screenshot = some path → path = picturePath dir name) ∧
    (∀ path, kept.html = some path → path = contentPath dir name ∧
      kept.screenshot.isSome = true ∧ after.disk.lookup path = some (.file w.site.content)) ∧
    (∀ p, after.disk.get? p ≠ w.disk.get? p →
      (after.disk.locate (contentPath dir name) = .ok (.entry p) ∧
        w.disk.get? p ≠ some .directory ∧ ∃ content, after.disk.get? p = some (.file content)) ∨
      (w.disk.get? p = none ∧ after.disk.get? p = some .directory ∧ after.disk.OnWay dir p)) ∧
    after.site = w.site := by
  obtain ⟨ready, events, made, site, trace, captures⟩ := captureIn_ok run
  have grown : Disk.Made dir w.disk ready := (Disk.makeDirectories_made _ dir).of_ok made
  rw [trace]
  generalize after.disk = disk at captures ⊢
  refine ⟨?_, ?_, ?_, ?_, fun p changed => ?_, site⟩
  · cases captures <;> exact ⟨_, rfl⟩
  · cases captures with
    | unpictured missed => simpa using missed
    | unopened pictured | unread pictured | saved pictured => simpa using pictured
  · intro path listed
    cases captures <;> cases listed <;> rfl
  · intro path listed
    cases captures with
    | unpictured | unopened | unread => cases listed
    | saved _ opens =>
      cases listed
      exact ⟨rfl, rfl, Disk.lookup_of_opened opens _⟩
  · rcases captures.places p with same | ⟨leads, other, content, file⟩
    · rw [same] at changed ⊢
      obtain ⟨free, new, way⟩ := (grown.places p).resolve_left changed
      exact .inr ⟨free, new, captures.grows.onWay way⟩
    · refine .inl ⟨leads, fun directory => other ?_, content, file⟩
      exact grown.grows.directories p directory

/-- The directory is reached by a way through another one, and both are missing at first. -/
theorem captured_as_listed_roundabout :
    ∃ after, captureIn "out/../errors" "cart" {} =
        .ok { screenshot := "out/../errors/cart_error.png"
              html := "out/../errors/cart_error.html" } after ∧
      after.disk.lookup "out/../errors/cart_error.html" = some (.file "<html></html>") ∧
      (∀ p, after.disk.get? p ≠ Disk.fresh.get? p →
        (after.disk.locate "out/../errors/cart_error.html" = .ok (.entry p) ∧
          Disk.fresh.get? p ≠ some .directory ∧
          ∃ content, after.disk.get? p = some (.file content)) ∨
        (Disk.fresh.get? p = none ∧ after.disk.get? p = some .directory ∧
          after.disk.OnWay "out/../errors" p)) ∧
      after.site = {} := by
  have answered : answer? (captureIn "out/../errors" "cart" {}) =
      some { screenshot := "out/../errors/cart_error.png"
             html := "out/../errors/cart_error.html" } := by decide
  obtain ⟨after, run⟩ := answer?_eq_some_iff.1 answered
  obtain ⟨-, -, -, content, frame, site⟩ := captured_as_listed run
  exact ⟨after, run, (content _ rfl).2.2, frame, site⟩

/-- A file that is not listed is as it was exactly when the page was not asked for its content, or
was empty already: a page that is asked in vain leaves an empty file. -/
theorem unlisted_content_kept_iff (run : captureIn dir name w = .ok kept after)
    (unlisted : kept.html = none) :
    ∃ events, after.trace = w.trace ++ events ∧
      (.content ∈ events → after.disk.lookup (contentPath dir name) = some (.file "")) ∧
      ((∀ p, after.disk.LeadsTo (contentPath dir name) p →
          after.disk.fileAt p = w.disk.fileAt p) ↔
        (.content ∈ events → ∀ p, after.disk.LeadsTo (contentPath dir name) p →
          w.disk.fileAt p = some "")) := by
  obtain ⟨ready, events, made, -, trace, captures⟩ := captureIn_ok run
  have grown : Disk.Made dir w.disk ready := (Disk.makeDirectories_made _ dir).of_ok made
  refine ⟨events, trace, ?_⟩
  generalize after.disk = disk at captures ⊢
  cases captures with
  | unpictured | unopened => simp [grown.fileAt]
  | saved => cases unlisted
  | @unread q _ _ opens =>
    refine ⟨fun _ => Disk.lookup_of_opened opens "", ?_⟩
    have asked : Event.content ∈ [.screenshot (picturePath dir name), .content] := by simp
    simp only [asked, forall_const]
    refine forall₂_congr fun p leads => ?_
    obtain rfl : q = p := Disk.LeadsTo.unique (.inl (Disk.locate_of_opened opens "")) leads
    simp [eq_comm]

/-- A page that does not give its content, in a working directory with earlier evidence. -/
def mutePage : World where
  rules := [{ cue := "content", message := "Page closed" }]
  disk := (Disk.fresh.put (Disk.fresh.home ++ ["errors"]) .directory).put
    (Disk.fresh.home ++ ["errors", "cart_error.html"]) (.file "<p>first</p>")

theorem mutePage_captured :
    answer? (captureIn "./errors" "cart" mutePage) =
      some { screenshot := "./errors/cart_error.png" } := by
  decide

theorem unlisted_content_kept_iff_mute :
    ∃ after, captureIn "./errors" "cart" mutePage =
        .ok { screenshot := "./errors/cart_error.png" } after ∧
      ∃ events, after.trace = mutePage.trace ++ events ∧
        (.content ∈ events → after.disk.lookup "./errors/cart_error.html" = some (.file "")) ∧
        ((∀ p, after.disk.LeadsTo "./errors/cart_error.html" p →
            after.disk.fileAt p = mutePage.disk.fileAt p) ↔
          (.content ∈ events → ∀ p, after.disk.LeadsTo "./errors/cart_error.html" p →
            mutePage.disk.fileAt p = some "")) := by
  obtain ⟨after, run⟩ := answer?_eq_some_iff.1 mutePage_captured
  exact ⟨after, run, unlisted_content_kept_iff run rfl⟩

/-- Earlier evidence is gone after a capture that does not list what took its place. -/
theorem earlier_evidence_emptied :
    mutePage.disk.lookup "./errors/cart_error.html" = some (.file "<p>first</p>") ∧
      ∃ after, captureIn "./errors" "cart" mutePage =
          .ok { screenshot := "./errors/cart_error.png" } after ∧
        after.disk.lookup "./errors/cart_error.html" = some (.file "") := by
  obtain ⟨after, run⟩ := answer?_eq_some_iff.1 mutePage_captured
  have emptied : (lastState (captureIn "./errors" "cart" mutePage)).disk.lookup
      "./errors/cart_error.html" = some (.file "") := by decide
  rw [run] at emptied
  exact ⟨by decide, after, run, emptied⟩

end Evidence

end Shopwalk
