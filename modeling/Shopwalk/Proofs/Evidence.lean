import Shopwalk.Evidence
import Shopwalk.Proofs.Course

/-!
Keeping evidence of a fault: it leaves the site alone, makes at most two calls, and fails only when
the directory of evidence can be neither found nor made.
-/

namespace Shopwalk

namespace Disk

theorem makeDirectory_run (path : String) (d : Disk) :
    makeDirectory path d =
      if hasNul path then .error .nulInPath d
      else
        match d.locate path with
        | .error r => .error (.refused r path) d
        | .ok (.entry _) => .error (.refused .alreadyExists path) d
        | .ok (.vacant p) => .ok () (d.put p .directory) := by
  unfold makeDirectory
  cases hasNul path
  · simp only [Bool.false_eq_true, ↓reduceIte, get_bind]
    rcases d.locate path with r | p | p <;> rfl
  · rfl

/-- A directory that is refused leaves everything as it was. -/
theorem makeDirectory_error {path : String} {d after : Disk} {f : Fault}
    (h : makeDirectory path d = .error f after) : after = d := by
  rw [makeDirectory_run] at h
  split at h
  · cases h; rfl
  · split at h <;> cases h <;> rfl

theorem makeDirectory_refused {path : String} {d after : Disk} {f : Fault}
    (plain : hasNul path = false) (h : makeDirectory path d = .error f after) :
    ∃ r, f = .refused r path := by
  rw [makeDirectory_run, plain, if_neg Bool.false_ne_true] at h
  split at h <;> cases h <;> exact ⟨_, rfl⟩

/-- The last step of making directories: one that stands there already will do. -/
def makeOrKeep (path : String) : DiskWork Unit :=
  tryCatch (makeDirectory path) fun e => do
    if isRefusal e && (← get).isDirectory path then pure () else throw e

theorem makeOrKeep_error {path : String} {d after : Disk} {f : Fault}
    (h : makeOrKeep path d = .error f after) : after = d := by
  unfold makeOrKeep at h
  cases hm : makeDirectory path d with
  | ok u made => rw [tryCatch_of_ok hm] at h; cases h
  | error e same =>
    obtain rfl := makeDirectory_error hm
    rw [tryCatch_of_error hm, get_bind] at h
    split at h <;> cases h
    rfl

theorem makeOrKeep_refused {path : String} {d after : Disk} {f : Fault}
    (plain : hasNul path = false) (h : makeOrKeep path d = .error f after) :
    ∃ r, f = .refused r path := by
  unfold makeOrKeep at h
  cases hm : makeDirectory path d with
  | ok u made => rw [tryCatch_of_ok hm] at h; cases h
  | error e same =>
    rw [tryCatch_of_error hm, get_bind] at h
    split at h
    · cases h
    · cases h
      exact makeDirectory_refused plain hm

theorem locate_here (d : Disk) :
    d.locate "." =
      match d.get? d.home with
      | none => .error .noEntry
      | some (.file _) => .error .notDirectory
      | some .directory => .ok (.entry d.home) := by
  change d.follow d.home ["."] = _
  cases home : d.get? d.home with
  | none => simp [follow, home]
  | some entry => cases entry <;> simp [follow, home]

/-- Only the working directory can be found here. -/
theorem lookup_here (d : Disk) :
    d.lookup "." = if d.get? d.home = some .directory then some .directory else none := by
  have plain : hasNul "." = false := rfl
  unfold lookup
  rw [plain, locate_here]
  cases home : d.get? d.home with
  | none => rfl
  | some entry => cases entry <;> simp [home]

/-- Without a working directory there is nothing to make one in. -/
theorem makeDirectories_here {d : Disk} (missing : d.pathExists "." = false) (n : Nat) :
    ∃ r, makeDirectories (n + 1) "." d = .error (.refused r ".") d ∧ r ≠ .alreadyExists := by
  have gone : d.get? d.home ≠ some .directory := by
    intro home
    rw [pathExists, lookup_here, if_pos home] at missing
    cases missing
  have here : d.isDirectory "." = false := by
    rw [isDirectory, lookup_here, if_neg gone]
    rfl
  have refused : ∃ r, d.locate "." = .error r ∧ r ≠ .alreadyExists := by
    rw [locate_here]
    cases home : d.get? d.home with
    | none => exact ⟨.noEntry, rfl, by decide⟩
    | some entry =>
      cases entry with
      | file content => exact ⟨.notDirectory, rfl, by decide⟩
      | directory => exact absurd home gone
  obtain ⟨r, hr, hne⟩ := refused
  refine ⟨r, ?_, hne⟩
  have made : makeDirectory "." d = .error (.refused r ".") d := by
    rw [makeDirectory_run, hr]
    rfl
  refine (tryCatch_of_error made).trans ?_
  rw [get_bind, here]
  rfl

/-- Evidence is kept in the working directory itself, so that only that may be missing. -/
theorem ensureDirectory_evidence (d : Disk) :
    ensureDirectory Evidence.directory d =
      if d.pathExists "." then makeOrKeep "./errors" d else makeDirectories 7 "." d := by
  change (if !d.pathExists "." then
      (tryCatch (makeDirectories 7 ".") fun e =>
        if e.kind = .alreadyExists then pure () else throw e) >>= fun _ =>
        if !d.pathExists "." && false then pure () else makeOrKeep "./errors"
    else if !d.pathExists "." && false then pure ()
    else makeOrKeep "./errors" : DiskWork Unit) d = _
  cases there : d.pathExists "." with
  | true => rfl
  | false =>
    obtain ⟨r, made, other⟩ := makeDirectories_here there 6
    have caught : (tryCatch (makeDirectories 7 ".") fun e =>
        if e.kind = .alreadyExists then pure () else throw e) d = .error (.refused r ".") d := by
      rw [tryCatch_of_error made]
      cases r with
      | alreadyExists => exact absurd rfl other
      | noEntry | notDirectory | isDirectory | nameTooLong => rfl
    rw [made]
    exact bind_of_error caught

/-- The directory of evidence is made, or nothing changes. -/
theorem ensureDirectory_evidence_error {d after : Disk} {f : Fault}
    (h : ensureDirectory Evidence.directory d = .error f after) : after = d := by
  rw [ensureDirectory_evidence] at h
  cases there : d.pathExists "." with
  | true =>
    rw [there, if_pos rfl] at h
    exact makeOrKeep_error h
  | false =>
    obtain ⟨r, made, _⟩ := makeDirectories_here there 6
    rw [there, if_neg Bool.false_ne_true, made] at h
    cases h
    rfl

theorem ensureDirectory_evidence_refused {d after : Disk} {f : Fault}
    (h : ensureDirectory Evidence.directory d = .error f after) :
    ∃ r path, f = .refused r path := by
  rw [ensureDirectory_evidence] at h
  cases there : d.pathExists "." with
  | true =>
    rw [there, if_pos rfl] at h
    obtain ⟨r, refused⟩ := makeOrKeep_refused rfl h
    exact ⟨r, _, refused⟩
  | false =>
    obtain ⟨r, made, _⟩ := makeDirectories_here there 6
    rw [there, if_neg Bool.false_ne_true, made] at h
    cases h
    exact ⟨r, _, rfl⟩

end Disk

namespace Evidence

open Walk

/-- The directory of evidence is there or can be made. -/
def Keepable (d : Disk) : Prop := ∃ after, Disk.ensureDirectory directory d = .ok () after

theorem attempt_of_ending {α : Type} {walk : Walk α} {w after : World} {r : Except Fault α}
    (h : walk w = after.ending r) : attempt walk w = .ok r after := by
  unfold attempt
  rw [h]
  cases r <;> rfl

theorem content_run (w : World) :
    ∃ last after, Browser.content w = World.ending after last ∧ after.site = w.site ∧
      after.disk = w.disk ∧ after.trace = w.trace ++ [.content] := by
  have asks : Follows w.site Browser.content [⟨.content, none⟩] (.ok w.site.content) :=
    (Follows.perform _).bind (Follows.site.bind (Follows.pure _))
  obtain ⟨after, last, run, site, disk, trace⟩ := asks.ends rfl
  rw [play_single] at trace
  exact ⟨last, after, run, site, disk, trace⟩

/-- Saving the content makes one call at most. -/
theorem saveContent_run (path : String) (w : World) :
    ∃ last after, saveContent path w = World.ending after last ∧ after.site = w.site ∧
      (after.trace = w.trace ∨ after.trace = w.trace ++ [.content]) := by
  cases opened : Disk.openFile path w.disk with
  | error f d =>
    have refused : onDisk (Disk.openFile path) w = .error f { w with disk := d } := by
      simp only [onDisk, opened]
    exact ⟨.error f, _, bind_of_error refused, rfl, .inl rfl⟩
  | ok place d =>
    have ready : onDisk (Disk.openFile path) w = .ok place { w with disk := d } := by
      simp only [onDisk, opened]
    obtain ⟨last, after, run, site, -, trace⟩ := content_run { w with disk := d }
    refine ⟨last.map fun _ => (), ?_⟩
    unfold saveContent
    rw [bind_of_ok ready]
    cases last with
    | error f => exact ⟨after, bind_of_error run, site, .inr trace⟩
    | ok content => exact ⟨_, bind_of_ok run, site, .inr trace⟩

/-- The events of keeping evidence under a name: a picture, and then perhaps the content. -/
def Traces (name : String) (events : List Event) : Prop :=
  events = [.screenshot (directory ++ "/" ++ name ++ "_error.png")] ∨
    events = [.screenshot (directory ++ "/" ++ name ++ "_error.png"), .content]

theorem screenshot_run (path : String) (w : World) :
    ∃ last after, Browser.screenshot path w = World.ending after last ∧ after.site = w.site ∧
      after.trace = w.trace ++ [.screenshot path] := by
  have takes : Follows w.site (Browser.screenshot path) [⟨.screenshot path, none⟩] (.ok ()) :=
    Follows.perform _
  obtain ⟨after, last, run, site, -, trace⟩ := takes.ends rfl
  rw [play_single] at trace
  exact ⟨last, after, run, site, trace⟩

/-- Once the directory is there, evidence is captured without a failure. -/
theorem captureIn_of_keepable (name : String) {w : World} (keepable : Keepable w.disk) :
    ∃ kept after events, captureIn directory name w = .ok kept after ∧ after.site = w.site ∧
      after.trace = w.trace ++ events ∧ Traces name events := by
  obtain ⟨d, made⟩ := keepable
  have ready : onDisk (Disk.ensureDirectory directory) w = .ok () { w with disk := d } := by
    simp only [onDisk, made]
  obtain ⟨shot, after, run, site, trace⟩ :=
    screenshot_run (directory ++ "/" ++ name ++ "_error.png") { w with disk := d }
  have tried := attempt_of_ending run
  cases shot with
  | error e =>
    exact ⟨_, _, _, (bind_of_ok ready).trans ((bind_of_ok tried).trans rfl), site, trace, .inl rfl⟩
  | ok _ =>
    let picture := directory ++ "/" ++ name ++ "_error.png"
    let noted : World := { after with
      journal := after.journal ++ [⟨.debug, s!"Captured error screenshot: {picture}"⟩] }
    obtain ⟨saved, later, run', site', trace'⟩ :=
      saveContent_run (directory ++ "/" ++ name ++ "_error.html") noted
    have tried' := attempt_of_ending run'
    have whole : ∃ kept closing, captureIn directory name w =
        .ok kept { later with journal := closing } := by
      cases saved with
      | error e =>
        exact ⟨_, _, (bind_of_ok ready).trans
          ((bind_of_ok tried).trans ((bind_of_ok tried').trans rfl))⟩
      | ok _ =>
        exact ⟨_, _, (bind_of_ok ready).trans
          ((bind_of_ok tried).trans ((bind_of_ok tried').trans rfl))⟩
    obtain ⟨kept, closing, captured⟩ := whole
    rcases trace' with same | more
    · exact ⟨kept, _, _, captured, site'.trans site, same.trans trace, .inl rfl⟩
    · refine ⟨kept, _, _, captured, site'.trans site, ?_, .inr rfl⟩
      change later.trace = _
      rw [more, show noted.trace = _ from trace, List.append_assoc]
      rfl

theorem capture_of_keepable (name : String) {w : World} (keepable : Keepable w.disk) :
    ∃ after events, capture name w = .ok () after ∧ after.site = w.site ∧
      after.trace = w.trace ++ events ∧ Traces name events := by
  obtain ⟨kept, after, events, captured, rest⟩ := captureIn_of_keepable name keepable
  exact ⟨after, events, bind_of_ok captured, rest⟩

/-- A directory that cannot be made is the fault of the capture, and nothing has happened. -/
theorem capture_of_refused (name : String) {w : World} {f : Fault} {d : Disk}
    (refused : Disk.ensureDirectory directory w.disk = .error f d) :
    capture name w = .error f w := by
  obtain rfl := Disk.ensureDirectory_evidence_error refused
  have stopped : onDisk (Disk.ensureDirectory directory) w = .error f w := by
    simp only [onDisk, refused]
  exact bind_of_error (bind_of_error stopped)

theorem capture_of_not_keepable (name : String) {w : World} (blocked : ¬ Keepable w.disk) :
    ∃ f, capture name w = .error f w := by
  cases made : Disk.ensureDirectory directory w.disk with
  | ok u d => exact absurd ⟨d, made⟩ blocked
  | error f d => exact ⟨f, capture_of_refused name made⟩

/-- Evidence of a fault is kept, or nothing but the log has changed. -/
theorem keep_run (complaint name : String) (e : Fault) (w : World) :
    (Keepable w.disk → ∃ after events, keep complaint name e w = .ok () after ∧
      after.site = w.site ∧ after.trace = w.trace ++ events ∧ Traces name events) ∧
    (¬ Keepable w.disk → ∃ f notes, keep complaint name e w =
      .error f { w with journal := w.journal ++ notes }) := by
  let noted : World := { w with journal := w.journal ++ [⟨.error, s!"{complaint}: {e.message}"⟩] }
  constructor
  · intro keepable
    obtain ⟨after, events, captured, rest⟩ := capture_of_keepable name (w := noted) keepable
    exact ⟨after, events, captured, rest⟩
  · intro blocked
    obtain ⟨f, refused⟩ := capture_of_not_keepable name (w := noted) blocked
    exact ⟨f, _, refused⟩

/-- Evidence that cannot be kept is refused a place. -/
theorem keep_refused {complaint name : String} {e f : Fault} {w after : World}
    (run : keep complaint name e w = .error f after) : ∃ r path, f = .refused r path := by
  let noted : World := { w with journal := w.journal ++ [⟨.error, s!"{complaint}: {e.message}"⟩] }
  change capture name noted = .error f after at run
  cases made : Disk.ensureDirectory directory w.disk with
  | ok u d =>
    obtain ⟨_, _, captured, -⟩ := capture_of_keepable name (w := noted) ⟨d, made⟩
    rw [captured] at run
    cases run
  | error g d =>
    rw [capture_of_refused name (w := noted) made] at run
    obtain ⟨rfl, -⟩ := EStateM.Result.error.inj run
    exact Disk.ensureDirectory_evidence_refused made

section
variable {α : Type} {walk : Walk α} {complaint name : String} {substitute : Fault → α}
  {w after : World} {a : α} {e : Fault}

theorem recovering_of_ok (h : walk w = .ok a after) :
    recovering complaint name substitute walk w = .ok a after :=
  tryCatch_of_ok h

theorem recovering_of_keepable (complaint name : String) (substitute : Fault → α)
    (h : walk w = .error e after) (keepable : Keepable after.disk) :
    ∃ later events, recovering complaint name substitute walk w = .ok (substitute e) later ∧
      later.site = after.site ∧ later.trace = after.trace ++ events ∧ Traces name events := by
  obtain ⟨later, events, kept, rest⟩ := (keep_run complaint name e after).1 keepable
  exact ⟨later, events, (tryCatch_of_error h).trans (bind_of_ok kept), rest⟩

theorem recovering_of_not_keepable (complaint name : String) (substitute : Fault → α)
    (h : walk w = .error e after) (blocked : ¬ Keepable after.disk) :
    ∃ f notes, recovering complaint name substitute walk w =
      .error f { after with journal := after.journal ++ notes } := by
  obtain ⟨f, notes, refused⟩ := (keep_run complaint name e after).2 blocked
  exact ⟨f, notes, (tryCatch_of_error h).trans (bind_of_error refused)⟩

/-- A walk that fails has its substitute for an answer if evidence can be kept, and else none. -/
theorem recovering_ok_iff_of_error (h : walk w = .error e after) :
    (∃ later, recovering complaint name substitute walk w = .ok a later) ↔
      substitute e = a ∧ Keepable after.disk := by
  by_cases keepable : Keepable after.disk
  · obtain ⟨later, _, run, -⟩ := recovering_of_keepable complaint name substitute h keepable
    rw [run]
    simp [keepable]
  · obtain ⟨f, notes, run⟩ := recovering_of_not_keepable complaint name substitute h keepable
    rw [run]
    simp [keepable]

/-- An answer that is no substitute comes from the walk itself. -/
theorem recovering_ok_iff_of_ne (other : ∀ e, substitute e ≠ a) :
    recovering complaint name substitute walk w = .ok a after ↔ walk w = .ok a after := by
  constructor
  · intro h
    cases run : walk w with
    | ok b later => exact (recovering_of_ok run).symm.trans h
    | error e later =>
      rw [recovering, tryCatch_of_error run, bind_ok_iff] at h
      obtain ⟨_, _, _, returned⟩ := h
      cases returned
      exact absurd rfl (other e)
  · exact recovering_of_ok

/-- A walk that reports its faults succeeds when the walk itself does. -/
theorem reporting_ok_iff :
    reporting complaint name walk w = .ok a after ↔ walk w = .ok a after := by
  constructor
  · intro h
    cases run : walk w with
    | ok b later => exact (tryCatch_of_ok run).symm.trans h
    | error e later =>
      rw [reporting, tryCatch_of_error run, bind_ok_iff] at h
      obtain ⟨_, _, _, thrown⟩ := h
      cases thrown
  · exact fun h => tryCatch_of_ok h

/-- What a walk reports is its own fault or that evidence of it was refused a place. -/
theorem reporting_fault_cases (h : reporting complaint name walk w = .error e after) :
    (∃ u, walk w = .error e u) ∨ ∃ r path, e = .refused r path := by
  cases run : walk w with
  | ok b u =>
    rw [reporting, tryCatch_of_ok run] at h
    cases h
  | error f u =>
    rw [reporting, tryCatch_of_error run] at h
    cases kept : keep complaint name f u with
    | ok _ v =>
      rw [bind_of_ok kept] at h
      cases h
      exact .inl ⟨u, rfl⟩
    | error g v =>
      rw [bind_of_error kept] at h
      cases h
      exact .inr (keep_refused kept)

end

end Evidence

end Shopwalk
