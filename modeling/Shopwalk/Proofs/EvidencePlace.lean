import Shopwalk.Proofs.Evidence
import Shopwalk.Proofs.Looking

/-!
The directory of evidence. It can be had unless a file stands in its place, and then the file is
what the fault names. Capturing evidence replaces no directory, so that evidence can be kept as
often as it could be kept once.
-/

namespace Shopwalk

namespace Disk

variable {d after : Disk}

/-- The working directory is there. -/
def AtHome (d : Disk) : Prop := d.isDirectory "." = true

/-- A working directory that holds one file. -/
def holding (name content : String) : Disk := fresh.put (fresh.home ++ [name]) (.file content)

theorem atHome_iff : d.AtHome ↔ d.get? d.home = some .directory := by
  rw [AtHome, isDirectory, lookup_here, decide_eq_true_eq]
  by_cases home : d.get? d.home = some .directory
  · simp [home]
  · simp [home]

theorem pathExists_here_iff : d.pathExists "." = true ↔ d.AtHome := by
  rw [atHome_iff, pathExists, lookup_here]
  by_cases home : d.get? d.home = some .directory
  · simp [home]
  · simp [home]

/-- The place of the evidence, when the working directory is there. -/
theorem locate_evidence (home : d.AtHome) :
    d.locate Evidence.directory = .ok
      (match d.get? (d.home ++ ["errors"]) with
        | some _ => .entry (d.home ++ ["errors"])
        | none => .vacant (d.home ++ ["errors"])) := by
  have located : d.locate Evidence.directory = d.follow d.home [".", "errors"] := rfl
  have short : "errors".utf8ByteSize ≤ nameLimit := by decide
  rw [located]
  cases there : d.get? (d.home ++ ["errors"]) with
  | none => simp [follow, atHome_iff.1 home, there, short]
  | some entry => simp [follow, atHome_iff.1 home, there, short]

theorem lookup_evidence (home : d.AtHome) :
    d.lookup Evidence.directory = d.get? (d.home ++ ["errors"]) := by
  have plain : hasNul Evidence.directory = false := rfl
  have bare : endsInSlash Evidence.directory = false := rfl
  unfold lookup
  rw [locate_evidence home, plain]
  cases there : d.get? (d.home ++ ["errors"]) with
  | none => rfl
  | some entry => cases entry <;> simp [there, bare]

/-- Nothing is found where there is no working directory. -/
theorem atHome_of_lookup {e : Entry} (found : d.lookup Evidence.directory = some e) :
    d.AtHome := by
  have located : d.locate Evidence.directory = d.follow d.home [".", "errors"] := rfl
  rw [atHome_iff]
  unfold lookup at found
  rw [located] at found
  cases home : d.get? d.home with
  | none => simp [follow, home] at found
  | some entry =>
    cases entry with
    | file content => simp [follow, home] at found
    | directory => rfl

/-- What comes of asking for the directory of evidence. -/
theorem ensureDirectory_home (home : d.AtHome) :
    ensureDirectory Evidence.directory d =
      match d.lookup Evidence.directory with
      | none => .ok () (d.put (d.home ++ ["errors"]) .directory)
      | some .directory => .ok () d
      | some (.file _) => .error (.refused .alreadyExists Evidence.directory) d := by
  rw [ensureDirectory_evidence, pathExists_here_iff.2 home, if_pos rfl]
  change makeOrKeep Evidence.directory d = _
  have plain : hasNul Evidence.directory = false := rfl
  have asked := makeDirectory_run Evidence.directory d
  rw [locate_evidence home, plain] at asked
  cases there : d.get? (d.home ++ ["errors"]) with
  | none =>
    rw [there] at asked
    rw [lookup_evidence home, there]
    exact tryCatch_of_ok asked
  | some entry =>
    -- Something stands there, so that making it is refused; only a directory will do then.
    rw [there] at asked
    have found : d.lookup Evidence.directory = some entry := (lookup_evidence home).trans there
    rw [makeOrKeep, tryCatch_of_error asked, get_bind]
    cases entry with
    | directory =>
      have kept : d.isDirectory Evidence.directory = true := decide_eq_true found
      rw [kept, found]
      rfl
    | file content =>
      have other : d.isDirectory Evidence.directory = false := by simp [isDirectory, found]
      rw [other, found]
      rfl

theorem atHome_of_ensured (made : ensureDirectory Evidence.directory d = .ok () after) :
    d.AtHome := by
  rw [← pathExists_here_iff]
  cases there : d.pathExists "." with
  | true => rfl
  | false =>
    obtain ⟨r, refused, -⟩ := makeDirectories_here there 6
    rw [ensureDirectory_evidence, there, if_neg Bool.false_ne_true, refused] at made
    cases made

/-- The directory of evidence stands where it was asked for. -/
theorem lookup_of_ensured (made : ensureDirectory Evidence.directory d = .ok () after) :
    after.lookup Evidence.directory = some .directory := by
  have home := atHome_of_ensured made
  rw [ensureDirectory_home home] at made
  cases found : d.lookup Evidence.directory with
  | none =>
    rw [found] at made
    cases made
    have still : (d.put (d.home ++ ["errors"]) .directory).AtHome := by
      rw [atHome_iff] at home ⊢
      simp [home]
    simp [lookup_evidence still]
  | some entry =>
    rw [found] at made
    cases entry with
    | directory =>
      cases made
      exact found
    | file content => cases made

theorem get?_of_follow {here p : Place} {names : List String}
    (vacant : d.follow here names = .ok (.vacant p)) : d.get? p = none := by
  induction names generalizing here with
  | nil => cases vacant
  | cons name rest ih =>
    unfold follow at vacant
    split at vacant
    · cases vacant
    · cases vacant
    · split at vacant
      · exact ih vacant
      · split at vacant
        · exact ih vacant
        · split at vacant
          · cases vacant
          · split at vacant
            · exact ih vacant
            · next none_there =>
              cases vacant
              exact none_there
            · cases vacant

/-- Nothing stands at a vacant place. -/
theorem get?_of_vacant {path : String} {p : Place} (vacant : d.locate path = .ok (.vacant p)) :
    d.get? p = none := by
  unfold locate at vacant
  split at vacant
  · cases vacant
  · split at vacant
    · cases vacant
    · exact get?_of_follow vacant

/-- The directories are all there yet, and the working directory is the same. -/
structure Spared (d after : Disk) : Prop where
  home : after.home = d.home
  directories : ∀ p, d.get? p = some .directory → after.get? p = some .directory

theorem Spared.put {p : Place} (e : Entry) (other : d.get? p ≠ some .directory) :
    Spared d (d.put p e) := by
  refine ⟨rfl, fun q there => ?_⟩
  have apart : p ≠ q := by
    rintro rfl
    exact other there
  rw [get?_put, if_neg apart, there]

theorem openFile_run (path : String) (d : Disk) :
    openFile path d =
      if hasNul path then .error .nulInPath d
      else
        match d.locate path with
        | .error r => .error (.refused r path) d
        | .ok (.vacant p) =>
          if endsInSlash path then .error (.refused .isDirectory path) d
          else .ok p (d.put p (.file ""))
        | .ok (.entry p) =>
          if endsInSlash path || d.get? p = some .directory then
            .error (.refused .isDirectory path) d
          else .ok p (d.put p (.file "")) := by
  unfold openFile
  cases hasNul path with
  | true => rfl
  | false =>
    simp only [Bool.false_eq_true, ↓reduceIte, get_bind]
    rcases d.locate path with r | p | p
    · rfl
    · dsimp only
      split <;> rfl
    · dsimp only
      split <;> rfl

/-- A file is opened where no directory stands. -/
theorem openFile_ok {path : String} {p : Place} (opened : openFile path d = .ok p after) :
    after = d.put p (.file "") ∧ d.get? p ≠ some .directory := by
  rw [openFile_run] at opened
  split at opened
  · cases opened
  · split at opened
    · cases opened
    · next located =>
      split at opened
      · cases opened
      · cases opened
        refine ⟨rfl, ?_⟩
        rw [get?_of_vacant located]
        exact nofun
    · split at opened
      · cases opened
      · next free =>
        cases opened
        simp only [Bool.or_eq_true, decide_eq_true_eq, not_or] at free
        exact ⟨rfl, free.2⟩

theorem openFile_error {path : String} {f : Fault} (opened : openFile path d = .error f after) :
    after = d := by
  rw [openFile_run] at opened
  split at opened
  · cases opened
    rfl
  · split at opened
    · cases opened
      rfl
    · split at opened <;> cases opened
      rfl
    · split at opened <;> cases opened
      rfl

instance : Std.Refl Spared := ⟨fun _ => ⟨rfl, fun _ there => there⟩⟩

instance : Trans Spared Spared Spared where
  trans first second :=
    ⟨second.home.trans first.home, fun p there => second.directories p (first.directories p there)⟩

theorem Spared.lookup (spared : Spared d after)
    (found : d.lookup Evidence.directory = some .directory) :
    after.lookup Evidence.directory = some .directory := by
  have home := atHome_of_lookup found
  have still : after.AtHome := by
    rw [atHome_iff, spared.home]
    exact spared.directories _ (atHome_iff.1 home)
  rw [lookup_evidence home] at found
  rw [lookup_evidence still, spared.home]
  exact spared.directories _ found

end Disk

namespace Evidence

open Walk

/-- The fault of a file that stands in the place of the directory of evidence. -/
def hindrance : Fault := .refused .alreadyExists directory

theorem keepable_iff {d : Disk} (home : d.AtHome) :
    Keepable d ↔ ∀ content, d.lookup directory ≠ some (.file content) := by
  unfold Keepable
  rw [Disk.ensureDirectory_home home]
  cases found : d.lookup directory with
  | none => simp
  | some entry => cases entry <;> simp

theorem keepable_fresh : Keepable Disk.fresh := by
  have home : Disk.fresh.AtHome := by
    unfold Disk.AtHome
    decide
  have vacant : Disk.fresh.lookup directory = none := by decide
  rw [keepable_iff home, vacant]
  intro content found
  cases found

/-- The directories that a walk finds are there after it. -/
def Spares (before after : World) : Prop := Disk.Spared before.disk after.disk

instance : Std.Refl Spares := ⟨fun w => Std.Refl.refl w.disk⟩

instance : Trans Spares Spares Spares where
  trans first second := Trans.trans (r := Disk.Spared) first second

theorem spares_of_disk_eq {before after : World} (same : after.disk = before.disk) :
    Spares before after := by
  unfold Spares
  rw [same]
  exact Std.Refl.refl before.disk

instance : AdmitsCalls Spares := ⟨fun walked => spares_of_disk_eq walked.disk⟩

instance : AdmitsRecords Spares where
  admits e _ w := by
    rw [lastState_perform]
    exact spares_of_disk_eq rfl

theorem saveContent_spares (path : String) : Stays Spares (saveContent path) := by
  intro w
  cases opened : Disk.openFile path w.disk with
  | error f d =>
    obtain rfl := Disk.openFile_error opened
    have refused : onDisk (Disk.openFile path) w = .error f w := by simp only [onDisk, opened]
    have stopped : saveContent path w = .error f w := bind_of_error refused
    rw [stopped]
    exact Std.Refl.refl w
  | ok place d =>
    obtain ⟨rfl, free⟩ := Disk.openFile_ok opened
    have ready : onDisk (Disk.openFile path) w =
        .ok place { w with disk := w.disk.put place (.file "") } := by simp only [onDisk, opened]
    obtain ⟨last, after, run, -, disk, -⟩ :=
      content_run { w with disk := w.disk.put place (.file "") }
    have emptied : Spares w after := by
      unfold Spares
      rw [disk]
      exact Disk.Spared.put _ free
    unfold saveContent
    rw [bind_of_ok ready]
    cases last with
    | error f =>
      rw [bind_of_error run]
      exact emptied
    | ok content =>
      rw [bind_of_ok run]
      -- The file is there by now, so that writing to it replaces no directory either.
      have written : Disk.Spared after.disk (after.disk.put place (.file content)) := by
        apply Disk.Spared.put
        simp [disk]
      exact Trans.trans (r := Disk.Spared) emptied written

/-- Evidence can be kept if it could be before; if not, no file has been touched. -/
structure EvidenceKept (before after : World) : Prop where
  kept : Keepable before.disk → Keepable after.disk
  untouched : ¬ Keepable before.disk → after.disk = before.disk

instance : Std.Refl EvidenceKept := ⟨fun _ => ⟨id, fun _ => rfl⟩⟩

instance : Trans EvidenceKept EvidenceKept EvidenceKept where
  trans {u v w} first second := by
    refine ⟨second.kept ∘ first.kept, fun blocked => ?_⟩
    have same := first.untouched blocked
    exact (second.untouched (same ▸ blocked)).trans same

instance : AdmitsCalls EvidenceKept where
  admits walked := ⟨fun keepable => walked.disk ▸ keepable, fun _ => walked.disk⟩

instance : AdmitsSuccess EvidenceKept := ⟨fun _ _ => ⟨id, fun _ => rfl⟩⟩

/-- Captured evidence leaves its directory behind. -/
theorem lookup_capture (name : String) {w : World} (keepable : Keepable w.disk) :
    (lastState (capture name w)).disk.lookup directory = some .directory := by
  obtain ⟨d, made⟩ := keepable
  have ready : onDisk (Disk.ensureDirectory directory) w = .ok () { w with disk := d } := by
    simp only [onDisk, made]
  have since : Spares { w with disk := d } (lastState (capture name w)) :=
    Stays.since_ready Stays.remark saveContent_spares name ready
  exact Disk.Spared.lookup since (Disk.lookup_of_ensured made)

instance : AdmitsEvidence EvidenceKept where
  admits name w := by
    constructor
    · intro keepable
      have found := lookup_capture name keepable
      rw [keepable_iff (Disk.atHome_of_lookup found), found]
      exact nofun
    · intro blocked
      obtain ⟨f, refused⟩ := capture_of_not_keepable name blocked
      rw [refused]
      rfl

section
variable {α : Type} {walk : Walk α} {w after : World} {content : String} {e : Fault}

/-- A file in the place of the directory is the fault of keeping evidence. -/
theorem keep_of_file (complaint name : String) (e : Fault)
    (file : w.disk.lookup directory = some (.file content)) :
    ∃ later, keep complaint name e w = .error hindrance later := by
  have refused : Disk.ensureDirectory directory w.disk = .error hindrance w.disk := by
    rw [Disk.ensureDirectory_home (Disk.atHome_of_lookup file), file]
    rfl
  let noted : World := { w with journal := w.journal ++ [⟨.error, s!"{complaint}: {e.message}"⟩] }
  have captured : capture name noted = .error hindrance noted := capture_of_refused name refused
  exact ⟨noted, captured⟩

/-- A file stays in the place of the directory. -/
theorem EvidenceKept.lookup_of_file (kept : EvidenceKept w after)
    (file : w.disk.lookup directory = some (.file content)) :
    after.disk.lookup directory = some (.file content) := by
  have blocked : ¬ Keepable w.disk := by
    rw [keepable_iff (Disk.atHome_of_lookup file)]
    exact fun other => other content file
  rw [kept.untouched blocked, file]

/-- A walk that tells its failures by value: it has an answer wherever evidence can be kept, and
where a file hinders that, it has one or fails with that. -/
structure TellsFailures (walk : Walk α) : Prop where
  answers : ∀ w, Keepable w.disk → ∃ a after, walk w = .ok a after
  hindered : ∀ w content, w.disk.lookup directory = some (.file content) →
    ∀ f after, walk w = .error f after → f = hindrance

theorem TellsFailures.recovering (complaint name : String) (substitute : Fault → α)
    (keeping : Stays EvidenceKept walk) :
    TellsFailures (recovering complaint name substitute walk) := by
  constructor
  · intro w keepable
    cases run : walk w with
    | ok a after => exact ⟨a, after, recovering_of_ok run⟩
    | error e after =>
      obtain ⟨later, _, recovered, -⟩ := recovering_of_keepable complaint name substitute run
        ((keeping.of_error run).kept keepable)
      exact ⟨substitute e, later, recovered⟩
  · intro w content file f last failed
    cases run : walk w with
    | ok a after =>
      rw [recovering_of_ok run] at failed
      cases failed
    | error e after =>
      obtain ⟨later, stopped⟩ :=
        keep_of_file complaint name e ((keeping.of_error run).lookup_of_file file)
      rw [Evidence.recovering, tryCatch_of_error run, bind_of_error stopped] at failed
      cases failed
      rfl

end

end Evidence

end Shopwalk
