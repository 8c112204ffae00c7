import Shopwalk.Proofs.EvidencePlace

/-!
What making directories does to a file system: it makes directories, and only at vacant places on
the way of the path that was asked for. So does a try that fails. Nothing that stood anywhere is
gone, and a path that led to an entry leads there still.
-/

namespace Shopwalk.Disk

variable {d mid after : Disk} {path : String} {here p : Place} {names : List String}

/-- How a name is followed: it needs a directory to stand in and leads back to it, to the one above,
or to what it names there, be that vacant if the name is the last one. -/
inductive Turn (d : Disk) (here : Place) (rest : List String) (t : Target) : String → Prop
  | stay (follow : d.follow here rest = .ok t) : Turn d here rest t "."
  | up (follow : d.follow here.dropLast rest = .ok t) : Turn d here rest t ".."
  | down {name : String} (plain : name ≠ "." ∧ name ≠ "..") (short : name.utf8ByteSize ≤ nameLimit)
      (there : (d.get? (here ++ [name])).isSome = true)
      (follow : d.follow (here ++ [name]) rest = .ok t) : Turn d here rest t name
  | last {name : String} (plain : name ≠ "." ∧ name ≠ "..") (short : name.utf8ByteSize ≤ nameLimit)
      (vacant : d.get? (here ++ [name]) = none) (final : rest = [])
      (target : t = .vacant (here ++ [name])) : Turn d here rest t name

theorem follow_cons_ok_iff {name : String} {rest : List String} {t : Target} :
    d.follow here (name :: rest) = .ok t ↔
      d.get? here = some .directory ∧ Turn d here rest t name := by
  constructor
  · intro leads
    unfold follow at leads
    split at leads
    · cases leads
    · cases leads
    · next there =>
      refine ⟨there, ?_⟩
      split at leads
      · next same => exact same ▸ .stay leads
      · next other =>
        split at leads
        · next up => exact up ▸ .up leads
        · next down =>
          split at leads
          · cases leads
          · next short =>
            split at leads
            · next found =>
              exact .down ⟨other, down⟩ (Nat.not_lt.1 short) (by rw [found]; rfl) leads
            · next vacant =>
              exact .last ⟨other, down⟩ (Nat.not_lt.1 short) vacant rfl (Except.ok.inj leads).symm
            · cases leads
  · rintro ⟨there, turn⟩
    unfold follow
    cases turn with
    | stay leads => simpa [there] using leads
    | up leads => simpa [there] using leads
    | down plain short found leads =>
      obtain ⟨entry, found⟩ := Option.isSome_iff_exists.1 found
      simpa [there, plain, Nat.not_lt.2 short, found] using leads
    | last plain short vacant final target =>
      subst final target
      simp [there, plain, Nat.not_lt.2 short, vacant]

/-- Nothing is gone: what stood anywhere stands there yet, and a directory as a directory. -/
structure Grows (d after : Disk) : Prop extends Spared d after where
  entries : ∀ p, (d.get? p).isSome = true → (after.get? p).isSome = true

theorem Grows.put (e : Entry) (other : d.get? p ≠ some .directory) : Grows d (d.put p e) := by
  refine ⟨Spared.put e other, fun q there => ?_⟩
  rw [get?_put]
  split
  · rfl
  · exact there

/-- Names that lead to an entry lead there still. -/
theorem Grows.follow (grows : Grows d after) (leads : d.follow here names = .ok (.entry p)) :
    after.follow here names = .ok (.entry p) := by
  induction names generalizing here with
  | nil => exact leads
  | cons name rest ih =>
    obtain ⟨there, turn⟩ := follow_cons_ok_iff.1 leads
    refine follow_cons_ok_iff.2 ⟨grows.directories here there, ?_⟩
    cases turn with
    | stay onward => exact .stay (ih onward)
    | up onward => exact .up (ih onward)
    | down plain short found onward => exact .down plain short (grows.entries _ found) (ih onward)
    | last _ _ _ _ target => cases target

/-- Names that lead to a vacant place lead to what is put there. -/
theorem follow_put (vacant : d.follow here names = .ok (.vacant p)) (e : Entry) :
    (d.put p e).follow here names = .ok (.entry p) := by
  have free := get?_of_follow vacant
  have grows : Grows d (d.put p e) := Grows.put e (by rw [free]; exact nofun)
  induction names generalizing here with
  | nil => cases vacant
  | cons name rest ih =>
    obtain ⟨there, turn⟩ := follow_cons_ok_iff.1 vacant
    refine follow_cons_ok_iff.2 ⟨grows.directories here there, ?_⟩
    cases turn with
    | stay onward => exact .stay (ih onward)
    | up onward => exact .up (ih onward)
    | down plain short found onward => exact .down plain short (grows.entries _ found) (ih onward)
    | last plain short _ final target =>
      cases target
      subst final
      exact .down plain short (by simp) rfl

/-- Where a path starts. -/
def start (d : Disk) (path : String) : Place := if isAbsolute path then [] else d.home

theorem locate_ok_iff {t : Target} :
    d.locate path = .ok t ↔
      path.isEmpty = false ∧ path.utf8ByteSize ≤ pathLimit ∧
        d.follow (d.start path) (Disk.names path) = .ok t := by
  unfold locate start
  split
  · next empty => simp [empty]
  · next worded =>
    split
    · next long => simp [Nat.not_le.2 long]
    · next short => simp [worded, Nat.not_lt.1 short]

/-- A place on the way of a path: the first of its names lead there. -/
def OnWay (d : Disk) (path : String) (p : Place) : Prop :=
  ∃ part, part <+: Disk.names path ∧ d.follow (d.start path) part = .ok (.entry p)

theorem Grows.onWay (grows : Grows d after) (way : d.OnWay path p) : after.OnWay path p := by
  obtain ⟨part, first, leads⟩ := way
  refine ⟨part, first, ?_⟩
  rw [start, grows.home]
  exact grows.follow leads

/-- The file system has grown by directories on the way of a path, and by nothing else. -/
structure Made (path : String) (d after : Disk) : Prop where
  home : after.home = d.home
  places : ∀ p, after.get? p = d.get? p ∨
    d.get? p = none ∧ after.get? p = some .directory ∧ after.OnWay path p

theorem Made.grows (made : Made path d after) : Grows d after := by
  refine ⟨⟨made.home, fun p there => ?_⟩, fun p there => ?_⟩
  · rcases made.places p with same | ⟨free, -⟩
    · rw [same, there]
    · rw [free] at there
      cases there
  · rcases made.places p with same | ⟨-, new, -⟩
    · rw [same, there]
    · rw [new]
      rfl

instance : Std.Refl (Made path) := ⟨fun _ => ⟨rfl, fun _ => .inl rfl⟩⟩

instance : Trans (Made path) (Made path) (Made path) where
  trans {d mid after} first second := by
    refine ⟨second.home.trans first.home, fun p => ?_⟩
    rcases first.places p with same | ⟨free, new, way⟩
    · rw [← same]
      exact second.places p
    · exact .inr ⟨free, second.grows.directories p new, second.grows.onWay way⟩

/-- One directory is made at the end of its path. -/
theorem makeDirectory_made (path : String) : Stays (Made path) (makeDirectory path) := by
  intro d
  rw [makeDirectory_run]
  split
  · exact Std.Refl.refl d
  · split
    · exact Std.Refl.refl d
    · exact Std.Refl.refl d
    · next p vacant =>
      obtain ⟨-, -, leads⟩ := locate_ok_iff.1 vacant
      refine ⟨rfl, fun q => ?_⟩
      simp only [lastState, get?_put]
      split
      · next same =>
        subst same
        exact .inr ⟨get?_of_vacant vacant, rfl, _, List.prefix_rfl, follow_put leads _⟩
      · exact .inl rfl

/-- The names in the text of a path. -/
def namesIn (cs : List Char) : List String :=
  ((cs.splitOn '/').filter (!·.isEmpty)).map String.ofList

theorem namesIn_slash (front behind : List Char) :
    namesIn (front ++ '/' :: behind) = namesIn front ++ namesIn behind := by
  simp only [namesIn, List.splitOn_append_cons_self, List.filter_append, List.map_append]

theorem namesIn_slashes {cs : List Char} (slashes : ∀ c ∈ cs, c = '/') : namesIn cs = [] := by
  induction cs with
  | nil => rfl
  | cons c cs ih =>
    rw [List.forall_mem_cons] at slashes
    obtain ⟨rfl, rest⟩ := slashes
    rw [← List.nil_append ('/' :: cs), namesIn_slash, ih rest]
    rfl

/-- A path leads by way of another one: it starts in the same place, and with the same names. -/
structure Above (head path : String) : Prop where
  names : Disk.names head <+: Disk.names path
  start : isAbsolute head = isAbsolute path

/-- How a path is split: at the slashes before what stands behind its last one. -/
theorem splitPath_parts (path : String) :
    ∃ bare slashes tail, path.toList = bare ++ slashes ++ tail ∧ (∀ c ∈ slashes, c = '/') ∧
      (slashes = [] → bare = []) ∧
      (splitPath path).1 = String.ofList (if bare.isEmpty then slashes else bare) := by
  let tail := (path.toList.reverse.takeWhile (· != '/')).reverse
  let rest := path.toList.reverse.dropWhile (· != '/')
  have whole : path.toList = rest.reverse ++ tail := by
    rw [← List.reverse_append, List.takeWhile_append_dropWhile, List.reverse_reverse]
  have cut : path.toList.take (path.toList.length - tail.length) = rest.reverse := by
    rw [whole, List.length_append, Nat.add_sub_cancel, List.take_left]
  have halves : rest.reverse =
      (rest.dropWhile (· == '/')).reverse ++ (rest.takeWhile (· == '/')).reverse := by
    rw [← List.reverse_append, List.takeWhile_append_dropWhile]
  refine ⟨(rest.dropWhile (· == '/')).reverse, (rest.takeWhile (· == '/')).reverse, tail, ?_, ?_,
    ?_, ?_⟩
  · rw [← halves]
    exact whole
  · intro c there
    simpa using List.all_eq_true.1 List.all_takeWhile c (List.mem_reverse.1 there)
  · intro none_there
    have stops : ∀ c more, rest = c :: more → c = '/' := by
      intro c more split
      have first := List.head?_dropWhile_not (· != '/') path.toList.reverse
      rw [show List.dropWhile (· != '/') _ = c :: more from split] at first
      simpa using first
    cases split : rest with
    | nil => rfl
    | cons c more =>
      rw [split, stops c more split] at none_there
      simp at none_there
  · let front := path.toList.take (path.toList.length - tail.length)
    change String.ofList (if (front.reverse.dropWhile (· == '/')).reverse.isEmpty then front
      else (front.reverse.dropWhile (· == '/')).reverse) = _
    rw [show front = rest.reverse from cut, List.reverse_reverse]
    split
    · next empty =>
      rw [List.isEmpty_iff] at empty
      rw [halves, empty, List.nil_append]
    · rfl

theorem above_splitPath {path : String} (some_head : (splitPath path).1.isEmpty = false) :
    Above (splitPath path).1 path := by
  obtain ⟨bare, slashes, tail, whole, slashed, joint, head⟩ := splitPath_parts path
  have named : Disk.names path = namesIn (bare ++ slashes ++ tail) := by rw [← whole]; rfl
  rw [head] at some_head ⊢
  cases slashes with
  | nil => simp [joint rfl] at some_head
  | cons c slashes =>
    obtain rfl := slashed c List.mem_cons_self
    have split : namesIn bare <+: Disk.names path := by
      rw [named, List.append_assoc, List.cons_append, namesIn_slash]
      exact List.prefix_append _ _
    cases bare with
    | nil =>
      refine ⟨?_, ?_⟩
      · change namesIn (String.toList (String.ofList ('/' :: slashes))) <+: _
        rw [String.toList_ofList, namesIn_slashes slashed]
        exact List.nil_prefix
      · simp [isAbsolute, whole]
    | cons b bare =>
      refine ⟨?_, ?_⟩
      · change namesIn (String.toList (String.ofList (b :: bare))) <+: _
        rw [String.toList_ofList]
        exact split
      · simp [isAbsolute, whole]

theorem Above.trans {first second third : String} (lower : Above second third)
    (upper : Above first second) : Above first third :=
  ⟨upper.names.trans lower.names, upper.start.trans lower.start⟩

/-- What is made above a path is made on its way. -/
theorem Made.of_above {head : String} (above : Above head path) (made : Made head d after) :
    Made path d after := by
  refine ⟨made.home, fun p => (made.places p).imp_right fun ⟨free, new, part, first, leads⟩ => ?_⟩
  refine ⟨free, new, part, first.trans above.names, ?_⟩
  rw [start, ← above.start]
  exact leads

/-- The path above another one, as directories are made: a slash at the end is passed over. -/
def parent (path : String) : String × String :=
  match splitPath path with
  | (head, "") => splitPath head
  | parts => parts

theorem above_parent {path : String} (some_head : (parent path).1.isEmpty = false) :
    Above (parent path).1 path := by
  unfold parent at some_head ⊢
  split at some_head
  · next head split =>
    have first : (splitPath path).1.isEmpty = false := by
      rw [split, ← Bool.not_eq_true, String.isEmpty_iff]
      rintro rfl
      exact absurd some_head (by decide)
    have upper := above_splitPath some_head
    have lower := above_splitPath first
    rw [split] at lower
    exact lower.trans upper
  · exact above_splitPath some_head

theorem makeDirectories_succ (n : Nat) (path : String) :
    makeDirectories (n + 1) path = (do
      let d ← get
      let missing :=
        !(parent path).1.isEmpty && !(parent path).2.isEmpty && !d.pathExists (parent path).1
      if missing then
        tryCatch (makeDirectories n (parent path).1) fun e =>
          if e.kind = .alreadyExists then pure () else throw e
      if missing && (parent path).2 = "." then return ()
      makeOrKeep path) := rfl

theorem makeOrKeep_made (path : String) : Stays (Made path) (makeOrKeep path) := by
  refine (makeDirectory_made path).tryCatch fun e => Stays.get.bind fun d => ?_
  split
  · exact Stays.pure _
  · exact Stays.throw _

theorem makeDirectories_made (n : Nat) (path : String) :
    Stays (Made path) (makeDirectories n path) := by
  induction n generalizing path with
  | zero => exact makeDirectory_made path
  | succ n ih =>
    have last (missing : Bool) : Stays (Made path)
        (if missing && (parent path).2 = "." then pure () else makeOrKeep path) := by
      split
      · exact Stays.pure _
      · exact makeOrKeep_made path
    rw [makeDirectories_succ]
    refine Stays.get.bind fun d => ?_
    dsimp only
    split
    · next missing =>
      have some_head : (parent path).1.isEmpty = false := by
        simp only [Bool.and_eq_true, Bool.not_eq_true'] at missing
        exact missing.1.1
      have above : Stays (Made path) (makeDirectories n (parent path).1) := fun d =>
        (ih (parent path).1 d).of_above (above_parent some_head)
      refine (above.tryCatch fun e => ?_).bind fun _ => last _
      split
      · exact Stays.pure _
      · exact Stays.throw _
    · exact last _

end Shopwalk.Disk
