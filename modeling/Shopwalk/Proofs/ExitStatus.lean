import Shopwalk.Proofs.Run
import Shopwalk.Runner

/-!
The exit status of a run in several browsers. It is the greatest of the statuses of the commands, so
that a command that was killed, whose status is below zero, does not show beside one that succeeded.
-/

namespace Shopwalk.Runner

/-- The whole number that a command comes to, if it comes to one: its status, or one when it could
not be run. -/
def Outcome.number? : Outcome → Option Int
  | .status (.int n) => some n
  | .status _ => none
  | .failure f => if f.kind = .exit || f.kind = .interrupt then none else some 1

/-- A browser with its command, and what becomes of that. -/
structure Job where
  browser : String
  command : Value
  outcome : Outcome
  status : Int
  comes_to : outcome.number? = some status

/-- The browsers of some jobs, as they are handed to a run. -/
def browsersOf (jobs : List Job) : Value := .list (jobs.map fun j => .str j.browser)

def commandsOf (jobs : List Job) : Value := .list (jobs.map Job.command)

def statusesOf (jobs : List Job) : List Value := jobs.map fun j => .int j.status

/-- The console before these jobs, which are the next ones to be run on it. -/
def Console.before (c : Console) (jobs : List Job) : Console :=
  { c with outcomes := jobs.map Job.outcome ++ c.outcomes }

/-- The walk through commands runs each of these jobs once, in order, and comes to their
statuses. -/
def Runs (running : Running (List Value)) (jobs : List Job) : Prop :=
  ∀ c : Console, ∃ after : Console,
    running (c.before jobs) = .ok (statusesOf jobs) after ∧
      after.ran = c.ran ++ jobs.map Job.command ∧ after.outcomes = c.outcomes

/-- One command comes to its status, and the others are still to be run. -/
theorem runCommand_run (j : Job) (rest : List Job) (c : Console) :
    ∃ signs, runCommand j.command (c.before (j :: rest)) = .ok (.int j.status)
      (Console.before { c with ran := c.ran ++ [j.command], signs } rest) := by
  obtain ⟨browser, command, outcome, status, comes_to⟩ := j
  cases outcome with
  | status v =>
    cases v <;> cases comes_to
    exact ⟨_, rfl⟩
  | failure f =>
    refine ⟨c.signs ++ [.printed (s!"Error: {f.message}" ++ "\n")], ?_⟩
    simp only [Outcome.number?, Option.ite_none_left_eq_some] at comes_to
    obtain ⟨caught, counted⟩ := comes_to
    cases counted
    change (if f.kind = .exit || f.kind = .interrupt then _ else _ : Running Value) _ = _
    rw [if_neg caught]
    rfl

/-- After one command, whatever is printed before it, the others are run. -/
theorem Runs.cons {running : Running (List Value)} {j : Job} {rest : List Job}
    (others : Runs running rest) (announcement : Running Unit)
    (announced : ∀ c : Console, ∃ signs, announcement c = .ok () { c with signs }) :
    Runs (do
      announcement
      let status ← runCommand j.command
      return status :: (← running)) (j :: rest) := by
  intro c
  obtain ⟨first, announced⟩ := announced (c.before (j :: rest))
  obtain ⟨signs, ran⟩ := runCommand_run j rest { c with signs := first }
  obtain ⟨after, run, commands, outcomes⟩ :=
    others { c with ran := c.ran ++ [j.command], signs }
  refine ⟨after, ?_, ?_, outcomes⟩
  · rw [bind_of_ok announced]
    refine (bind_of_ok ran).trans ?_
    exact bind_of_ok run
  · rw [commands, List.append_assoc]
    rfl

theorem runTogether_runs (jobs : List Job) : Runs (runTogether (jobs.map Job.command)) jobs := by
  induction jobs with
  | nil => exact fun c => ⟨c, rfl, (List.append_nil _).symm, rfl⟩
  | cons j rest ih => exact ih.cons (pure ()) fun c => ⟨c.signs, rfl⟩

/-- What is printed before a command. -/
def announce (names : Value) (i : Nat) : Running Unit := do
  if (← settle names.length) > 1 then
    let name ← settle (names.itemAt i)
    let words ← settle name.text
    printLine s!"\nStarting tests with {words} browser..."

theorem runInOrder_cons (names : Value) (i : Nat) (command : Value) (rest : List Value) :
    runInOrder names i (command :: rest) = (do
      announce names i
      let status ← runCommand command
      return status :: (← runInOrder names (i + 1) rest)) := by
  simp only [runInOrder, announce, bind_assoc]
  refine bind_congr fun count => ?_
  split
  · simp only [bind_assoc]
  · rfl

/-- A browser that is there can be announced. -/
theorem announce_run {jobs : List Job} {i : Nat} (there : i < jobs.length) (c : Console) :
    ∃ signs, announce (browsersOf jobs) i c = .ok () { c with signs } := by
  have named : (browsersOf jobs).itemAt i = .ok (.str jobs[i].browser) := by
    simp [browsersOf, Value.itemAt, Value.pick, there]
  unfold announce
  rw [named]
  change ∃ signs, (if (jobs.map _).length > 1 then _ else _ : Running Unit) c = _
  split
  · exact ⟨_, rfl⟩
  · exact ⟨_, rfl⟩

/-- Each job is announced under the name of its browser when there are several. -/
theorem runInOrder_runs (done jobs : List Job) :
    Runs (runInOrder (browsersOf (done ++ jobs)) done.length (jobs.map Job.command)) jobs := by
  induction jobs generalizing done with
  | nil => exact fun c => ⟨c, rfl, (List.append_nil _).symm, rfl⟩
  | cons j rest ih =>
    have others := ih (done ++ [j])
    rw [List.append_assoc, List.length_append] at others
    rw [List.map_cons, runInOrder_cons]
    exact others.cons _ (announce_run (by simp))

theorem isGreater_int (m n : Int) : (Value.int m).isGreater (.int n) = .ok (decide (n < m)) := by
  simp [Value.isGreater, Value.int?]

/-- The greatest of some whole numbers is one of them, and none of them is above it. -/
theorem greatest_int (m : Int) (ns : List Int) :
    ∃ top, greatest (.int m) (ns.map .int) = .ok (.int top) ∧ top ∈ m :: ns ∧
      ∀ n ∈ m :: ns, n ≤ top := by
  induction ns generalizing m with
  | nil => exact ⟨m, rfl, List.mem_cons_self, by simp⟩
  | cons n rest ih =>
    rw [List.map_cons, greatest, isGreater_int]
    change ∃ top, (if decide (m < n) = true then _ else _ : Except Fault Value) = _ ∧ _
    by_cases less : m < n
    · rw [if_pos (by simpa using less)]
      obtain ⟨top, found, member, bound⟩ := ih n
      refine ⟨top, found, List.mem_cons_of_mem m member, ?_⟩
      rw [List.forall_mem_cons]
      exact ⟨Int.le_trans (Int.le_of_lt less) (bound n List.mem_cons_self), bound⟩
    · rw [if_neg (by simpa using less)]
      obtain ⟨top, found, member, bound⟩ := ih m
      rw [List.forall_mem_cons] at bound
      refine ⟨top, found, ?_, ?_⟩
      · rcases List.mem_cons.1 member with rfl | later
        · exact List.mem_cons_self
        · exact List.mem_cons_of_mem m (List.mem_cons_of_mem n later)
      · rw [List.forall_mem_cons, List.forall_mem_cons]
        exact ⟨bound.1, by omega, bound.2⟩

/-- The worst status of some jobs: one of them has it, and none has a greater one. -/
structure Worst (jobs : List Job) (n : Int) : Prop where
  reached : ∃ j ∈ jobs, j.status = n
  bound : ∀ j ∈ jobs, j.status ≤ n

theorem worst_statusesOf {jobs : List Job} (some_job : jobs ≠ []) :
    ∃ n, worst (statusesOf jobs) = .ok (.int n) ∧ Worst jobs n := by
  cases jobs with
  | nil => exact absurd rfl some_job
  | cons j rest =>
    obtain ⟨n, found, member, bound⟩ := greatest_int j.status (rest.map Job.status)
    rw [List.map_map] at found
    rw [← List.map_cons] at member bound
    refine ⟨n, found, List.mem_map.1 member, ?_⟩
    intro k there
    exact bound k.status (List.mem_map_of_mem there)

/-- A run of all jobs comes to their worst status. -/
theorem Runs.worst {running : Running (List Value)} {jobs : List Job} (h : Runs running jobs)
    (some_job : jobs ≠ []) (c : Console) :
    ∃ n after, (running >>= fun results => settle (worst results)) (c.before jobs) =
      .ok (.int n) after ∧ Worst jobs n ∧ after.ran = c.ran ++ jobs.map Job.command := by
  obtain ⟨after, run, ran, -⟩ := h c
  obtain ⟨n, found, worst⟩ := worst_statusesOf some_job
  refine ⟨n, after, ?_, worst, ran⟩
  rw [bind_of_ok run, found]
  rfl

/-- However jobs are run, each of them is, and the run comes to their worst status. -/
theorem run_worst {jobs : List Job} (some_job : jobs ≠ []) (parallel : Bool) (c : Console) :
    ∃ n after, run (browsersOf jobs) (commandsOf jobs) parallel (c.before jobs) =
      .ok (.int n) after ∧ Worst jobs n ∧ after.ran = c.ran ++ jobs.map Job.command := by
  have together := (runTogether_runs jobs).worst some_job
  have inOrder := (runInOrder_runs [] jobs).worst some_job c
  have counted : (browsersOf jobs).length = .ok jobs.length :=
    congrArg Except.ok (List.length_map _)
  unfold run
  cases parallel with
  | false => exact inOrder
  | true =>
    rw [counted]
    change ∃ n after, (if jobs.length > 1 then _ else _ : Running Value) _ = _ ∧ _
    split
    · exact together { c with signs := c.signs ++ [.workers jobs.length] }
    · exact inOrder

/-- A command was killed, all others succeeded or were killed, too, and not all were killed: the
greatest status is that of success. -/
structure KillHidden (jobs : List Job) : Prop where
  killed : ∃ j ∈ jobs, j.status < 0
  succeeded : ∃ j ∈ jobs, j.status = 0
  none_failed : ∀ j ∈ jobs, j.status ≤ 0

theorem Worst.eq_zero_iff {jobs : List Job} {n : Int} (worst : Worst jobs n) :
    n = 0 ↔ (∃ j ∈ jobs, j.status = 0) ∧ ∀ j ∈ jobs, j.status ≤ 0 := by
  constructor
  · rintro rfl
    exact ⟨worst.reached, worst.bound⟩
  · rintro ⟨⟨j, there, zero⟩, none_failed⟩
    obtain ⟨k, also_there, reached⟩ := worst.reached
    have low := none_failed k also_there
    have high := worst.bound j there
    omega

/-- A run of jobs ends with some status, which is zero exactly when all their statuses are, but for
the case that one was killed and hidden by another that succeeded. -/
theorem run_zero_iff_all_zero_iff {jobs : List Job} (some_job : jobs ≠ []) (parallel : Bool)
    (c : Console) :
    ∃ n after, run (browsersOf jobs) (commandsOf jobs) parallel (c.before jobs) =
      .ok (.int n) after ∧ after.ran = c.ran ++ jobs.map Job.command ∧
      ((n = 0 ↔ ∀ j ∈ jobs, j.status = 0) ↔ ¬ KillHidden jobs) := by
  obtain ⟨n, after, run, worst, ran⟩ := run_worst some_job parallel c
  refine ⟨n, after, run, ran, ?_⟩
  rw [worst.eq_zero_iff]
  constructor
  · rintro all_zero_iff ⟨⟨j, there, killed⟩, succeeded, none_failed⟩
    have zero := all_zero_iff.1 ⟨succeeded, none_failed⟩ j there
    omega
  · intro shown
    constructor
    · rintro ⟨succeeded, none_failed⟩ j there
      have low := none_failed j there
      have unkilled : ¬ j.status < 0 := fun killed =>
        shown ⟨⟨j, there, killed⟩, succeeded, none_failed⟩
      omega
    · intro all_zero
      obtain ⟨j, there⟩ := List.exists_mem_of_ne_nil jobs some_job
      exact ⟨⟨j, there, all_zero j there⟩, fun k also_there => Int.le_of_eq (all_zero k also_there)⟩

/-- A job whose command ends with a status. -/
def Job.ending (browser : String) (status : Int) : Job where
  browser
  command := .list [.str "pytest", .str ("--browser-type=" ++ browser)]
  outcome := .status (.int status)
  status
  comes_to := rfl

/-- Three jobs: a command is killed, one succeeds and one fails. -/
def mixedJobs : List Job := [.ending "chromium" (-9), .ending "firefox" 0, .ending "webkit" 2]

theorem run_zero_iff_all_zero_iff_mixed :
    mixedJobs ≠ [] ∧ ¬ KillHidden mixedJobs ∧
      ∃ n after, run (browsersOf mixedJobs) (commandsOf mixedJobs) true
          (Console.before {} mixedJobs) = .ok (.int n) after ∧
        after.ran = [] ++ mixedJobs.map Job.command ∧
        ((n = 0 ↔ ∀ j ∈ mixedJobs, j.status = 0) ↔ ¬ KillHidden mixedJobs) := by
  have there : mixedJobs ≠ [] := List.cons_ne_nil _ _
  have shown : ¬ KillHidden mixedJobs := fun hidden =>
    absurd (hidden.none_failed (.ending "webkit" 2) (by simp [mixedJobs])) (by decide)
  exact ⟨there, shown, run_zero_iff_all_zero_iff there true {}⟩

/-- Two jobs: a command succeeds and one is killed. -/
def killedJobs : List Job := [.ending "chromium" 0, .ending "firefox" (-9)]

/-- The run of these jobs ends with the status of success, side by side or one after the other,
although not all of them succeeded. -/
theorem killed_job_hidden :
    (∀ parallel, ∃ after, run (browsersOf killedJobs) (commandsOf killedJobs) parallel
        (Console.before {} killedJobs) = .ok (.int 0) after) ∧
      ¬ ∀ j ∈ killedJobs, j.status = 0 := by
  refine ⟨?_, fun all_zero => ?_⟩
  · intro parallel
    cases parallel <;> exact ⟨_, rfl⟩
  · have zero := all_zero (.ending "firefox" (-9)) (by simp [killedJobs])
    cases zero

end Shopwalk.Runner
