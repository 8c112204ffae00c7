import Shopwalk.Check
import Shopwalk.Logbook.Path

/-!
The log of a run: entries are written to a file, and from the level of information on to the
console.
-/

namespace Shopwalk

/-- The file system, the file that lines go to once one is set up, and what the console shows. -/
structure Logbook where
  disk : Disk := Disk.fresh
  sink : Option Place := none
  console : String := ""

namespace Logbook

abbrev Logging := EStateM Fault Logbook

def onDisk {α : Type} (work : DiskWork α) : Logging α := fun b =>
  match work b.disk with
  | .ok a disk => .ok a { b with disk }
  | .error f disk => .error f { b with disk }

/-- The name of a level, padded to eight places. -/
def padded (l : Level) : String :=
  l.text ++ String.ofList (List.replicate (8 - l.text.length) ' ')

/-- A line of the file. -/
def fileLine (stamp part : String) (e : LogEntry) : String :=
  stamp ++ " | " ++ padded e.level ++ " | " ++ part ++ " - " ++ e.text ++ "\n"

/-- A line of the console, with an empty line behind it. -/
def consoleLine (stamp : String) (e : LogEntry) : String :=
  stamp ++ " | " ++ padded e.level ++ " | " ++ e.text ++ "\n\n"

/-- Writes an entry of a part of the program; nothing is written before a file is set up. -/
def record (stamp part : String) (b : Logbook) (e : LogEntry) : Logbook :=
  match b.sink with
  | none => b
  | some place =>
    let old :=
      match b.disk.get? place with
      | some (.file content) => content
      | _ => ""
    { b with
      disk := b.disk.put place (.file (old ++ fileLine stamp part e))
      console := if e.level = .debug then b.console else b.console ++ consoleLine stamp e }

/-- The entry that opens a log. -/
def openingEntry (browser : String) (session : Bool) : LogEntry :=
  ⟨.info,
    if session then
      s!"Started new test SESSION with {browser} browser" ++
        " - all tests will use this single browser instance"
    else s!"Started new test run with {browser} browser"⟩

/-- Only texts can name a part of a path. -/
def browserName : Value → Except Fault String
  | .str s => .ok s
  | v => .error (.notJoinable "PosixPath" v.kindName)

/-- Sets the log up: the clock names its file, which is opened at a moment. Earlier files get no
more lines once the new one is about to be opened. -/
def setUp (clock : Clock) (opened : Moment) (stamp : String) (browser : Value)
    (session : Bool) : Logging Unit := do
  match browserName browser with
  | .error e => throw e
  | .ok name =>
    let file ← onDisk (prepare clock name session)
    modify fun b => { b with sink := none }
    let place ← onDisk (openForLines opened file)
    modify fun b => { b with sink := some place }
    modify fun b => b.record stamp "utils.logger" (openingEntry name session)

/-- Runs a walk that only writes log entries, which go to this log. -/
def logged {α : Type} (stamp : String) (walk : Walk α) : Logging α := fun b =>
  match walk {} with
  | .ok a w => .ok a (w.journal.foldl (record stamp "utils.test_helpers") b)
  | .error f w => .error f (w.journal.foldl (record stamp "utils.test_helpers") b)

end Logbook

end Shopwalk
