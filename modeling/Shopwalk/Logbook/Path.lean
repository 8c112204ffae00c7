import Shopwalk.Disk
import Shopwalk.Moment
import Shopwalk.Template

/-!
Where a run is logged: one directory per day and browser, one file per run or one for the session.
-/

namespace Shopwalk.Logbook

/-- A path without empty parts and parts that stay in place. -/
structure LogPath where
  /-- Empty for a relative path. -/
  root : String
  parts : List String
  deriving DecidableEq, Repr

namespace LogPath

def ofText (s : String) : LogPath :=
  let slashes := (s.toList.takeWhile (· == '/')).length
  { root := if slashes = 0 then "" else if slashes = 2 then "//" else "/"
    parts := (Disk.names s).filter (· ≠ ".") }

/-- Puts a path behind another; an absolute path stands alone. -/
def append (p : LogPath) (s : String) : LogPath :=
  let q := ofText s
  if q.root.isEmpty then { p with parts := p.parts ++ q.parts } else q

def text (p : LogPath) : String :=
  if p.root.isEmpty && p.parts.isEmpty then "." else p.root ++ "/".intercalate p.parts

def parent (p : LogPath) : LogPath := { p with parts := p.parts.dropLast }

/-- Parts of a path without detours: a step up takes the part before it away. `before` are the parts
so far, last first, and a step up at the root leads nowhere. -/
def withoutDetours (rooted : Bool) : List String → List String → List String
  | before, [] => before.reverse
  | before, part :: parts =>
    if part ≠ ".." then withoutDetours rooted (part :: before) parts
    else
      match before with
      | [] => withoutDetours rooted (if rooted then [] else [".."]) parts
      | last :: earlier =>
        withoutDetours rooted (if last = ".." then ".." :: before else earlier) parts

/-- The path without detours, whatever stands on the disk. -/
def direct (p : LogPath) : LogPath :=
  { p with parts := withoutDetours (!p.root.isEmpty) [] p.parts }

/-- Makes one directory of a path; one that is there already is fine. -/
def makeOne (p : LogPath) : DiskWork Unit :=
  tryCatch (Disk.makeDirectory p.text) fun e => do
    if e.kind = .notFound then throw e
    else if Disk.isRefusal e && (← get).isDirectory p.text then return ()
    else throw e

/-- Makes the directory of a path and, when its parent is missing, that one first. -/
def make (p : LogPath) : Nat → DiskWork Unit
  | 0 => makeOne p
  | depth + 1 =>
    tryCatch (makeOne p) fun e => do
      if e.kind = .notFound && !p.parts.isEmpty then
        make p.parent depth
        makeOne p
      else throw e

end LogPath

/-- The directory of the logs of a browser on a day. -/
def directory (clock : Clock) (browser : String) : LogPath :=
  ((LogPath.ofText "logs").append clock.date).append browser

/-- The file of a run: named by the time, or one file for the whole session. -/
def fileIn (dir : LogPath) (clock : Clock) (session : Bool) : LogPath :=
  dir.append (if session then "test_session.log" else clock.time ++ ".log")

/-- Makes the directory of the log; the file of a session starts anew. -/
def prepare (clock : Clock) (browser : String) (session : Bool) : DiskWork LogPath := do
  let dir := directory clock browser
  dir.make dir.parts.length
  let file := fileIn dir clock session
  if session && (← get).pathExists file.text then
    let _ ← Disk.openFile file.text
  return file

/-- What placeholders in the name of a log stand for: the time at which it is opened is the only
one. -/
def known (opened : Moment) : List (String × Template.Thing) := [("time", .stamp opened)]

/-- The name of a log with its placeholders filled. All of it has to be readable first. -/
def filledName (opened : Moment) (name : String) : Except Fault String := do
  let cs := name.toList
  match Template.check (cs.length + 1) cs with
  | .error e => .error (.badTemplate e)
  | .ok () => return String.ofList (← Template.fill (known opened) 2 cs)

/-- Opens the file of a log for lines to be added; its place is returned. -/
def openForLines (opened : Moment) (file : LogPath) : DiskWork Place := do
  match filledName opened file.text with
  | .error e => throw e
  | .ok name =>
    let path := (LogPath.ofText name).direct
    Disk.ensureDirectory path.parent.text
    let d ← get
    match d.lookup path.text, d.locate path.text with
    | some (.file _), .ok (.entry place) => return place
    | _, _ => Disk.openFile path.text

end Shopwalk.Logbook
