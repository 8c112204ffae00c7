import Shopwalk.Fault
import Shopwalk.Keyed

/-!
A file system: what stands where, and the few operations that the walk needs. An operation that is
refused says why and names the path as it was given; what it did before that stays done.

There are no links: a path leads where its names lead. There are no owners and no rights either:
every place may be read and written to, and room never runs out. So an operation is refused only for
what stands at a place or on the way to it, or for the path itself.
-/

namespace Shopwalk

/-- A place in the file system: the names from the root down. -/
abbrev Place := List String

inductive Entry where
  | directory
  | file (content : String)
  deriving DecidableEq, Repr

structure Disk where
  entries : List (Place × Entry)
  /-- The working directory, where relative paths start. -/
  home : Place
  deriving DecidableEq, Repr

/-- Where a path leads: to an entry, or to a place in a directory where nothing stands yet. -/
inductive Target where
  | entry (place : Place)
  | vacant (place : Place)
  deriving DecidableEq, Repr

namespace Disk

/-- An empty working directory, in a file system that has little else: the null device is a file,
so that nothing can be made under it. -/
def fresh : Disk :=
  { entries := [([], .directory), (["dev"], .directory), (["dev", "null"], .file ""),
      (["tmp"], .directory), (["tmp", "walk"], .directory)]
    home := ["tmp", "walk"] }

def get? (d : Disk) (p : Place) : Option Entry := Keyed.find? d.entries p

def put (d : Disk) (p : Place) (e : Entry) : Disk :=
  { d with entries := Keyed.insert d.entries p e }

@[simp] theorem get?_put (d : Disk) (p q : Place) (e : Entry) :
    (d.put p e).get? q = if p = q then some e else d.get? q :=
  Keyed.find?_insert d.entries p q e

@[simp] theorem home_put (d : Disk) (p : Place) (e : Entry) : (d.put p e).home = d.home := rfl

/-- The names in a path, without the empty ones. -/
def names (path : String) : List String :=
  ((path.toList.splitOn '/').filter (!·.isEmpty)).map String.ofList

/-- The longest name and the longest path, in bytes. -/
def nameLimit : Nat := 255

def pathLimit : Nat := 4095

/-- Follows names from a place. Every name needs a directory to stand in. -/
def follow (d : Disk) : Place → List String → Except Fault.Refusal Target
  | here, [] => .ok (.entry here)
  | here, name :: rest =>
    match d.get? here with
    | none => .error .noEntry
    | some (.file _) => .error .notDirectory
    | some .directory =>
      if name = "." then d.follow here rest
      else if name = ".." then d.follow here.dropLast rest
      else if nameLimit < name.utf8ByteSize then .error .nameTooLong
      else
        match d.get? (here ++ [name]), rest with
        | some _, _ => d.follow (here ++ [name]) rest
        | none, [] => .ok (.vacant (here ++ [name]))
        | none, _ :: _ => .error .noEntry

def isAbsolute (path : String) : Bool := path.toList.head? == some '/'

def endsInSlash (path : String) : Bool := path.toList.getLast? == some '/'

/-- Where a path leads. -/
def locate (d : Disk) (path : String) : Except Fault.Refusal Target :=
  if path.isEmpty then .error .noEntry
  else if pathLimit < path.utf8ByteSize then .error .nameTooLong
  else d.follow (if isAbsolute path then [] else d.home) (names path)

def hasNul (path : String) : Bool := path.toList.contains '\x00'

/-- What stands at a path, if anything can be found there. -/
def lookup (d : Disk) (path : String) : Option Entry :=
  if hasNul path then none
  else
    match d.locate path with
    | .ok (.entry p) =>
      match d.get? p with
      | some (.file content) => if endsInSlash path then none else some (.file content)
      | e => e
    | _ => none

def pathExists (d : Disk) (path : String) : Bool := (d.lookup path).isSome

def isDirectory (d : Disk) (path : String) : Bool := d.lookup path = some .directory

end Disk

/-- Work on the file system. -/
abbrev DiskWork := EStateM Fault Disk

namespace Disk

/-- Makes one directory; its parent must be there. -/
def makeDirectory (path : String) : DiskWork Unit := do
  if hasNul path then throw .nulInPath
  let d ← get
  match d.locate path with
  | .error r => throw (.refused r path)
  | .ok (.entry _) => throw (.refused .alreadyExists path)
  | .ok (.vacant p) => set (d.put p .directory)

/-- Empties the file at a path, or makes an empty one; its place is returned. -/
def openFile (path : String) : DiskWork Place := do
  if hasNul path then throw .nulInPath
  let d ← get
  match d.locate path with
  | .error r => throw (.refused r path)
  | .ok (.vacant p) =>
    if endsInSlash path then throw (.refused .isDirectory path)
    set (d.put p (.file ""))
    return p
  | .ok (.entry p) =>
    if endsInSlash path || d.get? p = some .directory then throw (.refused .isDirectory path)
    set (d.put p (.file ""))
    return p

/-- Replaces the content of an open file. -/
def writeFile (p : Place) (content : String) : DiskWork Unit :=
  modify fun d => d.put p (.file content)

/-- A path as the part up to its last slash and the part behind it; slashes that end the first part
are dropped unless there is nothing else in it. -/
def splitPath (path : String) : String × String :=
  let cs := path.toList
  let tail := (cs.reverse.takeWhile (· != '/')).reverse
  let head := cs.take (cs.length - tail.length)
  let bare := (head.reverse.dropWhile (· == '/')).reverse
  (String.ofList (if bare.isEmpty then head else bare), String.ofList tail)

/-- Whether the file system refused something. -/
def isRefusal : Fault → Bool
  | .refused _ _ => true
  | _ => false

/-- Makes a directory and the ones above it that are missing. A directory that is there already is
fine. -/
def makeDirectories : Nat → String → DiskWork Unit
  | 0, path => makeDirectory path
  | depth + 1, path => do
    let (head, tail) :=
      match splitPath path with
      | (head, "") => splitPath head
      | parts => parts
    let missing := !head.isEmpty && !tail.isEmpty && !(← get).pathExists head
    if missing then
      tryCatch (makeDirectories depth head) fun e =>
        if e.kind = .alreadyExists then pure () else throw e
    if missing && tail = "." then return ()
    tryCatch (makeDirectory path) fun e => do
      if isRefusal e && (← get).isDirectory path then pure () else throw e

/-- Makes a directory with as many levels as the path can have; see `makeDirectories`. -/
def ensureDirectory (path : String) : DiskWork Unit := makeDirectories path.length path

/-- The files and directories under the working directory, by their names from there. -/
def listing (d : Disk) : List (List String × Entry) :=
  d.entries.filterMap fun (p, e) =>
    if d.home.isPrefixOf p && p.length > d.home.length then some (p.drop d.home.length, e)
    else none

end Disk

end Shopwalk
