import Shopwalk.Browser

/-!
Evidence of a failure: a picture and the content of the page, kept in a directory of their own.
-/

namespace Shopwalk

open Walk

/-- The paths of what was captured. -/
structure Evidence where
  screenshot : Option String := none
  html : Option String := none
  deriving DecidableEq, Repr

namespace Evidence

/-- Where evidence is kept unless said otherwise. -/
def directory : String := "./errors"

/-- Saves the content of the page. The file is opened, and so emptied, before the page is asked. -/
def saveContent (path : String) : Walk Unit := do
  let place ← onDisk (Disk.openFile path)
  let content ← Browser.content
  onDisk (Disk.writeFile place content)

/-- Captures what it can. Only a directory that cannot be made is a failure; any other is logged. -/
def captureIn (directory name : String) : Walk Evidence := do
  onDisk (Disk.ensureDirectory directory)
  let picture := s!"{directory}/{name}_error.png"
  match ← attempt (Browser.screenshot picture) with
  | .error e =>
    note .error s!"Failed to capture artifacts: {e.message}"
    return {}
  | .ok () =>
    note .debug s!"Captured error screenshot: {picture}"
    let page := s!"{directory}/{name}_error.html"
    match ← attempt (saveContent page) with
    | .error e =>
      note .error s!"Failed to capture artifacts: {e.message}"
      return { screenshot := picture }
    | .ok () =>
      note .debug s!"Captured error HTML: {page}"
      return { screenshot := picture, html := page }

/-- Captures into the usual directory. -/
def capture (name : String) : Walk Unit := do
  let _ ← captureIn directory name

/-- Logs a fault and captures evidence of it. -/
def keep (complaint name : String) (e : Fault) : Walk Unit := do
  note .error s!"{complaint}: {e.message}"
  capture name

/-- A walk that ends with a substitute when it fails, once evidence of the fault is kept. -/
def recovering {α : Type} (complaint name : String) (substitute : Fault → α) (walk : Walk α) :
    Walk α :=
  tryCatch walk fun e => do
    keep complaint name e
    return substitute e

/-- A walk that still fails when it fails, once evidence of the fault is kept. -/
def reporting {α : Type} (complaint name : String) (walk : Walk α) : Walk α :=
  tryCatch walk fun e => do
    keep complaint name e
    throw e

/-- As `captureIn`, of any values; a name that cannot be written is logged like other failures. -/
def captureOf (name directory : Value) : Walk Evidence :=
  match directory with
  | .str dir =>
    match name.text with
    | .ok s => captureIn dir s
    | .error e => do
      onDisk (Disk.ensureDirectory dir)
      note .error s!"Failed to capture artifacts: {e.message}"
      return {}
  | v => throw (.notPath v.shortKind)

end Evidence

end Shopwalk
