import Shopwalk.Disk
import Shopwalk.Rule
import Shopwalk.Site
import Shopwalk.Site.Event
import Shopwalk.Value

/-!
The world that a walk through the shop acts on, and the walk itself: a computation that may fail and
keeps what it did before it failed.
-/

namespace Shopwalk

inductive Level where
  | debug
  | info
  | success
  | warning
  | error
  deriving DecidableEq, Repr

def Level.text : Level → String
  | .debug => "DEBUG"
  | .info => "INFO"
  | .success => "SUCCESS"
  | .warning => "WARNING"
  | .error => "ERROR"

structure LogEntry where
  level : Level
  text : String
  deriving DecidableEq, Repr

structure World where
  site : Site := {}
  rules : List Rule := []
  /-- Browser calls so far, oldest first. -/
  trace : List Event := []
  /-- Log entries so far, oldest first. -/
  journal : List LogEntry := []
  disk : Disk := Disk.fresh

abbrev Walk := EStateM Fault World

namespace Walk

/-- Writes a log entry. -/
def note (level : Level) (text : String) : Walk Unit :=
  modify fun w => { w with journal := w.journal ++ [⟨level, text⟩] }

/-- A browser call is put in the trace, and then a rule may fail it. -/
def perform (e : Event) : Walk Unit := fun w =>
  let (rules, fault) := Rule.fire e.text w.rules
  let after := { w with trace := w.trace ++ [e], rules }
  match fault with
  | none => .ok () after
  | some f => .error f after

def site : Walk Site := return (← get).site

def modifySite (f : Site → Site) : Walk Unit := modify fun w => { w with site := f w.site }

/-- Work on the file system of the world. -/
def onDisk {α : Type} (work : DiskWork α) : Walk α := fun w =>
  match work w.disk with
  | .ok a disk => .ok a { w with disk }
  | .error f disk => .error f { w with disk }

/-- Runs a walk and hands on how it ended; what it did stays done. -/
def attempt {α : Type} (walk : Walk α) : Walk (Except Fault α) := fun w =>
  match walk w with
  | .ok a after => .ok (.ok a) after
  | .error f after => .ok (.error f) after

/-- Ends a walk with a result that is known already. -/
def settle {α : Type} : Except Fault α → Walk α
  | .ok a => pure a
  | .error f => throw f

end Walk

/-- The text of a value. A whole number that is too long to be written has none. -/
def Value.text (v : Value) : Except Fault String :=
  if v.printable then .ok v.display else .error .numberTooLong

def Walk.textOf (v : Value) : Walk String := Walk.settle v.text

end Shopwalk
