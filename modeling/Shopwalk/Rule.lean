import Shopwalk.Fault

/-!
Rules by which a script makes browser calls fail.
-/

namespace Shopwalk

/-- The kinds of faults that a script can bring about. The end of the program is not among them, so
that a walk that recovers from faults may recover from all of these. -/
inductive Rule.Kind where
  | browser
  | timeout
  | assertion
  | value
  | os
  | runtime
  deriving DecidableEq, Repr

def Rule.Kind.toFault : Rule.Kind → Fault.Kind
  | browser => .browser
  | timeout => .timeout
  | assertion => .assertion
  | value => .value
  | os => .os
  | runtime => .runtime

/-- Calls whose text starts with `cue` fail from the one after the first `skip` on. -/
structure Rule where
  cue : String
  message : String
  kind : Rule.Kind := .browser
  skip : Nat := 0
  /-- How many calls the rule has counted. -/
  seen : Nat := 0
  deriving DecidableEq, Repr

namespace Rule

def applies (r : Rule) (text : String) : Bool := r.cue.toList.isPrefixOf text.toList

def counted (r : Rule) : Rule := { r with seen := r.seen + 1 }

/-- Tries the rules in order on a call; the first that fails it ends the trial, so that the later
ones do not count the call. -/
def fire (text : String) : List Rule → List Rule × Option Fault
  | [] => ([], none)
  | r :: rs =>
    if r.applies text then
      if r.skip < r.seen + 1 then (r.counted :: rs, some (.scripted r.kind.toFault r.message))
      else
        let (later, fault) := fire text rs
        (r.counted :: later, fault)
    else
      let (later, fault) := fire text rs
      (r :: later, fault)

@[simp] theorem fire_nil (text : String) : fire text [] = ([], none) := rfl

end Rule

end Shopwalk
