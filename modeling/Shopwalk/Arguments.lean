import Shopwalk.Fault
import Shopwalk.Keyed
import Shopwalk.Value

/-!
Arguments given by name.
-/

namespace Shopwalk

/-- What an operation takes: arguments that it needs, arguments with values of their own, and
arguments that are given to it by their place, which cannot be given by name as well. -/
structure Signature where
  operation : String
  required : List String := []
  optional : List (String × Value) := []
  placed : List String := []

/-- All arguments of an operation by name. -/
abbrev Arguments := List (String × Value)

def Arguments.get (a : Arguments) (name : String) : Value := (Keyed.find? a name).getD .none

namespace Signature

def knows (s : Signature) (name : String) : Bool :=
  s.required.contains name || s.optional.any (·.1 == name)

/-- Why an argument of a name cannot be taken, if it cannot. -/
def refusal? (s : Signature) (name : String) : Option Fault :=
  if s.placed.contains name then some (.multipleValues s.operation name)
  else if s.knows name then none
  else some (.unexpectedArgument s.operation name)

/-- Completes the arguments. The first one that cannot be taken is noticed first, then the ones that
are missing. -/
def complete (s : Signature) (given : Arguments) : Except Fault Arguments :=
  match given.findSome? fun a => s.refusal? a.1 with
  | some f => .error f
  | none =>
    match s.required.filter fun n => (Keyed.find? given n).isNone with
    | [] => .ok (given ++ s.optional)
    | missing => .error (.missingArguments s.operation missing)

end Signature

end Shopwalk
