import Shopwalk.Runner

/-!
The command line. Commands are printed one per line; the exit status of each is read from standard
input, one per line, and taken to be zero when there is none. What the run has to say follows.
-/

namespace Shopwalk.CommandLine

open Runner

/-- The exit status on a line; a line without a number counts as success. -/
def statusOf (line : String) : Outcome :=
  .status (.int ((line.trimAscii.toString.toInt?).getD 0))

/-- Reads statuses for as many commands as there are. -/
def readStatuses (input : IO.FS.Stream) : Nat → IO (List Outcome)
  | 0 => return []
  | n + 1 => do
    let line ← input.getLine
    if line.isEmpty then return []
    return statusOf line :: (← readStatuses input n)

/-- A command on one line. -/
def commandText (command : Value) : String :=
  match command.items with
  | .ok parts => " ".intercalate (parts.map Value.display)
  | .error _ => command.display

/-- The exit code of a program that ended with this text. -/
def exitCode (text : String) : UInt32 := UInt32.ofNat ((text.toInt?.getD 1) % 256).toNat

end Shopwalk.CommandLine

open Shopwalk Runner CommandLine

def main (words : List String) : IO UInt32 := do
  let out ← IO.getStdout
  let found :=
    match (readOptions words >>= fun o => commands o.toArguments) {} with
    | .ok (_, found) _ => found
    | .error _ _ => []
  for command in found do
    out.putStrLn (commandText command)
  out.flush
  let outcomes ← readStatuses (← IO.getStdin) found.length
  let (code, c) :=
    match script words { outcomes } with
    | .ok () c => (0, c)
    | .error f c => (exitCode f.message, c)
  out.putStr c.output
  (← IO.getStderr).putStr c.errors
  return code
