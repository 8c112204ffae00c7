import Shopwalk.Arguments
import Shopwalk.Runner.Options
import Shopwalk.Value.Access
import Shopwalk.Value.Order
import Shopwalk.World

/-!
Running the tests: one command per browser, run one after the other or side by side, and one exit
status for all of them.
-/

namespace Shopwalk.Runner

/-- How a command ends: with a status, or not at all because it could not be run. -/
inductive Outcome where
  | status (v : Value)
  | failure (f : Fault)

/-- What a run does besides its commands: it prints texts and starts workers. -/
inductive Sign where
  | printed (text : String)
  | workers (count : Nat)

/-- What the commands to come will do, the commands run so far, what else was done, and what was
printed as errors. -/
structure Console where
  outcomes : List Outcome := []
  ran : List Value := []
  signs : List Sign := []
  errors : String := ""

/-- What was printed. -/
def Console.output (c : Console) : String :=
  String.join (c.signs.map fun
    | .printed text => text
    | .workers _ => "")

abbrev Running := EStateM Fault Console

def settle {α : Type} : Except Fault α → Running α
  | .ok a => pure a
  | .error f => throw f

def give (sign : Sign) : Running Unit := modify fun c => { c with signs := c.signs ++ [sign] }

def printLine (text : String) : Running Unit := give (.printed (text ++ "\n"))

/-- Reads the command line; when nothing is to be run, what is to be said is printed and the run is
over. -/
def readOptions (words : List String) : Running Options := do
  match Options.parse words with
  | .ok o => return o
  | .error s =>
    give (.printed s.output)
    modify fun c => { c with errors := c.errors ++ s.errors }
    throw (.exit (Nat.repr s.code))

/-- The value of an option; nothing is an empty list. -/
def Given.value : Given → Value
  | .word s => .str s
  | .nothing => .list []

/-- The options as named values. -/
def Options.toArguments (o : Options) : Arguments :=
  [("browser", o.browser.value), ("headless", .bool o.headless), ("parallel", .bool o.parallel),
    ("test", o.test.value)]

/-- The option of a name; it has to be there. -/
def option (options : Arguments) (name : String) : Except Fault Value :=
  match Keyed.find? options name with
  | some v => .ok v
  | none => .error (.noMember "Namespace" name)

def isAll : Value → Bool
  | .str s => s == "all"
  | _ => false

/-- The texts in a list of values, all of which have to be texts. -/
def texts : Nat → List Value → Except Fault (List String)
  | _, [] => .ok []
  | i, .str s :: vs => do return s :: (← texts (i + 1) vs)
  | i, v :: _ => .error (.notText i v.kindName)

/-- The command that runs the tests in one browser. When several run side by side, each logs under
its own name. -/
def commandFor (options : Arguments) (browser : Value) : Except Fault Value := do
  let test ← option options "test"
  let name ← browser.text
  let headless ← option options "headless"
  let parallel ← option options "parallel"
  let command : List Value :=
    [.str "pytest", test, .str "-v", .str ("--browser-type=" ++ name)] ++
      (if headless.truthy then [.str "--headless"] else [])
  if parallel.truthy && isAll (← option options "browser") then
    return .list ([.str "env", .str ("PYTEST_LOG_BROWSER=" ++ name)] ++ command)
  else return .list command

/-- The browsers to test in, and the command for each. -/
def commands (options : Arguments) : Running (List Value × List Value) := do
  let browser ← settle (option options "browser")
  let chosen := if isAll browser then browsers.map .str else [browser]
  let found ← settle (chosen.mapM (commandFor options))
  let parallel ← settle (option options "parallel")
  let headless ← settle (option options "headless")
  let mode := if parallel.truthy && chosen.length > 1 then "parallel" else "sequential"
  let names ← settle (texts 0 chosen)
  let shown := ", ".intercalate names
  let manner := if headless.truthy then "in headless mode" else ""
  printLine s!"Running tests {mode} on {shown} {manner}"
  return (chosen, found)

/-- Runs one command; its exit status, which is one when it could not be run. -/
def runCommand (command : Value) : Running Value := do
  let c ← get
  let next := c.outcomes.head?.getD (.status (.int 0))
  set { c with ran := c.ran ++ [command], outcomes := c.outcomes.tail }
  match next with
  | .status v => return v
  | .failure f =>
    if f.kind = .exit || f.kind = .interrupt then throw f
    printLine s!"Error: {f.message}"
    return .int 1

/-- Runs commands one after the other, announcing each when there are several browsers. -/
def runInOrder (names : Value) : Nat → List Value → Running (List Value)
  | _, [] => return []
  | i, command :: rest => do
    if (← settle names.length) > 1 then
      let name ← settle (names.itemAt i)
      let words ← settle name.text
      printLine s!"\nStarting tests with {words} browser..."
    let status ← runCommand command
    return status :: (← runInOrder names (i + 1) rest)

/-- Runs commands side by side; they are taken up in order. -/
def runTogether : List Value → Running (List Value)
  | [] => return []
  | command :: rest => do
    let status ← runCommand command
    return status :: (← runTogether rest)

/-- The greatest of several statuses, the first of them if there are several. -/
def greatest (best : Value) : List Value → Except Fault Value
  | [] => .ok best
  | v :: vs => do
    if ← v.isGreater best then greatest v vs else greatest best vs

/-- The worst status of several; it is one when there is none at all. -/
def worst : List Value → Except Fault Value
  | [] => .ok (.int 1)
  | v :: vs => greatest v vs

/-- Runs the commands, in parallel with one worker for each of several browsers, and returns the
worst exit status. -/
def run (names commands : Value) (parallel : Bool) : Running Value := do
  let workers ← if parallel then settle names.length else pure 0
  if workers > 1 then
    give (.workers workers)
    let results ← runTogether (← settle commands.items)
    settle (worst results)
  else
    let results ← runInOrder names 0 (← settle commands.items)
    settle (worst results)

/-- Reads the command line, runs the commands and returns the worst exit status. -/
def program (words : List String) : Running Value := do
  let o ← readOptions words
  let (names, found) ← commands o.toArguments
  run (.list names) (.list found) o.parallel

/-- As `program`, ending with the status. -/
def script (words : List String) : Running Unit := do
  let status ← program words
  throw (.exit (← settle status.text))

end Shopwalk.Runner
