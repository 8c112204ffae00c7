import Shopwalk.Arguments
import Shopwalk.Rule
import Shopwalk.Shop
import Shopwalk.Text.Lowercase
import Shopwalk.World

/-!
Starting a browser for a run and closing it at the end.
-/

namespace Shopwalk

inductive LaunchEvent where
  | start
  | launch (browser : String) (headless : Bool)
  | newPage (width height : Nat)
  | setTimeout (milliseconds : Nat)
  | closePage
  | closeBrowser
  | stop
  deriving DecidableEq, Repr

def LaunchEvent.text : LaunchEvent → String
  | start => "start"
  | launch b h => "launch " ++ b ++ " headless=" ++ (if h then "true" else "false")
  | newPage w h => "new_page " ++ Nat.repr w ++ "x" ++ Nat.repr h
  | setTimeout n => "set_default_timeout " ++ Nat.repr n
  | closePage => "page.close"
  | closeBrowser => "browser.close"
  | stop => "stop"

/-- What became of setting a page up. -/
inductive SetUp where
  | ready
  | failed
  deriving DecidableEq, Repr

structure Launcher where
  rules : List Rule := []
  trace : List LaunchEvent := []
  /-- The set-ups that are still to be torn down, the last one first. -/
  runs : List SetUp := []

abbrev Launching := EStateM Fault Launcher

namespace Launcher

/-- A call is put in the trace, and then a rule may fail it. -/
def perform (e : LaunchEvent) : Launching Unit := fun s =>
  let (rules, fault) := Rule.fire e.text s.rules
  let after := { s with trace := s.trace ++ [e], rules }
  match fault with
  | none => .ok () after
  | some f => .error f after

def browsers : List String := ["chromium", "firefox", "webkit"]

/-- The browser of a name; case is ignored. -/
def browserNamed : Value → Except Fault String
  | .str s =>
    if browsers.contains (Text.lower s) then .ok (Text.lower s) else .error (.unknownBrowser s)
  | v => .error (.noMember v.kindName "lower")

/-- Starts the driver of the browsers and then the browser of a name; its window is shown. -/
def launch (browser : Value) : Launching String := do
  perform .start
  match browserNamed browser with
  | .error e => throw e
  | .ok name =>
    perform (.launch name false)
    return name

def openPage : Launching Unit := do
  let _ ← launch (.str "chromium")
  perform (.newPage 1280 720)
  perform (.setTimeout Shop.patience)

def began (r : SetUp) : Launching Unit := modify fun s => { s with runs := r :: s.runs }

/-- Opens a page for a run. -/
def setUp : Launching Unit :=
  tryCatch (do openPage; began .ready) fun e => do
    began .failed
    throw e

/-- Closes what the last `setUp` opened; when that failed, there is nothing to close. -/
def tearDown : Launching Unit := do
  match (← get).runs with
  | [] => throw .nothingStarted
  | last :: runs =>
    modify fun s => { s with runs }
    if last = .ready then
      perform .closePage
      perform .closeBrowser
      perform .stop

/-- The options that a run accepts, each with its names and its properties. -/
def runOptions : List (List String × List (String × Value)) := [
  (["--browser-type"], [
    ("action", .str "store"), ("default", .str "chromium"),
    ("help", .str "Browser to run tests on: chromium, firefox, webkit")])]

/-- The browser asked for among the options of a run. -/
def requested (options : Arguments) : Except Fault Value :=
  match Keyed.find? options "--browser-type" with
  | some v => .ok v
  | none => .error (.missingKey "--browser-type")

end Launcher

end Shopwalk
