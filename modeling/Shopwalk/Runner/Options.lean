import Shopwalk.Text.Digit
import Shopwalk.Text.Quoted

/-!
The options of the command line.

An option may be shortened as long as no other one starts the same way. A value follows its option
as the next word or behind an equals sign. Words are first told apart, so that an ambiguous one is
reported before anything else; then they are used in order.
-/

namespace Shopwalk.Runner

/-- The value of an option: a word, or nothing when two dashes stand in its place. -/
inductive Given where
  | word (s : String)
  | nothing
  deriving DecidableEq, Repr

structure Options where
  browser : Given := .word "chromium"
  headless : Bool := false
  parallel : Bool := false
  test : Given := .word "tests/test_weather_shopper.py"
  deriving DecidableEq, Repr

def browsers : List String := ["chromium", "firefox", "webkit"]

def choices : List String := browsers ++ ["all"]

inductive Flag where
  | help
  | browser
  | headless
  | parallel
  | test
  deriving DecidableEq, Repr

namespace Flag

/-- The spellings of the options, in the order in which they are listed. -/
def spellings : List (String × Flag) :=
  [("-h", help), ("--help", help), ("--browser", browser), ("--headless", headless),
    ("--parallel", parallel), ("--test", test)]

def ofSpelling? (s : String) : Option Flag := (spellings.find? (·.1 == s)).map (·.2)

def takesValue : Flag → Bool
  | browser | test => true
  | _ => false

/-- How messages name an option. -/
def label : Flag → String
  | help => "-h/--help"
  | browser => "--browser"
  | headless => "--headless"
  | parallel => "--parallel"
  | test => "--test"

end Flag

/-- Why no options come out. -/
inductive Stop where
  | help
  | ambiguous (word : String) (candidates : List String)
  | noValue (flag : Flag)
  | unusedValue (flag : Flag) (value : String)
  | badChoice (value : String)
  | unrecognized (words : List String)
  deriving DecidableEq, Repr

def usage : String :=
  "usage: run_tests.py [-h] [--browser \x7bchromium,firefox,webkit,all\x7d]\n" ++
  "                    [--headless] [--parallel] [--test TEST]\n"

def helpText : String :=
  usage ++
  "\nRun Weather Shopper tests\n" ++
  "\noptions:\n" ++
  "  -h, --help            show this help message and exit\n" ++
  "  --browser \x7bchromium,firefox,webkit,all\x7d\n" ++
  "                        Browser to use (default: chromium)\n" ++
  "  --headless            Run in headless mode\n" ++
  "  --parallel            Run tests in parallel\n" ++
  "  --test TEST           Test file or test to run\n"

/-- What is wrong, in words; nothing is when help was asked for. -/
def Stop.reason : Stop → String
  | .help => ""
  | .ambiguous w cs => "ambiguous option: " ++ w ++ " could match " ++ ", ".intercalate cs
  | .noValue f => "argument " ++ f.label ++ ": expected one argument"
  | .unusedValue f v =>
    "argument " ++ f.label ++ ": ignored explicit argument " ++ Text.quoted v
  | .badChoice v =>
    "argument --browser: invalid choice: " ++ Text.quoted v ++ " (choose from " ++
      ", ".intercalate (choices.map Text.quoted) ++ ")"
  | .unrecognized ws => "unrecognized arguments: " ++ " ".intercalate ws

/-- What goes to standard output. -/
def Stop.output : Stop → String
  | .help => helpText
  | _ => ""

/-- What goes to standard error. -/
def Stop.errors : Stop → String
  | .help => ""
  | s => usage ++ "run_tests.py: error: " ++ s.reason ++ "\n"

def Stop.code : Stop → Nat
  | .help => 0
  | _ => 2

/-- A word of the command line. -/
inductive Word where
  /-- An option, how it was spelled, and a value attached to it. -/
  | option (flag : Flag) (spelling : String) (attached : Option String)
  /-- Looks like an option and is none. -/
  | unknown
  /-- A value, or a word that nothing takes. -/
  | argument
  /-- Two dashes, behind which nothing is an option. -/
  | dashes
  deriving DecidableEq, Repr

/-- A word cut at its first equals sign, if it has one. -/
def cut (w : List Char) : String × Option String :=
  let name := w.takeWhile (· != '=')
  match w.drop name.length with
  | [] => (String.ofList name, none)
  | _ :: value => (String.ofList name, some (String.ofList value))

/-- Whether a word reads as a negative number. -/
def isNegativeNumber (w : List Char) : Bool :=
  let body := match w.reverse with
    | '\n' :: r => r.reverse
    | _ => w
  match body with
  | '-' :: cs =>
    let whole := cs.takeWhile Text.isDigit
    match cs.drop whole.length with
    | [] => !whole.isEmpty
    | '.' :: fraction => !fraction.isEmpty && fraction.all Text.isDigit
    | _ => false
  | _ => false

/-- The options that a word may mean. A single dash takes one letter, with a value behind it. -/
def candidates (w : List Char) : List (Flag × String × Option String) :=
  if ['-', '-'].isPrefixOf w then
    let (name, attached) := cut w
    (Flag.spellings.filter fun s => name.toList.isPrefixOf s.1.toList).map
      fun s => (s.2, s.1, attached)
  else
    Flag.spellings.filterMap fun s =>
      if s.1.toList = w.take 2 then some (s.2, s.1, some (String.ofList (w.drop 2)))
      else if w.isPrefixOf s.1.toList then some (s.2, s.1, none)
      else none

/-- What kind of word this is. -/
def classify (word : String) : Except Stop Word :=
  let w := word.toList
  match w with
  | '-' :: _ :: _ =>
    match Flag.ofSpelling? word, cut w with
    | some f, _ => .ok (.option f word none)
    | none, (name, attached) =>
      match attached, Flag.ofSpelling? name with
      | some a, some f => .ok (.option f name (some a))
      | _, _ =>
        match candidates w with
        | [(f, spelling, a)] => .ok (.option f spelling a)
        | [] => .ok (if isNegativeNumber w || w.contains ' ' then .argument else .unknown)
        | cs => .error (.ambiguous word (cs.map fun c => c.2.1))
  | _ => .ok .argument

/-- All words with their kinds; two dashes end the options. -/
def classifyAll : List String → Except Stop (List (String × Word))
  | [] => .ok []
  | w :: ws =>
    if w = "--" then .ok ((w, .dashes) :: ws.map fun v => (v, .argument))
    else do
      let k ← classify w
      return (w, k) :: (← classifyAll ws)

/-- What letters behind a single dash come to: each has to ask for help, and the first that does not
is taken for a value, with all that follow it. -/
def letters : List Char → Stop
  | ['h'] => .help
  | 'h' :: c :: cs => letters (c :: cs)
  | cs => .unusedValue .help (String.ofList cs)

/-- Sets an option that has a value. -/
def setValue (o : Options) (f : Flag) (value : Given) : Except Stop Options :=
  match f, value with
  | .browser, .word w =>
    if choices.contains w then .ok { o with browser := value } else .error (.badChoice w)
  | .browser, .nothing => .ok { o with browser := value }
  | .test, _ => .ok { o with test := value }
  | _, _ => .ok o

/-- A value attached to an option. Two dashes only say that a value follows, and none does. -/
def attachedValue (value : String) : Given := if value = "--" then .nothing else .word value

/-- Sets an option that has none. -/
def setFlag (o : Options) (f : Flag) : Except Stop Options :=
  match f with
  | .help => .error .help
  | .headless => .ok { o with headless := true }
  | .parallel => .ok { o with parallel := true }
  | _ => .ok o

/-- Uses the words in order; the ones that nothing takes are returned. -/
def useWords (o : Options) : List (String × Word) → Except Stop (Options × List String)
  | [] => .ok (o, [])
  | (_, .option f spelling (some value)) :: rest => do
    if f.takesValue then useWords (← setValue o f (attachedValue value)) rest
    else if spelling.length = 2 then .error (letters value.toList)
    else .error (.unusedValue f value)
  | (_, .option f _ none) :: rest =>
    if f.takesValue then
      match rest with
      | (value, .argument) :: rest => do useWords (← setValue o f (.word value)) rest
      | _ => .error (.noValue f)
    else do useWords (← setFlag o f) rest
  | (w, _) :: rest => do
    let (o, others) ← useWords o rest
    return (o, w :: others)

/-- The options on a command line. -/
def Options.parse (words : List String) : Except Stop Options := do
  let (o, others) ← useWords {} (← classifyAll words)
  if others.isEmpty then return o else .error (.unrecognized others)

end Shopwalk.Runner
