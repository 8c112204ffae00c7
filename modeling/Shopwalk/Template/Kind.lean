/-!
The kinds of things that can be found behind the time in a template, and what is told of them.
-/

namespace Shopwalk.Template

inductive Kind where
  /-- The time of a log, as templates know it. -/
  | stamp
  /-- The moment inside it, which is written in letters or codes. -/
  | logMoment
  | moment
  | day
  | zone
  | anyZone
  | span
  | number
  | text
  | nothing
  | tuple
  | table
  | kind
  | object
  deriving DecidableEq, Repr

namespace Kind

def name : Kind → String
  | .stamp => "FileDateFormatter"
  | .logMoment | .moment => "datetime"
  | .day => "date"
  | .zone => "timezone"
  | .anyZone => "tzinfo"
  | .span => "timedelta"
  | .number => "int"
  | .text => "str"
  | .nothing => "NoneType"
  | .tuple => "tuple"
  | .table => "dict"
  | .kind => "type"
  | .object => "object"

/-- Where a kind comes from. -/
def home : Kind → String
  | .stamp => "loguru._file_sink"
  | .logMoment => "loguru._datetime"
  | .moment | .day | .zone | .anyZone | .span => "datetime"
  | _ => "builtins"

/-- A kind as messages name it: those of the calendar with where they come from. -/
def label (k : Kind) : String :=
  if k.home = "datetime" then k.home ++ "." ++ k.name else k.name

/-- A kind as it is shown. -/
def shown (k : Kind) : String :=
  "<class '" ++ (if k.home = "builtins" then k.name else k.home ++ "." ++ k.name) ++ "'>"

/-- The more general kind just above a kind. -/
def parent? : Kind → Option Kind
  | .object => none
  | .logMoment => some .moment
  | .moment => some .day
  | .zone => some .anyZone
  | _ => some .object

/-- A kind and those above it, the most general last. -/
def ancestry : Kind → List Kind
  | .object => [.object]
  | .logMoment => [.logMoment, .moment, .day, .object]
  | .moment => [.moment, .day, .object]
  | .zone => [.zone, .anyZone, .object]
  | k => [k, .object]

/-- What is written about a kind. Only the kinds of the calendar tell something here. -/
def note? : Kind → Option String
  | .moment => some
      ("datetime(year, month, day[, hour[, minute[, second[, microsecond[,tzinfo]]]]])\n\n" ++
        "The year, month and day arguments are required. tzinfo may be None, or an\n" ++
        "instance of a tzinfo subclass. The remaining arguments may be ints.\n")
  | .day => some "date(year, month, day) --> date object"
  | .zone => some "Fixed offset from UTC implementation of tzinfo."
  | .anyZone => some "Abstract base class for time zone info objects."
  | .span => some
      ("Difference between two datetime values.\n\n" ++
        "timedelta(days=0, seconds=0, microseconds=0, milliseconds=0, minutes=0, hours=0, " ++
        "weeks=0)\n\nAll arguments are optional and default to 0.\n" ++
        "Arguments may be integers or floats, and may be positive or negative.")
  | _ => none

end Kind

end Shopwalk.Template
