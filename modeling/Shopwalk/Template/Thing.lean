import Shopwalk.Fault
import Shopwalk.Moment.Codes
import Shopwalk.Moment.Letters
import Shopwalk.Template.Kind
import Shopwalk.Template.Layout
import Shopwalk.Text

/-!
The things that placeholders can stand for: the time, and what can be reached from it step by step.
-/

namespace Shopwalk.Template

/-- Zones of time: universal time with and without a name of its own, and the zones farthest to the
west and to the east. -/
inductive Zone where
  | named
  | universal
  | least
  | greatest
  deriving DecidableEq, Repr

/-- A length of time; the days may be negative. -/
structure Span where
  days : Int := 0
  seconds : Nat := 0
  micros : Nat := 0
  deriving DecidableEq, Repr

inductive Thing where
  /-- The time of a log. -/
  | stamp (m : Moment)
  /-- The moment inside it if it is one of universal time, else a moment of the calendar. -/
  | moment (m : Moment)
  | zone (z : Zone)
  | span (s : Span)
  | number (n : Int)
  | text (s : String)
  | nothing
  | kinds (ks : List Kind)
  /-- The parts of a thing: a moment, if it has one. -/
  | parts (m : Option Moment)
  | kind (k : Kind)
  deriving DecidableEq, Repr

namespace Span

def least : Span := { days := -999999999 }

def greatest : Span := { days := 999999999, seconds := 86399, micros := 999999 }

/-- The smallest length between two moments. -/
def smallest : Span := { micros := 1 }

/-- Fractions of a second behind a point; none when there is nothing. -/
def fraction (micros : Nat) : String :=
  if micros = 0 then "" else "." ++ Clock.digits 6 micros

def text (s : Span) : String :=
  let days :=
    if s.days = 0 then ""
    else toString s.days ++ (if s.days.natAbs = 1 then " day, " else " days, ")
  days ++ Nat.repr (s.seconds / 3600) ++ ":" ++ Clock.digits 2 (s.seconds / 60 % 60) ++ ":" ++
    Clock.digits 2 (s.seconds % 60) ++ fraction s.micros

/-- The span by its parts that are not zero. -/
def spelled (s : Span) : String :=
  let parts :=
    (if s.days = 0 then [] else ["days=" ++ toString s.days]) ++
    (if s.seconds = 0 then [] else ["seconds=" ++ Nat.repr s.seconds]) ++
    (if s.micros = 0 then [] else ["microseconds=" ++ Nat.repr s.micros])
  Kind.span.label ++ "(" ++ (if parts.isEmpty then "0" else ", ".intercalate parts) ++ ")"

end Span

namespace Zone

def text : Zone → String
  | .named | .universal => "UTC"
  | .least => "UTC-23:59"
  | .greatest => "UTC+23:59"

def spelled : Zone → String
  | .universal => Kind.zone.label ++ ".utc"
  | .named => Kind.zone.label ++ "(" ++ ({} : Span).spelled ++ ", 'UTC')"
  | .least => Kind.zone.label ++ "(" ++ ({ days := -1, seconds := 60 } : Span).spelled ++ ")"
  | .greatest => Kind.zone.label ++ "(" ++ ({ seconds := 86340 } : Span).spelled ++ ")"

end Zone

namespace Thing

def momentKind (m : Moment) : Kind := if m.isUniversal then .logMoment else .moment

def kindOf : Thing → Kind
  | stamp _ => .stamp
  | moment m => momentKind m
  | zone _ => .zone
  | span _ => .span
  | number _ => .number
  | text _ => .text
  | nothing => .nothing
  | kinds _ => .tuple
  | parts _ => .table
  | kind _ => .kind

/-- Where the time of a log stands, by which it is shown. -/
def place : String := "0x7f5e3c8a1d50"

/-- A moment with a blank between day and time. -/
def momentText (m : Moment) : String :=
  let c := m.clock
  Clock.digits 4 c.year ++ "-" ++ Clock.digits 2 c.month ++ "-" ++ Clock.digits 2 c.day ++ " " ++
    Clock.digits 2 c.hour ++ ":" ++ Clock.digits 2 c.minute ++ ":" ++ Clock.digits 2 c.second ++
    Span.fraction m.micro ++ if m.isUniversal then "+00:00" else ""

/-- A moment by its parts; seconds and fractions are left out when nothing is there to tell. -/
def momentSpelled (m : Moment) : String :=
  let c := m.clock
  let fine :=
    if m.micro ≠ 0 then [c.second, m.micro] else if c.second ≠ 0 then [c.second] else []
  let numbers := [c.year, c.month, c.day, c.hour, c.minute] ++ fine
  (momentKind m).label ++ "(" ++
    ", ".intercalate (numbers.map Nat.repr ++
      if m.isUniversal then ["tzinfo=" ++ Zone.named.spelled] else []) ++ ")"

/-- A thing as it is spelled out. -/
def spelled : Thing → String
  | stamp _ =>
    "<" ++ Kind.stamp.home ++ "." ++ Kind.stamp.name ++ " object at " ++ place ++ ">"
  | moment m => momentSpelled m
  | zone z => z.spelled
  | span s => s.spelled
  | number n => toString n
  | text s => Text.quoted s
  | nothing => "None"
  | kinds [k] => "(" ++ k.shown ++ ",)"
  | kinds ks => "(" ++ ", ".intercalate (ks.map Kind.shown) ++ ")"
  | parts none => "\x7b\x7d"
  | parts (some m) => "\x7b'datetime': " ++ momentSpelled m ++ "\x7d"
  | kind k => k.shown

/-- A thing as text. -/
def plainText : Thing → String
  | moment m => momentText m
  | zone z => z.text
  | span s => s.text
  | text s => s
  | t => t.spelled

/-- What is written about a kind, as a thing. -/
def note (k : Kind) : Thing :=
  match k.note? with
  | some s => .text s
  | none => .nothing

/-- The least and the greatest thing of a kind, and others that its things share. -/
def shared? (k : Kind) (name : String) : Option Thing :=
  match k, name with
  | .logMoment, "min" | .moment, "min" => some (.moment Moment.first)
  | .logMoment, "max" | .moment, "max" => some (.moment Moment.last)
  | .logMoment, "resolution" | .moment, "resolution" => some (.span Span.smallest)
  | .zone, "min" => some (.zone .least)
  | .zone, "max" => some (.zone .greatest)
  | .zone, "utc" => some (.zone .universal)
  | .span, "min" => some (.span Span.least)
  | .span, "max" => some (.span Span.greatest)
  | .span, "resolution" => some (.span Span.smallest)
  | .day, "resolution" => some (.span { days := 1 })
  | .logMoment, "__module__" => some (.text Kind.logMoment.home)
  | .stamp, "__module__" => some (.text Kind.stamp.home)
  | _, "__doc__" => some (note k)
  | _, _ => none

/-- A part of a moment. -/
def momentPart? (m : Moment) (name : String) : Option Thing :=
  match name with
  | "year" => some (.number m.clock.year)
  | "month" => some (.number m.clock.month)
  | "day" => some (.number m.clock.day)
  | "hour" => some (.number m.clock.hour)
  | "minute" => some (.number m.clock.minute)
  | "second" => some (.number m.clock.second)
  | "microsecond" => some (.number m.micro)
  | "fold" => some (.number 0)
  | "tzinfo" => some (if m.isUniversal then .zone .named else .nothing)
  | "__dict__" => if m.isUniversal then some (.parts none) else none
  | "__weakref__" => if m.isUniversal then some .nothing else none
  | _ => none

/-- What a kind tells of itself. -/
def kindPart? (k : Kind) (name : String) : Option Thing :=
  match name with
  | "__name__" | "__qualname__" => some (.text k.name)
  | "__module__" => some (.text k.home)
  | "__mro__" => some (.kinds k.ancestry)
  | "__bases__" => some (.kinds k.parent?.toList)
  | "__base__" => some ((k.parent?.map Thing.kind).getD .nothing)
  | _ => none

/-- What a thing itself has under a name. -/
def part? (t : Thing) (name : String) : Option Thing :=
  match t with
  | stamp m =>
    match name with
    | "datetime" => some (.moment m)
    | "__dict__" => some (.parts (some m))
    | "__weakref__" => some .nothing
    | _ => none
  | moment m => momentPart? m name
  | span s =>
    match name with
    | "days" => some (.number s.days)
    | "seconds" => some (.number s.seconds)
    | "microseconds" => some (.number s.micros)
    | _ => none
  | number n =>
    match name with
    | "real" | "numerator" => some (.number n)
    | "imag" => some (.number 0)
    | "denominator" => some (.number 1)
    | _ => none
  | kind k => (kindPart? k name).or (shared? k name)
  | _ => none

/-- A step to what a thing has under a name. -/
def member (t : Thing) (name : String) : Except Fault Thing :=
  if name = "__class__" then .ok (.kind t.kindOf)
  else
    match (t.part? name).or (shared? t.kindOf name), t with
    | some found, _ => .ok found
    | none, kind k => .error (.noConstant k.label name)
    | none, t => .error (.noMember t.kindOf.label name)

/-- A step to what stands at a place of a thing: at a number, or under a name. -/
def item (t : Thing) (index : List Char) (number? : Option Nat) : Except Fault Thing :=
  match t, number? with
  | text s, some n =>
    match s.toList[n]? with
    | some c => .ok (.text (String.singleton c))
    | none => .error (.outOfRange .text)
  | text _, none => .error (.textIndex Kind.text.name)
  | kinds ks, some n =>
    match ks[n]? with
    | some k => .ok (.kind k)
    | none => .error (.outOfRange .tuple)
  | kinds _, none => .error (.listIndex Kind.tuple.name Kind.text.name)
  | parts _, some n => .error (.missingIndex n)
  | parts (some m), none =>
    if index = "datetime".toList then .ok (.moment m)
    else .error (.missingKey (String.ofList index))
  | parts none, none => .error (.missingKey (String.ofList index))
  | kind k, _ => .error (.kindNotSubscriptable k.label)
  | t, _ => .error (.notSubscriptable t.kindOf.label)

/-- A moment of a log in a format: in codes if there is a percent sign, else in letters. A mark for
universal time at the end changes nothing. -/
def logMoment (m : Moment) (format : List Char) : Except Fault (List Char) :=
  let mark := "!UTC".toList
  let stripped :=
    if mark.isSuffixOf format then format.take (format.length - mark.length) else format
  let format := if stripped.isEmpty then "%Y-%m-%dT%H:%M:%S.%f%z".toList else stripped
  if format.contains '%' then .ok (m.inCodes format)
  else if Text.occursIn (List.replicate 7 'S') format then .error (.badTemplate .fineSeconds)
  else .ok (m.inLetters format)

def ofLayout (laid : Except Flaw (List Char)) : Except Fault (List Char) :=
  match laid with
  | .ok cs => .ok cs
  | .error e => .error (.badTemplate e)

/-- A thing in a format. -/
def write (t : Thing) (format : List Char) : Except Fault (List Char) :=
  match t with
  | stamp m => logMoment m (if format.isEmpty then "%Y-%m-%d_%H-%M-%S_%f".toList else format)
  | moment m =>
    if m.isUniversal then logMoment m format
    else if format.isEmpty then .ok (momentText m).toList
    else .ok (m.inCodes format)
  | number n => ofLayout (Layout.number format n)
  | text s => ofLayout (Layout.text format s.toList)
  | t =>
    if format.isEmpty then .ok t.plainText.toList
    else .error (.notFormattable t.kindOf.label)

/-- A thing after a conversion to text. -/
def converted (t : Thing) (conversion : Char) : Except Fault Thing :=
  if conversion = 's' then .ok (.text t.plainText)
  else if conversion = 'r' || conversion = 'a' then .ok (.text t.spelled)
  else .error (.badTemplate (.unknownConversion conversion))

end Thing

end Shopwalk.Template
