import Mathlib.Data.Set.Card
import CoopSpaces.Lib.Table
import CoopSpaces.Lib.Text
import CoopSpaces.Server.CalendarWindow

namespace CoopSpaces.CalendarFeed

def SECOND : Int := 1000000000

/-- A zone of the tz database. -/
structure Zone where
  name : String
  clock : Tz

structure Property where
  value : String
  tzid : Option String

namespace Property

/-- The first of its values. -/
def firstValue (prop : Property) : List Char := (trim prop.value).toList.takeWhile (· ≠ ',')

/-- A date has eight bytes and no time. -/
def isDate (prop : Property) : Bool :=
  (String.ofList prop.firstValue).utf8ByteSize = 8 && !prop.firstValue.contains 'T'

end Property

structure IcalEvent where
  properties : Table String Property
  multiProperties : Table String (List Property)

namespace IcalEvent
variable (event : IcalEvent)

def propertyValue (key : String) : Option String := (event.properties key).map (·.value)

def uid : Option String := event.propertyValue "UID"

def title : String := (event.propertyValue "SUMMARY").getD "Untitled Event"

def isCancelled : Bool := (event.propertyValue "STATUS").any (·.toLower = "cancelled")

/-- It replaces one occurrence of a series. -/
def IsOverride : Prop := (event.properties "RECURRENCE-ID").isSome

instance : Decidable event.IsOverride := inferInstanceAs (Decidable (_ = true))

def propertiesNamed (key : String) : List Property :=
  match (event.multiProperties key).getD [] with
  | [] => (event.properties key).toList
  | found => found

end IcalEvent

inductive CalendarComponent where
  | event (event : IcalEvent)
  | other

def feedEvents (components : List CalendarComponent) : List IcalEvent :=
  components.filterMap fun component =>
    match component with
    | .event event => some event
    | .other => none

structure CalendarEvent where
  title : String
  description : Option String
  descriptionHtml : Option String
  start : Int
  end_ : Option Int
  location : Option String
  calendarName : String
  calendarColor : String
  allDay : Bool
  deriving DecidableEq

structure FeedContext where
  calendarName : String
  calendarColor : String
  siteTz : Zone
  from_ : Int
  to_ : Int

structure ParseOutcome where
  events : List CalendarEvent
  warnings : List String
  deriving DecidableEq

/-- A date without a time, or a wall clock and the zone it is read in. -/
inductive Anchor where
  | date (date : Int)
  | timed (naive : Int) (tz : Zone)

def Anchor.isDate : Anchor → Bool
  | .date _ => true
  | .timed _ _ => false

/-- The lines of a series: its start, its rules, and the dates taken out and put in. -/
structure RecurrenceLines where
  tz : Zone
  stamp : Int
  rrules : List String
  exdates : List Property
  rdates : List Property

/-- A set of instants, those of any window in their order. -/
structure Occurrences where
  between : Int → Int → List Int
  sorted : ∀ after before, (between after before).Pairwise (· < ·)
  mem_between : ∀ after before t, t ∈ between after before ↔ t ∈ between t t ∧ after ≤ t ∧ t ≤ before
  /-- Whether it says so when it stops at a number of them. -/
  limited : Int → Int → Nat → Bool
  cut_limited : ∀ after before limit, limit < (between after before).length → limited after before limit = true

def Occurrences.Has (set : Occurrences) (t : Int) : Prop := t ∈ set.between t t

/-- What the parser rests on: the calendar, the recurrence, the date and the zone libraries, and the rendering of
descriptions. -/
structure Libraries where
  calendar : String → Except String (List CalendarComponent)
  ruleSet : RecurrenceLines → Except String Occurrences
  parseDate : String → Except String Int
  parseDateTime : String → Except String Int
  zone : String → Option Zone
  utc : Zone
  quoted : String → String
  toHtml : String → Option String

def MAX_OCCURRENCES_PER_RULE : Nat := 1000

/-- A wall clock in a zone: the first instant that shows it, or that shows it so many hours on if it is skipped. -/
def toUtc (naive : Int) (tz : Tz) : Int :=
  match tz.earliest naive with
  | some t => t
  | none => ([1, 2, 3].findSome? fun hours => tz.earliest (naive + hours * HOUR)).getD naive

def localMidnight (date : Int) (tz : Tz) : Int := toUtc (midnight date) tz

def Anchor.startUtc (siteTz : Zone) : Anchor → Int
  | .date day => localMidnight day siteTz.clock
  | .timed naive tz => toUtc naive tz.clock

/-- Whether an event touches the window. -/
def overlaps (start : Int) (end_ : Option Int) (ctx : FeedContext) : Bool :=
  if ctx.to_ ≤ start then false
  else
    match end_ with
    | some end_ => if start < end_ then ctx.from_ < end_ else ctx.from_ ≤ start
    | none => ctx.from_ ≤ start

namespace Libraries
variable (libraries : Libraries) (ctx : FeedContext)

/-- Its first value is all that is read of a property. -/
def anchorOf (siteTz : Zone) (prop : Property) : Except String Anchor :=
  let value := prop.firstValue
  if prop.isDate then
    ((libraries.parseDate (String.ofList value)).mapError
      fun e => "bad date " ++ libraries.quoted (String.ofList value) ++ ": " ++ e).map Anchor.date
  else if value.getLast? = some 'Z' then
    ((libraries.parseDateTime (String.ofList value.dropLast)).mapError
      fun e => "bad UTC date-time " ++ libraries.quoted (String.ofList value) ++ ": " ++
        e).map (Anchor.timed · libraries.utc)
  else
    ((libraries.parseDateTime (String.ofList value)).mapError
      fun e => "bad date-time " ++ libraries.quoted (String.ofList value) ++ ": " ++ e).map
      (Anchor.timed · ((prop.tzid.bind libraries.zone).getD siteTz))

/-- A component's lines, if it is a series. -/
def recurrenceLines (event : IcalEvent) (anchor : Anchor) : Option RecurrenceLines :=
  if event.IsOverride then none
  else if (event.propertiesNamed "RRULE").isEmpty && (event.propertiesNamed "RDATE").isEmpty then none
  else
    let (tz, stamp) := match anchor with
      | .date date => (ctx.siteTz, midnight date)
      | .timed naive tz => (tz, naive)
    some ⟨tz, stamp, (event.propertiesNamed "RRULE").map (·.value), event.propertiesNamed "EXDATE",
      event.propertiesNamed "RDATE"⟩

def build (event : IcalEvent) (start : Int) (end_ : Option Int) (anchor : Anchor) : CalendarEvent where
  title := event.title
  description := event.propertyValue "DESCRIPTION"
  descriptionHtml := (event.propertyValue "DESCRIPTION").bind libraries.toHtml
  start := start
  end_ := end_
  location := event.propertyValue "LOCATION"
  calendarName := ctx.calendarName
  calendarColor := ctx.calendarColor
  allDay := anchor.isDate

/-- When a component starts, and when it ends if it says so or is a day. -/
def startAndEnd (event : IcalEvent) : Except String (Anchor × Option Int) :=
  match event.properties "DTSTART" with
  | none => .error "no DTSTART"
  | some prop =>
    match libraries.anchorOf ctx.siteTz prop with
    | .error why => .error why
    | .ok anchor =>
      match event.properties "DTEND" with
      | some prop => (libraries.anchorOf ctx.siteTz prop).map fun last => (anchor, some (last.startUtc ctx.siteTz))
      | none =>
        match anchor with
        | .date date => .ok (anchor, some (localMidnight (date + 1) ctx.siteTz.clock))
        | .timed _ _ => .ok (anchor, none)

/-- Expands one component into the events it contributes to the window. -/
def pushEvent (event : IcalEvent) (overridden : List (String × Int)) (out : ParseOutcome) :
    Except String ParseOutcome :=
  match libraries.startAndEnd ctx event with
  | .error why => .error why
  | .ok (anchor, end_) =>
    let start := anchor.startUtc ctx.siteTz
    let duration := end_.map (· - start)
    match recurrenceLines ctx event anchor with
    | none =>
      .ok (if overlaps start end_ ctx
        then { out with events := out.events ++ [libraries.build ctx event start end_ anchor] } else out)
    | some lines =>
      match libraries.ruleSet lines with
      | .error e => .error ("unusable recurrence rule: " ++ e)
      | .ok set =>
        let slack := max (duration.getD 0) 0
        let after := ctx.from_ - slack - SECOND
        let before := ctx.to_ + SECOND
        let dates := (set.between after before).take MAX_OCCURRENCES_PER_RULE
        let warnings :=
          if set.limited after before MAX_OCCURRENCES_PER_RULE
            then [event.title ++ ": recurrence stopped at 1000 occurrences"] else []
        .ok {
          events := out.events ++ dates.filterMap fun t =>
            if (event.uid.getD "", t) ∈ overridden then none
            else if overlaps t (duration.map (t + ·)) ctx
              then some (libraries.build ctx event t (duration.map (t + ·)) anchor)
            else none
          warnings := out.warnings ++ warnings }

/-- The first pass: the occurrences that components of their own replace, and the warnings. -/
def overriddenBy (event : IcalEvent) : List (String × Int) × List String :=
  match event.uid, event.properties "RECURRENCE-ID" with
  | some uid, some prop =>
    match libraries.anchorOf ctx.siteTz prop with
    | .ok anchor => ([(uid, anchor.startUtc ctx.siteTz)], [])
    | .error why => ([], [event.title ++ ": unusable RECURRENCE-ID: " ++ why])
  | _, _ => ([], [])

def overridden (events : List IcalEvent) : List (String × Int) :=
  events.flatMap fun event => (libraries.overriddenBy ctx event).1

def visit (overridden : List (String × Int)) (out : ParseOutcome) (event : IcalEvent) : ParseOutcome :=
  if event.isCancelled then out
  else
    match libraries.pushEvent ctx event overridden out with
    | .ok out => out
    | .error why => { out with warnings := out.warnings ++ [event.title ++ ": skipped: " ++ why] }

/-- Both passes. -/
def readEvents (events : List IcalEvent) : ParseOutcome :=
  events.foldl (libraries.visit ctx (libraries.overridden ctx events))
    { events := [], warnings := events.flatMap fun event => (libraries.overriddenBy ctx event).2 }

def parseFeed (body : String) : Except String ParseOutcome :=
  if (body.toList.splitOn '\n').any fun line => (line.rdropWhile isWhiteSpace).map Char.toLower =
    "begin:vcalendar".toList then
    match libraries.calendar body with
    | .error e => .error ("not parseable as iCalendar: " ++ e)
    | .ok components =>
      .ok (libraries.readEvents ctx (feedEvents components))
  else .error "no BEGIN:VCALENDAR line; not an iCalendar body"

end Libraries

end CoopSpaces.CalendarFeed
