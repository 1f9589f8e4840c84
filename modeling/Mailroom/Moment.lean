import Mailroom.Fault
import Mailroom.Number.Bounds

/-!
Points in time: a day of the calendar, a time of day and perhaps the distance to universal time in
seconds. A moment has three written forms, one for mail headers and two for showing it.
-/

namespace Mailroom

structure Moment where
  year : Nat
  month : Nat
  day : Nat
  hour : Nat
  minute : Nat
  second : Nat
  microsecond : Nat
  offset : Option Int
  deriving DecidableEq, Repr

namespace Moment

def isLeapYear (year : Nat) : Bool :=
  year % 4 == 0 && (year % 100 != 0 || year % 400 == 0)

def daysInMonth (year month : Nat) : Nat :=
  if month == 2 then (if isLeapYear year then 29 else 28)
  else if month == 4 || month == 6 || month == 9 || month == 11 then 30
  else 31

/-- Days from the first day of year 1, which is day 1. -/
def dayNumber (year month day : Nat) : Nat :=
  let before := year - 1
  365 * before + before / 4 - before / 100 + before / 400 +
    (List.range (month - 1)).foldl (fun days m => days + daysInMonth year (m + 1)) 0 + day

/-- The parts of a date are whole numbers of 32 binary digits. -/
def fitInt (n : Int) : Except Fault Unit :=
  if !Number.fitsLong n then .error (.overflow .long)
  else if Number.intBound ≤ n then .error (.overflow .aboveInt)
  else if n < -Number.intBound then .error (.overflow .belowInt)
  else .ok ()

/-- The greatest number of days in a span of time, forwards or backwards. -/
def greatestSpan : Nat := 999999999

/-- An offset is a span of time of less than a day. -/
def checkOffset (seconds : Int) : Except Fault Unit :=
  let days := seconds / 86400
  if !Number.fitsInt days then .error (.overflow .int)
  else if days.natAbs > greatestSpan then .error (.overflow (.span days))
  else if seconds.natAbs ≥ 86400 then
    .error (.value (.calendar (.offset days (seconds % 86400).toNat)))
  else .ok ()

def inRange (n : Int) (low high : Nat) (fault : CalendarFault) : Except Fault Nat :=
  if low ≤ n ∧ n ≤ high then .ok n.toNat else .error (.value (.calendar fault))

/-- The offset comes first, then the size of the parts, then their range, always from the year
downwards; the first one that is wrong is the fault. -/
def make (year month day hour minute second microsecond : Int) (offset : Option Int) :
    Except Fault Moment := do
  offset.forM checkOffset
  [year, month, day, hour, minute, second, microsecond].forM fitInt
  let y ← inRange year 1 9999 (.year year)
  let m ← inRange month 1 12 .month
  let d ← inRange day 1 (daysInMonth y m) .day
  let h ← inRange hour 0 23 .hour
  let mi ← inRange minute 0 59 .minute
  let s ← inRange second 0 59 .second
  let us ← inRange microsecond 0 999999 .microsecond
  return ⟨y, m, d, h, mi, s, us, offset⟩

/-- `n` in decimal, with zeros in front up to the given width. -/
def padded (width n : Nat) : String :=
  let digits := toString n
  String.ofList (List.replicate (width - digits.length) '0') ++ digits

def weekdays : List String := ["Mon", "Tue", "Wed", "Thu", "Fri", "Sat", "Sun"]

def months : List String :=
  ["Jan", "Feb", "Mar", "Apr", "May", "Jun", "Jul", "Aug", "Sep", "Oct", "Nov", "Dec"]

/-- The distance to universal time with `mark` between its parts. Seconds are written only if
there are any. -/
def zone (mark : String) (offset : Int) : String :=
  let n := offset.natAbs
  (if offset < 0 then "-" else "+") ++ padded 2 (n / 3600) ++ mark ++ padded 2 (n / 60 % 60) ++
    if n % 60 == 0 then "" else mark ++ padded 2 (n % 60)

def clockText (t : Moment) : String :=
  padded 2 t.hour ++ ":" ++ padded 2 t.minute ++ ":" ++ padded 2 t.second

/-- The form of a date header. Without an offset the zone is minus zero. -/
def headerText (t : Moment) : String :=
  let weekday := weekdays.getD ((dayNumber t.year t.month t.day + 6) % 7) ""
  weekday ++ ", " ++ padded 2 t.day ++ " " ++ months.getD (t.month - 1) "" ++ " " ++
    padded 4 t.year ++ " " ++ t.clockText ++ " " ++ ((t.offset.map (zone "")).getD "-0000")

/-- Day and time joined by `separator`. Microseconds are written only if there are any. -/
def isoText (separator : String) (t : Moment) : String :=
  padded 4 t.year ++ "-" ++ padded 2 t.month ++ "-" ++ padded 2 t.day ++ separator ++ t.clockText ++
    (if t.microsecond == 0 then "" else "." ++ padded 6 t.microsecond) ++
    ((t.offset.map (zone ":")).getD "")

def zoneShown (offset : Int) : String :=
  if offset == 0 then "datetime.timezone.utc"
  else
    "datetime.timezone(" ++ spanText (offset / 86400) (offset % 86400).toNat ++ ")"

/-- The form in which a moment shows up inside other texts. -/
def shown (t : Moment) : String :=
  let small :=
    if t.microsecond != 0 then [t.second, t.microsecond]
    else if t.second != 0 then [t.second]
    else []
  let parts := ([t.year, t.month, t.day, t.hour, t.minute] ++ small).map toString
  let zonePart := (t.offset.map fun n => ["tzinfo=" ++ zoneShown n]).getD []
  "datetime.datetime(" ++ ", ".intercalate (parts ++ zonePart) ++ ")"

/-- Microseconds since the start of year 1, counted in universal time if there is an offset. -/
def instant (t : Moment) : Int :=
  let seconds : Int :=
    dayNumber t.year t.month t.day * 86400 + t.hour * 3600 + t.minute * 60 + t.second
  (seconds - t.offset.getD 0) * 1000000 + t.microsecond

/-- Two moments are the same if both have an offset or neither has, and the clock of universal
time agrees. -/
def same (a b : Moment) : Bool :=
  a.offset.isSome == b.offset.isSome && a.instant == b.instant

end Moment

end Mailroom
