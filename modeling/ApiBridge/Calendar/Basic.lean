/-!
# Dates and moments

Days of the proleptic Gregorian calendar from year 1 to year 9999, and moments of a day with an
optional distance from universal time.
-/

namespace ApiBridge

/-- `n` in decimal, with zeros in front up to `width` digits. -/
def padded (width n : Nat) : String :=
  let digits := toString n
  String.ofList (List.replicate (width - digits.length) '0') ++ digits

/-! ### Dates -/

/-- A day of the calendar. -/
structure Date where
  year : Nat
  month : Nat
  day : Nat
  deriving DecidableEq, Repr, Inhabited

/-- Why the calendar has no such day or moment. -/
inductive CalendarFault
  | year (y : Nat)
  | month
  | day
  | hour
  | minute
  | second
  /-- The distance from universal time is a day or more. -/
  | offset (minutes : Int)
  deriving DecidableEq, Repr

/-- The report of a day or a moment that is not in the calendar. -/
def CalendarFault.message : CalendarFault → String
  | .year y => s!"year {y} is out of range"
  | .month => "month must be in 1..12"
  | .day => "day is out of range for month"
  | .hour => "hour must be in 0..23"
  | .minute => "minute must be in 0..59"
  | .second => "second must be in 0..59"
  | .offset minutes =>
    let seconds := minutes % 1440 * 60
    let rest := if seconds = 0 then "" else s!", seconds={seconds}"
    "offset must be a timedelta strictly between -timedelta(hours=24) and timedelta(hours=24), "
      ++ s!"not datetime.timedelta(days={minutes / 1440}{rest})."

namespace Date

def isLeap (year : Nat) : Bool :=
  year % 4 == 0 && (year % 100 != 0 || year % 400 == 0)

def daysInMonth (year month : Nat) : Nat :=
  if month = 2 then (if isLeap year then 29 else 28)
  else if month = 4 ∨ month = 6 ∨ month = 9 ∨ month = 11 then 30
  else 31

/-- Why the calendar does not have this day, if it does not. -/
def fault? (d : Date) : Option CalendarFault :=
  if d.year < 1 ∨ 9999 < d.year then some (.year d.year)
  else if d.month < 1 ∨ 12 < d.month then some .month
  else if d.day < 1 ∨ daysInMonth d.year d.month < d.day then some .day
  else none

/-- The days before the first of January of a year. -/
def daysBeforeYear (year : Nat) : Nat :=
  let y := year - 1
  y * 365 + y / 4 - y / 100 + y / 400

/-- The number of the day, counted from the first day of year 1. -/
def ordinal (d : Date) : Nat :=
  let daysBeforeMonth := (List.range' 1 (d.month - 1)).foldl (fun n m => n + daysInMonth d.year m) 0
  daysBeforeYear d.year + daysBeforeMonth + d.day

/-- The date as `2020-01-31`. -/
def text (d : Date) : String :=
  padded 4 d.year ++ "-" ++ padded 2 d.month ++ "-" ++ padded 2 d.day

/-- The date as a call that builds it. -/
def quoted (d : Date) : String :=
  s!"datetime.date({d.year}, {d.month}, {d.day})"

end Date

/-! ### Moments -/

/-- A moment of a day; `offset` is the distance of local from universal time in minutes. -/
structure Moment where
  date : Date
  hour : Nat
  minute : Nat
  second : Nat
  micro : Nat
  offset : Option Int
  deriving DecidableEq, Repr, Inhabited

namespace Moment

/-- Why the calendar does not have this moment, if it does not. -/
def fault? (t : Moment) : Option CalendarFault :=
  match t.offset.filter fun o => 1440 ≤ o.natAbs with
  | some o => some (.offset o)
  | none =>
    match t.date.fault? with
    | some f => some f
    | none =>
      if 24 ≤ t.hour then some .hour
      else if 60 ≤ t.minute then some .minute
      else if 60 ≤ t.second then some .second
      else none

/-- The offset as `+05:30`. -/
def offsetText (o : Int) : String :=
  (if o < 0 then "-" else "+") ++ padded 2 (o.natAbs / 60) ++ ":" ++ padded 2 (o.natAbs % 60)

/-- The moment in the ISO form, with `between` standing between day and time. -/
def isoText (between : String) (t : Moment) : String :=
  t.date.text ++ between ++ padded 2 t.hour ++ ":" ++ padded 2 t.minute ++ ":" ++ padded 2 t.second
    ++ (if t.micro = 0 then "" else "." ++ padded 6 t.micro)
    ++ (t.offset.map offsetText).getD ""

/-- The moment as `2020-01-01 10:20:30`. -/
def text (t : Moment) : String :=
  t.isoText " "

/-- The offset as a call that builds it: whole days below zero and the seconds above them. -/
def quotedOffset (o : Int) : String :=
  if o = 0 then "datetime.timezone.utc"
  else
    let days := if o < 0 then "days=-1, " else ""
    let seconds := (if o < 0 then o + 1440 else o) * 60
    s!"datetime.timezone(datetime.timedelta({days}seconds={seconds}))"

/-- The moment as a call that builds it; zero microseconds, and then zero seconds, are left out. -/
def quoted (t : Moment) : String :=
  let tail := if t.micro ≠ 0 then [t.second, t.micro] else if t.second ≠ 0 then [t.second] else []
  let parts := [t.date.year, t.date.month, t.date.day, t.hour, t.minute] ++ tail
  let zone := (t.offset.map fun o => ", tzinfo=" ++ quotedOffset o).getD ""
  "datetime.datetime(" ++ ", ".intercalate (parts.map toString) ++ zone ++ ")"

/-- The microseconds of universal time since the start of the calendar. -/
def instant (t : Moment) : Int :=
  let minutes : Int := (t.date.ordinal * 24 + t.hour) * 60 + t.minute
  ((minutes - t.offset.getD 0) * 60 + t.second) * 1000000 + t.micro

/-- Are two moments the same: as instants where both have an offset, else as written. -/
def same (s t : Moment) : Bool :=
  if s.offset.isSome && t.offset.isSome then s.instant == t.instant else s == t

example : (⟨⟨2020, 1, 1⟩, 10, 20, 30, 500000, some (-330)⟩ : Moment).text
    = "2020-01-01 10:20:30.500000-05:30" := by decide +kernel

end Moment

end ApiBridge
