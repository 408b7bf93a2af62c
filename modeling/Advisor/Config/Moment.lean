/-!
# Dates and times

The dates and times that a configuration may hold: a day, a time of day, or both, the last perhaps
with an offset from universal time. `Moment.iso` writes them in the usual form, `Moment.shown` as
plain text does, and `Moment.constructed` as a term that would build them.
-/

namespace Advisor

/-- A day of the calendar. -/
structure Day where
  year : Nat
  month : Nat
  day : Nat
  deriving DecidableEq

/-- A time of day. -/
structure Clock where
  hour : Nat
  minute : Nat
  second : Nat
  micro : Nat
  deriving DecidableEq

/-- A date or time. The offset counts minutes. -/
inductive Moment where
  | day (d : Day)
  | clock (c : Clock)
  | both (d : Day) (c : Clock) (offset : Option Int)
  deriving DecidableEq

namespace Day

def isLeap (year : Nat) : Bool := year % 4 == 0 && (year % 100 != 0 || year % 400 == 0)

/-- The length of a month. -/
def monthLength (year month : Nat) : Nat :=
  if month == 2 then (if isLeap year then 29 else 28)
  else if month == 4 || month == 6 || month == 9 || month == 11 then 30
  else 31

/-- Whether the calendar has the day. -/
def isValid (d : Day) : Bool :=
  1 ≤ d.year && 1 ≤ d.month && d.month ≤ 12 && 1 ≤ d.day && d.day ≤ monthLength d.year d.month

/-- The number of days before this one, counted from the beginning of year 1. -/
def ordinal (d : Day) : Nat :=
  let y := d.year - 1
  let months := (List.range (d.month - 1)).foldl (fun n m => n + monthLength d.year (m + 1)) 0
  y * 365 + y / 4 - y / 100 + y / 400 + months + (d.day - 1)

end Day

namespace Moment

/-- A number with zeros in front of it up to a width. -/
def padded (width n : Nat) : String :=
  let ds := Nat.toDigits 10 n
  String.ofList (List.replicate (width - ds.length) '0' ++ ds)

def isoDay (d : Day) : String := padded 4 d.year ++ "-" ++ padded 2 d.month ++ "-" ++ padded 2 d.day

/-- A time of day; the fraction is left out if it is zero. -/
def isoClock (c : Clock) : String :=
  padded 2 c.hour ++ ":" ++ padded 2 c.minute ++ ":" ++ padded 2 c.second
    ++ (if c.micro == 0 then "" else "." ++ padded 6 c.micro)

def isoOffset (minutes : Int) : String :=
  let n := minutes.natAbs
  (if minutes < 0 then "-" else "+") ++ padded 2 (n / 60) ++ ":" ++ padded 2 (n % 60)

/-- A date and a time with something between them. -/
def joined (between : String) (d : Day) (c : Clock) (offset : Option Int) : String :=
  isoDay d ++ between ++ isoClock c ++ ((offset.map isoOffset).getD "")

/-- The usual form, with a `T` between date and time. -/
def iso : Moment → String
  | day d => isoDay d
  | clock c => isoClock c
  | both d c offset => joined "T" d c offset

/-- The form with a space between date and time. -/
def shown : Moment → String
  | day d => isoDay d
  | clock c => isoClock c
  | both d c offset => joined " " d c offset

/-- The numbers of a time of day; seconds and fractions of them are left out if they are zero. -/
def clockNumbers (c : Clock) : List Nat :=
  [c.hour, c.minute] ++
    (if c.micro == 0 then if c.second == 0 then [] else [c.second] else [c.second, c.micro])

/-- An offset as a term. -/
def constructedOffset (minutes : Int) : String :=
  if minutes == 0 then "datetime.timezone.utc"
  else
    let seconds := minutes * 60
    let parts := if seconds < 0 then
        "days=-1, seconds=" ++ (seconds + 86400).repr
      else "seconds=" ++ seconds.repr
    "datetime.timezone(datetime.timedelta(" ++ parts ++ "))"

/-- A date or time as a term. -/
def constructed : Moment → String
  | day d => "datetime.date(" ++ ", ".intercalate ([d.year, d.month, d.day].map Nat.repr) ++ ")"
  | clock c => "datetime.time(" ++ ", ".intercalate ((clockNumbers c).map Nat.repr) ++ ")"
  | both d c offset =>
    let zone := (offset.map fun o => ", tzinfo=" ++ constructedOffset o).getD ""
    "datetime.datetime("
      ++ ", ".intercalate (([d.year, d.month, d.day] ++ clockNumbers c).map Nat.repr) ++ zone ++ ")"

/-- The microseconds since the beginning of year 1, by universal time. -/
def instant (d : Day) (c : Clock) (offset : Int) : Int :=
  let minutes : Int := (d.ordinal : Int) * 1440 + c.hour * 60 + c.minute - offset
  (minutes * 60 + c.second) * 1000000 + c.micro

/-- Whether two moments are the same. Those with an offset are if they are the same instant. -/
def same : Moment → Moment → Bool
  | both d c (some o), both e f (some p) => instant d c o == instant e f p
  | a, b => a == b

end Moment

end Advisor
