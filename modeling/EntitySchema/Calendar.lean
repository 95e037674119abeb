/-! Days and points in time of the calendar. Main statement: the first of a month follows the last
day of the month before (`ordinal_succ_month`). -/
namespace EntitySchema

structure Date where
  year : Nat
  month : Nat
  day : Nat
  deriving DecidableEq, Repr

/-- A point in time, with the offset from universal time in minutes when one is known. -/
structure Moment where
  date : Date
  hour : Nat
  minute : Nat
  second : Nat
  microsecond : Nat
  offset : Option Int
  deriving DecidableEq, Repr

namespace Calendar

def isLeap (year : Nat) : Bool := year % 4 == 0 && (year % 100 != 0 || year % 400 == 0)

def daysIn (year month : Nat) : Nat :=
  if month = 2 then if isLeap year then 29 else 28
  else if [4, 6, 9, 11].contains month then 30
  else 31

def daysBefore (year : Nat) : Nat → Nat
  | 0 | 1 => 0
  | month + 2 => daysBefore year (month + 1) + daysIn year (month + 1)

end Calendar

def zeroPadded (width n : Nat) : String :=
  let digits := Nat.toDigits 10 n
  String.ofList (List.replicate (width - digits.length) '0' ++ digits)

namespace Date

/-- The number of the day, counted from the first one of the year 1. -/
def ordinal (d : Date) : Nat :=
  let years := d.year - 1
  365 * years + years / 4 - years / 100 + years / 400 + Calendar.daysBefore d.year d.month + d.day

theorem ordinal_succ_month (year month : Nat) :
    ordinal ⟨year, month + 2, 1⟩ =
      ordinal ⟨year, month + 1, Calendar.daysIn year (month + 1)⟩ + 1 := by
  simp only [ordinal, Calendar.daysBefore]
  omega

def text (d : Date) : String :=
  zeroPadded 4 d.year ++ "-" ++ zeroPadded 2 d.month ++ "-" ++ zeroPadded 2 d.day

def arguments (d : Date) : List String := [d.year, d.month, d.day].map toString

def literal (d : Date) : String := "datetime.date(" ++ ", ".intercalate d.arguments ++ ")"

end Date

namespace Moment

def localMicroseconds (m : Moment) : Int :=
  (((m.date.ordinal * 24 + m.hour) * 60 + m.minute) * 60 + m.second) * 1000000 + m.microsecond

/-- The microseconds from the first day on in universal time, where the offset is known. -/
def instant? (m : Moment) : Option Int :=
  m.offset.map fun minutes => m.localMicroseconds - minutes * 60000000

/-- Whether two moments are one point in time. Without an offset a moment equals only itself. -/
def isSame (m n : Moment) : Bool :=
  match m.instant?, n.instant? with
  | some i, some j => i == j
  | none, none => m == n
  | _, _ => false

def offsetText (minutes : Int) : String :=
  (if minutes < 0 then "-" else "+") ++ zeroPadded 2 (minutes.natAbs / 60) ++ ":" ++
    zeroPadded 2 (minutes.natAbs % 60)

def text (m : Moment) : String :=
  m.date.text ++ " " ++ zeroPadded 2 m.hour ++ ":" ++ zeroPadded 2 m.minute ++ ":" ++
    zeroPadded 2 m.second ++ (if m.microsecond = 0 then "" else "." ++ zeroPadded 6 m.microsecond) ++
    (m.offset.map offsetText).getD ""

/-- A span of minutes as days, below zero or not, and seconds within the day. -/
def spanLiteral (minutes : Int) : String :=
  let seconds := minutes * 60
  let days := seconds.fdiv 86400
  let rest := seconds.fmod 86400
  let parts := (if days = 0 then [] else ["days=" ++ toString days]) ++
    (if rest = 0 then [] else ["seconds=" ++ toString rest])
  "datetime.timedelta(" ++ (if parts = [] then "0" else ", ".intercalate parts) ++ ")"

def offsetLiteral (minutes : Int) : String :=
  if minutes = 0 then "datetime.timezone.utc"
  else "datetime.timezone(" ++ spanLiteral minutes ++ ")"

def literal (m : Moment) : String :=
  let fine := if m.microsecond ≠ 0 then [m.second, m.microsecond]
    else if m.second ≠ 0 then [m.second] else []
  let zone := (m.offset.map fun o => "tzinfo=" ++ offsetLiteral o).toList
  let arguments := m.date.arguments ++ ([m.hour, m.minute] ++ fine).map toString ++ zone
  "datetime.datetime(" ++ ", ".intercalate arguments ++ ")"

end Moment

end EntitySchema
