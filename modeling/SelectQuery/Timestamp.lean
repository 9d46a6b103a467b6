import SelectQuery.Number.Digits

/-!
Points in time, to the nanosecond, and their texts. Nanoseconds from a thousand million on mark a
leap second: the second after the 59th.
-/

namespace SelectQuery

open Number (padded)

/-- A date and a time of day, always in universal time. -/
structure Timestamp where
  year : Int
  month : Nat
  day : Nat
  hour : Nat
  minute : Nat
  second : Nat
  nanosecond : Nat
  deriving DecidableEq

namespace Timestamp

def daysIn (year : Int) (month : Nat) : Nat :=
  if month = 2 then
    if year % 4 = 0 && (year % 100 != 0 || year % 400 = 0) then 29 else 28
  else if month = 4 || month = 6 || month = 9 || month = 11 then 30
  else 31

/-- The fields name a day of the calendar and a time of that day. -/
structure Valid (t : Timestamp) : Prop where
  month : 1 ≤ t.month ∧ t.month ≤ 12
  day : 1 ≤ t.day ∧ t.day ≤ daysIn t.year t.month
  hour : t.hour < 24
  minute : t.minute < 60
  second : t.second < 60
  nanosecond : t.nanosecond < 2000000000
  leap : 1000000000 ≤ t.nanosecond → t.second = 59

def midnight (year : Int) (month day : Nat) : Timestamp := ⟨year, month, day, 0, 0, 0, 0⟩

/-- The second that is shown: 60 in a leap second. -/
def shownSecond (t : Timestamp) : Nat := t.second + t.nanosecond / 1000000000

/-- The year with at least four digits, and with a sign outside the years 0 to 9999. -/
def yearText (year : Int) : List Char :=
  if year < 0 then '-' :: padded 4 year.natAbs
  else if 9999 < year then '+' :: padded 4 year.natAbs
  else padded 4 year.natAbs

/-- The day as `YYYY-MM-DD`. -/
def dateText (t : Timestamp) : List Char :=
  yearText t.year ++ '-' :: padded 2 t.month ++ '-' :: padded 2 t.day

/-- The time of day as `HH:MM:SS`, without the fraction of the second. -/
def timeText (t : Timestamp) : List Char :=
  padded 2 t.hour ++ ':' :: padded 2 t.minute ++ ':' :: padded 2 t.shownSecond

/-- The layout of `Timestamp.text`, in conversion specifiers. -/
def layout : String := "%Y-%m-%d %H:%M:%S"

/-- The text that statements and arguments use: day and time with a blank between them. -/
def text (t : Timestamp) : String :=
  String.ofList (t.dateText ++ ' ' :: t.timeText)

/-- The fraction of the second with three, six or nine digits, as many as it needs. -/
def fractionText (t : Timestamp) : List Char :=
  let n := t.nanosecond % 1000000000
  if n = 0 then []
  else if n % 1000000 = 0 then '.' :: padded 3 (n / 1000000)
  else if n % 1000 = 0 then '.' :: padded 6 (n / 1000)
  else '.' :: padded 9 n

/-- The text with nothing left out: day, time, fraction and zone. -/
def detailedText (t : Timestamp) : String :=
  String.ofList (t.dateText ++ 'T' :: t.timeText ++ t.fractionText ++ ['Z'])

end Timestamp

end SelectQuery
