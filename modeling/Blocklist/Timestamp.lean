import Blocklist.Text.Basic

/-!
# Timestamps

A moment as a date and a time of day with the distance of its zone from UTC. `Timestamp.text` writes it
with its zone, `Timestamp.utcText` in UTC down to milliseconds.
-/

namespace Blocklist

/-- A date and a time of day; `offset` is how many minutes the zone is ahead of UTC. -/
structure Timestamp where
  year : Nat
  month : Nat
  day : Nat
  hour : Nat
  minute : Nat
  second : Nat
  micro : Nat
  offset : Int
deriving DecidableEq, Repr

namespace Timestamp

/-- A number with leading zeros. -/
def padded (width n : Nat) : Text := Text.padLeft '0' width (Text.ofNat n)

/-- A year with a day more at the end of February. -/
def isLeap (year : Nat) : Bool := year % 4 = 0 && (year % 100 ≠ 0 || year % 400 = 0)

/-- The number of days of a month. -/
def monthLength (year month : Nat) : Nat :=
  if month = 2 then if isLeap year then 29 else 28
  else if month ∈ [4, 6, 9, 11] then 30
  else 31

/-- The same time on the next day. -/
def nextDay (t : Timestamp) : Timestamp :=
  if t.day < monthLength t.year t.month then { t with day := t.day + 1 }
  else if t.month < 12 then { t with day := 1, month := t.month + 1 }
  else { t with day := 1, month := 1, year := t.year + 1 }

/-- The same time on the day before. -/
def previousDay (t : Timestamp) : Timestamp :=
  if 1 < t.day then { t with day := t.day - 1 }
  else if 1 < t.month then
    { t with day := monthLength t.year (t.month - 1), month := t.month - 1 }
  else { t with day := 31, month := 12, year := t.year - 1 }

/-- The same moment in UTC; the zone is less than a day away from it. -/
def toUtc (t : Timestamp) : Timestamp :=
  let minutes : Int := t.hour * 60 + t.minute - t.offset
  let ofDay := (minutes % 1440).toNat
  let t := { t with hour := ofDay / 60, minute := ofDay % 60, offset := 0 }
  if minutes < 0 then t.previousDay else if 1440 ≤ minutes then t.nextDay else t

/-- The year, the month and the day `n` days after the first of March of the year 0. Years are counted
from March on, so that the day more of a leap year is the last one. -/
def dateOfDay (n : Nat) : Nat × Nat × Nat :=
  let era := n / 146097
  let ofEra := n % 146097
  let year := (ofEra - ofEra / 1460 + ofEra / 36524 - ofEra / 146096) / 365
  let ofYear := ofEra - (365 * year + year / 4 - year / 100)
  let month := (5 * ofYear + 2) / 153
  let day := ofYear - (153 * month + 2) / 5 + 1
  let ofMarch := era * 400 + year
  if month < 10 then (ofMarch, month + 3, day) else (ofMarch + 1, month - 9, day)

/-- The moment in UTC so many seconds and microseconds after the start of 1970. -/
def ofUnix (seconds micro : Nat) : Timestamp :=
  let (year, month, day) := dateOfDay (seconds / 86400 + 719468)
  let ofDay := seconds % 86400
  ⟨year, month, day, ofDay / 3600, ofDay / 60 % 60, ofDay % 60, micro, 0⟩

/-- Date and time of day, down to seconds. -/
def secondsText (t : Timestamp) : Text :=
  padded 4 t.year ++ ['-'] ++ padded 2 t.month ++ ['-'] ++ padded 2 t.day ++ ['T'] ++
    padded 2 t.hour ++ [':'] ++ padded 2 t.minute ++ [':'] ++ padded 2 t.second

/-- Hours and minutes of the zone, with a sign. -/
def offsetText (offset : Int) : Text :=
  (if offset < 0 then '-' else '+') :: padded 2 (offset.natAbs / 60) ++ [':'] ++
    padded 2 (offset.natAbs % 60)

/-- The written form with its zone; microseconds only if there are any. -/
def text (t : Timestamp) : Text :=
  t.secondsText ++ (if t.micro = 0 then [] else '.' :: padded 6 t.micro) ++ offsetText t.offset

/-- The written form in UTC, cut to milliseconds. -/
def utcText (t : Timestamp) : Text :=
  t.toUtc.secondsText ++ '.' :: padded 3 (t.micro / 1000) ++ ['Z']

end Timestamp
end Blocklist
