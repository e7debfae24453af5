/-!
# Stamps

A request is marked by a stamp: an identity of 32 hexadecimal digits, and the time of its answer in
universal time. `Stamp.of` makes a stamp from a number and from the seconds since the year 1970
began.
-/

namespace DiceTower

/-- What marks a request: its identity, and when it was answered. -/
structure Stamp where
  requestId : String
  time : String
deriving DecidableEq, Repr, Inhabited

namespace Stamp

/-- A number in a base with at least some digits. -/
def padded (base digits n : Nat) : String :=
  let written := Nat.toDigits base n
  String.ofList (List.replicate (digits - written.length) '0' ++ written)

/-- The year, month and day of a day, counted from the first of March of the year zero. A year of
that count starts in March, so a leap day is its last day. -/
def date (days : Nat) : Nat × Nat × Nat :=
  let era := days / 146097
  let dayOfEra := days % 146097
  let yearOfEra := (dayOfEra - dayOfEra / 1460 + dayOfEra / 36524 - dayOfEra / 146096) / 365
  let dayOfYear := dayOfEra - (365 * yearOfEra + yearOfEra / 4 - yearOfEra / 100)
  let month := (5 * dayOfYear + 2) / 153
  let day := dayOfYear - (153 * month + 2) / 5 + 1
  let year := era * 400 + yearOfEra
  if month < 10 then (year, month + 3, day) else (year + 1, month - 9, day)

/-- A time in universal time, to the second. -/
def timeText (seconds : Nat) : String :=
  let (year, month, day) := date (seconds / 86400 + 719468)
  let second := seconds % 86400
  padded 10 4 year ++ "-" ++ padded 10 2 month ++ "-" ++ padded 10 2 day ++ "T" ++
    padded 10 2 (second / 3600) ++ ":" ++ padded 10 2 (second / 60 % 60) ++ ":" ++
    padded 10 2 (second % 60) ++ "Z"

/-- The stamp of a number and a time. -/
def of (number seconds : Nat) : Stamp :=
  ⟨padded 16 32 (number % Nat.pow 16 32), timeText seconds⟩

end Stamp

end DiceTower
