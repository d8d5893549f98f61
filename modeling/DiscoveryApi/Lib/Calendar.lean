/-!
# Calendar — instants as ISO text

An instant counts microseconds from 1970-01-01T00:00:00 UTC; its text is the proleptic Gregorian date and the time of
day, without a time zone, and the microseconds only when there are some.
-/
namespace Calendar

def padded (width n : Nat) : String := "".pushn '0' (width - (toString n).length) ++ toString n

/-- Year, month and day of a day counted from 1970-01-01. -/
def civil (day : Int) : Int × Nat × Nat :=
  let z := day + 719468
  let doe := (z % 146097).toNat
  let yoe := (doe - doe / 1460 + doe / 36524 - doe / 146096) / 365
  let doy := doe - (365 * yoe + yoe / 4 - yoe / 100)
  let mp := (5 * doy + 2) / 153
  let month := if mp < 10 then mp + 3 else mp - 9
  (yoe + z / 146097 * 400 + (if month ≤ 2 then 1 else 0), month, doy - (153 * mp + 2) / 5 + 1)

/-- `datetime.isoformat(sep)` of a datetime without a time zone. -/
def isoformat (sep : String) (t : Int) : String :=
  let us := (t % 86400000000).toNat
  let s := us / 1000000
  let date := civil (t / 86400000000)
  padded 4 date.1.toNat ++ "-" ++ padded 2 date.2.1 ++ "-" ++ padded 2 date.2.2 ++ sep ++
    padded 2 (s / 3600) ++ ":" ++ padded 2 (s / 60 % 60) ++ ":" ++ padded 2 (s % 60) ++
    (if us % 1000000 = 0 then "" else "." ++ padded 6 (us % 1000000))

theorem isoformat_ne_empty (sep : String) (t : Int) : isoformat sep t ≠ "" := by
  intro h
  have hl := congrArg String.toList h
  simp [isoformat] at hl

example : isoformat "T" 1787486400000000 = "2026-08-23T12:00:00" := by decide

end Calendar
