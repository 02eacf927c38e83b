/-!
# Calendar dates

The month and day of a time, as the devotional names its readings: `MM.DD`. A time is
counted in seconds from the start of 1970 (UTC), and days are counted in the proleptic
Gregorian calendar by whole 400-year eras of 146097 days, starting each year in March so
that the leap day falls at its end.
-/

namespace Scripture

/-- The month and day, as `MM.DD`, of a time given in seconds since the start of 1970. -/
def monthDay (seconds : Int) : String :=
  let z := seconds / 86400 + 719468
  let era := z / 146097
  let doe := z - era * 146097
  let yoe := (doe - doe / 1460 + doe / 36524 - doe / 146096) / 365
  let doy := doe - (365 * yoe + yoe / 4 - yoe / 100)
  let mp := (5 * doy + 2) / 153
  let d := doy - (153 * mp + 2) / 5 + 1
  let m := if mp < 10 then mp + 3 else mp - 9
  let two (n : Int) := if n < 10 then "0" ++ toString n else toString n
  two m ++ "." ++ two d

end Scripture
