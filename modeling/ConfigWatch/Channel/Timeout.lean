/-!
# Timeouts

How the time that a call may take is written in its headers: in the finest unit that needs at most
eight digits.
-/

set_option autoImplicit false

namespace ConfigWatch.Timeout

def maxCount : Nat := 99999999

/-- A time in milliseconds counted in every unit, from nanoseconds to hours. Parts of a unit are
dropped. -/
def counts (millis : Nat) : List (Nat × String) :=
  [(millis * 1000000, "n"), (millis * 1000, "u"), (millis, "m"), (millis / 1000, "S"),
    (millis / 60000, "M"), (millis / 3600000, "H")]

/-- The text of a time in milliseconds. No unit is fine enough for times beyond eleven thousand
years, which are given in hours all the same. -/
def toText (millis : Nat) : String :=
  let (count, unit) :=
    ((counts millis).find? (fun entry => entry.1 ≤ maxCount)).getD (millis / 3600000, "H")
  toString count ++ unit

end ConfigWatch.Timeout
