/-!
# Time

Virtual time: it moves only when it is told to, by whole milliseconds. Every reading of the
clock is later than the one before by at least a nanosecond, so that two readings never agree.
-/

set_option autoImplicit false

namespace ConfigWatch

/-- A moment in nanoseconds, counted from the start of the run. -/
abbrev Instant := Int

namespace Instant

def ofMillis (millis : Int) : Instant := millis * 1000000

def millis (instant : Instant) : Int := instant.fdiv 1000000

def seconds (instant : Instant) : Int := instant.fdiv 1000000000

end Instant

/-- A clock: the milliseconds since the start and the number of readings so far. The machine
counts signed 64 bit seconds and stood at `origin` of them when the run started. -/
structure Clock where
  elapsed : Nat := 0
  reads : Nat := 0
  origin : Nat := 1
deriving DecidableEq, Inhabited

namespace Clock

def read (clock : Clock) : Instant × Clock :=
  (Instant.ofMillis clock.elapsed + (clock.reads + 1 : Nat),
    { clock with reads := clock.reads + 1 })

def advance (clock : Clock) (millis : Nat) : Clock :=
  { clock with elapsed := clock.elapsed + millis }

/-- The moment some seconds before another, unless the machine cannot count that far back. -/
def before? (clock : Clock) (instant : Instant) (seconds : Nat) : Option Instant :=
  if (clock.origin : Int) + instant.seconds - seconds < -(Int.pow 2 63) then none
  else some (instant - seconds * 1000000000)

/-- Whether the machine can count some seconds beyond the present. -/
def canAwait (clock : Clock) (seconds : Nat) : Bool :=
  clock.origin + clock.elapsed / 1000 + seconds < Nat.pow 2 63

end Clock

end ConfigWatch
