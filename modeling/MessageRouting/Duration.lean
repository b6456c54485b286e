import MessageRouting.Number.Binary64

/-!
# Durations

A span of time in whole nanoseconds.
-/

namespace MessageRouting

/-- A span of time, in whole nanoseconds. -/
structure Duration where
  nanoseconds : Nat
deriving DecidableEq, Repr, Inhabited

namespace Duration

/-- A span of whole seconds. -/
def ofSeconds (seconds : Nat) : Duration :=
  ⟨seconds * 1000000000⟩

/-- A span of whole milliseconds. -/
def ofMillis (millis : Nat) : Duration :=
  ⟨millis * 1000000⟩

def seconds (span : Duration) : Nat :=
  span.nanoseconds / 1000000000

/-- What the span has beyond its whole seconds, in nanoseconds. -/
def subsecondNanos (span : Duration) : Nat :=
  span.nanoseconds % 1000000000

def millis (span : Duration) : Nat :=
  span.nanoseconds / 1000000

/-- No time at all. -/
def isZero (span : Duration) : Bool :=
  span.nanoseconds == 0

end Duration

end MessageRouting
