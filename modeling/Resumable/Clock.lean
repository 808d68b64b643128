/-!
# Instants and durations

Time is counted in whole microseconds, in 64-bit words. A duration is never negative: from a later
instant to an earlier one no time passes.
-/

namespace Resumable

/-- A moment, in microseconds since the start. -/
structure Instant where
  micros : UInt64
deriving DecidableEq, Ord

/-- A length of time, in microseconds. -/
structure Duration where
  micros : UInt64
deriving DecidableEq

namespace Duration

def zero : Duration :=
  ⟨0⟩

/-- A length of time from seconds and nanoseconds; parts of a microsecond are dropped, and the
microseconds wrap around at the size of a word. -/
def ofParts (secs nanos : Nat) : Duration :=
  ⟨UInt64.ofNat (secs * 1000000 + nanos / 1000)⟩

def secs (duration : Duration) : Nat :=
  duration.micros.toNat / 1000000

/-- The nanoseconds after the whole seconds. -/
def subsecNanos (duration : Duration) : Nat :=
  duration.micros.toNat % 1000000 * 1000

def text (duration : Duration) : String :=
  toString duration.micros.toNat ++ "us"

end Duration

namespace Instant

/-- The moment a number of virtual milliseconds after the start. -/
def ofMillis (ms : Nat) : Instant :=
  ⟨UInt64.ofNat (1000 * ms)⟩

/-- The time that passes from one moment to another, none if the other is earlier. -/
def durationTo (start finish : Instant) : Duration :=
  if start.micros ≤ finish.micros then ⟨finish.micros - start.micros⟩ else .zero

end Instant

end Resumable
