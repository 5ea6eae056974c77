import CloudTelemetry.Value.Number

/-!
# Timestamps

`Timestamp.ofNanos`: an instant in nanoseconds since the epoch as whole seconds and the
nanoseconds after them. Seconds are rounded down, so the nanoseconds are never negative and
nothing is lost (`nanos_split`); seconds beyond 64 bits are refused.
-/

namespace CloudTelemetry

/-- Seconds since the epoch, and nanoseconds after them. -/
structure Timestamp where
  seconds : Int
  nanos : Int
deriving DecidableEq, Repr

namespace Timestamp

def nanosPerSecond : Int := 1000000000

theorem nanos_split (nanos : Int) :
    Int.fdiv nanos nanosPerSecond * nanosPerSecond + Int.fmod nanos nanosPerSecond = nanos := by
  rw [Int.mul_comm]
  exact Int.mul_fdiv_add_fmod nanos nanosPerSecond

def ofNanos (nanos : Int) : Except Failure Timestamp :=
  let seconds := Int.fdiv nanos nanosPerSecond
  if fitsInt64 seconds then .ok ⟨seconds, Int.fmod nanos nanosPerSecond⟩ else fails .badValue

/-- The timestamp of an instant that may be missing; a missing one is refused. -/
def ofNanos? : Option Int → Except Failure Timestamp
  | some nanos => ofNanos nanos
  | none => fails .wrongKind

end Timestamp

end CloudTelemetry
