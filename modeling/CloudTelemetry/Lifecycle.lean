import CloudTelemetry.Value.Number

/-!
# The life of an exporter

A `Lifecycle` counts the exports in flight and knows whether the exporter is shut down. Once it
is, no export begins. The count is an integer: an export that ends twice leaves it negative, and
the exporter then counts as exporting.
-/

namespace CloudTelemetry

inductive ExporterState where
  | ready
  | exporting
  | shutdown
deriving DecidableEq, Repr

def ExporterState.name : ExporterState → String
  | .ready => "ready"
  | .exporting => "exporting"
  | .shutdown => "shutdown"

/-- The exports in flight, and whether the exporter is shut down. -/
structure Lifecycle where
  inFlight : Int
  isShutdown : Bool
deriving DecidableEq, Repr

namespace Lifecycle

def initial : Lifecycle := ⟨0, false⟩

def isIdle (l : Lifecycle) : Bool := l.inFlight == 0

def state (l : Lifecycle) : ExporterState :=
  if l.isShutdown then .shutdown else if l.isIdle then .ready else .exporting

/-- An export asks to begin; after a shutdown it is refused. -/
def beginExport (l : Lifecycle) : Bool × Lifecycle :=
  if l.isShutdown then (false, l) else (true, { l with inFlight := l.inFlight + 1 })

def endExport (l : Lifecycle) : Lifecycle := { l with inFlight := l.inFlight - 1 }

/-- The exporter is shut down; true for the call that does it. -/
def shutDown (l : Lifecycle) : Bool × Lifecycle := (!l.isShutdown, { l with isShutdown := true })

end Lifecycle

/-! ### Waiting -/

inductive Patience where
  | unlimited
  | limited
  | none
  /-- longer than the clock can count: to wait that long is a defect -/
  | excessive
deriving DecidableEq, Repr

namespace Patience

/-- The longest time that the clock can count, in seconds. -/
def longest : Place := .ratio 9223372036854775 1000000

/-- The patience for a place among the seconds. A time without a place never runs out. -/
def ofPlace (place : Place) : Patience :=
  if place.le (.ratio 0 1) then .none
  else if longest.lt place then .excessive
  else if place.le longest then .limited
  else .unlimited

/-- The patience of a number of seconds; without one it has no limit. What is no number is
refused, and so is an integer beyond the range of the clock's numbers. -/
def ofSeconds : Value → Except Failure Patience
  | .null => .ok .unlimited
  | seconds => return ofPlace (← seconds.asDouble).place

def ofMillis (millis : Value) : Except Failure Patience := do
  ofSeconds (.float (← millis.quotient (.int 1000)))

end Patience

inductive Wait where
  | over (idle : Bool)
  /-- the exporter is busy; a timed wait ends by itself, any other only by the end of an export -/
  | blocked (timed : Bool)
  | refused (cause : Failure)

def Lifecycle.wait (l : Lifecycle) (patience : Patience) : Wait :=
  if l.isIdle then .over true
  else
    match patience with
    | .none => .over false
    | .limited => .blocked true
    | .unlimited => .blocked false
    | .excessive => .refused (.defect .outOfRange)

end CloudTelemetry
