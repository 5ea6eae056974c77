import CloudTelemetry.Export.Action

/-!
# Stand-ins

A `Standin` takes the place of an exporter that could not be set up. It drops every batch and says
that all is well until it is shut down.
-/

namespace CloudTelemetry

structure Standin where
  lifecycle : Lifecycle
deriving DecidableEq, Repr

namespace Standin

def initial : Standin := ⟨.initial⟩

def state (s : Standin) : ExporterState := s.lifecycle.state

def exportBatch (s : Standin) : ExportResult :=
  if s.lifecycle.isShutdown then .failure else .success

def forceFlush (s : Standin) : Bool := !s.lifecycle.isShutdown

/-- Shuts down; the stand-in for an exporter of spans takes no limit. -/
def shutdown (s : Standin) (signal : Signal) (millis : Option Value) : Except Failure Standin :=
  match signal, millis with
  | .trace, some _ => fails .wrongKind
  | _, _ => .ok ⟨s.lifecycle.shutDown.2⟩

end Standin

end CloudTelemetry
