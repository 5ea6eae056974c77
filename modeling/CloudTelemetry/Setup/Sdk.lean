import CloudTelemetry.Span.Attributes

/-!
# The SDK

`Sdk` is what is used of the SDK that the library extends, of any version. `Sdk.documented` is one
that does what it is documented to do. A resource of its keeps its values from being changed: a
sequence becomes a tuple, and the keys of a mapping become text. What stands under a key that does
not count as present is left out, and of entries whose keys become the same text the last one
stands. A service without a name is called unknown.
-/

namespace CloudTelemetry

structure Sdk where
  agent : Agent
  /-- the attributes of a resource that is made of some -/
  resource : Fields Value → Fields Value
  /-- refuses times of a reader of metrics, in milliseconds: between exports, and for one export -/
  checkReader : Value → Value → Except Defect Unit

def serviceNameKey : String := "service.name"

def serviceVersionKey : String := "service.version"

namespace Value

mutual

def kept : Value → Value
  | .list items => .tuple (keptItems items)
  | .tuple items => .tuple (keptItems items)
  | .map entries => mapping (keptEntries entries)
  | v => v

def keptItems : List Value → List Value
  | [] => []
  | item :: rest => kept item :: keptItems rest

def keptEntries : List (Value × Value) → List (Value × Value)
  | [] => []
  | (key, value) :: rest =>
    if key.isPresent then (.ofGlyphs key.written, kept value) :: keptEntries rest
    else keptEntries rest

end

end Value

namespace Sdk

def unknownService : Value := .text "unknown_service"

def keptAttribute (entry : String × Value) : String × Value :=
  (entry.1, if entry.1 = serviceNameKey then entry.2.kept.orElse unknownService else entry.2.kept)

/-- Metrics are read at intervals of some length. -/
def checkInterval (interval : Value) : Except Defect Unit :=
  match interval.place? with
  | none => .error .wrongKind
  | some place => if place.le (.ratio 0 1) then .error .badValue else .ok ()

def documented (agent : Agent) : Sdk where
  agent := agent
  resource attributes := .ofList (attributes.entries.map keptAttribute)
  checkReader interval _ := checkInterval interval

end Sdk

end CloudTelemetry
