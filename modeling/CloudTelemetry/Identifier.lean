import CloudTelemetry.Text.Quoted

/-!
# Trace and span identifiers

Identifiers are integers that are written in lower-case hexadecimal digits of a fixed width, 32
for a trace and 16 for a span. `spanName` is the name of a span within its project; metrics and
spans refer to a span by the same name.
-/

namespace CloudTelemetry

structure SpanContext where
  traceId : Int
  spanId : Int
deriving DecidableEq, Repr

namespace SpanContext

/-- Both identifiers are positive and fit their width, 128 and 64 bits. -/
def isValid (context : SpanContext) : Bool :=
  0 < context.traceId && context.traceId < 0x100000000000000000000000000000000 &&
    0 < context.spanId && context.spanId < 0x10000000000000000

end SpanContext

/-- The hexadecimal digits of an integer, padded to `width`, of which a minus takes one. -/
def hexId (width : Nat) (id : Int) : String :=
  String.ofList <|
    if id < 0 then '-' :: Text.hexPadded (width - 1) id.natAbs
    else Text.hexPadded width id.natAbs

def hexTraceId (id : Int) : String := hexId 32 id

def hexSpanId (id : Int) : String := hexId 16 id

def projectName (project : String) : String := "projects/" ++ project

def spanName (project : String) (context : SpanContext) : String :=
  projectName project ++ "/traces/" ++ hexTraceId context.traceId ++
    "/spans/" ++ hexSpanId context.spanId

end CloudTelemetry
