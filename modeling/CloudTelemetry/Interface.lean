import CloudTelemetry.Span.Attributes

/-!
# The public interface

What the library offers under which names. `Interface.lookup` finds a name, `Interface.names` lists
those that are meant for use.
-/

namespace CloudTelemetry.Interface

def libraryName : String := "gcpotel"

/-- What is found under a name: a text, or a thing of which only the kind is told. -/
inductive Offering where
  | text (s : String)
  | thing (kind : String)
deriving DecidableEq, Repr

def offerings : List (String × Offering) := [
  ("ConfigurationError", .thing "type"),
  ("__version__", .text libraryVersion),
  ("init", .thing "function"),
  ("is_configured", .thing "function"),
  ("shutdown", .thing "function")]

def description : String :=
  "Google Cloud exporters for OpenTelemetry Python.\n\n" ++
    "Sends OpenTelemetry metrics to Cloud Monitoring and spans to Cloud Trace:\n\n" ++
    "    import " ++ libraryName ++ "\n" ++
    "    " ++ libraryName ++ ".init(\"/path/to/" ++ libraryName ++ ".yaml\")\n"

/-- What is found besides: the parts of the library, and what they are put together by. -/
def internals : List (String × Offering) := [
  ("__doc__", .text description),
  ("_internal", .thing "module"),
  ("api", .thing "module"),
  ("exceptions", .thing "module"),
  ("exporters", .thing "module"),
  ("resource_mapping", .thing "module"),
  ("sdk", .thing "module"),
  ("annotations", .thing "_Feature"),
  ("__all__", .thing "list"),
  ("__dir__", .thing "function"),
  ("__getattr__", .thing "function")]

def names : List String := offerings.map Prod.fst

/-- What is found under a name, where `inherited` is what every library has. -/
def lookup (inherited : List (String × Offering)) (name : String) : Option Offering :=
  (offerings ++ internals ++ inherited).lookup name

def Offering.shown : Offering → String
  | .text s => s
  | .thing kind => kind

def unknownName (name : String) : String :=
  "module '" ++ libraryName ++ "' has no attribute '" ++ name ++ "'"

end CloudTelemetry.Interface
