import CloudTelemetry.Value.Written

/-!
# Failures

Why something did not come about, as causes. `Unsendable` is a record without a form in the
cloud's interface, `Misconfiguration` a setup that cannot work, `Incident` a failure that a
collaborator reports, `Defect` an operation on a value that it is not meant for. The wording is in
`Failure.message` alone; `Failure.kind` names the class to which a failure belongs.
-/

namespace CloudTelemetry

inductive Signal where
  | metrics
  | trace
deriving DecidableEq, Repr

/-- An operation met a value that it is not meant for. -/
inductive Defect where
  /-- a value of a kind for which the operation is not defined -/
  | wrongKind
  | badValue
  | outOfRange
  /-- a part was asked for that the value does not have -/
  | missingPart
  /-- a word that is not in the table in which it is looked up -/
  | unknownWord
  /-- a character of a text that has none -/
  | noCharacter
  /-- something that contains itself, or is nested too deep -/
  | tooDeep
  /-- a name or a path that is too long for a file -/
  | tooLong
  /-- something that may not be looked at -/
  | denied
  /-- half of a character where only whole ones have a form -/
  | halfCharacter
  | noText
deriving DecidableEq, Repr

def Defect.name : Defect → String
  | .wrongKind => "TypeError"
  | .badValue => "ValueError"
  | .outOfRange => "OverflowError"
  | .missingPart => "AttributeError"
  | .unknownWord => "KeyError"
  | .noCharacter => "IndexError"
  | .tooDeep => "RecursionError"
  | .tooLong => "OSError"
  | .denied => "PermissionError"
  | .halfCharacter => "UnicodeEncodeError"
  | .noText => "UnicodeDecodeError"

inductive Incident.Kind where
  | api
  | credentials
  | system
  | value
  | runtime
deriving DecidableEq, Repr

def Incident.Kind.name : Incident.Kind → String
  | .api => "GoogleAPIError"
  | .credentials => "DefaultCredentialsError"
  | .system => "OSError"
  | .value => "ValueError"
  | .runtime => "RuntimeError"

structure Incident where
  kind : Incident.Kind
  message : String
deriving DecidableEq, Repr

inductive Unsendable where
  | temporality (carrier name unsupported : String)
  | dataKind (name kind : String)
  | buckets (name : String) (counts bounds : Nat)
  | wideInteger (name part : String) (value : Value)
  | invalidContext (name : String)
  | notEnded (name : String)
deriving Repr

def Unsendable.message : Unsendable → Glyphs
  | .temporality carrier name unsupported =>
    carrier ++ " '" ++ name ++ "' uses unsupported aggregation temporality " ++ unsupported
  | .dataKind name kind => "Metric '" ++ name ++ "' has unsupported data type " ++ kind
  | .buckets name counts bounds =>
    "Histogram '" ++ name ++ "' has " ++ toString counts ++ " bucket counts for " ++
      toString bounds ++ " boundaries"
  | .wideInteger name part value =>
    "Metric '" ++ name ++ "' " ++ part ++ " " ++ value.written ++ " does not fit in int64"
  | .invalidContext name => "span '" ++ name ++ "' has an invalid span context"
  | .notEnded name => "span '" ++ name ++ "' has not ended"

inductive Problem where
  | noServiceName
  | deadline (seconds : Value)
  | interval
  | credentialsMissing (path : Value)
deriving Repr

/-- Calls wait at most this long, in seconds. -/
def longestDeadline : Nat := 600

def Problem.message : Problem → Glyphs
  | .noServiceName => "service.name is required"
  | .deadline seconds =>
    "deadline_seconds must be in (0, " ++ toString longestDeadline ++ "], got " ++ seconds.written
  | .interval => "metrics.export_interval_seconds must be positive"
  | .credentialsMissing path => "Credentials file not found: " ++ path.written

mutual

inductive Failure where
  | unsendable (cause : Unsendable)
  | registration (metricType : String) (cause : Failure)
  | transport (call : String) (message : String)
  | configuration (cause : Misconfiguration)
  | incident (cause : Incident)
  | defect (cause : Defect)

inductive Misconfiguration where
  | problem (cause : Problem)
  | problems (causes : List Problem)
  | variableUnset (name : Glyphs)
  | credentials (cause : Failure)
  | projectUnknown
  | setup (signal : Signal) (cause : Failure)
  | initialization (cause : Failure)
  | noSource
  | fileMissing (path : Glyphs)
  | unreadable (path : Glyphs)
  | notMapping (path : Glyphs)

end

def Signal.exporterName : Signal → String
  | .metrics => "Metric exporter"
  | .trace => "Span exporter"

def configPathVariable : String := "GCPOTEL_CONFIG_PATH"

def projectVariable : String := "GOOGLE_CLOUD_PROJECT"

mutual

def Failure.message : Failure → Glyphs
  | .unsendable cause => cause.message
  | .registration metricType cause =>
    "failed to register descriptor " ++ metricType ++ ": " ++ cause.message
  | .transport call message => call ++ " failed: " ++ message
  | .configuration cause => cause.message
  | .incident cause => cause.message
  | .defect cause => "<" ++ cause.name ++ ">"

def Misconfiguration.message : Misconfiguration → Glyphs
  | .problem cause => cause.message
  | .problems causes =>
    "Configuration validation failed: " ++ Glyphs.intercalate "; " (causes.map Problem.message)
  | .variableUnset name => "Environment variable '" ++ name ++ "' is not set"
  | .credentials cause => "Unable to load Google Cloud credentials: " ++ cause.message
  | .projectUnknown =>
    "Unable to determine the Google Cloud project id. Set project_id in the configuration or " ++
      "the " ++ projectVariable ++ " environment variable."
  | .setup signal cause => signal.exporterName ++ " setup failed: " ++ cause.message
  | .initialization cause => "SDK initialization failed: " ++ cause.message
  | .noSource =>
    "No configuration given: pass a Config or a YAML path to init(), or set " ++
      configPathVariable ++ "."
  | .fileMissing path => "Configuration file not found: " ++ path
  | .unreadable path => "Invalid YAML in " ++ path ++ ": <YAMLError>"
  | .notMapping path => "Configuration file " ++ path ++ " must contain a mapping"

end

namespace Failure

def kind : Failure → String
  | .unsendable _ => "TranslationError"
  | .registration _ _ => "RegistrationError"
  | .transport _ _ => "TransportError"
  | .configuration _ => "ConfigurationError"
  | .incident cause => cause.kind.name
  | .defect cause => cause.name

def hasMessage : Failure → Bool
  | .defect _ => false
  | _ => true

/-- Whether the failure concerns one record alone: the rest of its batch goes on. -/
def concernsRecord : Failure → Bool
  | .unsendable _ => true
  | .registration _ _ => true
  | _ => false

def isConfiguration : Failure → Bool
  | .configuration _ => true
  | _ => false

end Failure

end CloudTelemetry
