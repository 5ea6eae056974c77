import CloudTelemetry.Log
import CloudTelemetry.Setup.Sdk

/-!
# Events of a setup

What can be seen while exporters are set up and taken down: the log, and what is asked of the
cloud. `Cloud` says how the cloud answers, and with which SDK it is spoken to.
-/

namespace CloudTelemetry

inductive CredentialSource where
  | ambient
  | file (path : Value)

def cloudScope : String := "https://www.googleapis.com/auth/cloud-platform"

inductive SetupEvent where
  | log (entry : LogEntry)
  | credentialsSought (source : CredentialSource) (scopes : List String)
  | connecting (signal : Signal) (source : CredentialSource)
  | connected (signal : Signal)
  | closed (signal : Signal)
  | takenDown (signal : Signal) (serial : Nat)

abbrev Setup := Report SetupEvent

/-- How the cloud answers: with the project of the credentials, and with a connection. -/
structure Cloud where
  ambient : Except Incident Value
  file : Except Incident Value
  connection : Except Incident Unit
  sdk : Sdk

def Cloud.credentials (cloud : Cloud) : CredentialSource → Except Incident Value
  | .ambient => cloud.ambient
  | .file _ => cloud.file

namespace Setup

def ofLogging {α : Type} (r : Report LogEntry α) : Setup α := r.mapEvents .log

def log (entry : LogEntry) : Setup Unit := .tell (.log entry)

@[simp] theorem outcome_log (entry : LogEntry) : (log entry).outcome = .ok () := rfl

end Setup

end CloudTelemetry
