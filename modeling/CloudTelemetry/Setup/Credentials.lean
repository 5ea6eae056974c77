import CloudTelemetry.Config.Data
import CloudTelemetry.Setup.Event

/-!
# Credentials and project

A file of credentials takes precedence over what the machine offers, and a configured project over
the project of the credentials. Without any project nothing can be sent.
-/

namespace CloudTelemetry

def Incident.Kind.blamesCredentials : Incident.Kind → Bool
  | .credentials => true
  | .system => true
  | .value => true
  | .api => false
  | .runtime => false

namespace Config

def credentialSource (config : Config) : CredentialSource :=
  if config.credentialsFile.isPresent then .file config.credentialsFile else .ambient

def detectProject (cloud : Cloud) (source : CredentialSource) : Setup Value := do
  .tell (.credentialsSought source [cloudScope])
  match cloud.credentials source with
  | .ok project => return project
  | .error cause =>
    if cause.kind.blamesCredentials then .fail (.configuration (.credentials (.incident cause)))
    else .fail (.incident cause)

def resolveProject (config : Config) (cloud : Cloud) : Setup Value := do
  let detected ← detectProject cloud config.credentialSource
  let project := config.project.orElse detected
  if project.isPresent then
    Setup.log (.projectResolved project)
    return project
  else .fail (.configuration .projectUnknown)

end Config

end CloudTelemetry
