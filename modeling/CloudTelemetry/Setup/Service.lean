import CloudTelemetry.Config.Data
import CloudTelemetry.Setup.Sdk

/-!
# The service

What a configuration says of the service that produces the telemetry, as the resource of what is
sent.
-/

namespace CloudTelemetry.Config

def serviceAttributes (config : Config) : Fields Value :=
  let version :=
    if config.serviceVersion.isPresent then [(serviceVersionKey, config.serviceVersion)] else []
  .ofList ((serviceNameKey, config.serviceName) :: version)

def resource (config : Config) (sdk : Sdk) : Fields Value := sdk.resource config.serviceAttributes

end CloudTelemetry.Config
