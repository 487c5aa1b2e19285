import ServerConnections.Json.Form
import ServerConnections.Json.Print

/-!
# Options

What can be tuned: how cloud servers are recognised, how servers are probed, and
the service that secrets are kept under. Every option has a default, so an empty
object is a complete options file.
-/

namespace ServerConnections

/-- The tunable values. -/
structure Options where
  /-- What the host name of a cloud server contains. -/
  cloudDomain : String
  /-- The path that is asked for when a server is probed. -/
  healthEndpoint : String
  /-- How long a probe may take, in seconds. -/
  probeTimeout : Nat
  /-- The service that secrets are kept under. -/
  keychainService : String
deriving DecidableEq, Repr, Inhabited

namespace Options

/-- The host part that marks the cloud service. -/
def defaultCloudDomain : String := "codescan.io"

/-- The path of the health report. -/
def defaultHealthEndpoint : String := "/_codescan/actuator/health"

/-- The seconds that a probe may take. -/
def defaultProbeTimeout : Nat := 10

/-- The service that secrets are kept under. -/
def defaultKeychainService : String := "com.codescan.connected"

/-- The defaults. -/
def defaults : Options :=
  ⟨defaultCloudDomain, defaultHealthEndpoint, defaultProbeTimeout, defaultKeychainService⟩

/-- The seconds that a probe may take. Zero is taken for one, so that a probe
always ends. -/
def effectiveTimeout (o : Options) : Nat := max o.probeTimeout 1

/-- The fields in the order in which an array gives them. -/
def fields : List (Json.Field Options) :=
  [.of "cloudDomain" .text fun x o => { o with cloudDomain := x },
    .of "healthEndpoint" .text fun x o => { o with healthEndpoint := x },
    .of "probeTimeoutSecs" .count fun x o => { o with probeTimeout := x },
    .of "keychainService" .text fun x o => { o with keychainService := x }]

/-- Every option has a default. -/
def record : Json.Record Options Options := ⟨fields, defaults, some⟩

/-- Options are given by their fields. -/
def form : Json.Form Options := record.form

/-- Reads a text that holds options. -/
def parse (text : String) : Except Json.Fault Options := form.parse text

/-- The options as a JSON value. -/
def toValue (o : Options) : Json.Value :=
  .object [("cloudDomain", .text o.cloudDomain), ("healthEndpoint", .text o.healthEndpoint),
    ("probeTimeoutSecs", .number (.int o.probeTimeout)),
    ("keychainService", .text o.keychainService)]

end Options

end ServerConnections
