/-
# Errors

Everything that can go wrong between a caller and the broker. A configuration
error names its cause, and an address its fault: an address has one of the form
`scheme:rest`, and where it names an authority the authority has a host, perhaps
after user information and before a port. The wording of an error is one
function, `Error.message`.
-/
import MessageBus.Inspect
import MessageBus.Json.Problem

namespace MessageBus

/-- Why a text is no address. -/
inductive AddressFault
  | relative
  | emptyHost
  | badPort
  | badIpv4
  | badIpv6
  | badHostCharacter
  | badInternationalName
  deriving DecidableEq

def AddressFault.message : AddressFault → String
  | .relative => "relative URL without a base"
  | .emptyHost => "empty host"
  | .badPort => "invalid port number"
  | .badIpv4 => "invalid IPv4 address"
  | .badIpv6 => "invalid IPv6 address"
  | .badHostCharacter => "invalid domain character"
  | .badInternationalName => "invalid international domain name"

/-- What is wrong with a configuration. -/
inductive Misconfiguration
  | malformedSegment (segment : String)
  | badEndpoint (endpoint : String) (fault : AddressFault)
  | hostlessEndpoint (endpoint : String)
  | missingEndpoint
  | badSettings (problem : Json.Problem)
  | missingHost
  | missingCredentials
  | emptyKeyPair
  | unboundProducer
  | boundProducer
  | reported (text : String)
  deriving DecidableEq

def Misconfiguration.message : Misconfiguration → String
  | .malformedSegment segment => "malformed connection string segment `" ++ segment ++ "`"
  | .badEndpoint endpoint fault => "invalid endpoint `" ++ endpoint ++ "`: " ++ fault.message
  | .hostlessEndpoint endpoint => "endpoint `" ++ endpoint ++ "` has no host"
  | .missingEndpoint => "connection string does not contain an Endpoint"
  | .badSettings problem => "invalid settings: " ++ problem.message
  | .missingHost => "host cannot be empty for a service bus connection factory"
  | .missingCredentials =>
    "authentication settings cannot be empty for a service bus connection factory"
  | .emptyKeyPair => "shared access key name and key cannot be empty"
  | .unboundProducer => "producer has no destination, use send_to"
  | .boundProducer => "producer is bound to a destination, use send"
  | .reported text => text

/-- Why an operation failed. -/
inductive Error
  /-- A setting is missing or malformed. -/
  | configuration (cause : Misconfiguration)
  /-- The custom user agent has more than `limit` characters. -/
  | userAgentTooLong (limit : Nat)
  /-- A reference lacks a property that its kind needs. -/
  | requiredProperty (kind property : String)
  /-- An object that should be a reference is none. -/
  | notAReference
  /-- No constructor is registered for a kind. -/
  | unknownKind (kind : String)
  /-- A reference decodes to an object of another type. -/
  | kindMismatch (kind : String)
  /-- The client library reports a failure. -/
  | client (text : String)
  /-- A credential gives no token. -/
  | credential (text : String)
  deriving DecidableEq

namespace Error

def message : Error → String
  | .configuration cause => "invalid configuration: " ++ cause.message
  | .userAgentTooLong limit =>
    "the length of the custom user agent cannot exceed " ++ toString limit
  | .requiredProperty kind property =>
    "An instance of " ++ kind ++ " must have a valid value for its '" ++ property ++ "' property."
  | .notAReference => "object is not a reference"
  | .unknownKind kind => "no storable kind registered for `" ++ kind ++ "`"
  | .kindMismatch kind => "reference `" ++ kind ++ "` does not decode to the requested type"
  | .client text => "client error: " ++ text
  | .credential text => "failure to acquire token: " ++ text

def kindName : Error → String
  | .configuration _ => "Configuration"
  | .userAgentTooLong _ => "UserAgentTooLong"
  | .requiredProperty .. => "RequiredProperty"
  | .notAReference => "NotAReference"
  | .unknownKind _ => "UnknownKind"
  | .kindMismatch _ => "KindMismatch"
  | .client _ => "Client"
  | .credential _ => "Credential"

instance : Inspect Error :=
  ⟨fun e => match e with
    | .configuration cause => Inspect.variant e.kindName (inspect cause.message)
    | .userAgentTooLong limit => Inspect.record e.kindName [("max", inspect limit)]
    | .requiredProperty kind property =>
      Inspect.record e.kindName [("kind", inspect kind), ("property", inspect property)]
    | .notAReference => e.kindName
    | .unknownKind kind => Inspect.variant e.kindName (inspect kind)
    | .kindMismatch kind => Inspect.variant e.kindName (inspect kind)
    | .client text => Inspect.variant e.kindName (inspect text)
    | .credential text => Inspect.variant e.kindName (inspect text)⟩

end Error
end MessageBus
