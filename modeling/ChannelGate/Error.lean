set_option autoImplicit false

namespace ChannelGate

/-- A message bus refused an operation, or a message handler failed. -/
inductive BusError where
  | publish (reason : String)
  | subscribe (reason : String)
  | notSubscribed (id topic : String)
  | handler (reason : String)
  | closed
  deriving DecidableEq

def BusError.message : BusError → String
  | .publish reason => "publish failed: " ++ reason
  | .subscribe reason => "subscription failed: " ++ reason
  | .notSubscribed id topic => "not subscribed to topic " ++ topic ++ " with id " ++ id
  | .handler reason => "message handler failed: " ++ reason
  | .closed => "publisher is closed"

inductive PolicyError where
  /-- No entity has the presented secret. -/
  | notFound
  | unavailable (reason : String)
  | invalidDefinition (reason : String)
  deriving DecidableEq

def PolicyError.message : PolicyError → String
  | .notFound => "entity not found"
  | .unavailable reason => "policy service unavailable: " ++ reason
  | .invalidDefinition reason => "invalid policy definition: " ++ reason

/-- An event could not be encoded or stored. Time limits are in milliseconds. -/
inductive EventError where
  | encode (reason : String)
  | store (reason : String)
  | probeTimeout (limit : Nat)
  | writeTimeout (limit : Nat)
  | settings (reason : String)
  | closed
  deriving DecidableEq

def EventError.message : EventError → String
  | .encode reason => "failed to encode event: " ++ reason
  | .store reason => "event store error: " ++ reason
  | .probeTimeout limit => "event store probe timed out after " ++ toString limit ++ " ms"
  | .writeTimeout limit => "event store write timed out after " ++ toString limit ++ " ms"
  | .settings reason => "invalid event publisher settings: " ++ reason
  | .closed => "event publisher is closed"

inductive ConfigError where
  | invalidValue (key value reason : String)
  | invalid (reason : String)
  deriving DecidableEq

def ConfigError.message : ConfigError → String
  | .invalidValue key value reason => "Invalid " ++ key ++ " value '" ++ value ++ "': " ++ reason
  | .invalid reason => reason

inductive StartupError where
  | config (cause : ConfigError)
  | policy (cause : PolicyError)
  | events (cause : EventError)
  deriving DecidableEq

def StartupError.message : StartupError → String
  | .config cause => cause.message
  | .policy cause => cause.message
  | .events cause => cause.message

/-- What a session was doing when it failed. -/
inductive Operation where
  | connect
  | publish
  | subscribe
  | unsubscribe
  | disconnect
  | parseSubtopic
  deriving DecidableEq

def Operation.message : Operation → String
  | .connect => "failed to connect"
  | .publish => "failed to publish"
  | .subscribe => "failed to subscribe"
  | .unsubscribe => "failed to unsubscribe"
  | .disconnect => "failed to disconnect"
  | .parseSubtopic => "failed to parse subtopic"

inductive GatewayError where
  | clientNotInitialized
  | missingClientId
  /-- A publish without a topic. -/
  | missingTopicPub
  /-- A subscription without topics. -/
  | missingTopicSub
  | malformedTopic
  | malformedSubtopic
  | authentication
  | authorization
  | broker (cause : BusError)
  /-- An operation failed because of another error. -/
  | failed (op : Operation) (cause : GatewayError)
  deriving DecidableEq

namespace GatewayError

def message : GatewayError → String
  | .clientNotInitialized => "client is not initialized"
  | .missingClientId => "client_id not found"
  | .missingTopicPub => "failed to publish due to missing topic"
  | .missingTopicSub => "failed to subscribe due to missing topic"
  | .malformedTopic => "malformed topic"
  | .malformedSubtopic => "malformed subtopic"
  | .authentication => "failed to perform authentication over the entity"
  | .authorization => "failed to perform authorization over the entity"
  | .broker cause => "failed to publish to message broker: " ++ cause.message
  | .failed op cause => op.message ++ ": " ++ cause.message

def rootCause : GatewayError → GatewayError
  | .failed _ cause => cause.rootCause
  | error => error

/-- The chain is `other` or has it inside. -/
def contains (error other : GatewayError) : Bool :=
  error = other ||
    match error with
    | .failed _ cause => cause.contains other
    | _ => false

/-- The operations of a chain, outermost first. -/
def operations : GatewayError → List Operation
  | .failed op cause => op :: cause.operations
  | _ => []

end GatewayError

end ChannelGate
