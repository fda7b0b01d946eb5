import ChannelGate.Json.Reader
import ChannelGate.Number.Digits

set_option autoImplicit false

namespace ChannelGate

/-- A message routed from a session; `created` is in nanoseconds since 1970. -/
structure RoutedMessage where
  channel : String
  subtopic : String
  publisher : String
  protocol : String
  payload : List UInt8
  created : Int64
  deriving DecidableEq

namespace RoutedMessage

/-- The protocol that every message of the gateway comes by. -/
def gatewayProtocol : String := "mqtt"

def new (channel subtopic publisher : String) (payload : List UInt8) (created : Int64) :
    RoutedMessage :=
  ⟨channel, subtopic, publisher, gatewayProtocol, payload, created⟩

/-- The subject that subscriptions are matched with. -/
def subject (message : RoutedMessage) : String :=
  if message.subtopic = "" then "channels." ++ message.channel
  else "channels." ++ message.channel ++ "." ++ message.subtopic

def toJson (message : RoutedMessage) : Json :=
  .object [("channel", .string message.channel), ("subtopic", .string message.subtopic),
    ("publisher", .string message.publisher), ("protocol", .string message.protocol),
    ("payload", .array (message.payload.map fun byte => .integer byte.toNat)),
    ("created", .integer message.created.toInt)]

def asText? : Json → Option String
  | .string value => some value
  | _ => none

def asByte? : Json → Option UInt8
  | .integer value => if 0 ≤ value ∧ value < 256 then some (.ofNat value.toNat) else none
  | _ => none

def asBytes? : Json → Option (List UInt8)
  | .array items => items.mapM asByte?
  | _ => none

def asTime? : Json → Option Int64
  | .integer value =>
    if -0x8000000000000000 ≤ value ∧ value < 0x8000000000000000 then some (.ofInt value) else none
  | _ => none

def ofValues? (channel subtopic publisher protocol payload created : Json) :
    Option RoutedMessage := do
  return ⟨← asText? channel, ← asText? subtopic, ← asText? publisher, ← asText? protocol,
    ← asBytes? payload, ← asTime? created⟩

def only? (members : List (String × Json)) (key : String) : Option Json :=
  match members.filter fun member => member.1 = key with
  | [member] => some member.2
  | _ => none

/-- The message of a JSON value: an object with each field once, other members aside, or the values
of all fields in order. -/
def ofJson? : Json → Option RoutedMessage
  | .object members => do
    ofValues? (← only? members "channel") (← only? members "subtopic")
      (← only? members "publisher") (← only? members "protocol") (← only? members "payload")
      (← only? members "created")
  | .array [channel, subtopic, publisher, protocol, payload, created] =>
    ofValues? channel subtopic publisher protocol payload created
  | _ => none

def encode (message : RoutedMessage) : String := message.toJson.text

def decode? (text : String) : Option RoutedMessage := (Json.read? text).bind ofJson?

end RoutedMessage

end ChannelGate
