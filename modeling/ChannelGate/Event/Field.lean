import ChannelGate.Error
import ChannelGate.Number.Shortest

set_option autoImplicit false

namespace ChannelGate

inductive FieldValue where
  | text (value : String)
  | int (value : Int64)
  | uint (value : UInt64)
  | float (value : Number.Binary64)
  | bool (value : Bool)
  deriving DecidableEq

namespace FieldValue

def boolText (value : Bool) : String := if value then "true" else "false"

def display : FieldValue → String
  | .text value => value
  | .int value => toString value.toInt
  | .uint value => toString value.toNat
  | .float value => Number.Layout.plain.text value
  | .bool value => boolText value

/-- The value as a command argument: as it is shown, except that a number with a fraction has the
compact layout. -/
def argument : FieldValue → String
  | .float value => Number.Layout.compact.text value
  | value => value.display

end FieldValue

/-- The fields of an event: names in ascending order, each once. -/
abbrev Fields := List (String × FieldValue)

def Fields.insert (fields : Fields) (name : String) (value : FieldValue) : Fields :=
  match fields with
  | [] => [(name, value)]
  | (other, kept) :: rest =>
    if name = other then (name, value) :: rest
    else if name < other then (name, value) :: (other, kept) :: rest
    else (other, kept) :: Fields.insert rest name value

/-- The fields of a list of names and values, a later value in place of an earlier one. -/
def Fields.ofList (entries : List (String × FieldValue)) : Fields :=
  entries.foldl (fun fields entry => fields.insert entry.1 entry.2) []

/-- The name of the field that holds the time of sending. -/
def occurredAt : String := "occurred_at"

/-- One entry for a stream, which is cut to about `maxLen` entries. -/
structure Record where
  stream : String
  maxLen : Nat
  fields : Fields
  deriving DecidableEq

/-- Something that happened: its name, and its fields if it can be encoded. -/
structure Event where
  operation : String
  encoding : Except EventError Fields

inductive LifecycleKind where
  | connect
  | disconnect
  deriving DecidableEq

def LifecycleKind.name : LifecycleKind → String
  | .connect => "connect"
  | .disconnect => "disconnect"

/-- A client connected to or disconnected from a gateway instance. -/
structure Lifecycle where
  kind : LifecycleKind
  clientId : String
  instanceId : String
  deriving DecidableEq

namespace Lifecycle

def operation (event : Lifecycle) : String := "mqtt." ++ event.kind.name

/-- The fields of the event; a client needs an id. -/
def encode (event : Lifecycle) : Except EventError Fields :=
  if event.clientId = "" then .error (.encode "lifecycle event requires a client_id")
  else
    .ok (Fields.ofList [("operation", .text event.operation), ("client_id", .text event.clientId),
      ("instance", .text event.instanceId)])

def toEvent (event : Lifecycle) : Event := ⟨event.operation, event.encode⟩

end Lifecycle

end ChannelGate
