import ChannelGate.Credential
import ChannelGate.Error
import ChannelGate.Json.Reader
import ChannelGate.Trace

set_option autoImplicit false

namespace ChannelGate

inductive Action where
  | read
  | write
  deriving DecidableEq

namespace Action

def name : Action → String
  | .read => "read"
  | .write => "write"

def ofName? (name : String) : Option Action :=
  if name = "read" then some .read else if name = "write" then some .write else none

/-- The action of a JSON value: its name, or an object with the name as the only key and nothing
under it. -/
def ofJson? : Json → Option Action
  | .string name => ofName? name
  | .object [(name, .null)] => ofName? name
  | _ => none

def toJson (action : Action) : Json := .string action.name

def decode? (text : String) : Option Action := (Json.read? text).bind ofJson?

end Action

/-- May `subject` do `action` with the channel `object`? -/
structure Request where
  subject : String
  object : String
  action : Action
  deriving DecidableEq

/-- Answers who presents a credential, and which requests are allowed. -/
structure Policy (σ : Type) where
  identify : Credential → Run σ (Except PolicyError String)
  authorize : Request → Run σ (Except PolicyError Bool)

/-- The policy on one part of a state. -/
def Policy.zoom {σ τ : Type} (policy : Policy τ) (get : σ → τ) (set : τ → σ → σ) : Policy σ where
  identify credential := Run.zoom get set (policy.identify credential)
  authorize request := Run.zoom get set (policy.authorize request)

end ChannelGate
