import ChannelGate.Bus.Basic
import ChannelGate.Credential
import ChannelGate.Event.Sink
import ChannelGate.Policy.Request
import ChannelGate.Topic

set_option autoImplicit false

namespace ChannelGate

/-- A point of a session, with what the session brings along. -/
inductive Hook where
  | authConnect (session : Option Session)
  | authPublish (session : Option Session) (topic : Option String) (payload : List UInt8)
  | authSubscribe (session : Option Session) (topics : Option (List String))
  | connect (session : Option Session)
  | publish (session : Option Session) (topic : String) (payload : List UInt8)
  | subscribe (session : Option Session) (topics : List String)
  | unsubscribe (session : Option Session) (topics : List String)
  | disconnect (session : Option Session)
  deriving DecidableEq

def Hook.session? : Hook → Option Session
  | .authConnect session => session
  | .authPublish session _ _ => session
  | .authSubscribe session _ => session
  | .connect session => session
  | .publish session _ _ => session
  | .subscribe session _ => session
  | .unsubscribe session _ => session
  | .disconnect session => session

/-- Everybody that the gateway works with. -/
structure Gateway (σ : Type) where
  instanceId : String
  policy : Policy σ
  sinks : List (MessageSink σ)
  events : EventSink σ

/-- A part of a hook, which may end it with an error. -/
abbrev HookPart (σ : Type) := ExceptT GatewayError (Run σ)

namespace Gateway

variable {σ : Type}

/-- The session of an operation that is to be allowed: there is one, and it has an id. -/
def authSession (session : Option Session) : Except GatewayError Session :=
  match session with
  | none => .error .clientNotInitialized
  | some session => if session.id = "" then .error .missingClientId else .ok session

/-- The session of an operation that happens: there is one. -/
def hookSession (op : Operation) (session : Option Session) : Except GatewayError Session :=
  match session with
  | none => .error (.failed op .clientNotInitialized)
  | some session => .ok session

def note (level : Level) (message : String) (fields : Data) : HookPart σ Unit :=
  ExceptT.lift (Run.log level message fields)

def identify (gateway : Gateway σ) (session : Session) : HookPart σ String := do
  match ← gateway.policy.identify session.credential with
  | .ok subject =>
    if subject = "" then
      note .warn "Policy client resolved an empty identity" [("client_id", .text session.id)]
      throw .authentication
    return subject
  | .error e =>
    note .warn "Failed to identify client"
      [("client_id", .text session.id), ("credential", .text session.credential.shortFingerprint),
        ("error", .text e.message)]
    throw .authentication

def authorize (gateway : Gateway σ) (session : Session) (request : Request) : HookPart σ Unit := do
  let fields : Data :=
    [("client_id", .text session.id), ("channel", .text request.object),
      ("action", .text request.action.name)]
  match ← gateway.policy.authorize request with
  | .ok true => return
  | .ok false =>
    note .info "Access denied" fields
    throw .authorization
  | .error e =>
    note .warn "Failed to authorize client" (fields ++ [("error", .text e.message)])
    throw .authorization

/-- Makes sure that a session may read from the channel of each topic. Who it is is asked at the
first topic that parses, and once only. -/
def authorizeEach (gateway : Gateway σ) (session : Session) :
    Option String → List String → HookPart σ Unit
  | _, [] => return
  | subject?, topic :: rest => do
    let route ← (Topic.parse topic : Except GatewayError Topic.Route)
    let subject ← match subject? with
      | some subject => pure subject
      | none => gateway.identify session
    gateway.authorize session ⟨subject, route.channel, .read⟩
    gateway.authorizeEach session (some subject) rest

/-- Tells about a connect or disconnect. An error is only logged. -/
def announce (gateway : Gateway σ) (event : Lifecycle) : HookPart σ Unit := do
  match ← gateway.events event.toEvent with
  | .ok () => return
  | .error e =>
    note .warn "Failed to publish lifecycle event"
      [("client_id", .text event.clientId), ("operation", .text event.operation),
        ("error", .text e.message)]

/-- Hands a message to every sink, whatever the others answer. The first error is the answer, later
ones are logged. -/
def fanOut (message : RoutedMessage) :
    Option BusError → List (MessageSink σ) → HookPart σ Unit
  | none, [] => return
  | some e, [] => throw (.failed .publish (.broker e))
  | first?, sink :: rest => do
    match ← sink message, first? with
    | .ok (), _ => fanOut message first? rest
    | .error e, none => fanOut message (some e) rest
    | .error e, some first =>
      note .warn "Additional bus publisher failed"
        [("client_id", .text message.publisher), ("channel", .text message.channel),
          ("error", .text e.message)]
      fanOut message (some first) rest

/-- A session wants to connect: its credential has to be that of its principal. -/
def authConnect (gateway : Gateway σ) (session : Option Session) : HookPart σ Unit := do
  let session ← authSession session
  let subject ← gateway.identify session
  if subject ≠ session.principal then
    note .warn "Credential does not belong to the claimed principal"
      [("client_id", .text session.id), ("principal", .text session.principal)]
    throw .authentication
  gateway.announce ⟨.connect, session.id, gateway.instanceId⟩

/-- A session wants to publish: its subject has to be allowed to write to the channel. -/
def authPublish (gateway : Gateway σ) (session : Option Session) (topic : Option String) :
    HookPart σ Unit := do
  let session ← authSession session
  match topic with
  | none => throw .missingTopicPub
  | some topic =>
    let route ← (Topic.parse topic : Except GatewayError Topic.Route)
    let subject ← gateway.identify session
    gateway.authorize session ⟨subject, route.channel, .write⟩

/-- A session wants to subscribe: its subject has to be allowed to read from every channel. -/
def authSubscribe (gateway : Gateway σ) (session : Option Session) (topics : Option (List String)) :
    HookPart σ Unit := do
  let session ← authSession session
  match topics with
  | none => throw .missingTopicSub
  | some topics => gateway.authorizeEach session none topics

def publish (gateway : Gateway σ) (session : Option Session) (topic : String)
    (payload : List UInt8) (created : Int64) : HookPart σ Unit := do
  let session ← hookSession .publish session
  note .info
    ("published with client_id " ++ session.id ++ " to the topic " ++ topic) []
  let parts ← (Topic.split topic).mapError (GatewayError.failed .publish)
  let subtopic ← (Topic.subtopic parts.trailer).mapError (GatewayError.failed .parseSubtopic)
  fanOut (.new parts.channel subtopic session.id payload created) none gateway.sinks

def listed (topics : List String) : String := String.intercalate ", " topics

/-- What the gateway does at a hook; a message is stamped with `created`. -/
def steps (gateway : Gateway σ) (created : Int64) : Hook → HookPart σ Unit
  | .authConnect session => gateway.authConnect session
  | .authPublish session topic _ => gateway.authPublish session topic
  | .authSubscribe session topics => gateway.authSubscribe session topics
  | .connect session => do
    let session ← hookSession .connect session
    note .info ("connected with client_id " ++ session.id) []
  | .publish session topic payload => gateway.publish session topic payload created
  | .subscribe session topics => do
    let session ← hookSession .subscribe session
    note .info
      ("subscribed with client_id " ++ session.id ++ " to topics " ++ listed topics) []
  | .unsubscribe session topics => do
    let session ← hookSession .unsubscribe session
    note .info
      ("unsubscribed client_id " ++ session.id ++ " from topics " ++ listed topics) []
  | .disconnect session => do
    let session ← hookSession .disconnect session
    note .info
      ("disconnected client_id " ++ session.id ++ " and username " ++ session.principal) []
    gateway.announce ⟨.disconnect, session.id, gateway.instanceId⟩

def perform (gateway : Gateway σ) (created : Int64) (hook : Hook) :
    Run σ (Except GatewayError Unit) :=
  (gateway.steps created hook).run

end Gateway

end ChannelGate
