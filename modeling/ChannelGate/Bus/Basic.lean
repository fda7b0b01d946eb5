import ChannelGate.Bus.Matching
import ChannelGate.Error
import ChannelGate.Message
import ChannelGate.Trace

set_option autoImplicit false

namespace ChannelGate

/-- Takes a message, or fails. -/
abbrev MessageSink (σ : Type) := RoutedMessage → Run σ (Except BusError Unit)

/-- What handlers do with a message, and when their subscription is over. -/
structure Handling (σ η : Type) where
  handle : η → MessageSink σ
  cancel : η → Run σ (Except BusError Unit)

structure PubSub (σ η : Type) where
  publish : MessageSink σ
  close : Run σ (Except BusError Unit)
  subscribe : String → String → η → Run σ (Except BusError Unit)
  unsubscribe : String → String → Run σ (Except BusError Unit)

/-- A handler with the topic and the id that it is registered under. -/
structure Subscription (η : Type) where
  topic : String
  id : String
  handler : η
  deriving DecidableEq

/-- The handlers of each topic under their ids, and whether the bus was closed. -/
structure Bus (η : Type) where
  topics : List (String × List (String × η))
  closed : Bool
  deriving DecidableEq

namespace Bus

variable {σ η : Type}

def empty : Bus η := ⟨[], false⟩

def put {α : Type} (key : String) (value : α) : List (String × α) → List (String × α)
  | [] => [(key, value)]
  | (other, before) :: rest =>
    if other = key then (key, value) :: rest else (other, before) :: put key value rest

def remove {α : Type} (key : String) (entries : List (String × α)) : List (String × α) :=
  entries.filter fun entry => entry.1 ≠ key

def size (bus : Bus η) : Nat := bus.topics.foldl (fun count entry => count + entry.2.length) 0

def subscriptions (bus : Bus η) : List (Subscription η) :=
  bus.topics.flatMap fun entry =>
    entry.2.map fun subscriber => ⟨entry.1, subscriber.1, subscriber.2⟩

def handler? (bus : Bus η) (id topic : String) : Option η :=
  (bus.topics.lookup topic).bind fun subscribers => subscribers.lookup id

/-- Registers a handler, in place of the one that its id and topic had. -/
def insert (bus : Bus η) (id topic : String) (handler : η) : Bus η :=
  { bus with
    topics := put topic (put id handler ((bus.topics.lookup topic).getD [])) bus.topics }

/-- Takes the handler of an id and a topic away, and with the last handler of a topic the topic. -/
def erase (bus : Bus η) (id topic : String) : Bus η :=
  match bus.topics.lookup topic with
  | none => bus
  | some subscribers =>
    let left := remove id subscribers
    { bus with
      topics := if left.isEmpty then remove topic bus.topics else put topic left bus.topics }

def receivers (bus : Bus η) (subject : String) : List η :=
  (bus.topics.filter fun entry => topicMatches entry.1 subject).flatMap
    fun entry => entry.2.map Prod.snd

def current : Run (Bus η × σ) (Bus η) := Run.onState fun state => (state.1, state)

def become (bus : Bus η) : Run (Bus η × σ) Unit := Run.onState fun state => ((), bus, state.2)

def elsewhere {α : Type} (body : Run σ α) : Run (Bus η × σ) α :=
  Run.zoom Prod.snd (fun part state => (state.1, part)) body

/-- Hands a message to handlers, one after the other. One that fails is only logged. -/
def deliver (handling : Handling σ η) (message : RoutedMessage) : List η → Run (Bus η × σ) Unit
  | [] => return
  | handler :: rest => do
    match ← elsewhere (handling.handle handler message) with
    | .ok () => pure ()
    | .error e =>
      Run.log .warn "Message handler failed"
        [("subject", .text message.subject), ("error", .text e.message)]
    deliver handling message rest

def publish (handling : Handling σ η) : MessageSink (Bus η × σ) := fun message => do
  let bus ← current
  if bus.closed then return .error .closed
  let handlers := bus.receivers message.subject
  Run.log .debug "Dispatching message"
    [("subject", .text message.subject), ("subscribers", .number handlers.length)]
  deliver handling message handlers
  return .ok ()

/-- Cancels handlers, one after the other. One that fails is only logged. -/
def cancelEach (handling : Handling σ η) : List η → Run (Bus η × σ) Unit
  | [] => return
  | handler :: rest => do
    match ← elsewhere (handling.cancel handler) with
    | .ok () => pure ()
    | .error e => Run.log .warn "Failed to cancel handler on close" [("error", .text e.message)]
    cancelEach handling rest

/-- Closes the bus and cancels its handlers; a closed bus stays as it is. -/
def close (handling : Handling σ η) : Run (Bus η × σ) (Except BusError Unit) := do
  let bus ← current
  if bus.closed then return .ok ()
  become ⟨[], true⟩
  cancelEach handling (bus.subscriptions.map Subscription.handler)
  return .ok ()

/-- Registers a handler; the one that was there before is cancelled afterwards. -/
def subscribe (handling : Handling σ η) (id topic : String) (handler : η) :
    Run (Bus η × σ) (Except BusError Unit) := do
  let bus ← current
  if bus.closed then return .error .closed
  if id = "" ∨ topic = "" then
    return .error (.subscribe "subscriber id and topic must not be empty")
  become (bus.insert id topic handler)
  match bus.handler? id topic with
  | some before => elsewhere (handling.cancel before)
  | none => return .ok ()

def unsubscribe (handling : Handling σ η) (id topic : String) :
    Run (Bus η × σ) (Except BusError Unit) := do
  let bus ← current
  if bus.closed then return .error .closed
  become (bus.erase id topic)
  match bus.handler? id topic with
  | some handler => elsewhere (handling.cancel handler)
  | none => return .error (.notSubscribed id topic)

def pubSub (handling : Handling σ η) : PubSub (Bus η × σ) η where
  publish := publish handling
  close := close handling
  subscribe := subscribe handling
  unsubscribe := unsubscribe handling

end Bus

end ChannelGate
