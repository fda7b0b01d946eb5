import ChannelGate.Event.Sink
import ChannelGate.Gateway.Traced
import ChannelGate.Proofs.Bus.Calls
import ChannelGate.Proofs.Gateway.Exchange

set_option autoImplicit false

namespace ChannelGate

structure EventPublisher (σ : Type) where
  publish : EventSink σ
  close : Run σ (Except EventError Unit)

/-- Puts a span around every event, and none around the close. -/
def EventPublisher.traced {σ : Type} (publisher : EventPublisher σ) : EventPublisher σ where
  publish := publisher.publish.traced
  close := publisher.close

/-- Where a gateway hands its messages to: a sink of its own, or the bus of the stack. -/
inductive Outlet (σ : Type) where
  | sink (sink : MessageSink σ)
  | bus

structure Parties (σ η : Type) where
  instanceId : String
  policy : Policy σ
  outlets : List (Outlet σ)
  events : EventPublisher σ
  handling : Handling σ η

/-- The parts that a stack is built of. The sinks are given what publishes on the bus. -/
structure Parts (ρ κ : Type) where
  instanceId : String
  policy : Policy ρ
  sinks : MessageSink ρ → List (MessageSink ρ)
  events : EventPublisher ρ
  bus : PubSub ρ κ

/-- What is put around the parts of a stack. -/
structure Dress (ρ κ η : Type) where
  hook : Gateway ρ → Int64 → Hook → Run ρ (Except GatewayError Unit)
  sink : MessageSink ρ → MessageSink ρ
  events : EventPublisher ρ → EventPublisher ρ
  bus : PubSub ρ κ → PubSub ρ η

namespace Dress

variable {ρ η : Type}

def bare : Dress ρ η η := ⟨Gateway.perform, id, id, id⟩

/-- Spans around all parts, and around the handlers that subscribe. -/
def traced : Dress ρ (Watched η) η :=
  ⟨Gateway.performTraced, MessageSink.traced, EventPublisher.traced, PubSub.traced⟩

end Dress

structure Stack (ρ η : Type) where
  hook : Int64 → Hook → Run ρ (Except GatewayError Unit)
  events : EventPublisher ρ
  bus : PubSub ρ η

inductive Act (η : Type) where
  | visit (created : Int64) (hook : Hook)
  | announce (event : Event)
  | closeEvents
  | call (call : Call η)

inductive Outcome where
  | visit (answer : Except GatewayError Unit)
  | events (answer : Except EventError Unit)
  | call (answer : Except BusError Unit)

def Stack.act {ρ η : Type} (stack : Stack ρ η) : Act η → Run ρ Outcome
  | .visit created hook => do return .visit (← stack.hook created hook)
  | .announce event => do return .events (← stack.events.publish event)
  | .closeEvents => do return .events (← stack.events.close)
  | .call call => do return .call (← stack.bus.call call)

namespace Parts

variable {ρ κ η : Type}

def gateway (parts : Parts ρ κ) (dress : Dress ρ κ η) : Gateway ρ where
  instanceId := parts.instanceId
  policy := parts.policy
  sinks := (parts.sinks (dress.bus parts.bus).publish).map dress.sink
  events := (dress.events parts.events).publish

def stack (parts : Parts ρ κ) (dress : Dress ρ κ η) : Stack ρ η where
  hook := dress.hook (parts.gateway dress)
  events := dress.events parts.events
  bus := dress.bus parts.bus

end Parts

/-- A handler that was spoken to, in a span. -/
structure Sighting (η : Type) where
  span : Option SpanRef
  contact : Contact η

/-- Something that was done, with its answer; of a call of the bus also whom it spoke to. -/
inductive Deed (η : Type) where
  | exchange (exchange : Exchange)
  | closeEvents (answer : Except EventError Unit)
  | visit (created : Int64) (hook : Hook) (answer : Except GatewayError Unit)
  | call (call : Call η) (sightings : List (Sighting η)) (answer : Except BusError Unit)

structure Entry (η : Type) where
  span : Option SpanRef
  deed : Deed η

namespace Handling

variable {σ η : Type}

/-- Handlers that are seen, each time in the span around it. -/
def sighted (handling : Handling σ η) : Handling (σ × List (Sighting η)) η where
  handle handler message := fun span =>
    Run.recorded (fun answer => ⟨span, .handle handler message answer⟩)
      (handling.handle handler message) span
  cancel handler := fun span =>
    Run.recorded (fun answer => ⟨span, .cancel handler answer⟩) (handling.cancel handler) span

end Handling

/-- The bus and the parties of a stack beside the record of what was done. -/
abbrev Stage (κ σ η : Type) := (Bus κ × σ) × List (Entry η)

namespace Stage

variable {κ σ η α : Type}

def party (body : Run σ α) : Run (Stage κ σ η) α :=
  Run.zoom (fun stage => stage.1.2) (fun parties stage => ((stage.1.1, parties), stage.2)) body

/-- Does something and puts it on record, with the span around it. -/
def noted (deed : α → Deed η) (body : Run (Stage κ σ η) α) : Run (Stage κ σ η) α :=
  fun span => fun before =>
    let (answer, (world, record), trace) := body span before
    (answer, (world, record ++ [⟨span, deed answer⟩]), trace)

def called (call : Call η)
    (body : Run (Bus κ × σ × List (Sighting η)) (Except BusError Unit)) :
    Run (Stage κ σ η) (Except BusError Unit) :=
  fun span => fun (((bus, parties), record), trace) =>
    let (answer, (bus, parties, sightings), trace) := body span ((bus, parties, []), trace)
    (answer, ((bus, parties), record ++ [⟨span, .call call sightings answer⟩]), trace)

/-- A bus whose calls are put on record. Its handlers are those of the callers or made of them; the
record has the callers' ones. -/
def pubSub (callers : κ → η) (bus : PubSub (Bus κ × σ × List (Sighting η)) κ) :
    PubSub (Stage κ σ η) κ where
  publish message := called (.publish message) (bus.publish message)
  close := called .close bus.close
  subscribe id topic handler :=
    called (.subscribe id topic (callers handler)) (bus.subscribe id topic handler)
  unsubscribe id topic := called (.unsubscribe id topic) (bus.unsubscribe id topic)

end Stage

def Stack.noted {κ σ η : Type} (stack : Stack (Stage κ σ η) η) : Stack (Stage κ σ η) η :=
  { stack with
    hook := fun created hook => Stage.noted (.visit created hook) (stack.hook created hook) }

namespace Parties

variable {κ σ η : Type}

def parts (parties : Parties σ η) (handling : Handling σ κ) : Parts (Bus κ × σ) κ where
  instanceId := parties.instanceId
  policy.identify credential := Bus.elsewhere (parties.policy.identify credential)
  policy.authorize request := Bus.elsewhere (parties.policy.authorize request)
  sinks publish := parties.outlets.map fun outlet message =>
    match outlet with
    | .sink sink => Bus.elsewhere (sink message)
    | .bus => publish message
  events.publish event := Bus.elsewhere (parties.events.publish event)
  events.close := Bus.elsewhere parties.events.close
  bus := Bus.pubSub handling

def staged (parties : Parties σ η) (handling : Handling (σ × List (Sighting η)) κ)
    (callers : κ → η) : Parts (Stage κ σ η) κ where
  instanceId := parties.instanceId
  policy.identify credential :=
    Stage.noted (fun answer => .exchange (.identify credential answer))
      (Stage.party (parties.policy.identify credential))
  policy.authorize request :=
    Stage.noted (fun answer => .exchange (.authorize request answer))
      (Stage.party (parties.policy.authorize request))
  sinks publish := parties.outlets.zipIdx.map fun (outlet, number) message =>
    Stage.noted (fun answer => .exchange (.deliver number message answer))
      (match outlet with
        | .sink sink => Stage.party (sink message)
        | .bus => publish message)
  events.publish event :=
    Stage.noted (fun answer => .exchange (.announce event answer))
      (Stage.party (parties.events.publish event))
  events.close := Stage.noted .closeEvents (Stage.party parties.events.close)
  bus := Stage.pubSub callers (Bus.pubSub handling)

def bare (parties : Parties σ η) : Stack (Bus η × σ) η :=
  (parties.parts parties.handling).stack .bare

/-- The stack with spans around everything, and around every subscribed handler. -/
def traced (parties : Parties σ η) : Stack (Bus (Watched η) × σ) η :=
  (parties.parts parties.handling.watched).stack .traced

def bareOnRecord (parties : Parties σ η) : Stack (Stage η σ η) η :=
  ((parties.staged parties.handling.sighted id).stack .bare).noted

/-- The stack with spans, on record. The record is inside of the spans, but for visits. -/
def tracedOnRecord (parties : Parties σ η) : Stack (Stage (Watched η) σ η) η :=
  ((parties.staged parties.handling.sighted.watched Watched.handler).stack .traced).noted

end Parties

end ChannelGate
