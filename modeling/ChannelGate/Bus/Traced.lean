import ChannelGate.Bus.Basic

set_option autoImplicit false

namespace ChannelGate

def Run.messaging (operation : String) : String × Datum := ("messaging.operation", .text operation)

def Run.payloadSize (payload : List UInt8) : String × Datum :=
  ("payload_size", .number payload.length)

def MessageSink.traced {σ : Type} (sink : MessageSink σ) : MessageSink σ := fun message =>
  Run.inSpan "publish"
    [Run.messaging "publish", ("client_id", .text message.publisher),
      ("channel", .text message.channel), ("subtopic", .text message.subtopic),
      Run.payloadSize message.payload]
    BusError.message fun _ => sink message

/-- The span in which a handler was registered, with its id and topic. -/
structure Origin where
  span : SpanRef
  id : String
  topic : String
  deriving DecidableEq

/-- A handler, and where it comes from if it was registered in a span. -/
structure Watched (η : Type) where
  handler : η
  origin : Option Origin
  deriving DecidableEq

/-- Puts a span around the messages of handlers that come from a span. -/
def Handling.watched {σ η : Type} (handling : Handling σ η) : Handling σ (Watched η) where
  handle watched message :=
    match watched.origin with
    | none => handling.handle watched.handler message
    | some origin =>
      Run.inSpanUnder (some origin.span) "process"
        [Run.messaging "process", ("client_id", .text origin.id), ("topic", .text origin.topic),
          ("subtopic", .text message.subtopic), Run.payloadSize message.payload]
        BusError.message fun _ => handling.handle watched.handler message
  cancel watched := handling.cancel watched.handler

namespace PubSub

variable {σ η : Type}

/-- A bus without spans for the subscriptions made here. -/
def bare (bus : PubSub σ (Watched η)) : PubSub σ η where
  publish := bus.publish
  close := bus.close
  subscribe id topic handler := bus.subscribe id topic ⟨handler, none⟩
  unsubscribe := bus.unsubscribe

def traced (bus : PubSub σ (Watched η)) : PubSub σ η where
  publish := MessageSink.traced bus.publish
  close := bus.close
  subscribe id topic handler :=
    Run.inSpan "subscribe"
      [Run.messaging "receive", ("client_id", .text id), ("topic", .text topic)]
      BusError.message fun span => bus.subscribe id topic ⟨handler, some ⟨span, id, topic⟩⟩
  unsubscribe id topic :=
    Run.inSpan "unsubscribe"
      [Run.messaging "unsubscribe", ("client_id", .text id), ("topic", .text topic)]
      BusError.message fun _ => bus.unsubscribe id topic

end PubSub

end ChannelGate
