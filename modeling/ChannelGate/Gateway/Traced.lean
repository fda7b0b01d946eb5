import ChannelGate.Bus.Traced
import ChannelGate.Gateway.Basic

set_option autoImplicit false

namespace ChannelGate

namespace Hook

def spanName : Hook → String
  | .authConnect _ => "auth_connect"
  | .authPublish _ _ _ => "auth_publish"
  | .authSubscribe _ _ => "auth_subscribe"
  | .connect _ => "connect"
  | .publish _ _ _ => "publish"
  | .subscribe _ _ => "subscribe"
  | .unsubscribe _ _ => "unsubscribe"
  | .disconnect _ => "disconnect"

def clientField (session : Option Session) : String × Datum :=
  ("client_id", .text ((session.map Session.id).getD ""))

def topicsField (topics : List String) : String × Datum :=
  ("topics", .text (String.intercalate "," topics))

def spanFields : Hook → Data
  | .authConnect session => [clientField session]
  | .authPublish session topic payload =>
    [clientField session, ("topic", .text (topic.getD "")), Run.payloadSize payload]
  | .authSubscribe session topics => [clientField session, topicsField (topics.getD [])]
  | .connect session => [clientField session]
  | .publish session topic payload =>
    [clientField session, ("topic", .text topic), Run.payloadSize payload]
  | .subscribe session topics => [clientField session, topicsField topics]
  | .unsubscribe session topics => [clientField session, topicsField topics]
  | .disconnect session => [clientField session]

end Hook

/-- Answers a hook in a span. -/
def Gateway.performTraced {σ : Type} (gateway : Gateway σ) (created : Int64) (hook : Hook) :
    Run σ (Except GatewayError Unit) :=
  Run.inSpan hook.spanName hook.spanFields GatewayError.message fun _ =>
    gateway.perform created hook

end ChannelGate
