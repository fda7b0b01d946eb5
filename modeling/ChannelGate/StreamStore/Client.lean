import ChannelGate.Error
import ChannelGate.StreamStore.Reply
import ChannelGate.StreamStore.Resp
import ChannelGate.Trace

set_option autoImplicit false

namespace ChannelGate.StreamStore

inductive Link where
  | none
  /-- There is a connection, and these bytes came on it and are no whole reply yet. -/
  | alive (unread : List UInt8)
  /-- Something wrong came while nobody waited for a reply. -/
  | broken
  deriving DecidableEq

/-- A client with the server it talks to: the replies that the server will give, or no server; and
the commands that reached the server. -/
structure Client where
  server : Option (List String)
  link : Link
  commands : List (List String)
  deriving DecidableEq

namespace Client

def new (server : Option (List String)) : Client := ⟨server, .none, []⟩

def connect : Run Client (Except EventError Unit) := do
  let client ← Run.onState fun client => (client, client)
  if client.link ≠ .none then return .ok ()
  if client.server.isNone then
    return .error
      (.store "Failed to connect to Redis: No such file or directory (os error 2)")
  Run.onState fun client => ((), { client with link := .alive [] })
  Run.log .info "Connected to Redis event store" []
  return .ok ()

/-- Takes the text of the first reply in some bytes, with the connection afterwards. A reply that
does not come counts as no value. -/
def receive (bytes : List UInt8) : Except String String × Link :=
  match Resp.Reply.answer? bytes.length bytes with
  | .error reason => (.error reason, .alive [])
  | .ok none => (Resp.Reply.absent.text?, .alive bytes)
  | .ok (some (reply, rest)) =>
    (reply.text?, ((Resp.Reply.discard? rest.length rest).map Link.alive).getD .broken)

/-- Sends a command and takes the text of the reply. On a broken connection the command does not
get through, but there is a new connection then. -/
def ask (command : List String) : Run Client (Except String String) := Run.onState fun client =>
  let send (unread : List UInt8) : Except String String × Client :=
    let written := ((client.server.getD []).head?.map Resp.bytes).getD []
    let (answer, link) := receive (unread ++ written)
    (answer,
      { server := client.server.map (List.drop 1)
        link := link
        commands := client.commands ++ [command] })
  match client.link with
  | .broken => (.error "broken pipe", { client with link := .alive [] })
  | .none => send []
  | .alive unread => send unread

def ping : Run Client (Except EventError Unit) := do
  match ← connect with
  | .error e => return .error e
  | .ok () =>
    match ← ask Resp.pingCommand with
    | .error reason => return .error (.store ("Redis ping failed: " ++ reason))
    | .ok text =>
      if text = "PONG" then return .ok ()
      else return .error (.store ("Redis ping returned unexpected response: " ++ text))

/-- Adds a record, which has to have fields. -/
def append (record : Record) : Run Client (Except EventError Unit) := do
  if record.fields.isEmpty then return .error (.encode "event has no fields")
  match ← connect with
  | .error e => return .error e
  | .ok () =>
    match ← ask (Resp.appendCommand record) with
    | .error reason =>
      return .error (.store ("Failed to append to " ++ record.stream ++ ": " ++ reason))
    | .ok _ => return .ok ()

def close : Run Client (Except EventError Unit) := Run.onState fun client =>
  (.ok (), { client with link := .none })

end Client

end ChannelGate.StreamStore
