import ChannelGate.Event.Field

set_option autoImplicit false

namespace ChannelGate.Publisher

/-- What a store call does: after `delay` milliseconds it has `answer`; without a delay it never
has one. -/
structure Reply where
  delay : Option Nat
  answer : Except EventError Unit

def Reply.ready : Reply := ⟨some 0, .ok ()⟩

def Reply.take : List Reply → Reply × List Reply
  | [] => (.ready, [])
  | [last] => (last, [last])
  | reply :: rest => (reply, rest)

/-- The replies of the calls to come. -/
structure Store where
  pings : List Reply
  appends : List Reply
  closes : List Reply

def Store.ready : Store := ⟨[], [], []⟩

inductive StoreOp where
  | ping
  | append
  | close
  deriving DecidableEq

/-- A call that runs: the instant at which it ends, and its answer unless its time limit comes
first. -/
structure Awaited where
  endsAt : Nat
  answer : Option (Except EventError Unit)

/-- Awaits a reply from `now` for at most `limit` milliseconds; an answer at the very limit is in
time. -/
def Reply.within (reply : Reply) (now limit : Nat) : Awaited :=
  match reply.delay with
  | none => ⟨now + limit, none⟩
  | some delay =>
    if delay ≤ limit then ⟨now + delay, some reply.answer⟩ else ⟨now + limit, none⟩

def Awaited.result (call : Awaited) (late : EventError) : Except EventError Unit :=
  call.answer.getD (.error late)

end ChannelGate.Publisher
