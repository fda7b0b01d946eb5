import ChannelGate.Event.Buffer
import ChannelGate.Event.Metrics
import ChannelGate.Publisher.Settings
import ChannelGate.Publisher.Store
import ChannelGate.Trace

set_option autoImplicit false

namespace ChannelGate.Publisher

/-- What a publisher finds where it runs: the last instant that the clock can show, counted from the
start of the publisher, and the number of the recovery loop among the tasks of the process. -/
structure Host where
  clockEnd : Nat
  task : Nat
  deriving DecidableEq

/-- A host that was just switched on, with no tasks: its clock counts seconds below `2 ^ 63`. -/
def Host.fresh : Host := ⟨0x8000000000000000 * 1000 - 1, 1⟩

/-- How a recovery loop breaks down whose first tick lies behind the end of the clock. -/
def Host.breakdown (host : Host) : String :=
  "task " ++ toString host.task ++
    " panicked with message \"overflow when adding duration to instant\""

/-- Who calls the store or waits for the lock: the recovery loop or a call by its number. -/
inductive Party where
  | loop
  | call (number : Nat)
  deriving DecidableEq

inductive PublishStage where
  | probing (record : Record) (call : Awaited)
  | appending (record : Record) (call : Awaited)
  /-- It waits for the lock, to put its record into the buffer. -/
  | queued (record : Record)
  | finished (answer : Except EventError Unit)

inductive CloseStage where
  /-- It waits until the recovery loop has stopped. -/
  | joining
  /-- It waits for the store, which may never answer. -/
  | closing (endsAt : Option Nat) (answer : Except EventError Unit)
  | finished (answer : Except EventError Unit)

inductive Call where
  /-- Publishes an event, since `began` and in the spans `scope`. -/
  | publish (began : Nat) (scope : List String) (stage : PublishStage)
  | pending (answer : Option Nat)
  /-- Closes the publisher, in the spans `scope`. -/
  | close (scope : List String) (stage : CloseStage)

/-- Where the recovery loop is; `due` is the instant of its next tick. -/
inductive Loop where
  /-- It waits for its next tick or for the end. -/
  | waiting (due : Nat)
  /-- It waits for the lock, to see whether there are records. -/
  | checking (due : Nat)
  | probing (due : Nat) (call : Awaited)
  /-- It waits for the lock, to drain the buffer. -/
  | claiming (due : Nat)
  /-- It has the lock, has stored `count` records and is writing `record`. -/
  | draining (due : Nat) (record : Record) (count : Nat) (call : Awaited)
  /-- It waits for the lock, to close the buffer. -/
  | closing
  | stopped
  /-- It broke down at its start, so nothing closes the buffer. -/
  | broken

/-- The recovery loop at its start: it waits for its first tick, or breaks down at once if the clock
ends before that tick. -/
def Loop.launched (settings : Settings) (host : Host) : Loop :=
  if settings.checkInterval ≤ host.clockEnd then .waiting settings.checkInterval else .broken

structure Started where
  op : StoreOp
  party : Party
  time : Nat
  deriving DecidableEq

structure Stored where
  record : Record
  party : Party
  time : Nat
  deriving DecidableEq

/-- The publisher with all parties, its store, and what was done so far: store calls started,
records stored and lines logged, each in order. -/
structure Machine where
  settings : Settings
  valid : settings.fault? = none
  host : Host
  now : Nat
  store : Store
  buffer : Buffer
  metrics : Metrics
  cancelled : Bool
  /-- A close call has taken it on itself to wait for the recovery loop. -/
  awaited : Bool
  loop : Loop
  calls : List Call
  /-- Who waits for the lock, the first one first. -/
  queue : List Party
  started : List Started
  stored : List Stored
  lines : List LogLine

/-- What one party does between two points at which it waits. -/
inductive Move where
  /-- A user publishes an event, which is stamped with the present time. -/
  | publish (scope : List String) (event : Event) (stamp : Int64)
  | pending
  | close (scope : List String)
  /-- The recovery loop is told to stop. -/
  | cancel
  /-- The store changes how it will reply. -/
  | restock (store : Store)
  | wait (till : Nat)
  /-- The first in the queue takes the lock and does what it wanted it for. -/
  | grant
  /-- A publish call goes on after its probe. -/
  | probed (number : Nat)
  | appended (number : Nat)
  /-- A close call goes on after the recovery loop stopped or broke down. -/
  | joined (number : Nat)
  /-- A close call goes on after the store was closed. -/
  | closed (number : Nat)
  /-- The recovery loop ends. -/
  | stop
  /-- The recovery loop starts a cycle. -/
  | tick
  /-- The recovery loop goes on after its probe. -/
  | loopProbed
  | loopAppended

namespace Machine

def log (m : Machine) (level : Level) (message : String) (fields : Data) (scope : List String) :
    Machine :=
  { m with lines := m.lines ++ [⟨level, message, fields, scope⟩] }

def setCall (m : Machine) (number : Nat) (call : Call) : Machine :=
  { m with calls := m.calls.set number call }

def ping (m : Machine) (party : Party) : Awaited × Machine :=
  let (reply, rest) := Reply.take m.store.pings
  (reply.within m.now m.settings.probeTimeout,
    { m with
      store := { m.store with pings := rest }
      started := m.started ++ [⟨.ping, party, m.now⟩] })

def append (m : Machine) (party : Party) : Awaited × Machine :=
  let (reply, rest) := Reply.take m.store.appends
  (reply.within m.now m.settings.writeTimeout,
    { m with
      store := { m.store with appends := rest }
      started := m.started ++ [⟨.append, party, m.now⟩] })

/-- Starts the closing of the store, which has no time limit. -/
def closeStore (m : Machine) (party : Party) : CloseStage × Machine :=
  let (reply, rest) := Reply.take m.store.closes
  (.closing (reply.delay.map (m.now + ·)) reply.answer,
    { m with
      store := { m.store with closes := rest }
      started := m.started ++ [⟨.close, party, m.now⟩] })

def recordOf (m : Machine) (fields : Fields) (stamp : Int64) : Record :=
  ⟨m.settings.stream, m.settings.maxStreamLen, fields.insert occurredAt (.int stamp)⟩

/-- A publish call begins: an event that cannot be encoded ends it, else the store is probed. -/
def beginPublish (m : Machine) (scope : List String) (event : Event) (stamp : Int64) : Machine :=
  match event.encoding with
  | .error e => { m with calls := m.calls ++ [.publish m.now scope (.finished (.error e))] }
  | .ok fields =>
    let record := m.recordOf fields stamp
    let (call, m) := m.ping (.call m.calls.length)
    { m with calls := m.calls ++ [.publish m.now scope (.probing record call)] }

/-- A close call begins: the first one waits for the recovery loop, others go to the store. -/
def beginClose (m : Machine) (scope : List String) : Machine :=
  let m := { m with cancelled := true }
  if m.awaited then
    let (stage, m) := m.closeStore (.call m.calls.length)
    { m with calls := m.calls ++ [.close scope stage] }
  else { m with awaited := true, calls := m.calls ++ [.close scope .joining] }

/-- A close call that waited for the recovery loop goes to the store. -/
def afterJoin (m : Machine) (number : Nat) (scope : List String) : Machine :=
  let (stage, m) := m.closeStore (.call number)
  m.setCall number (.close scope stage)

/-- A close call finds that the recovery loop broke down. -/
def reportBreakdown (m : Machine) (scope : List String) : Machine :=
  m.log .warn "Event recovery loop terminated abnormally" [("error", .text m.host.breakdown)] scope

/-- A publish call asks for the lock, to put its record into the buffer. -/
def askToBuffer (m : Machine) (number began : Nat) (scope : List String) (record : Record) :
    Machine :=
  let m := m.setCall number (.publish began scope (.queued record))
  { m with queue := m.queue ++ [.call number] }

def afterProbe (m : Machine) (number began : Nat) (scope : List String) (record : Record)
    (result : Except EventError Unit) : Machine :=
  match result with
  | .ok () =>
    let (call, m) := m.append (.call number)
    m.setCall number (.publish began scope (.appending record call))
  | .error e =>
    (m.log .debug "Event store probe failed" [("error", .text e.message)] scope).askToBuffer number
      began scope record

/-- A publish call goes on after its write: it was stored, or it took too long and goes to the
buffer, or the error ends the call. -/
def afterAppend (m : Machine) (number began : Nat) (scope : List String) (record : Record)
    (result : Except EventError Unit) : Machine :=
  match result with
  | .ok () =>
    { m with
      stored := m.stored ++ [⟨record, .call number, m.now⟩]
      metrics := m.metrics.increase 1 .published
      calls := m.calls.set number (.publish began scope (.finished (.ok ()))) }
  | .error (.writeTimeout limit) =>
    (m.log .warn "Event store write timed out, buffering event" [("timeout_ms", .number limit)]
      scope).askToBuffer number began scope record
  | .error e => m.setCall number (.publish began scope (.finished (.error e)))

def offer (m : Machine) (scope : List String) (record : Record) : Machine :=
  match m.buffer.tryPush record with
  | (.queued, buffer) =>
    { m with
      buffer := buffer
      metrics := (m.metrics.increase 1 .buffered).setPending buffer.size }.log
      .debug "Event store unreachable, event buffered" [("pending", .number buffer.size)] scope
  | (.full, _) =>
    { m with metrics := m.metrics.increase 1 .dropped }.log
      .warn "Event buffer full, dropping event" [("capacity", .number m.buffer.capacity)] scope
  | (.closed, _) =>
    { m with metrics := m.metrics.increase 1 .dropped }.log
      .debug "Event recovery loop stopped, dropping event" [] scope

/-- A call has the lock: a publish call offers its record, a question is answered. -/
def serveCall (m : Machine) (number : Nat) : Machine :=
  match m.calls[number]? with
  | some (.publish began scope (.queued record)) =>
    (m.offer scope record).setCall number (.publish began scope (.finished (.ok ())))
  | some (.pending none) => m.setCall number (.pending (some m.buffer.size))
  | _ => m

/-- The drain is over: the records it stored are counted and the lock is free. -/
def finishDrain (m : Machine) (due count : Nat) : Machine :=
  let m := { m with
    metrics := (m.metrics.increase count .drained).setPending m.buffer.size
    loop := .waiting due }
  if 0 < count then
    m.log .info "Flushed buffered events to the event store" [("drained", .number count)] []
  else m

def drainNext (m : Machine) (due count : Nat) : Machine :=
  match m.buffer.popFront with
  | (none, _) => m.finishDrain due count
  | (some record, buffer) =>
    let (call, m) := { m with buffer := buffer }.append .loop
    { m with loop := .draining due record count call }

/-- The recovery loop has the lock: it looks whether there are records, starts the drain, or closes
the buffer. -/
def serveLoop (m : Machine) : Machine :=
  match m.loop with
  | .checking due =>
    if m.buffer.records.isEmpty then { m with loop := .waiting due }
    else
      let (call, m) := m.ping .loop
      { m with loop := .probing due call }
  | .claiming due => m.drainNext due 0
  | .closing =>
    { m with buffer := m.buffer.close, loop := .stopped }.log .debug "Event recovery loop stopped"
      [] []
  | _ => m

/-- The recovery loop goes on after its probe: it asks for the lock, or waits for its next tick. -/
def afterLoopProbe (m : Machine) (due : Nat) (result : Except EventError Unit) : Machine :=
  match result with
  | .ok () => { m with loop := .claiming due, queue := m.queue ++ [.loop] }
  | .error e =>
    { m with loop := .waiting due }.log .debug "Event store still unreachable"
      [("error", .text e.message)] []

/-- The recovery loop goes on after a write of the drain: with the next record, or it puts the
record back and ends the drain. -/
def afterLoopAppend (m : Machine) (due : Nat) (record : Record) (count : Nat)
    (result : Except EventError Unit) : Machine :=
  match result with
  | .ok () =>
    { m with stored := m.stored ++ [Stored.mk record .loop m.now] }.drainNext due (count + 1)
  | .error e =>
    let m := { m with buffer := m.buffer.pushFront record }
    (m.log .warn "Failed to drain buffered event"
      [("error", .text e.message), ("pending", .number m.buffer.size)] []).finishDrain due count

/-- The instant of the tick after one that was due at `due` and is taken now: a full period after
it was due, or after now if it comes more than five milliseconds late. -/
def nextDue (m : Machine) (due : Nat) : Nat :=
  if m.now ≤ due + 5 then due + m.settings.checkInterval else m.now + m.settings.checkInterval

def isDraining (m : Machine) : Bool :=
  match m.loop with
  | .draining .. => true
  | _ => false

def timers (m : Machine) : List Nat :=
  (m.calls.filterMap fun
    | .publish _ _ (.probing _ call) => some call.endsAt
    | .publish _ _ (.appending _ call) => some call.endsAt
    | .close _ (.closing endsAt _) => endsAt
    | _ => none) ++
  (match m.loop with
    | .waiting due => [due]
    | .probing _ call => [call.endsAt]
    | .draining _ _ _ call => [call.endsAt]
    | _ => [])

def go (m : Machine) : Move → Option Machine
  | .grant =>
    if m.isDraining then none
    else
      match m.queue with
      | [] => none
      | .call number :: rest => some ({ m with queue := rest }.serveCall number)
      | .loop :: rest => some { m with queue := rest }.serveLoop
  | .probed number =>
    match m.calls[number]? with
    | some (.publish began scope (.probing record call)) =>
      if call.endsAt ≤ m.now then
        some (m.afterProbe number began scope record
          (call.result (.probeTimeout m.settings.probeTimeout)))
      else none
    | _ => none
  | .appended number =>
    match m.calls[number]? with
    | some (.publish began scope (.appending record call)) =>
      if call.endsAt ≤ m.now then
        some (m.afterAppend number began scope record
          (call.result (.writeTimeout m.settings.writeTimeout)))
      else none
    | _ => none
  | .joined number =>
    match m.calls[number]?, m.loop with
    | some (.close scope .joining), .stopped => some (m.afterJoin number scope)
    | some (.close scope .joining), .broken =>
      some ((m.reportBreakdown scope).afterJoin number scope)
    | _, _ => none
  | .closed number =>
    match m.calls[number]? with
    | some (.close scope (.closing (some endsAt) answer)) =>
      if endsAt ≤ m.now then some (m.setCall number (.close scope (.finished answer))) else none
    | _ => none
  | .stop =>
    match m.loop with
    | .waiting _ =>
      if m.cancelled then some { m with loop := .closing, queue := m.queue ++ [.loop] } else none
    | _ => none
  | .tick =>
    match m.loop with
    | .waiting due =>
      if due ≤ m.now then
        some { m with loop := .checking (m.nextDue due), queue := m.queue ++ [.loop] }
      else none
    | _ => none
  | .loopProbed =>
    match m.loop with
    | .probing due call =>
      if call.endsAt ≤ m.now then
        some (m.afterLoopProbe due (call.result (.probeTimeout m.settings.probeTimeout)))
      else none
    | _ => none
  | .loopAppended =>
    match m.loop with
    | .draining due record count call =>
      if call.endsAt ≤ m.now then
        some (m.afterLoopAppend due record count
          (call.result (.writeTimeout m.settings.writeTimeout)))
      else none
    | _ => none
  | _ => none

/-- The moves of waiting parties, those first that come first at one instant: the lock is handed
on, then calls go on in the order in which they began, then the recovery loop. -/
def candidates (m : Machine) : List Move :=
  .grant ::
    (List.range m.calls.length).flatMap (fun n => [.probed n, .appended n, .joined n, .closed n]) ++
    [.stop, .tick, .loopProbed, .loopAppended]

def step? (m : Machine) : Option Machine := m.candidates.findSome? m.go

/-- Makes a move, if it is possible. Time passes only while nobody can go on, and never past an
instant at which somebody wants to. -/
def fire (m : Machine) : Move → Option Machine
  | .publish scope event stamp => some (m.beginPublish scope event stamp)
  | .pending => some { m with
      calls := m.calls ++ [.pending none], queue := m.queue ++ [.call m.calls.length] }
  | .close scope => some (m.beginClose scope)
  | .cancel => some { m with cancelled := true }
  | .restock store => some { m with store := store }
  | .wait till =>
    if m.now < till ∧ m.step?.isNone ∧ m.timers.all (till ≤ ·) then some { m with now := till }
    else none
  | move => m.go move

def greeting (settings : Settings) : LogLine :=
  ⟨.info, "Event publisher started",
    [("stream", .text settings.stream),
      ("check_interval_secs", .number (settings.checkInterval / 1000)),
      ("max_pending", .number settings.maxPending)], []⟩

/-- The machine at the instant at which the publisher is built: nothing was done. -/
def initial (settings : Settings) (valid : settings.fault? = none) (store : Store) (host : Host) :
    Machine where
  settings := settings
  valid := valid
  host := host
  now := 0
  store := store
  buffer := .empty settings.maxPending
  metrics := .zero
  cancelled := false
  awaited := false
  loop := .launched settings host
  calls := []
  queue := []
  started := []
  stored := []
  lines := [greeting settings]

/-- The machine can come to this state by moves, whatever the host, the store and the users do. -/
inductive Reachable (settings : Settings) : Machine → Prop where
  | initial (valid : settings.fault? = none) (store : Store) (host : Host) :
    Reachable settings (Machine.initial settings valid store host)
  | move {before after : Machine} (move : Move) (reached : Reachable settings before)
    (fired : before.fire move = some after) : Reachable settings after

end Machine

end ChannelGate.Publisher
