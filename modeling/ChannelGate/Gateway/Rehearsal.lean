import ChannelGate.Bus.Recorder
import ChannelGate.Gateway.Traced
import ChannelGate.Policy.Script

set_option autoImplicit false

namespace ChannelGate.Rehearsal

/-- Where a message arrived: at a sink, or at a subscriber of one. -/
structure Place where
  sink : Nat
  subscriber : Option (String × String)
  deriving DecidableEq

/-- A sink: a recorder, or a bus of recorders. -/
inductive SinkParty where
  | recorder (failure : Option BusError)
  | bus (bus : Bus (Watched (Recorder Place)))

/-- Who takes events: a recorder, which fails before it looks at an event or records its fields, or
a publisher. -/
inductive EventParty where
  | recorder (failure : Option EventError)
  | publisher (machine : Publisher.Machine)

structure World where
  policy : Cache × PolicyDesk
  sinks : List SinkParty
  delivered : Recording Place
  events : EventParty
  recorded : List Fields

/-- How the parties are wired: whether the policy's answers are kept, which sinks and whether events
have spans of their own, and how many further spans every sink has. -/
structure Wiring where
  kept : Bool
  tracedSinks : List Bool
  tracedEvents : Bool
  layers : Nat

namespace World

def asked (kept : Bool) : Policy World :=
  (PolicyDesk.policy.behindCache kept).zoom World.policy
    fun policy world => { world with policy := policy }

def onBus {α : Type} (number : Nat) (bus : Bus (Watched (Recorder Place)))
    (body : Run (Bus (Watched (Recorder Place)) × Recording Place) α) : Run World α :=
  Run.zoom (fun world => (bus, world.delivered))
    (fun (bus, delivered) world =>
      { world with sinks := world.sinks.set number (.bus bus), delivered := delivered }) body

def deliver (number : Nat) : MessageSink World := fun message => do
  match ← Run.onState fun world => (world.sinks[number]?, world) with
  | some (.bus bus) => onBus number bus ((Recorder.bus false).publish message)
  | some (.recorder (some e)) => return .error e
  | _ =>
    Run.onState fun world =>
      (.ok (), { world with delivered :=
        { world.delivered with
          handled := world.delivered.handled ++ [(⟨number, none⟩, message)] } })

def closeSink (number : Nat) : Run World (Except BusError Unit) := do
  match ← Run.onState fun world => (world.sinks[number]?, world) with
  | some (.bus bus) => onBus number bus (Recorder.bus false).close
  | _ => return .ok ()

def subscribe (number : Nat) (traced : Bool) (id topic : String) :
    Run World (Except BusError Unit) := do
  match ← Run.onState fun world => (world.sinks[number]?, world) with
  | some (.bus bus) =>
    onBus number bus
      ((Recorder.bus traced).subscribe id topic ⟨⟨number, some (id, topic)⟩, none, none⟩)
  | _ => return .ok ()

def take (stamp : Int64) : EventSink World := fun event => do
  match ← Run.onState fun world => (world.events, world) with
  | .publisher machine =>
    Run.zoom (fun _ => machine) (fun machine world => { world with events := .publisher machine })
      (Publisher.resilient stamp event)
  | .recorder (some e) => return .error e
  | .recorder none =>
    match event.encoding with
    | .error e => return .error e
    | .ok fields =>
      Run.onState fun world => (.ok (), { world with recorded := world.recorded ++ [fields] })

end World

def layered {σ : Type} (sink : MessageSink σ) : Nat → MessageSink σ
  | 0 => sink
  | layers + 1 => (layered sink layers).traced

def gateway (wiring : Wiring) (instanceId : String) (stamp : Int64) : Gateway World where
  instanceId := instanceId
  policy := World.asked wiring.kept
  sinks := (wiring.tracedSinks.zipIdx).map fun (traced, number) =>
    layered (World.deliver number) ((if traced then 1 else 0) + wiring.layers)
  events := if wiring.tracedEvents then (World.take stamp).traced else World.take stamp

end ChannelGate.Rehearsal
