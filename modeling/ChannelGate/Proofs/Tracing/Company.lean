import ChannelGate.Bus.Recorder
import ChannelGate.Policy.Script
import ChannelGate.Proofs.Publisher.Scopes

set_option autoImplicit false

namespace ChannelGate

namespace Run

variable {σ τ α : Type} {alike : σ → σ → Prop}

/-- A change of states that are alike, to states that are alike. -/
theorem untraced_onState {step : σ → α × σ}
    (same : ∀ {state state' : σ}, alike state state' →
      (step state).1 = (step state').1 ∧ alike (step state).2 (step state').2) :
    (onState step).Untraced alike where
  heedless := ⟨fun _ together => same together⟩
  spanless _ _ := ⟨rfl, rfl⟩

/-- One who lives in a part of the state, where the other parts stay as they are. -/
theorem Untraced.zoom {whole : τ → τ → Prop} {get : τ → σ} {set : σ → τ → τ} {body : Run σ α}
    (untraced : body.Untraced alike)
    (part : ∀ {state state' : τ}, whole state state' → alike (get state) (get state'))
    (back : ∀ {state state' : τ} {own own' : σ}, whole state state' → alike own own' →
      whole (set own state) (set own' state')) : (Run.zoom get set body).Untraced whole where
  heedless := by
    constructor
    intro span span' before before' _ together
    have started : alike (get before.1, before.2).1 (get before'.1, before'.2).1 := part together
    obtain ⟨same, still⟩ := untraced.heedless.heedless_run span span' started
    exact ⟨same, back together still⟩
  spanless span before := untraced.spanless span (get before.1, before.2)

end Run

/-- A policy desk, what recorders have recorded, and a publisher of events with its store. -/
structure Company where
  desk : PolicyDesk
  recording : Recording String
  machine : Publisher.Machine

namespace Company

variable {α : Type}

/-- The desk and the recording are the same, and the publisher is but for its lines and the names of
spans. -/
structure Alike (company company' : Company) : Prop where
  desk : company.desk = company'.desk
  recording : company.recording = company'.recording
  machine : company.machine.Alike company'.machine

def atDesk (body : Run PolicyDesk α) : Run Company α :=
  Run.zoom desk (fun desk company => { company with desk := desk }) body

def inRecording (body : Run (Recording String) α) : Run Company α :=
  Run.zoom recording (fun recording company => { company with recording := recording }) body

def withMachine (body : Run Publisher.Machine α) : Run Company α :=
  Run.zoom machine (fun machine company => { company with machine := machine }) body

/-- The company as the parties of a stack with a bus and a sink of its own, where events are stamped
with `stamp`. -/
def parties (instanceId : String) (stamp : Int64) : Parties Company (Recorder String) where
  instanceId := instanceId
  policy.identify credential := atDesk (PolicyDesk.policy.identify credential)
  policy.authorize request := atDesk (PolicyDesk.policy.authorize request)
  outlets :=
    [.bus, .sink fun message => inRecording (Recorder.handling.handle ⟨"sink", none, none⟩ message)]
  events.publish event := withMachine (Publisher.resilient stamp event)
  events.close := withMachine Publisher.close
  handling.handle recorder message := inRecording (Recorder.handling.handle recorder message)
  handling.cancel recorder := inRecording (Recorder.handling.cancel recorder)

theorem untraced_atDesk {body : Run PolicyDesk α} (untraced : body.Untraced Eq) :
    (atDesk body).Untraced Alike :=
  untraced.zoom Alike.desk fun alike same => ⟨same, alike.recording, alike.machine⟩

theorem untraced_inRecording {body : Run (Recording String) α} (untraced : body.Untraced Eq) :
    (inRecording body).Untraced Alike :=
  untraced.zoom Alike.recording fun alike same => ⟨alike.desk, same, alike.machine⟩

theorem untraced_withMachine {body : Run Publisher.Machine α}
    (untraced : body.Untraced Publisher.Machine.Alike) : (withMachine body).Untraced Alike :=
  untraced.zoom Alike.machine fun alike same => ⟨alike.desk, alike.recording, same⟩

/-- A change of one state. -/
theorem untraced_change {σ : Type} (step : σ → α × σ) : (Run.onState step).Untraced Eq :=
  Run.untraced_onState fun same => by rw [same]; exact ⟨rfl, rfl⟩

theorem untraced_record (recorder : Recorder String) (message : RoutedMessage) :
    (Recorder.handling.handle recorder message).Untraced Eq := by
  simp only [Recorder.handling]
  exact untraced_change _

/-- None of the company has to do with spans. -/
theorem parties_untraced (instanceId : String) (stamp : Int64) :
    (parties instanceId stamp).Untraced Alike where
  identify _ := untraced_atDesk (untraced_change _)
  authorize _ := untraced_atDesk (untraced_change _)
  sinks := by
    intro sink member message
    rcases List.mem_cons.mp member with bus | own
    · cases bus
    · cases List.mem_singleton.mp own
      exact untraced_inRecording (untraced_record _ message)
  publish event := untraced_withMachine (Publisher.untraced_resilient stamp event)
  close := untraced_withMachine Publisher.untraced_close
  handle recorder message := untraced_inRecording (untraced_record recorder message)
  cancel _ := untraced_inRecording (untraced_change _)

end Company

end ChannelGate
