import ChannelGate.Proofs.Tracing.Company
import ChannelGate.Proofs.Tracing.Twins

set_option autoImplicit false

namespace ChannelGate

variable {σ η : Type} {mine theirs : Credential} {alike : σ → σ → Prop}

/-- Nobody but the policy is told a secret, and the policy answers the same about both. What any of
the parties answers, does or logs hangs neither on which of them was presented, as far as `alike`
tells states apart, nor on the fingerprints in the lines so far. -/
structure Parties.Discreet (mine theirs : Credential) (alike : σ → σ → Prop)
    (parties : Parties σ η) : Prop where
  secret : (Coupling.twins mine theirs alike).Couples (parties.policy.identify mine)
    (parties.policy.identify theirs)
  identify : ∀ credential, (Coupling.twins mine theirs alike).Couples
    (parties.policy.identify credential) (parties.policy.identify credential)
  authorize : ∀ request, (Coupling.twins mine theirs alike).Couples
    (parties.policy.authorize request) (parties.policy.authorize request)
  sinks : ∀ sink, .sink sink ∈ parties.outlets → ∀ message,
    (Coupling.twins mine theirs alike).Couples (sink message) (sink message)
  publish : ∀ event, (Coupling.twins mine theirs alike).Couples (parties.events.publish event)
    (parties.events.publish event)
  close : (Coupling.twins mine theirs alike).Couples parties.events.close parties.events.close
  handlings : (Coupling.twins mine theirs alike).Handlings id parties.handling parties.handling

namespace Coupling

variable {τ α : Type}

/-- A change of states that are alike, to states that are alike. -/
theorem twins_onState {step step' : σ → α × σ}
    (same : ∀ {state state' : σ}, alike state state' →
      (step state).1 = (step' state').1 ∧ alike (step state).2 (step' state').2) :
    (twins mine theirs alike).Couples (Run.onState step) (Run.onState step') := by
  constructor
  intro span span' before before' inside together
  obtain ⟨answers, states⟩ := same together.1
  exact ⟨answers, states, together.2⟩

theorem twins_change (step : σ → α × σ) :
    (twins mine theirs Eq).Couples (Run.onState step) (Run.onState step) := by
  apply twins_onState
  rintro state _ rfl
  exact ⟨rfl, rfl⟩

theorem twins_relay (lines : List LogLine) :
    (twins mine theirs alike).Couples (Run.relay lines) (Run.relay lines) := by
  constructor
  intro span span' before before' inside together
  obtain ⟨states, traces⟩ := together
  have added : List.Forall₂ (LogLine.Twins mine theirs) lines lines :=
    List.forall₂_same.mpr fun line _ => .same line
  exact ⟨rfl, states, List.rel_append traces.lines added, traces.spans, traces.opened⟩

theorem twins_scope : (twins mine theirs alike).Couples Run.scope Run.scope := by
  constructor
  rintro span _ before before' rfl together
  exact ⟨rfl, together⟩

/-- One who lives in a part of the state, where the other parts stay as they are. -/
theorem Couples.zoom {whole : τ → τ → Prop} {get : τ → σ} {set : σ → τ → τ} {body body' : Run σ α}
    (couples : (twins mine theirs alike).Couples body body')
    (part : ∀ {state state' : τ}, whole state state' → alike (get state) (get state'))
    (back : ∀ {state state' : τ} {own own' : σ}, whole state state' → alike own own' →
      whole (set own state) (set own' state')) :
    (twins mine theirs whole).Couples (Run.zoom get set body) (Run.zoom get set body') := by
  constructor
  intro span span' before before' inside together
  have started : (twins mine theirs alike).states (get before.1, before.2)
      (get before'.1, before'.2) := ⟨part together.1, together.2⟩
  obtain ⟨same, still, traced⟩ := couples.run inside started
  exact ⟨same, back together.1 still, traced⟩

end Coupling

namespace Publisher

/-- A publisher writes its own lines, whatever was written before. -/
theorem twins_withLines {α : Type} (step : Machine → α × Machine) :
    (Coupling.twins mine theirs Eq).Couples (withLines step) (withLines step) := by
  apply (Coupling.twins_change _).bind
  intro written
  exact (Coupling.twins_relay written.2).bind fun _ => Coupling.couples_pure _ _

theorem twins_resilient (stamp : Int64) (event : Event) :
    (Coupling.twins mine theirs Eq).Couples (resilient stamp event) (resilient stamp event) :=
  Coupling.twins_scope.bind fun _ => (twins_withLines _).bind fun _ => Coupling.couples_pure _ _

theorem twins_close : (Coupling.twins mine theirs Eq).Couples close close :=
  Coupling.twins_scope.bind fun _ => (twins_withLines _).bind fun _ => Coupling.couples_pure _ _

end Publisher

/-- Desks that answer the same, and about both secrets the same. What they were asked may differ. -/
structure PolicyDesk.Confused (mine theirs : Credential) (desk desk' : PolicyDesk) : Prop where
  directory : desk.directory = desk'.directory
  script : desk.script = desk'.script
  answers : desk.identify mine = desk.identify theirs

namespace PolicyDesk.Confused

variable {desk desk' : PolicyDesk}

theorem identify_eq (confused : desk.Confused mine theirs desk') (credential : Credential) :
    desk.identify credential = desk'.identify credential := by
  rw [PolicyDesk.identify, PolicyDesk.identify, confused.directory, confused.script]

theorem authorize_eq (confused : desk.Confused mine theirs desk') (request : Request) :
    desk.authorize request = desk'.authorize request := by
  rw [PolicyDesk.authorize, PolicyDesk.authorize, confused.directory, confused.script]

theorem note (confused : desk.Confused mine theirs desk') (question question' : Question) :
    (desk.note question).Confused mine theirs (desk'.note question') :=
  ⟨confused.directory, confused.script, confused.answers⟩

end PolicyDesk.Confused

namespace Company

structure Confused (mine theirs : Credential) (company company' : Company) : Prop where
  desk : company.desk.Confused mine theirs company'.desk
  recording : company.recording = company'.recording
  machine : company.machine = company'.machine

variable {α : Type}

theorem twins_atDesk {body body' : Run PolicyDesk α}
    (couples : (Coupling.twins mine theirs (PolicyDesk.Confused mine theirs)).Couples body body') :
    (Coupling.twins mine theirs (Confused mine theirs)).Couples (atDesk body) (atDesk body') :=
  couples.zoom Confused.desk fun confused same => ⟨same, confused.recording, confused.machine⟩

theorem twins_inRecording {body : Run (Recording String) α}
    (couples : (Coupling.twins mine theirs Eq).Couples body body) :
    (Coupling.twins mine theirs (Confused mine theirs)).Couples (inRecording body)
      (inRecording body) :=
  couples.zoom Confused.recording fun confused same => ⟨confused.desk, same, confused.machine⟩

theorem twins_withMachine {body : Run Publisher.Machine α}
    (couples : (Coupling.twins mine theirs Eq).Couples body body) :
    (Coupling.twins mine theirs (Confused mine theirs)).Couples (withMachine body)
      (withMachine body) :=
  couples.zoom Confused.machine fun confused same => ⟨confused.desk, confused.recording, same⟩

theorem twins_handle (recorder : Recorder String) (message : RoutedMessage) :
    (Coupling.twins mine theirs Eq).Couples (Recorder.handling.handle recorder message)
      (Recorder.handling.handle recorder message) := by
  simp only [Recorder.handling]
  exact Coupling.twins_change _

theorem twins_cancel (recorder : Recorder String) :
    (Coupling.twins mine theirs Eq).Couples (Recorder.handling.cancel recorder)
      (Recorder.handling.cancel recorder) := by
  simp only [Recorder.handling]
  exact Coupling.twins_change _

/-- The company is discreet about secrets that its desk cannot tell apart. -/
theorem parties_discreet (instanceId : String) (stamp : Int64) :
    (parties instanceId stamp).Discreet mine theirs (Confused mine theirs) where
  secret := twins_atDesk (Coupling.twins_onState fun confused =>
    ⟨confused.answers.trans (confused.identify_eq theirs), confused.note _ _⟩)
  identify credential := twins_atDesk (Coupling.twins_onState fun confused =>
    ⟨confused.identify_eq credential, confused.note _ _⟩)
  authorize request := twins_atDesk (Coupling.twins_onState fun confused =>
    ⟨confused.authorize_eq request, confused.note _ _⟩)
  sinks := by
    intro sink member message
    rcases List.mem_cons.mp member with bus | own
    · cases bus
    · cases List.mem_singleton.mp own
      exact twins_inRecording (twins_handle _ message)
  publish event := twins_withMachine (Publisher.twins_resilient stamp event)
  close := twins_withMachine Publisher.twins_close
  handlings := ⟨fun recorder message => twins_inRecording (twins_handle recorder message),
    fun recorder => twins_inRecording (twins_cancel recorder)⟩

end Company

end ChannelGate
