import ChannelGate.Proofs.Gateway.Fingerprint
import ChannelGate.Proofs.Tracing.Alike

set_option autoImplicit false

namespace ChannelGate

section Relations

variable {η : Type} (mine theirs : Credential)

/-- The same, but that one session may present the one secret or the other. -/
inductive Act.Twins : Act η → Act η → Prop where
  | same (act : Act η) : Act.Twins act act
  | secret (created : Int64) (hook : Hook) :
    Act.Twins (.visit created (hook.presenting mine)) (.visit created (hook.presenting theirs))

inductive LogLine.Twins : LogLine → LogLine → Prop where
  | same (line : LogLine) : LogLine.Twins line line
  | secret (id error : String) (scope : List String) :
    LogLine.Twins (.unidentified mine id error scope) (.unidentified theirs id error scope)

/-- The same spans, and lines that differ in the secret only. -/
structure Trace.Twins (trace trace' : Trace) : Prop where
  lines : List.Forall₂ (LogLine.Twins mine theirs) trace.lines trace'.lines
  spans : trace.spans = trace'.spans
  opened : trace.opened = trace'.opened

/-- The same was done, with the same answer; only the policy is asked whose the one secret is or the
other, for sessions that present them. -/
inductive Deed.Twins : Deed η → Deed η → Prop where
  | same (deed : Deed η) : Deed.Twins deed deed
  | identify (answer : Except PolicyError String) :
    Deed.Twins (.exchange (.identify mine answer)) (.exchange (.identify theirs answer))
  | visit (created : Int64) (hook : Hook) (answer : Except GatewayError Unit) :
    Deed.Twins (.visit created (hook.presenting mine) answer)
      (.visit created (hook.presenting theirs) answer)

structure Entry.Twins (entry entry' : Entry η) : Prop where
  span : entry.span = entry'.span
  deed : Deed.Twins mine theirs entry.deed entry'.deed

structure Stage.Twins {κ σ : Type} (alike : σ → σ → Prop) (stage stage' : Stage κ σ η) : Prop where
  bus : stage.1.1 = stage'.1.1
  parties : alike stage.1.2 stage'.1.2
  record : List.Forall₂ (Entry.Twins mine theirs) stage.2 stage'.2

end Relations

theorem forall₂_concat {α : Type} {related : α → α → Prop} {past past' : List α} {last last' : α}
    (before : List.Forall₂ related past past') (now : related last last') :
    List.Forall₂ related (past ++ [last]) (past' ++ [last']) :=
  List.rel_append before (.cons now .nil)

theorem Trace.Twins.refl (mine theirs : Credential) (trace : Trace) :
    trace.Twins mine theirs trace :=
  ⟨List.forall₂_same.mpr fun line _ => .same line, rfl, rfl⟩

namespace Coupling

variable {σ η α : Type} {mine theirs : Credential} {alike : σ → σ → Prop}

/-- The same span, states that are alike, and traces that differ in the secret only. -/
def twins (mine theirs : Credential) (alike : σ → σ → Prop) : Coupling σ σ where
  spans := Eq
  states before before' := alike before.1 before'.1 ∧ before.2.Twins mine theirs before'.2
  log := by
    rintro span _ before before' level message fields rfl ⟨states, traces⟩
    exact ⟨states, forall₂_concat traces.lines (.same _), traces.spans, traces.opened⟩

theorem twins_inSpanUnder {ε : Type} {body body' : SpanRef → Run σ (Except ε α)}
    (inside : ∀ ref, (twins mine theirs alike).Couples (body ref) (body' ref))
    (parent : Option SpanRef) (name : String) (fields : Data) (wording : ε → String) :
    (twins mine theirs alike).Couples (Run.inSpanUnder parent name fields wording body)
      (Run.inSpanUnder parent name fields wording body') := by
  constructor
  rintro span _ ⟨state, trace⟩ ⟨state', trace'⟩ rfl ⟨states, traces⟩
  rw [Run.inSpanUnder_apply, Run.inSpanUnder_apply]
  have opened : trace.opened = trace'.opened := traces.opened
  dsimp only
  rw [opened]
  have started : (twins mine theirs alike).states
      (state, { trace with opened := trace'.opened + 1 })
      (state', { trace' with opened := trace'.opened + 1 }) :=
    ⟨states, traces.lines, traces.spans, rfl⟩
  obtain ⟨answers, still, traced⟩ := (inside _).run
    (Eq.refl (some ⟨trace'.opened, (parent.map SpanRef.path).getD [] ++ [name]⟩)) started
  rw [answers]
  refine ⟨rfl, still, traced.lines, ?_, traced.opened⟩
  dsimp only
  rw [traced.spans]

theorem twins_encloses (mine theirs : Credential) (alike : σ → σ → Prop) :
    (twins mine theirs alike).Encloses :=
  ⟨id, twins_inSpanUnder⟩

/-- Lines that differ in the secret only. -/
theorem twins_log {level level' : Level} {message message' : String} {fields fields' : Data}
    (lines : ∀ scope, LogLine.Twins mine theirs ⟨level, message, fields, scope⟩
      ⟨level', message', fields', scope⟩) :
    (twins mine theirs alike).Couples (Run.log level message fields)
      (Run.log level' message' fields') := by
  constructor
  rintro span _ before before' rfl ⟨states, traces⟩
  exact ⟨rfl, states, forall₂_concat traces.lines (lines _), traces.spans, traces.opened⟩

/-- If the policy answers the same about both secrets, they are confused: what is logged about them
is all that differs. -/
theorem twins_confuse {left right : Gateway σ}
    (same : (twins mine theirs alike).Couples (left.policy.identify mine)
      (right.policy.identify theirs)) :
    (twins mine theirs alike).bond.Confuses mine theirs left right := by
  apply Gateway.Bond.Confuses.of_answers (joins_lift same)
  intro id error
  have lines : ∀ scope, LogLine.Twins mine theirs (.unidentified mine id error scope)
      (.unidentified theirs id error scope) := .secret id error
  simp only [LogLine.unidentified_eq] at lines
  exact joins_lift (twins_log lines)

end Coupling

section Stages

variable {κ σ η α : Type} {mine theirs : Credential} {alike : σ → σ → Prop}

def contactedAlike (η : Type) (alike : σ → σ → Prop) (left right : σ × List (Sighting η)) : Prop :=
  alike left.1 right.1 ∧ left.2 = right.2

abbrev Coupling.twinStages (κ η : Type) (mine theirs : Credential) (alike : σ → σ → Prop) :
    Coupling (Stage κ σ η) (Stage κ σ η) :=
  .twins mine theirs (Stage.Twins mine theirs alike)

theorem twins_party {body body' : Run σ α}
    (couples : (Coupling.twins mine theirs alike).Couples body body') :
    (Coupling.twinStages κ η mine theirs alike).Couples (Stage.party body) (Stage.party body') := by
  constructor
  rintro span _ ⟨⟨⟨bus, state⟩, record⟩, trace⟩ ⟨⟨⟨bus', state'⟩, record'⟩, trace'⟩ rfl
    ⟨stages, traces⟩
  have started : (Coupling.twins mine theirs alike).states (state, trace) (state', trace') :=
    ⟨stages.parties, traces⟩
  obtain ⟨same, still, traced⟩ := couples.run (Eq.refl span) started
  exact ⟨same, ⟨stages.bus, still, stages.record⟩, traced⟩

theorem twins_noted {left right : Run (Stage κ σ η) α}
    (couples : (Coupling.twinStages κ η mine theirs alike).Couples left right)
    {deed deed' : α → Deed η}
    (deeds : ∀ answer, Deed.Twins mine theirs (deed answer) (deed' answer)) :
    (Coupling.twinStages κ η mine theirs alike).Couples (Stage.noted deed left)
      (Stage.noted deed' right) := by
  constructor
  rintro span _ before before' rfl together
  obtain ⟨same, stages, traced⟩ := couples.run (Eq.refl span) together
  refine ⟨same, ⟨stages.bus, stages.parties, forall₂_concat stages.record ⟨rfl, ?_⟩⟩, traced⟩
  change Deed.Twins mine theirs (deed (left span before).1) (deed' (right span before').1)
  rw [same]
  exact deeds _

theorem twins_called {left right : Run (Bus κ × σ × List (Sighting η)) (Except BusError Unit)}
    (couples : ((Coupling.twins mine theirs (contactedAlike η alike)).onBus id).Couples left right)
    (call : Call η) :
    (Coupling.twinStages κ η mine theirs alike).Couples (Stage.called call left)
      (Stage.called call right) := by
  constructor
  rintro span _ ⟨⟨⟨bus, state⟩, record⟩, trace⟩ ⟨⟨⟨bus', state'⟩, record'⟩, trace'⟩ rfl
    ⟨stages, traces⟩
  have same : bus' = bus.map id := by
    rw [Bus.map_id]
    exact stages.bus.symm
  have started : ((Coupling.twins mine theirs (contactedAlike η alike)).onBus id).states
      ((bus, state, []), trace) ((bus', state', []), trace') :=
    ⟨same, ⟨stages.parties, rfl⟩, traces⟩
  obtain ⟨answers, registry, ⟨still, sightings⟩, traced⟩ := couples.run (Eq.refl span) started
  rw [Bus.map_id] at registry
  refine ⟨answers, ⟨registry.symm, still, forall₂_concat stages.record ⟨rfl, ?_⟩⟩, traced⟩
  dsimp only
  rw [answers, sightings]
  exact .same _

/-- Handlers that keep runs together do so where they are seen. -/
theorem twins_sighted {handling : Handling σ η}
    (handlings : (Coupling.twins mine theirs alike).Handlings id handling handling) :
    (Coupling.twins mine theirs (contactedAlike η alike)).Handlings id handling.sighted
      handling.sighted := by
  have seen : ∀ {body : Run σ (Except BusError Unit)} (contact : Except BusError Unit → Contact η),
      (Coupling.twins mine theirs alike).Couples body body →
      (Coupling.twins mine theirs (contactedAlike η alike)).Couples
        (fun span => Run.recorded (fun answer => Sighting.mk span (contact answer)) body span)
        (fun span => Run.recorded (fun answer => Sighting.mk span (contact answer)) body span) := by
    intro body contact couples
    constructor
    rintro span _ ⟨⟨state, sightings⟩, trace⟩ ⟨⟨state', sightings'⟩, trace'⟩ rfl
      ⟨⟨states, past⟩, traces⟩
    have started : (Coupling.twins mine theirs alike).states (state, trace) (state', trace') :=
      ⟨states, traces⟩
    obtain ⟨same, still, traced⟩ := couples.run (Eq.refl span) started
    refine ⟨same, ⟨still, ?_⟩, traced⟩
    change sightings ++ [Sighting.mk span (contact (body span (state, trace)).1)] =
      sightings' ++ [Sighting.mk span (contact (body span (state', trace')).1)]
    rw [same]
    exact congrArg (· ++ _) past
  exact ⟨fun handler message => seen (.handle handler message) (handlings.handle handler message),
    fun handler => seen (.cancel handler) (handlings.cancel handler)⟩

end Stages

end ChannelGate
