import ChannelGate.Proofs.Bus.Coupled
import ChannelGate.Proofs.Gateway.Bond
import ChannelGate.Proofs.Tracing.Stack

set_option autoImplicit false

namespace ChannelGate

namespace Coupling

variable {ρ ρ' : Type}

def bond (coupling : Coupling ρ ρ') : Gateway.Bond ρ ρ' where
  Joins left right := coupling.Couples left.run right.run
  answer outcome := coupling.couples_pure outcome
  note level message fields :=
    (coupling.couples_log level message fields).bind fun _ => coupling.couples_pure _
  bind := by
    intro α β first first' next next' begins follows
    constructor
    intro span span' before before' inside together
    have runs := begins.run inside together
    rw [Gateway.run_bind, Gateway.run_bind]
    generalize first.run span before = outcome at runs ⊢
    generalize first'.run span' before' = outcome' at runs ⊢
    obtain ⟨answer, after⟩ := outcome
    obtain ⟨answer', after'⟩ := outcome'
    obtain ⟨same, still⟩ := runs
    obtain rfl : answer = answer' := same
    cases answer with
    | error error => exact ⟨rfl, still⟩
    | ok value => exact (follows value).run inside still

/-- What is asked of a party is joined if it is coupled. -/
theorem joins_lift {coupling : Coupling ρ ρ'} {α : Type} {body : Run ρ α} {body' : Run ρ' α}
    (couples : coupling.Couples body body') :
    coupling.bond.Joins (liftM body : HookPart ρ α) (liftM body' : HookPart ρ' α) :=
  couples.bind fun _ => coupling.couples_pure _

end Coupling

section Coupled

variable {ρ ρ' κ κ' η : Type} (coupling : Coupling ρ ρ') (f : κ → κ')

structure Parts.Coupled (left : Parts ρ κ) (right : Parts ρ' κ') : Prop where
  instanceId : left.instanceId = right.instanceId
  identify : ∀ credential,
    coupling.Couples (left.policy.identify credential) (right.policy.identify credential)
  authorize : ∀ request,
    coupling.Couples (left.policy.authorize request) (right.policy.authorize request)
  sinks : ∀ {publish : MessageSink ρ} {publish' : MessageSink ρ'},
    (∀ message, coupling.Couples (publish message) (publish' message)) →
    List.Forall₂ (fun sink sink' => ∀ message, coupling.Couples (sink message) (sink' message))
      (left.sinks publish) (right.sinks publish')
  publish : ∀ event, coupling.Couples (left.events.publish event) (right.events.publish event)
  close : coupling.Couples left.events.close right.events.close
  call : ∀ call, coupling.Couples (left.bus.call call) (right.bus.call (call.map f))

/-- What is put around parts that do the same leaves them so. -/
structure Dress.Coupled (left : Dress ρ κ η) (right : Dress ρ' κ' η) : Prop where
  hook : ∀ {gateway : Gateway ρ} {gateway' : Gateway ρ'},
    (∀ created hook, coupling.Couples (gateway.perform created hook)
      (gateway'.perform created hook)) →
    ∀ created hook, coupling.Couples (left.hook gateway created hook)
      (right.hook gateway' created hook)
  sink : ∀ {sink : MessageSink ρ} {sink' : MessageSink ρ'},
    (∀ message, coupling.Couples (sink message) (sink' message)) →
    ∀ message, coupling.Couples (left.sink sink message) (right.sink sink' message)
  publish : ∀ {events : EventPublisher ρ} {events' : EventPublisher ρ'},
    (∀ event, coupling.Couples (events.publish event) (events'.publish event)) →
    ∀ event, coupling.Couples ((left.events events).publish event)
      ((right.events events').publish event)
  close : ∀ {events : EventPublisher ρ} {events' : EventPublisher ρ'},
    coupling.Couples events.close events'.close →
    coupling.Couples (left.events events).close (right.events events').close
  call : ∀ {bus : PubSub ρ κ} {bus' : PubSub ρ' κ'},
    (∀ call, coupling.Couples (bus.call call) (bus'.call (call.map f))) →
    ∀ call, coupling.Couples ((left.bus bus).call call) ((right.bus bus').call call)

structure Stack.Coupled (left : Stack ρ η) (right : Stack ρ' η) : Prop where
  hook : ∀ created hook, coupling.Couples (left.hook created hook) (right.hook created hook)
  publish : ∀ event, coupling.Couples (left.events.publish event) (right.events.publish event)
  close : coupling.Couples left.events.close right.events.close
  call : ∀ call, coupling.Couples (left.bus.call call) (right.bus.call call)

variable {coupling f}

/-- The gateways of coupled parts work with parties that belong together. -/
theorem Parts.Coupled.parties {left : Parts ρ κ} {right : Parts ρ' κ'} {dress : Dress ρ κ η}
    {dress' : Dress ρ' κ' η} (parts : Parts.Coupled coupling f left right)
    (around : Dress.Coupled coupling f dress dress') :
    coupling.bond.Parties (left.gateway dress) (right.gateway dress') := by
  refine ⟨parts.instanceId, ?_, ?_, ?_, ?_⟩
  · exact fun credential => Coupling.joins_lift (parts.identify credential)
  · exact fun request => Coupling.joins_lift (parts.authorize request)
  · have published : ∀ message, coupling.Couples ((dress.bus left.bus).publish message)
        ((dress'.bus right.bus).publish message) :=
      fun message => around.call parts.call (.publish message)
    refine List.rel_map ?_ (parts.sinks published)
    intro sink sink' alike message
    exact Coupling.joins_lift (around.sink alike message)
  · exact fun event => Coupling.joins_lift (around.publish parts.publish event)

theorem Parts.Coupled.stack {left : Parts ρ κ} {right : Parts ρ' κ'} {dress : Dress ρ κ η}
    {dress' : Dress ρ' κ' η} (parts : Parts.Coupled coupling f left right)
    (around : Dress.Coupled coupling f dress dress') :
    Stack.Coupled coupling (left.stack dress) (right.stack dress') where
  hook := around.hook fun created hook => (parts.parties around).joins_steps created hook
  publish := around.publish parts.publish
  close := around.close parts.close
  call := around.call parts.call

theorem Stack.Coupled.act {left : Stack ρ η} {right : Stack ρ' η}
    (coupled : Stack.Coupled coupling left right) (act : Act η) :
    coupling.Couples (left.act act) (right.act act) := by
  cases act with
  | visit created hook => exact (coupled.hook created hook).bind fun _ => coupling.couples_pure _
  | announce event => exact (coupled.publish event).bind fun _ => coupling.couples_pure _
  | closeEvents => exact coupled.close.bind fun _ => coupling.couples_pure _
  | call call => exact (coupled.call call).bind fun _ => coupling.couples_pure _

end Coupled

namespace Dress

variable {ρ ρ' η : Type}

theorem bare_coupled (coupling : Coupling ρ ρ') :
    Dress.Coupled coupling id (bare : Dress ρ η η) (bare : Dress ρ' η η) where
  hook same := same
  sink same := same
  publish same := same
  close same := same
  call same call := by
    have coupled := same call
    rw [Call.map_id] at coupled
    exact coupled

/-- Spans on both sides. -/
theorem traced_coupled {coupling : Coupling ρ ρ'} (encloses : coupling.Encloses) (η : Type) :
    Dress.Coupled coupling id (traced : Dress ρ (Watched η) η)
      (traced : Dress ρ' (Watched η) η) where
  hook := by
    intro gateway gateway' same created hook
    exact encloses.inSpan (fun _ => same created hook) hook.spanName hook.spanFields
      GatewayError.message
  sink := by
    intro sink sink' same message
    exact encloses.inSpan (fun _ => same message) "publish" _ BusError.message
  publish := by
    intro events events' same event
    exact encloses.inSpan (fun _ => same event) "publish_event" event.spanFields
      EventError.message
  close same := same
  call := by
    intro bus bus' same call
    cases call with
    | subscribe id topic handler =>
      exact encloses.inSpan
        (fun ref => same (.subscribe id topic ⟨handler, some ⟨ref, id, topic⟩⟩)) "subscribe" _
        BusError.message
    | unsubscribe id topic =>
      exact encloses.inSpan (fun _ => same (.unsubscribe id topic)) "unsubscribe" _
        BusError.message
    | publish message =>
      exact encloses.inSpan (fun _ => same (.publish message)) "publish" _ BusError.message
    | close => exact same .close

/-- Spans on one side are nothing to those who do not heed them. -/
theorem traced_coupled_bare (alike : ρ → ρ' → Prop) :
    Dress.Coupled (Coupling.heedless alike) Watched.handler (traced : Dress ρ (Watched η) η)
      (bare : Dress ρ' η η) where
  hook same created hook := Coupling.heedless_inSpan (fun _ => same created hook) _ _ _
  sink same message := Coupling.heedless_inSpan (fun _ => same message) _ _ _
  publish same event := Coupling.heedless_inSpan (fun _ => same event) _ _ _
  close same := same
  call same call := by
    cases call with
    | subscribe id topic handler =>
      exact Coupling.heedless_inSpan
        (fun ref => same (.subscribe id topic ⟨handler, some ⟨ref, id, topic⟩⟩)) _ _ _
    | unsubscribe id topic =>
      exact Coupling.heedless_inSpan (fun _ => same (.unsubscribe id topic)) _ _ _
    | publish message => exact Coupling.heedless_inSpan (fun _ => same (.publish message)) _ _ _
    | close => exact same .close

end Dress

section Record

variable {κ σ η α : Type}

theorem couples_party_beside (body : Run σ α) :
    (Coupling.beside (Bus κ × σ) (Entry η)).Couples (Bus.elsewhere body) (Stage.party body) := by
  constructor
  rintro span _ ⟨⟨bus, state⟩, trace⟩ ⟨⟨world, record⟩, trace'⟩ rfl ⟨same, traced⟩
  obtain rfl : world = (bus, state) := same
  obtain rfl : trace' = trace := traced
  exact ⟨rfl, rfl, rfl⟩

theorem couples_noted_beside {left : Run (Bus κ × σ) α} {right : Run (Stage κ σ η) α}
    (couples : (Coupling.beside (Bus κ × σ) (Entry η)).Couples left right) (deed : α → Deed η) :
    (Coupling.beside (Bus κ × σ) (Entry η)).Couples left (Stage.noted deed right) :=
  ⟨fun inside together => couples.run inside together⟩

theorem couples_called_beside {left : Run (Bus κ × σ) (Except BusError Unit)}
    {right : Run (Bus κ × σ × List (Sighting η)) (Except BusError Unit)}
    (couples : ((Coupling.beside σ (Sighting η)).onBus id).Couples left right) (call : Call η) :
    (Coupling.beside (Bus κ × σ) (Entry η)).Couples left (Stage.called call right) := by
  constructor
  rintro span span' ⟨⟨bus, state⟩, trace⟩ ⟨⟨world, record⟩, trace'⟩ inside ⟨same, traced⟩
  obtain rfl : world = (bus, state) := same
  obtain rfl : trace' = trace := traced
  have start : ((Coupling.beside σ (Sighting η)).onBus (id : κ → κ)).states ((bus, state), trace')
      ((bus, state, []), trace') := ⟨(Bus.map_id bus).symm, rfl, rfl⟩
  obtain ⟨answers, registry, parties, traces⟩ := couples.run inside start
  rw [Bus.map_id] at registry
  exact ⟨answers, Prod.ext registry parties, traces⟩

theorem handlings_sighted (handling : Handling σ η) :
    (Coupling.beside σ (Sighting η)).Handlings id handling handling.sighted :=
  ⟨fun _ _ => ⟨fun inside together => (Coupling.beside_recorded _ _).run inside together⟩,
    fun _ => ⟨fun inside together => (Coupling.beside_recorded _ _).run inside together⟩⟩

theorem Coupling.Handlings.watched {τ : Type} {coupling : Coupling σ τ}
    (encloses : coupling.Encloses) {left : Handling σ η} {right : Handling τ η}
    (handlings : coupling.Handlings id left right) :
    coupling.Handlings id left.watched right.watched where
  handle := by
    rintro ⟨handler, origin⟩ message
    cases origin with
    | none => exact handlings.handle handler message
    | some origin => exact encloses.under (fun _ => handlings.handle handler message) _ _ _ _
  cancel watched := handlings.cancel watched.handler

theorem Stage.pubSub_call (callers : κ → η) (bus : PubSub (Bus κ × σ × List (Sighting η)) κ)
    (call : Call κ) :
    (Stage.pubSub callers bus).call call = Stage.called (call.map callers) (bus.call call) := by
  cases call with
  | subscribe id topic handler => rfl
  | unsubscribe id topic => rfl
  | publish message => rfl
  | close => rfl

theorem forall₂_map_zipIdx {ι β γ : Type} {related : β → γ → Prop} {left : ι → β}
    {right : ι × Nat → γ} (each : ∀ item number, related (left item) (right (item, number)))
    (items : List ι) (first : Nat) :
    List.Forall₂ related (items.map left) ((items.zipIdx first).map right) := by
  induction items generalizing first with
  | nil => exact .nil
  | cons item rest ih => exact .cons (each item first) (ih (first + 1))

theorem forall₂_map_same {ι β γ : Type} {related : β → γ → Prop} {left : ι → β} {right : ι → γ}
    {items : List ι} (each : ∀ item ∈ items, related (left item) (right item)) :
    List.Forall₂ related (items.map left) (items.map right) := by
  apply List.forall₂_map_left_iff.mpr
  apply List.forall₂_map_right_iff.mpr
  exact List.forall₂_same.mpr each

namespace Parties

variable {handling : Handling σ κ} {seen : Handling (σ × List (Sighting η)) κ}

theorem parts_coupled_staged (parties : Parties σ η)
    (handlings : (Coupling.beside σ (Sighting η)).Handlings id handling seen)
    (callers : κ → η) :
    Parts.Coupled (Coupling.beside (Bus κ × σ) (Entry η)) id (parties.parts handling)
      (parties.staged seen callers) where
  instanceId := rfl
  identify credential := couples_noted_beside
    (couples_party_beside (parties.policy.identify credential))
    fun answer => .exchange (.identify credential answer)
  authorize request := couples_noted_beside
    (couples_party_beside (parties.policy.authorize request))
    fun answer => .exchange (.authorize request answer)
  sinks := by
    intro publish publish' same
    refine forall₂_map_zipIdx ?_ parties.outlets 0
    intro outlet number message
    cases outlet with
    | sink sink => exact couples_noted_beside (couples_party_beside (sink message)) _
    | bus => exact couples_noted_beside (same message) _
  publish event := couples_noted_beside
    (couples_party_beside (parties.events.publish event))
    fun answer => .exchange (.announce event answer)
  close := couples_noted_beside (couples_party_beside parties.events.close) .closeEvents
  call call := by
    have coupled := couples_called_beside (Coupling.couples_call handlings call)
      (call.map callers)
    change Coupling.Couples _ _ ((Stage.pubSub callers (Bus.pubSub seen)).call (call.map id))
    rw [Call.map_id] at coupled ⊢
    rw [Stage.pubSub_call]
    exact coupled

/-- The stack without spans is the same on record. -/
theorem bare_on_record (parties : Parties σ η) :
    Stack.Coupled (Coupling.beside (Bus η × σ) (Entry η)) parties.bare parties.bareOnRecord := by
  have coupled := (parts_coupled_staged parties
    (handlings_sighted parties.handling) id).stack (Dress.bare_coupled _)
  exact { coupled with
    hook := fun created hook => couples_noted_beside (coupled.hook created hook) _ }

/-- The stack with spans is the same on record. -/
theorem traced_on_record (parties : Parties σ η) :
    Stack.Coupled (Coupling.beside (Bus (Watched η) × σ) (Entry η)) parties.traced
      parties.tracedOnRecord := by
  have watched := Coupling.Handlings.watched (Coupling.beside_encloses _ _)
    (handlings_sighted parties.handling)
  have coupled := (parts_coupled_staged parties watched Watched.handler).stack
    (Dress.traced_coupled (Coupling.beside_encloses _ _) η)
  exact { coupled with
    hook := fun created hook => couples_noted_beside (coupled.hook created hook) _ }

end Parties

/-- A run of a stack on record is the run without one beside the record. -/
theorem Stack.Coupled.run_on_record {stack : Stack (Bus κ × σ) η} {onRecord : Stack (Stage κ σ η) η}
    (same : Stack.Coupled (Coupling.beside (Bus κ × σ) (Entry η)) stack onRecord)
    (acts : List (Act η)) (span : Option SpanRef) (world : Bus κ × σ) (trace : Trace) :
    let run := Run.inTurn stack.act acts span (world, trace)
    let run' := Run.inTurn onRecord.act acts span ((world, []), trace)
    run' = (run.1, (run.2.1, run'.2.1.2), run.2.2) := by
  intro run run'
  have start : (Coupling.beside (Bus κ × σ) (Entry η)).states (world, trace) ((world, []), trace) :=
    ⟨rfl, rfl⟩
  obtain ⟨answers, worlds, traces⟩ :=
    (Coupling.couples_inTurn same.act acts).run (Eq.refl span) start
  exact Prod.ext answers.symm (Prod.ext (Prod.ext worlds rfl) traces)

end Record

/-- Something done by one who does not look at spans or at what is traced, as far as `alike` tells
states apart, and who opens no spans. -/
structure Run.Untraced {σ α : Type} (alike : σ → σ → Prop) (body : Run σ α) : Prop where
  heedless : (Coupling.heedless alike).Couples body body
  spanless : ∀ span before, (body span before).2.2.spans = before.2.spans ∧
    (body span before).2.2.opened = before.2.opened

structure Parties.Untraced {σ η : Type} (alike : σ → σ → Prop) (parties : Parties σ η) : Prop where
  identify : ∀ credential, (parties.policy.identify credential).Untraced alike
  authorize : ∀ request, (parties.policy.authorize request).Untraced alike
  sinks : ∀ sink, .sink sink ∈ parties.outlets → ∀ message, (sink message).Untraced alike
  publish : ∀ event, (parties.events.publish event).Untraced alike
  close : parties.events.close.Untraced alike
  handle : ∀ handler message, (parties.handling.handle handler message).Untraced alike
  cancel : ∀ handler, (parties.handling.cancel handler).Untraced alike

def Sighting.anywhere {η : Type} (sighting : Sighting η) : Sighting η := ⟨none, sighting.contact⟩

def Deed.anywhere {η : Type} : Deed η → Deed η
  | .call made sightings answer => .call made (sightings.map Sighting.anywhere) answer
  | deed => deed

def Entry.anywhere {η : Type} (entry : Entry η) : Deed η := entry.deed.anywhere

section Apart

variable {σ η α : Type} {alike : σ → σ → Prop}

def sightedAlike (η : Type) (alike : σ → σ → Prop) (left right : σ × List (Sighting η)) : Prop :=
  alike left.1 right.1 ∧ left.2.map Sighting.anywhere = right.2.map Sighting.anywhere

/-- The same registry but for what is put around its handlers, parties that are alike, and the same
on record but for the spans. -/
def Stage.Alike (alike : σ → σ → Prop) (left : Stage (Watched η) σ η) (right : Stage η σ η) :
    Prop :=
  right.1.1 = left.1.1.map Watched.handler ∧ alike left.1.2 right.1.2 ∧
    left.2.map Entry.anywhere = right.2.map Entry.anywhere

theorem couples_party_apart {body : Run σ α} (untraced : body.Untraced alike) :
    (Coupling.heedless (Stage.Alike (η := η) alike)).Couples (Stage.party body)
      (Stage.party body) := by
  constructor
  intro span span' before before' inside together
  obtain ⟨registry, parties, record⟩ := together
  have started : alike (before.1.1.2, before.2).1 (before'.1.1.2, before'.2).1 := parties
  obtain ⟨same, still⟩ := untraced.heedless.heedless_run span span' started
  exact ⟨same, registry, still, record⟩

theorem couples_noted_apart {left : Run (Stage (Watched η) σ η) α} {right : Run (Stage η σ η) α}
    (couples : (Coupling.heedless (Stage.Alike alike)).Couples left right) (deed : α → Deed η) :
    (Coupling.heedless (Stage.Alike alike)).Couples (Stage.noted deed left)
      (Stage.noted deed right) := by
  constructor
  intro span span' before before' inside together
  obtain ⟨same, registry, parties, record⟩ := couples.heedless_run span span'
    together
  refine ⟨same, registry, parties, ?_⟩
  change List.map _ ((left span before).2.1.2 ++ [⟨span, deed (left span before).1⟩]) =
    List.map _ ((right span' before').2.1.2 ++ [⟨span', deed (right span' before').1⟩])
  rw [List.map_append, List.map_append, record, same]
  rfl

theorem couples_called_apart
    {left : Run (Bus (Watched η) × σ × List (Sighting η)) (Except BusError Unit)}
    {right : Run (Bus η × σ × List (Sighting η)) (Except BusError Unit)}
    (couples :
      ((Coupling.heedless (sightedAlike η alike)).onBus Watched.handler).Couples left right)
    (call : Call η) :
    (Coupling.heedless (Stage.Alike alike)).Couples (Stage.called call left)
      (Stage.called call right) := by
  constructor
  rintro span span' ⟨⟨⟨bus, parties⟩, record⟩, trace⟩ ⟨⟨⟨bus', parties'⟩, record'⟩, trace'⟩ inside
    ⟨registry, together, past⟩
  have started : ((Coupling.heedless (sightedAlike η alike)).onBus Watched.handler).states
      ((bus, parties, []), trace) ((bus', parties', []), trace') := ⟨registry, together, rfl⟩
  obtain ⟨same, registry', parties', sightings⟩ := couples.run inside started
  refine ⟨same, registry', parties', ?_⟩
  have deeds : ∀ (place place' : Option SpanRef) (seen seen' : List (Sighting η))
      (answer answer' : Except BusError Unit), answer = answer' →
      seen.map Sighting.anywhere = seen'.map Sighting.anywhere →
      (record ++ [Entry.mk place (.call call seen answer)]).map Entry.anywhere =
        (record' ++ [Entry.mk place' (.call call seen' answer')]).map Entry.anywhere := by
    intro place place' seen seen' answer answer' same alike
    rw [List.map_append, List.map_append, past, same]
    exact congrArg (fun all => _ ++ [Deed.call call all answer']) alike
  exact deeds _ _ _ _ _ _ same sightings

/-- Handlers with spans around them that do what they do without. -/
theorem handlings_apart {handling : Handling σ η}
    (handle : ∀ handler message, (handling.handle handler message).Untraced alike)
    (cancel : ∀ handler, (handling.cancel handler).Untraced alike) :
    (Coupling.heedless (sightedAlike η alike)).Handlings Watched.handler handling.sighted.watched
      handling.sighted := by
  have seen : ∀ {body : Run σ (Except BusError Unit)} (contact : Except BusError Unit → Contact η),
      body.Untraced alike → (Coupling.heedless (sightedAlike η alike)).Couples
        (fun span => Run.recorded (fun answer => Sighting.mk span (contact answer)) body span)
        (fun span => Run.recorded (fun answer => Sighting.mk span (contact answer)) body span) := by
    intro body contact untraced
    constructor
    rintro span span' ⟨⟨state, sightings⟩, trace⟩ ⟨⟨state', sightings'⟩, trace'⟩ inside
      ⟨together, past⟩
    have started : alike (state, trace).1 (state', trace').1 := together
    obtain ⟨same, still⟩ := untraced.heedless.heedless_run span span' started
    refine ⟨same, still, ?_⟩
    change (sightings ++ [Sighting.mk span (contact (body span (state, trace)).1)]).map _ =
      (sightings' ++ [Sighting.mk span' (contact (body span' (state', trace')).1)]).map _
    change sightings.map _ = sightings'.map _ at past
    rw [List.map_append, List.map_append, past, same]
    rfl
  constructor
  · rintro ⟨handler, origin⟩ message
    cases origin with
    | none => exact seen (.handle handler message) (handle handler message)
    | some origin =>
      exact Coupling.heedless_inSpanUnder
        (fun _ => seen (.handle handler message) (handle handler message)) _ _ _ _
  · exact fun watched => seen (.cancel watched.handler) (cancel watched.handler)

namespace Parties

/-- The parts of the stack with spans and of the one without do the same. -/
theorem staged_coupled {parties : Parties σ η} (untraced : parties.Untraced alike) :
    Parts.Coupled (Coupling.heedless (Stage.Alike alike)) Watched.handler
      (parties.staged parties.handling.sighted.watched Watched.handler)
      (parties.staged parties.handling.sighted id) where
  instanceId := rfl
  identify credential := couples_noted_apart (couples_party_apart (untraced.identify credential))
    fun answer => .exchange (.identify credential answer)
  authorize request := couples_noted_apart (couples_party_apart (untraced.authorize request))
    fun answer => .exchange (.authorize request answer)
  sinks := by
    intro publish publish' same
    apply forall₂_map_same
    rintro ⟨outlet, number⟩ member message
    apply couples_noted_apart
    cases outlet with
    | sink sink =>
      have among := List.fst_mem_of_mem_zipIdx member
      exact couples_party_apart (untraced.sinks sink among message)
    | bus => exact same message
  publish event := couples_noted_apart (couples_party_apart (untraced.publish event))
    fun answer => .exchange (.announce event answer)
  close := couples_noted_apart (couples_party_apart untraced.close) .closeEvents
  call call := by
    have coupled := couples_called_apart (Coupling.couples_call
      (handlings_apart untraced.handle untraced.cancel) call) (call.map Watched.handler)
    change Coupling.Couples _ ((Stage.pubSub _ _).call call) ((Stage.pubSub id _).call _)
    rw [Stage.pubSub_call, Stage.pubSub_call, Call.map_id]
    exact coupled

/-- The stack with spans does what the stack without them does. -/
theorem traced_apart {parties : Parties σ η} (untraced : parties.Untraced alike) :
    Stack.Coupled (Coupling.heedless (Stage.Alike alike)) parties.tracedOnRecord
      parties.bareOnRecord := by
  have coupled := (staged_coupled untraced).stack (Dress.traced_coupled_bare _)
  exact { coupled with
    hook := fun created hook => couples_noted_apart (coupled.hook created hook) _ }

end Parties

end Apart

end ChannelGate
