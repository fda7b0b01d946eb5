import ChannelGate.Proofs.Tracing.Ledger

set_option autoImplicit false

namespace ChannelGate

variable {σ η : Type} {alike : σ → σ → Prop}

/-- A handler under watch was spoken to: how that was seen, and the span it left. -/
inductive Reaches : Watched η × Option RoutedMessage → Sighting η × List Span → Prop where
  | cancel (watched : Watched η) (place : Option SpanRef) (answer : Except BusError Unit) :
    Reaches (watched, none) (⟨place, .cancel watched.handler answer⟩, [])
  | stray (handler : η) (message : RoutedMessage) (place : Option SpanRef)
    (answer : Except BusError Unit) :
    Reaches (⟨handler, none⟩, some message) (⟨place, .handle handler message answer⟩, [])
  | handle (handler : η) (origin : Origin) (message : RoutedMessage) (span : Span)
    (answer : Except BusError Unit) (parent : span.parent = some origin.span)
    (reports : span.Reports "process" (message.processFields origin.id origin.topic)
      BusError.message answer) :
    Reaches (⟨handler, some origin⟩, some message)
      (⟨some span.ref, .handle handler message answer⟩, [span])

def Handling.watching {handling : Handling σ η}
    (handle : ∀ handler message, (handling.handle handler message).Untraced alike)
    (cancel : ∀ handler, (handling.cancel handler).Untraced alike) :
    handling.sighted.watched.Habit where
  Does about before after := ∃ reached : List (Sighting η × List Span),
    List.Forall₂ Reaches about reached ∧ after.1.2 = before.1.2 ++ reached.map Prod.fst ∧
    before.2.Grows after.2 (reached.flatMap Prod.snd)
  nothing before := ⟨[], .nil, (List.append_nil _).symm, Trace.Grows.refl _⟩
  append := by
    rintro about about' before middle after ⟨reached, each, seen, grows⟩
      ⟨reached', each', seen', grows'⟩
    refine ⟨reached ++ reached', List.rel_append each each', ?_, ?_⟩
    · rw [seen', seen, List.map_append, List.append_assoc]
    · rw [List.flatMap_append]
      exact grows.trans grows'
  line _ _ _ _ _ := ⟨[], .nil, (List.append_nil _).symm, Trace.Grows.of_eq rfl rfl⟩
  handle := by
    rintro ⟨handler, origin⟩ message span ⟨⟨state, sightings⟩, trace⟩
    cases origin with
    | none =>
      obtain ⟨spans, opened⟩ := (handle handler message).spanless span (state, trace)
      exact ⟨[_], .cons (.stray handler message span _) .nil, rfl, Trace.Grows.of_eq spans opened⟩
    | some origin =>
      have named : "error" ∉ (message.processFields origin.id origin.topic).map Prod.fst := by
        simp [RoutedMessage.processFields, Run.messaging, Run.payloadSize]
      obtain ⟨spans, opened⟩ := (handle handler message).spanless
        (some ⟨trace.opened, origin.span.path ++ ["process"]⟩)
        (state, { trace with opened := trace.opened + 1 })
      exact ⟨[_],
        .cons (.handle handler origin message _ _ rfl (Span.reports _ _ _ _ _ _ named)) .nil,
        rfl, (Trace.Grows.of_eq spans opened).enclosed rfl⟩
  cancel := by
    rintro watched span ⟨⟨state, sightings⟩, trace⟩
    obtain ⟨spans, opened⟩ := (cancel watched.handler).spanless span (state, trace)
    exact ⟨[_], .cons (.cancel watched span _) .nil, rfl, Trace.Grows.of_eq spans opened⟩

/-- Where nobody gets a message handlers are only cancelled, and no span is left. -/
theorem speaks_of_dismissed {about : List (Watched η × Option RoutedMessage)}
    {reached : List (Sighting η × List Span)} (each : List.Forall₂ Reaches about reached)
    (dismissed : ∀ spoken ∈ about, spoken.2 = none) :
    reached.flatMap Prod.snd = [] ∧
      ∀ sighting ∈ reached.map Prod.fst, ∃ handler answer,
        sighting.contact = .cancel handler answer := by
  induction each with
  | nil => exact ⟨rfl, List.forall_mem_nil _⟩
  | cons first rest ih =>
    rw [List.forall_mem_cons] at dismissed
    obtain ⟨silent, cancels⟩ := ih dismissed.2
    cases first with
    | cancel watched place answer =>
      rw [List.flatMap_cons, silent, List.map_cons, List.forall_mem_cons]
      exact ⟨rfl, ⟨_, _, rfl⟩, cancels⟩
    | stray handler message place answer => cases dismissed.1
    | handle handler origin message span answer parent reports => cases dismissed.1

/-- A registration whose handler is under watch, in the span of its subscribe. -/
def WatchedFrom (past : List (Entry η)) (registration : Registration (Watched η)) : Prop :=
  ∃ subscribed, registration.handler.origin =
      some ⟨subscribed, registration.id, registration.topic⟩ ∧
    (callsOf past)[registration.number]? = some (some subscribed,
      .subscribe registration.id registration.topic registration.handler.handler)

/-- Messages that reached registrations under watch are deliveries to them. -/
theorem deliveries_of_reached {past : List (Entry η)} {message : RoutedMessage}
    {received : List (Registration (Watched η))} {reached : List (Sighting η × List Span)}
    (each : List.Forall₂ Reaches
      (received.map fun registration => (registration.handler, some message)) reached)
    (watched : ∀ registration ∈ received, WatchedFrom past registration) :
    ∃ deliveries : List (Delivery η),
      deliveries.map Delivery.registration = received.map (Registration.map Watched.handler) ∧
      reached.flatMap Prod.snd = deliveries.map Delivery.span ∧
      reached.map Prod.fst = deliveries.map (fun delivery => ⟨some delivery.span.ref,
        .handle delivery.registration.handler message delivery.answer⟩) ∧
      ∀ delivery ∈ deliveries,
        delivery.span.Reports "process"
          (message.processFields delivery.registration.id delivery.registration.topic)
          BusError.message delivery.answer ∧
        ∃ subscribed, delivery.span.parent = some subscribed ∧
          (callsOf past)[delivery.registration.number]? = some (some subscribed,
            .subscribe delivery.registration.id delivery.registration.topic
              delivery.registration.handler) := by
  induction received generalizing reached with
  | nil =>
    cases each
    exact ⟨[], rfl, rfl, rfl, List.forall_mem_nil _⟩
  | cons registration rest ih =>
    rw [List.forall_mem_cons] at watched
    obtain ⟨subscribed, origin, placed⟩ := watched.1
    obtain ⟨number, id, topic, handler, from?⟩ := registration
    obtain rfl : from? = some ⟨subscribed, id, topic⟩ := origin
    cases each with
    | cons first later =>
      obtain ⟨deliveries, registrations, spans, sightings, known⟩ := ih later watched.2
      cases first with
      | handle _ _ _ span answer parent reports =>
        refine ⟨⟨⟨number, id, topic, handler⟩, answer, span⟩ :: deliveries, ?_, ?_, ?_, ?_⟩
        · rw [List.map_cons, List.map_cons, registrations]
          rfl
        · rw [List.flatMap_cons, List.map_cons, spans]
          rfl
        · rw [List.map_cons, List.map_cons, sightings]
        · rw [List.forall_mem_cons]
          exact ⟨⟨reports, subscribed, parent, placed⟩, known⟩

/-- Live registrations on a sound stage are under watch. -/
theorem Stage.Sound.watchedFrom {stage : Stage (Watched η) σ η} (sound : stage.Sound)
    {registration : Registration (Watched η)} (live : registration.Live (watchedCalls stage.2)) :
    WatchedFrom stage.2 registration := by
  have made := live.1.1
  rw [watchedCalls, List.getElem?_map, Option.map_eq_some_iff] at made
  obtain ⟨⟨place, call⟩, present, same⟩ := made
  cases call with
  | subscribe id topic handler =>
    obtain ⟨ids, topics, handlers⟩ := Call.subscribe.inj same
    obtain ⟨ref, rfl⟩ := sound.placed place id topic handler (List.mem_of_getElem? present)
    subst ids topics
    refine ⟨ref, ?_, ?_⟩
    · rw [← handlers]
      rfl
    · rw [← handlers]
      exact present
  | _ => cases same

/-- A call speaks as the chronicle has it to those that it contacts on a sound stage. -/
theorem Stage.Sound.speaks {stage : Stage (Watched η) σ η} (sound : stage.Sound)
    (place : Option SpanRef) (call : Call η) {reached : List (Sighting η × List Span)}
    (each : List.Forall₂ Reaches (stage.1.1.contacted (call.watchedIn place)) reached) :
    Speaks stage.2 call (reached.map Prod.fst) (reached.flatMap Prod.snd) := by
  cases call with
  | publish message =>
    obtain ⟨received, distinct, members, contacted⟩ := sound.faithful.received message
    have watched : ∀ registration ∈ received, WatchedFrom stage.2 registration :=
      fun registration member => sound.watchedFrom ((members registration).mp member).1
    change List.Forall₂ Reaches (stage.1.1.contacted (.publish message)) reached at each
    rw [contacted] at each
    obtain ⟨deliveries, registrations, spans, sightings, known⟩ :=
      deliveries_of_reached each watched
    refine ⟨deliveries, ⟨?_, ?_, ?_, ?_⟩, spans, sightings⟩
    · rw [registrations]
      apply distinct.map_on
      intro registration member other member' same
      have pairs : (registration.map Watched.handler).pair = (other.map Watched.handler).pair :=
        congrArg Registration.pair same
      exact ((members registration).mp member).1.unique ((members other).mp member').1 pairs
    · intro registration
      rw [registrations, ← map_watchedCalls, Registration.live_map, List.mem_map]
      constructor
      · rintro ⟨original, member, rfl⟩
        obtain ⟨live, taken⟩ := (members original).mp member
        exact ⟨⟨original, live, rfl⟩, taken⟩
      · rintro ⟨⟨original, live, rfl⟩, taken⟩
        exact ⟨original, (members original).mpr ⟨live, taken⟩, rfl⟩
    · exact fun delivery member => (known delivery member).1
    · exact fun delivery member => (known delivery member).2
  | _ => exact speaks_of_dismissed each (Bus.contacted_dismissed nofun)

section Calls

variable {handling : Handling σ η}

/-- A call of handlers under watch, made in a span and put on record there. -/
theorem Stage.Sound.called
    (handle : ∀ handler message, (handling.handle handler message).Untraced alike)
    (cancel : ∀ handler, (handling.cancel handler).Untraced alike)
    {stage : Stage (Watched η) σ η} (sound : stage.Sound) (call : Call η) (place : Option SpanRef)
    (placed : ∀ id topic handler, call = .subscribe id topic handler → ∃ ref, place = some ref)
    (trace : Trace) :
    let (answer, stage', trace') := Stage.called call
      ((Bus.pubSub handling.sighted.watched).call (call.watchedIn place)) place (stage, trace)
    stage'.Sound ∧ ∃ sightings inside,
      stage'.2 = stage.2 ++ [⟨place, .call call sightings answer⟩] ∧
      trace.Grows trace' inside ∧ Speaks stage.2 call sightings inside := by
  obtain ⟨⟨bus, parties⟩, record⟩ := stage
  obtain ⟨registry, reached, each, seen, grows⟩ := Bus.call_leads (Handling.watching handle cancel)
    (call.watchedIn place) place ((bus, parties, []), trace)
  have speaks := sound.speaks place call each
  rw [List.nil_append] at seen
  rw [← seen] at speaks
  refine ⟨⟨?_, ?_⟩, _, _, rfl, grows, speaks⟩
  · have faithful := sound.faithful.next (call.watchedIn place)
    change Bus.Faithful (watchedCalls (record ++ [⟨place, .call call _ _⟩])) _
    rw [watchedCalls, callsOf_append_some rfl, List.map_append]
    rw [← registry] at faithful
    exact faithful
  · intro place' id topic handler member
    change _ ∈ callsOf (record ++ [⟨place, .call call _ _⟩]) at member
    rw [callsOf_append_some rfl, List.mem_append] at member
    rcases member with before | now
    · exact sound.placed place' id topic handler before
    · obtain ⟨rfl, same⟩ := Prod.mk.inj (List.mem_singleton.mp now)
      exact placed id topic handler same.symm

theorem Call.span?_plain {call : Call η} {name : String} {fields : Data}
    (named : call.span? = some (name, fields)) : "error" ∉ fields.map Prod.fst := by
  cases call with
  | subscribe id topic handler =>
    obtain ⟨_, rfl⟩ := Prod.mk.inj (Option.some.inj named)
    simp [Run.messaging]
  | unsubscribe id topic =>
    obtain ⟨_, rfl⟩ := Prod.mk.inj (Option.some.inj named)
    simp [Run.messaging]
  | publish message =>
    obtain ⟨_, rfl⟩ := Prod.mk.inj (Option.some.inj named)
    simp [RoutedMessage.spanFields, Run.messaging, Run.payloadSize]
  | close => cases named

/-- Such a call in a span of its own. -/
theorem keeps_inSpan_called
    (handle : ∀ handler message, (handling.handle handler message).Untraced alike)
    (cancel : ∀ handler, (handling.cancel handler).Untraced alike) (call : Call η) {name : String}
    {fields : Data} (named : call.span? = some (name, fields)) :
    Keeps (Run.inSpan name fields BusError.message fun ref => Stage.called call
      ((Bus.pubSub handling.sighted.watched).call (call.watchedIn (some ref)))) := by
  rintro span ⟨stage, trace⟩ sound
  rw [Run.inSpan_apply, Run.inSpanUnder_apply]
  obtain ⟨sound', sightings, inside, record, grows, speaks⟩ := sound.called handle cancel call
    (some ⟨trace.opened, (span.map SpanRef.path).getD [] ++ [name]⟩)
    (fun _ _ _ _ => ⟨_, rfl⟩) { trace with opened := trace.opened + 1 }
  refine ⟨sound', _, grows.enclosed rfl, ?_⟩
  intro spans chronicle
  refine record ▸ chronicle.snoc ⟨inside, _, rfl, speaks, ?_⟩
  rw [named]
  exact ⟨_, rfl, rfl, Span.reports _ _ _ _ _ _ (Call.span?_plain named)⟩

/-- Every call of a bus with spans. -/
theorem keeps_traced_call
    (handle : ∀ handler message, (handling.handle handler message).Untraced alike)
    (cancel : ∀ handler, (handling.cancel handler).Untraced alike) (call : Call η) :
    Keeps ((Stage.pubSub Watched.handler
      (Bus.pubSub handling.sighted.watched)).traced.call call) := by
  cases call with
  | subscribe id topic handler =>
    exact keeps_inSpan_called handle cancel (.subscribe id topic handler) rfl
  | unsubscribe id topic =>
    exact keeps_inSpan_called handle cancel (.unsubscribe id topic) rfl
  | publish message => exact keeps_inSpan_called handle cancel (.publish message) rfl
  | close =>
    rintro span ⟨stage, trace⟩ sound
    obtain ⟨sound', sightings, inside, record, grows, speaks⟩ := sound.called handle cancel .close
      span nofun trace
    refine ⟨sound', inside, grows, ?_⟩
    intro spans chronicle
    exact record ▸ chronicle.snoc ⟨inside, [], (List.append_nil _).symm, speaks, rfl⟩

end Calls

end ChannelGate
