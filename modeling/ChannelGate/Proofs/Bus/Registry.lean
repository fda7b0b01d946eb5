import ChannelGate.Proofs.Bus.History

set_option autoImplicit false

namespace ChannelGate.Bus

variable {σ η : Type}

section Ended

variable {calls : List (Call η)} {call : Call η} {registration : Registration η}

/-- Over are those registrations that were over, and those that the last call ends. -/
theorem over_append_singleton :
    registration.MadeBy (calls ++ [call]) ∧ ¬ registration.Live (calls ++ [call]) ↔
      (registration.MadeBy calls ∧ ¬ registration.Live calls) ∨
        (registration.Live calls ∧ registration.EndedBy call) := by
  rw [Registration.live_append_singleton, Registration.madeBy_append_singleton]
  constructor
  · rintro ⟨before | now, gone⟩
    · by_cases live : registration.Live calls
      · refine .inr ⟨live, ?_⟩
        by_contra lasts
        exact gone (.inl ⟨live, lasts⟩)
      · exact .inl ⟨before, live⟩
    · exact absurd (.inr now) gone
  · have not_now : registration.MadeBy calls → ¬ registration.StartedBy calls call := by
      intro made now
      exact absurd made.number_lt (Nat.not_lt_of_ge (Nat.le_of_eq now.number_eq.symm))
    rintro (⟨made, gone⟩ | ⟨live, ends⟩)
    · exact ⟨.inl made, fun still => still.elim (fun live => gone live.1) (not_now made)⟩
    · exact ⟨.inl live.1, fun still => still.elim (fun lasts => lasts.2 ends) (not_now live.1)⟩

end Ended

namespace Faithful

variable {calls : List (Call η)} {bus : Bus η}

/-- What the registry has under an id and a topic is the live registration there. -/
theorem under (faithful : bus.Faithful calls) (id topic : String) :
    ∃ held : List (Registration η), held.Nodup ∧
      (∀ registration : Registration η, registration ∈ held ↔
        registration.Live calls ∧ id = registration.id ∧ topic = registration.topic) ∧
      (bus.handler? id topic).toList = held.map Registration.handler := by
  cases found : bus.handler? id topic with
  | none =>
    refine ⟨[], List.nodup_nil, ?_, rfl⟩
    intro registration
    constructor
    · exact fun member => nomatch member
    · rintro ⟨live, rfl, rfl⟩
      have present := (faithful.holds _ _ _).mpr ⟨registration.number, live⟩
      rw [found] at present
      cases present
  | some handler =>
    obtain ⟨number, live⟩ := (faithful.holds id topic handler).mp found
    refine ⟨[⟨number, id, topic, handler⟩], List.nodup_singleton _, ?_, rfl⟩
    intro registration
    rw [List.mem_singleton]
    constructor
    · rintro rfl
      exact ⟨live, rfl, rfl⟩
    · rintro ⟨live', rfl, rfl⟩
      exact live'.unique live rfl

/-- A call cancels the live registrations that it ends, and no others. -/
theorem dismissed (faithful : bus.Faithful calls) (call : Call η) :
    ∃ ended : List (Registration η), ended.Nodup ∧
      (∀ registration : Registration η, registration ∈ ended ↔
        registration.Live calls ∧ registration.EndedBy call) ∧
      (bus.contacted call).filterMap dismissed? = ended.map Registration.handler := by
  have nobody : (∀ registration : Registration η, registration.Live calls →
        ¬ registration.EndedBy call) → (bus.contacted call).filterMap dismissed? = [] →
      ∃ ended : List (Registration η), ended.Nodup ∧
        (∀ registration : Registration η, registration ∈ ended ↔
          registration.Live calls ∧ registration.EndedBy call) ∧
        (bus.contacted call).filterMap dismissed? = ended.map Registration.handler := by
    intro lasting silent
    refine ⟨[], List.nodup_nil, ?_, silent⟩
    intro registration
    constructor
    · exact fun member => nomatch member
    · exact fun ends => absurd ends.2 (lasting registration ends.1)
  have held : ∀ handlers : List η,
      (handlers.map fun handler => (handler, (none : Option RoutedMessage))).filterMap dismissed? =
        handlers := by
    intro handlers
    rw [List.filterMap_map]
    exact List.filterMap_some
  cases call with
  | subscribe id topic handler =>
    by_cases refused : bus.closed = true ∨ id = "" ∨ topic = ""
    · apply nobody
      · rintro registration live ⟨rfl, rfl⟩
        rcases refused with closed | blank
        · exact faithful.not_live closed registration live
        · exact blank.elim live.1.2.1 live.1.2.2.1
      · simp only [contacted, refused, ↓reduceIte, List.filterMap_nil]
    · simp only [contacted, refused, ↓reduceIte, held]
      exact faithful.under id topic
  | unsubscribe id topic =>
    by_cases closed : bus.closed = true
    · apply nobody
      · exact fun registration live => absurd live (faithful.not_live closed registration)
      · simp only [contacted, closed, ↓reduceIte, List.filterMap_nil]
    · simp only [contacted, closed, Bool.false_eq_true, ↓reduceIte, held]
      exact faithful.under id topic
  | publish message =>
    apply nobody
    · exact fun _ _ => not_false
    · simp only [contacted]
      split
      · rfl
      · rw [List.filterMap_map]
        exact List.filterMap_eq_nil_iff.mpr fun _ _ => rfl
  | close =>
    by_cases closed : bus.closed = true
    · apply nobody
      · exact fun registration live => absurd live (faithful.not_live closed registration)
      · simp only [contacted, closed, ↓reduceIte, List.filterMap_nil]
    · obtain ⟨live, distinct, members, whole⟩ := faithful.listed
      refine ⟨live, distinct.of_map, ?_, ?_⟩
      · exact fun registration => (members registration).trans (and_true _).to_iff.symm
      · have handlers : (bus.subscriptions.map fun subscription =>
            (subscription.handler, (none : Option RoutedMessage))) =
            (live.map Registration.handler).map fun handler => (handler, none) := by
          rw [whole, List.map_map, List.map_map]
          rfl
        simp only [contacted, closed, Bool.false_eq_true, ↓reduceIte, handlers, held]

end Faithful

/-- A call of overheard handlers cancels what it ends. -/
theorem call_cancels (handling : Handling σ η) {calls : List (Call η)} (call : Call η)
    (span : Option SpanRef) {before : (Bus η × σ × List (Contact η)) × Trace}
    (faithful : before.1.1.Faithful calls) :
    ∃ (contacts : List (Contact η)) (ended : List (Registration η)),
      ((pubSub handling.overheard).call call span before).2.1.2.2 = before.1.2.2 ++ contacts ∧
      ended.Nodup ∧
      (∀ registration : Registration η, registration ∈ ended ↔
        registration.Live calls ∧ registration.EndedBy call) ∧
      contacts.filterMap Contact.cancelled? = ended.map Registration.handler := by
  obtain ⟨_, contacts, grown, spoken⟩ := call_leads handling.recording call span before
  obtain ⟨ended, distinct, members, handlers⟩ := faithful.dismissed call
  refine ⟨contacts, ended, grown, distinct, members, ?_⟩
  rw [← handlers, ← spoken, List.filterMap_map]
  exact List.filterMap_congr fun contact _ => contact.cancelled?_eq

/-- What calls of a new bus lead to. -/
theorem run_faithful (handling : Handling σ η) (calls : List (Call η)) (span : Option SpanRef)
    (state : σ) (trace : Trace) :
    let scene := (Run.inTurn (pubSub handling.overheard).call calls span
      ((Bus.empty, state, []), trace)).2
    scene.1.1.Faithful calls ∧ ∃ gone : List (Registration η), gone.Nodup ∧
      (∀ registration : Registration η, registration ∈ gone ↔
        registration.MadeBy calls ∧ ¬ registration.Live calls) ∧
      scene.1.2.2.filterMap Contact.cancelled? = gone.map Registration.handler := by
  induction calls using List.reverseRecOn with
  | nil =>
    refine ⟨Faithful.empty, [], List.nodup_nil, ?_, rfl⟩
    intro registration
    constructor
    · exact fun member => nomatch member
    · exact fun made => absurd made.1.number_lt (Nat.not_lt_zero _)
  | append_singleton calls call ih =>
    simp only [Run.inTurn_append_singleton]
    generalize (Run.inTurn (pubSub handling.overheard).call calls span
      ((Bus.empty, state, []), trace)).2 = scene at ih ⊢
    obtain ⟨faithful, gone, distinct, members, record⟩ := ih
    obtain ⟨contacts, ended, grown, distinct', members', record'⟩ :=
      call_cancels handling call span faithful
    refine ⟨?_, gone ++ ended, ?_, ?_, ?_⟩
    · rw [(call_leads handling.recording call span scene).1]
      exact faithful.next call
    · rw [List.nodup_append]
      refine ⟨distinct, distinct', ?_⟩
      rintro registration before _ now rfl
      exact ((members registration).mp before).2 ((members' registration).mp now).1
    · intro registration
      rw [List.mem_append, members, members', over_append_singleton]
    · rw [grown, List.filterMap_append, record, record', List.map_append]

/-- Overheard, a bus does the same. -/
theorem run_overheard (handling : Handling σ η) (calls : List (Call η)) (span : Option SpanRef)
    (state : σ) (trace : Trace) :
    let overheard := Run.inTurn (pubSub handling.overheard).call calls span
      ((Bus.empty, state, []), trace)
    Run.inTurn (pubSub handling).call calls span ((Bus.empty, state), trace) =
      (overheard.1, (overheard.2.1.1, overheard.2.1.2.1), overheard.2.2) := by
  have handlings : (Coupling.beside σ (Contact η)).Handlings id handling handling.overheard :=
    ⟨fun _ _ => Coupling.beside_recorded _ _, fun _ => Coupling.beside_recorded _ _⟩
  have each : ∀ call, ((Coupling.beside σ (Contact η)).onBus id).Couples
      ((pubSub handling).call call) ((pubSub handling.overheard).call call) := by
    intro call
    have coupled := Coupling.couples_call handlings call
    rw [Call.map_id] at coupled
    exact coupled
  have start : ((Coupling.beside σ (Contact η)).onBus (id : η → η)).states
      ((Bus.empty, state), trace) ((Bus.empty, state, []), trace) :=
    ⟨(map_id Bus.empty).symm, rfl, rfl⟩
  obtain ⟨answers, registry, parties, traces⟩ :=
    (Coupling.couples_inTurn each calls).run (Eq.refl span) start
  intro overheard
  change overheard.2.1.2.1 = _ at parties
  change overheard.2.2 = _ at traces
  change overheard.2.1.1 = _ at registry
  rw [map_id] at registry
  rw [registry, parties, traces]
  exact Prod.ext answers rfl

/-- What becomes of a registry. After any calls of a new bus, each run to its end, with handlers
that answer anything, the registry is tidy, holds the handlers of the live registrations, and counts
them; the cancelled handlers are those of the registrations that are over, each once, and a further
call cancels just those live registrations that it ends; a subscribe without id or topic, and an
unsubscribe of what is not live, answer an error and leave everything as it is; and after a close
the registry is empty, a close answers well, all other calls that the bus is closed, and none does
anything. Overhearing the handlers changes nothing. -/
theorem registry_follows_calls (handling : Handling σ η) (calls : List (Call η))
    (span : Option SpanRef) (state : σ) (trace : Trace) :
    let call := (pubSub handling.overheard).call
    let run := Run.inTurn call calls span ((Bus.empty, state, []), trace)
    let scene := run.2
    let bus := scene.1.1
    let record := scene.1.2.2
    Run.inTurn (pubSub handling).call calls span ((Bus.empty, state), trace) =
      (run.1, (bus, scene.1.2.1), scene.2) ∧
    bus.Tidy ∧
    (∀ id topic handler, bus.handler? id topic = some handler ↔
      ∃ number, Registration.Live calls ⟨number, id, topic, handler⟩) ∧
    (∃ live : List (Registration η), (live.map Registration.pair).Nodup ∧
      (∀ registration, registration ∈ live ↔ registration.Live calls) ∧
      bus.subscriptions = live.map Registration.subscription ∧ bus.size = live.length) ∧
    (∃ gone : List (Registration η), gone.Nodup ∧
      (∀ registration : Registration η, registration ∈ gone ↔
        registration.MadeBy calls ∧ ¬ registration.Live calls) ∧
      record.filterMap Contact.cancelled? = gone.map Registration.handler) ∧
    (∀ further, ∃ (contacts : List (Contact η)) (ended : List (Registration η)),
      (call further span scene).2.1.2.2 = record ++ contacts ∧ ended.Nodup ∧
      (∀ registration : Registration η, registration ∈ ended ↔
        registration.Live calls ∧ registration.EndedBy further) ∧
      contacts.filterMap Contact.cancelled? = ended.map Registration.handler) ∧
    (∀ id topic handler, id = "" ∨ topic = "" →
      call (.subscribe id topic handler) span scene =
        (.error (if bus.closed then .closed
          else .subscribe "subscriber id and topic must not be empty"), scene)) ∧
    (∀ id topic, (∀ number handler, ¬ Registration.Live calls ⟨number, id, topic, handler⟩) →
      call (.unsubscribe id topic) span scene =
        (.error (if bus.closed then .closed else .notSubscribed id topic), scene)) ∧
    (call .close span scene).1 = .ok () ∧
    (Call.close ∈ calls → bus.topics = [] ∧ call .close span scene = (.ok (), scene) ∧
      ∀ further, further ≠ .close → call further span scene = (.error .closed, scene)) := by
  intro call run scene bus record
  obtain ⟨faithful, gone⟩ := run_faithful handling calls span state trace
  have refused : ∀ {which : Call η} {error : BusError}, bus.refusal? which = some error →
      call which span scene = (.error error, scene) :=
    fun known => call_refused handling.overheard faithful.tidy known
  refine ⟨run_overheard handling calls span state trace, faithful.tidy, faithful.holds, ?_, gone,
    ?_, ?_, ?_, close_answer handling.overheard span scene, ?_⟩
  · obtain ⟨live, distinct, members, whole⟩ := faithful.listed
    refine ⟨live, distinct, members, whole, ?_⟩
    rw [size_eq]
    exact (congrArg List.length whole).trans (List.length_map _)
  · exact fun further => call_cancels handling further span faithful
  · exact fun id topic handler blank => refused (refusal?_of_blank bus blank handler)
  · intro id topic nobody
    have absent : bus.handler? id topic = none := by
      rw [Option.eq_none_iff_forall_ne_some]
      intro handler present
      obtain ⟨number, live⟩ := (faithful.holds id topic handler).mp present
      exact nobody number handler live
    exact refused (refusal?_of_absent absent)
  · intro member
    have closed : bus.closed = true := faithful.closed.mpr member
    exact ⟨faithful.emptied closed, close_of_closed handling.overheard span closed,
      fun further other => refused (refusal?_of_closed closed other)⟩

end ChannelGate.Bus
