import ChannelGate.Proofs.Tracing.Company
import ChannelGate.Proofs.Tracing.Deliveries

set_option autoImplicit false

namespace ChannelGate

theorem Hook.spanFields_plain (hook : Hook) : "error" ∉ hook.spanFields.map Prod.fst := by
  cases hook <;> simp [Hook.spanFields, Hook.clientField, Hook.topicsField, Run.payloadSize]

namespace Parties

variable {σ η : Type} {alike : σ → σ → Prop} {parties : Parties σ η}

theorem keeps_announce (untraced : parties.Untraced alike) (event : Event) :
    Keeps (parties.tracedOnRecord.events.publish event) := by
  have plain : "error" ∉ event.spanFields.map Prod.fst := by simp [Event.spanFields]
  exact (Keeps.party (untraced.publish event)).inSpan_noted
    (fun answer => .exchange (.announce event answer)) "publish_event" event.spanFields
    EventError.message plain (fun _ _ => rfl) fun _ _ _ _ encloses => encloses

theorem keeps_deliver {sink : MessageSink (Stage (Watched η) σ η)}
    (keeps : ∀ message, Keeps (sink message)) (number : Nat) (message : RoutedMessage) :
    Keeps (MessageSink.traced (fun message => Stage.noted
      (fun answer => .exchange (.deliver number message answer)) (sink message)) message) := by
  have plain : "error" ∉ message.spanFields.map Prod.fst := by
    simp [RoutedMessage.spanFields, Run.messaging, Run.payloadSize]
  exact (keeps message).inSpan_noted (fun answer => .exchange (.deliver number message answer))
    "publish" message.spanFields BusError.message plain (fun _ _ => rfl)
    fun _ _ _ _ encloses => encloses

theorem keeps_perform (untraced : parties.Untraced alike) (created : Int64) (hook : Hook) :
    Keeps (((parties.staged parties.handling.sighted.watched Watched.handler).gateway
      .traced).perform created hook) := by
  have published : ∀ message, Keeps ((Stage.pubSub Watched.handler
      (Bus.pubSub parties.handling.sighted.watched)).traced.publish message) :=
    fun message => keeps_traced_call untraced.handle untraced.cancel (.publish message)
  have asked : (Keeps.bond σ η).Parties
      ((parties.staged parties.handling.sighted.watched Watched.handler).gateway .traced)
      ((parties.staged parties.handling.sighted.watched Watched.handler).gateway .traced) := by
    refine ⟨rfl, ?_, ?_, ?_, ?_⟩
    · intro credential
      exact ((Keeps.party (untraced.identify credential)).noted
        (fun answer => .exchange (.identify credential answer)) (fun _ _ => rfl)
        fun _ _ _ => rfl).lift
    · intro request
      exact ((Keeps.party (untraced.authorize request)).noted
        (fun answer => .exchange (.authorize request answer)) (fun _ _ => rfl)
        fun _ _ _ => rfl).lift
    · apply List.forall₂_same.mpr
      intro sink member message
      obtain ⟨inner, inside, rfl⟩ := List.mem_map.mp member
      obtain ⟨⟨outlet, number⟩, among, rfl⟩ := List.mem_map.mp inside
      apply Keeps.lift
      cases outlet with
      | sink sink =>
        have own := untraced.sinks sink (List.fst_mem_of_mem_zipIdx among)
        exact keeps_deliver (fun message => Keeps.party (own message)) number message
      | bus => exact keeps_deliver published number message
    · exact fun event => (keeps_announce untraced event).lift
  exact asked.joins_steps created hook

theorem keeps_visit (untraced : parties.Untraced alike) (created : Int64) (hook : Hook) :
    Keeps (parties.tracedOnRecord.hook created hook) := by
  rintro span ⟨stage, trace⟩
  have inside := keeps_perform untraced created hook
    (some ⟨trace.opened, (span.map SpanRef.path).getD [] ++ [hook.spanName]⟩)
    (stage, { trace with opened := trace.opened + 1 })
  exact inside.enclosed ⟨span, .visit created hook _⟩ rfl rfl
    ⟨_, rfl, rfl, Span.reports _ _ _ _ _ _ hook.spanFields_plain⟩

theorem keeps_act (untraced : parties.Untraced alike) (act : Act η) :
    Keeps (parties.tracedOnRecord.act act) := by
  cases act with
  | visit created hook =>
    exact (keeps_visit untraced created hook).bind fun _ => Keeps.of_pure _
  | announce event => exact (keeps_announce untraced event).bind fun _ => Keeps.of_pure _
  | closeEvents =>
    have keeps : Keeps parties.tracedOnRecord.events.close :=
      (Keeps.party untraced.close).noted .closeEvents (fun _ _ => rfl) fun _ _ _ => rfl
    exact keeps.bind fun _ => Keeps.of_pure _
  | call call =>
    exact (keeps_traced_call untraced.handle untraced.cancel call).bind fun _ => Keeps.of_pure _

/-- Spans only add. Among parties that have to do with no spans, and from states that are alike, a
stack with spans around everything gives the answers of the stack without them, and leaves the same
registry, but for what is put around its handlers, and the parties in states that are alike. Put on
record, which changes neither stack, both say the same to the policy, the sinks, the publisher of
events and the handlers, in the same order and with the same answers. And the spans that are
finished, all those that are opened, are the ones that belong to what is on record: one for each
visit, message, event, subscribe and unsubscribe, and one for each message to a handler, under the
span of the very subscribe that registered it. -/
theorem spans_only_add (parties : Parties σ η) (untraced : parties.Untraced alike)
    (acts : List (Act η)) (span : Option SpanRef) {state state' : σ} (together : alike state state')
    (trace : Trace) :
    let traced := Run.inTurn parties.traced.act acts span ((Bus.empty, state), trace)
    let bare := Run.inTurn parties.bare.act acts span ((Bus.empty, state'), trace)
    ∃ (record record' : List (Entry η)) (left : List Span),
      Run.inTurn parties.tracedOnRecord.act acts span (((Bus.empty, state), []), trace) =
        (traced.1, (traced.2.1, record), traced.2.2) ∧
      Run.inTurn parties.bareOnRecord.act acts span (((Bus.empty, state'), []), trace) =
        (bare.1, (bare.2.1, record'), bare.2.2) ∧
      traced.1 = bare.1 ∧
      bare.2.1.1 = traced.2.1.1.map Watched.handler ∧ alike traced.2.1.2 bare.2.1.2 ∧
      record.map Entry.anywhere = record'.map Entry.anywhere ∧
      trace.Grows traced.2.2 left ∧ Chronicle record left := by
  have tracedRun := (traced_on_record parties).run_on_record acts span (Bus.empty, state) trace
  have bareRun := (bare_on_record parties).run_on_record acts span (Bus.empty, state') trace
  have start : Stage.Alike alike
      ((((Bus.empty, state), []) : Stage (Watched η) σ η), trace).1
      ((((Bus.empty, state'), []) : Stage η σ η), trace).1 := ⟨rfl, together, rfl⟩
  have apart :=
    (Coupling.couples_inTurn (traced_apart untraced).act acts).heedless_run span span start
  have sound : Stage.Sound (((Bus.empty, state), []) : Stage (Watched η) σ η) :=
    ⟨Bus.Faithful.empty, fun _ _ _ _ member => nomatch member⟩
  obtain ⟨_, left, grows, fits⟩ := Keeps.inTurn (keeps_act untraced) acts span
    (((Bus.empty, state), []), trace) sound
  have chronicle := fits [] .nil
  rw [tracedRun] at apart grows chronicle
  rw [bareRun] at apart
  obtain ⟨answers, registry, parties', record⟩ := apart
  exact ⟨_, _, left, tracedRun, bareRun, answers, registry, parties', record, grows, chronicle⟩

/-- A company whose desk knows everybody as one lamp and lets it do anything. -/
def lampCompany : Company where
  desk := ⟨.empty, some ⟨[⟨none, .ok "lamp"⟩], [⟨none, none, none, .ok true⟩]⟩, []⟩
  recording := Recorder.blank
  machine := .initial .standard rfl .ready .fresh

/-- A handler that fails subscribes, the lamp publishes, something unknown is unsubscribed, and all
is closed. -/
def lampActs : List (Act (Recorder String)) :=
  [.call (.subscribe "watcher" "channels.1" ⟨"watcher", some .closed, none⟩),
    .visit 0 (.publish (some ⟨"session", "lamp", ⟨"key"⟩⟩) "channels/1/messages" [1]),
    .call (.unsubscribe "watcher" "channels.2"), .announce ⟨"connect", .ok []⟩, .call .close,
    .closeEvents]

theorem spans_only_add_lamp :
    let parties := Company.parties "gate" 1
    let traced := Run.inTurn parties.traced.act lampActs none ((Bus.empty, lampCompany), .empty)
    let bare := Run.inTurn parties.bare.act lampActs none ((Bus.empty, lampCompany), .empty)
    parties.Untraced Company.Alike ∧ Company.Alike lampCompany lampCompany ∧
      traced.1 = bare.1 ∧ Company.Alike traced.2.1.2 bare.2.1.2 ∧
      ∃ (record : List (Entry (Recorder String))) (left : List Span),
        Trace.empty.Grows traced.2.2 left ∧ Chronicle record left := by
  have untraced := Company.parties_untraced "gate" 1
  have together : Company.Alike lampCompany lampCompany := ⟨rfl, rfl, .refl _⟩
  obtain ⟨record, _, left, _, _, answers, _, companies, _, grows, chronicle⟩ :=
    spans_only_add (Company.parties "gate" 1) untraced lampActs none together .empty
  exact ⟨untraced, together, answers, companies, record, left, grows, chronicle⟩

end Parties

end ChannelGate
