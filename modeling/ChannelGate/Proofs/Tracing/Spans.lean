import ChannelGate.Proofs.Bus.History
import ChannelGate.Proofs.Tracing.Stack

set_option autoImplicit false

namespace ChannelGate

/-- Spans were finished since; the numbers taken since are theirs, one each. -/
structure Trace.Grows (before after : Trace) (left : List Span) : Prop where
  spans : after.spans = before.spans ++ left
  opened : after.opened = before.opened + left.length
  numbers : (left.map fun span => span.ref.id).Perm (List.range' before.opened left.length)

namespace Trace.Grows

variable {before middle after : Trace} {left later : List Span}

theorem of_eq (spans : after.spans = before.spans) (opened : after.opened = before.opened) :
    before.Grows after [] :=
  ⟨by rw [spans, List.append_nil], opened, .refl _⟩

theorem refl (trace : Trace) : trace.Grows trace [] := of_eq rfl rfl

theorem trans (first : before.Grows middle left) (second : middle.Grows after later) :
    before.Grows after (left ++ later) where
  spans := by rw [second.spans, first.spans, List.append_assoc]
  opened := by rw [second.opened, first.opened, List.length_append, Nat.add_assoc]
  numbers := by
    have numbers := second.numbers
    rw [first.opened] at numbers
    rw [List.map_append, List.length_append, ← List.range'_append_1]
    exact first.numbers.append numbers

/-- A span that is opened first and finished last. -/
theorem enclosed (inside : ({ before with opened := before.opened + 1 } : Trace).Grows after left)
    {span : Span} (number : span.ref.id = before.opened) :
    before.Grows { after with spans := after.spans ++ [span] } (left ++ [span]) where
  spans := by rw [inside.spans, List.append_assoc]
  opened := by
    rw [inside.opened, List.length_append, List.length_singleton]
    exact Nat.add_right_comm before.opened 1 left.length
  numbers := by
    rw [List.map_append, List.length_append, List.length_singleton, List.range'_succ]
    have last : ([span].map fun span => span.ref.id) = [before.opened] := by
      rw [List.map_singleton, number]
    rw [last]
    exact (List.perm_append_singleton _ _).trans (inside.numbers.cons _)

end Trace.Grows

/-- A span with its name, with fields about what was done in it, and with how it failed if it
did. -/
structure Span.Reports {ε α : Type} (span : Span) (name : String) (fields : Data)
    (wording : ε → String) (answer : Except ε α) : Prop where
  name : span.ref.name = name
  fields : span.fields = fields ++ Run.failureField (Run.failure? wording answer)
  failed : ∀ datum, ("error", datum) ∈ span.fields ↔
    ∃ error, answer = .error error ∧ datum = .text (wording error)

theorem Span.reports {ε α : Type} (number : Nat) (path : List String) (parent : Option SpanRef)
    (name : String) {fields : Data} (wording : ε → String) (answer : Except ε α)
    (plain : "error" ∉ fields.map Prod.fst) :
    Span.Reports ⟨⟨number, path ++ [name]⟩, parent,
      fields ++ Run.failureField (Run.failure? wording answer)⟩ name fields wording answer where
  name := List.getLastD_concat
  fields := rfl
  failed := by
    intro datum
    have absent : ("error", datum) ∉ fields := fun member =>
      plain (List.mem_map.mpr ⟨_, member, rfl⟩)
    rw [List.mem_append]
    cases answer with
    | ok value =>
      constructor
      · exact fun member => member.elim (fun member => absurd member absent) nofun
      · rintro ⟨error, same, _⟩
        cases same
    | error error =>
      constructor
      · rintro (member | member)
        · exact absurd member absent
        · exact ⟨error, rfl, (Prod.mk.inj (List.mem_singleton.mp member)).2⟩
      · rintro ⟨_, same, rfl⟩
        rw [← Except.error.inj same]
        exact .inr (List.mem_singleton_self _)

def RoutedMessage.spanFields (message : RoutedMessage) : Data :=
  [Run.messaging "publish", ("client_id", .text message.publisher),
    ("channel", .text message.channel), ("subtopic", .text message.subtopic),
    Run.payloadSize message.payload]

def RoutedMessage.processFields (message : RoutedMessage) (id topic : String) : Data :=
  [Run.messaging "process", ("client_id", .text id), ("topic", .text topic),
    ("subtopic", .text message.subtopic), Run.payloadSize message.payload]

/-- The name and the fields of the span of a call of the bus. A close has none. -/
def Call.span? {η : Type} : Call η → Option (String × Data)
  | .subscribe id topic _ =>
    some ("subscribe", [Run.messaging "receive", ("client_id", .text id), ("topic", .text topic)])
  | .unsubscribe id topic =>
    some ("unsubscribe",
      [Run.messaging "unsubscribe", ("client_id", .text id), ("topic", .text topic)])
  | .publish message => some ("publish", message.spanFields)
  | .close => none

/-- A message that went to a registration, with the answer of its handler and the span. -/
structure Delivery (η : Type) where
  registration : Registration η
  answer : Except BusError Unit
  span : Span

/-- The call of the bus that an entry is about, with the span in which it was made. -/
def Entry.call? {η : Type} (entry : Entry η) : Option (Option SpanRef × Call η) :=
  match entry.deed with
  | .call made _ _ => some (entry.span, made)
  | _ => none

section Chronicle

variable {η : Type}

def callsOf (record : List (Entry η)) : List (Option SpanRef × Call η) :=
  record.filterMap Entry.call?

/-- A message went to every live registration whose topic takes in its subject, each time in a span
of its own, which is a child of the span of the subscribe. -/
structure Delivered (past : List (Entry η)) (message : RoutedMessage)
    (deliveries : List (Delivery η)) : Prop where
  distinct : (deliveries.map Delivery.registration).Nodup
  members : ∀ registration, registration ∈ deliveries.map Delivery.registration ↔
    registration.Live ((callsOf past).map Prod.snd) ∧
      Bus.topicMatches registration.topic message.subject = true
  reports : ∀ delivery ∈ deliveries, delivery.span.Reports "process"
    (message.processFields delivery.registration.id delivery.registration.topic) BusError.message
    delivery.answer
  children : ∀ delivery ∈ deliveries, ∃ subscribed, delivery.span.parent = some subscribed ∧
    (callsOf past)[delivery.registration.number]? = some (some subscribed,
      .subscribe delivery.registration.id delivery.registration.topic delivery.registration.handler)

/-- Whom a call of the bus speaks to, and the spans of that: messages go to handlers, and no other
call does more than cancel handlers, without spans. -/
def Speaks (past : List (Entry η)) (call : Call η) (sightings : List (Sighting η))
    (left : List Span) : Prop :=
  match call with
  | .publish message => ∃ deliveries : List (Delivery η), Delivered past message deliveries ∧
    left = deliveries.map Delivery.span ∧
    sightings = deliveries.map fun delivery => ⟨some delivery.span.ref,
      .handle delivery.registration.handler message delivery.answer⟩
  | _ => left = [] ∧ ∀ sighting ∈ sightings, ∃ handler answer,
    sighting.contact = .cancel handler answer

/-- The one span around what was done. -/
def Encloses {ε α : Type} (place : Option SpanRef) (left : List Span) (name : String)
    (fields : Data) (wording : ε → String) (answer : Except ε α) : Prop :=
  ∃ span, left = [span] ∧ place = some span.ref ∧ span.Reports name fields wording answer

/-- The spans that an entry leaves, after what is on record before. -/
def Entry.Leaves (past : List (Entry η)) (entry : Entry η) (left : List Span) : Prop :=
  match entry.deed with
  | .exchange (.identify _ _) => left = []
  | .exchange (.authorize _ _) => left = []
  | .exchange (.deliver _ message answer) =>
    Encloses entry.span left "publish" message.spanFields BusError.message answer
  | .exchange (.announce event answer) =>
    Encloses entry.span left "publish_event" event.spanFields EventError.message answer
  | .closeEvents _ => left = []
  | .visit _ hook answer => ∃ span, left = [span] ∧ span.parent = entry.span ∧
    span.Reports hook.spanName hook.spanFields GatewayError.message answer
  | .call made sightings answer => ∃ inside around, left = inside ++ around ∧
    Speaks past made sightings inside ∧
    match made.span? with
    | some (name, fields) => Encloses entry.span around name fields BusError.message answer
    | none => around = []

/-- What is on record, and the spans of it. -/
inductive Chronicle : List (Entry η) → List Span → Prop where
  | nil : Chronicle [] []
  | snoc {past : List (Entry η)} {entry : Entry η} {spans left : List Span} :
    Chronicle past spans → entry.Leaves past left → Chronicle (past ++ [entry]) (spans ++ left)

/-- The call as the bus gets it in a span: what subscribes is put under watch there. -/
def Call.watchedIn (place : Option SpanRef) : Call η → Call (Watched η)
  | .subscribe id topic handler =>
    .subscribe id topic ⟨handler, place.map fun ref => ⟨ref, id, topic⟩⟩
  | .unsubscribe id topic => .unsubscribe id topic
  | .publish message => .publish message
  | .close => .close

theorem Call.map_watchedIn (place : Option SpanRef) (call : Call η) :
    (call.watchedIn place).map Watched.handler = call := by
  cases call with
  | subscribe id topic handler => rfl
  | unsubscribe id topic => rfl
  | publish message => rfl
  | close => rfl

def watchedCalls (record : List (Entry η)) : List (Call (Watched η)) :=
  (callsOf record).map fun placed => placed.2.watchedIn placed.1

theorem map_watchedCalls (record : List (Entry η)) :
    (watchedCalls record).map (Call.map Watched.handler) = (callsOf record).map Prod.snd := by
  rw [watchedCalls, List.map_map]
  exact List.map_congr_left fun placed _ => Call.map_watchedIn placed.1 placed.2

theorem callsOf_append_none {past : List (Entry η)} {entry : Entry η} (other : entry.call? = none) :
    callsOf (past ++ [entry]) = callsOf past := by
  rw [callsOf, List.filterMap_append, List.filterMap_cons_none other]
  exact List.append_nil _

theorem callsOf_append_some {past : List (Entry η)} {entry : Entry η}
    {placed : Option SpanRef × Call η} (made : entry.call? = some placed) :
    callsOf (past ++ [entry]) = callsOf past ++ [placed] := by
  rw [callsOf, List.filterMap_append, List.filterMap_cons_some made]
  rfl

end Chronicle

end ChannelGate
