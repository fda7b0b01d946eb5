import ChannelGate.Proofs.Event.Fields
import ChannelGate.Proofs.Gateway.Effects
import ChannelGate.Proofs.Results

set_option autoImplicit false

namespace ChannelGate

/-- The event is about a client with the empty id. -/
def Event.IsUnnamed (event : Event) : Prop :=
  ∃ kind instanceId, event = (Lifecycle.mk kind "" instanceId).toEvent

/-- The message or the event has the empty id for the id of its client. -/
def Exchange.IsUnnamed : Exchange → Prop
  | .deliver _ message _ => message.publisher = ""
  | .announce event _ => event.IsUnnamed
  | _ => False

namespace Hook

/-- The hook publishes to a text that is no topic. -/
def IsMisdirected : Hook → Prop
  | .publish _ topic _ => ∀ route, Topic.parse topic ≠ .ok route
  | _ => False

/-- The hook reaches others for a session without an id: it tells about a disconnect, or publishes
to a topic where there are sinks. -/
def ActsUnnamed (hook : Hook) (sinks : Nat) : Prop :=
  ∃ session, session.id = "" ∧
    (hook = .disconnect (some session) ∨
      0 < sinks ∧ ∃ topic payload route, hook = .publish (some session) topic payload ∧
        Topic.parse topic = .ok route)

end Hook

/-- Nobody can be told about a client without an id: such an event cannot be encoded. -/
theorem Event.IsUnnamed.not_encoded {event : Event} (unnamed : event.IsUnnamed) (fields : Fields) :
    event.encoding ≠ .ok fields := by
  obtain ⟨kind, instanceId, rfl⟩ := unnamed
  exact nofun

theorem Lifecycle.isUnnamed_toEvent_iff {event : Lifecycle} :
    event.toEvent.IsUnnamed ↔ event.clientId = "" := by
  constructor
  · intro unnamed
    by_contra named
    exact unnamed.not_encoded _ (if_neg named)
  · intro empty
    obtain ⟨kind, clientId, instanceId⟩ := event
    exact ⟨kind, instanceId, by rw [show clientId = "" from empty]⟩

/-- The fields of an encoded event name its client, who has an id. -/
theorem Lifecycle.client_of_encoded {event : Lifecycle} {fields : Fields}
    (encoded : event.encode = .ok fields) :
    event.clientId ≠ "" ∧ fields.lookup "client_id" = some (.text event.clientId) := by
  have named : event.clientId ≠ "" := by
    intro empty
    cases encoded.symm.trans (if_pos empty)
  have written : fields = Fields.ofList
      [("operation", .text event.operation), ("client_id", .text event.clientId),
        ("instance", .text event.instanceId)] :=
    (Except.ok.inj ((if_neg named).symm.trans encoded)).symm
  have other : "client_id" ≠ "instance" := by decide
  rw [written]
  refine ⟨named, ?_⟩
  simp only [Fields.ofList, List.foldl_cons, List.foldl_nil]
  rw [Fields.lookup_insert_of_ne _ other, Fields.lookup_insert_self]

namespace Gateway

open Exchange

variable {σ : Type} {gateway : Gateway σ} {created : Int64} {hook : Hook} {session : Session}
  {answer : Except GatewayError Unit} {said : List Exchange}

theorem conduct_check_unnamed (check : hook.IsCheck) (own : hook.session? = some session)
    (unnamed : session.id = "") (behaves : Conduct gateway created hook answer said) :
    answer = .error .missingClientId ∧ said = [] := by
  have refused : authSession (some session) = .error .missingClientId := if_pos unnamed
  cases hook with
  | authConnect presented | authPublish presented | authSubscribe presented =>
    have presents : presented = some session := own
    rw [Conduct, presents, refused] at behaves
    exact behaves
  | connect | publish | subscribe | unsubscribe | disconnect => exact check.elim

theorem conduct_publish_parsed {topic : String} {payload : List UInt8} {route : Topic.Route}
    (parsed : Topic.parse topic = .ok route)
    (behaves : Conduct gateway created (.publish (some session) topic payload) answer said) :
    Spread (.new route.channel route.subtopic session.id payload created) none gateway.sinks.length 0
      answer said := by
  obtain ⟨trailer, divided, read⟩ := Topic.parse_eq_ok.mp parsed
  rw [Conduct, divided] at behaves
  change Given ((Topic.subtopic trailer).mapError _) _ answer said at behaves
  rw [read] at behaves
  exact behaves

theorem conduct_publish_unparsed {topic : String} {payload : List UInt8}
    (unparsed : ∀ route, Topic.parse topic ≠ .ok route)
    (behaves : Conduct gateway created (.publish (some session) topic payload) answer said) :
    (∃ error, answer = .error error) ∧ said = [] := by
  change Given _ _ answer said at behaves
  rcases Given.cases behaves with ⟨error, _, failed, silent⟩ | ⟨parts, divided, named⟩
  · exact ⟨⟨error, failed⟩, silent⟩
  rcases Given.cases named with ⟨error, _, failed, silent⟩ | ⟨target, read, _⟩
  · exact ⟨⟨error, failed⟩, silent⟩
  -- Both steps of the publish succeed, so the text is a topic after all.
  have parsed : Topic.parse topic = .ok ⟨parts.channel, target⟩ :=
    Topic.parse_eq_ok.mpr ⟨parts.trailer, Result.mapError_eq_ok_iff.mp divided,
      Result.mapError_eq_ok_iff.mp read⟩
  exact absurd parsed (unparsed _)

/-- Behind the checks a session is let through, with an id or without, except by a publish. -/
theorem conduct_passes (unchecked : ¬ hook.IsCheck) (own : hook.session? = some session)
    (other : ∀ topic payload, hook ≠ .publish (some session) topic payload)
    (behaves : Conduct gateway created hook answer said) : answer = .ok () := by
  cases hook with
  | authConnect | authPublish | authSubscribe => exact absurd trivial unchecked
  | publish presented topic payload =>
    have presents : presented = some session := own
    exact absurd (by rw [presents]) (other topic payload)
  | connect presented | subscribe presented | unsubscribe presented =>
    have presents : presented = some session := own
    rw [Conduct, presents] at behaves
    exact behaves.1
  | disconnect presented =>
    have presents : presented = some session := own
    rw [Conduct, presents] at behaves
    obtain ⟨outcome, good, _⟩ := behaves
    exact good

/-- Of the hooks of a session without an id, those and only those refuse it and say nothing that
check something or publish to no topic. -/
theorem conduct_refused_iff (own : hook.session? = some session) (unnamed : session.id = "")
    (behaves : Conduct gateway created hook answer said) :
    (∃ error, answer = .error error) ∧ said = [] ↔ hook.IsCheck ∨ hook.IsMisdirected := by
  by_cases check : hook.IsCheck
  · have refused := conduct_check_unnamed check own unnamed behaves
    exact ⟨fun _ => .inl check, fun _ => ⟨⟨_, refused.1⟩, refused.2⟩⟩
  by_cases publishes : ∃ topic payload, hook = .publish (some session) topic payload
  · obtain ⟨topic, payload, rfl⟩ := publishes
    constructor
    · intro refused
      refine .inr fun route parsed => ?_
      obtain ⟨outcomes, length, settled, whole⟩ := conduct_publish_parsed parsed behaves
      obtain ⟨⟨error, failed⟩, silent⟩ := refused
      rw [silent] at whole
      cases outcomes with
      | nil => cases settled.symm.trans failed
      | cons outcome outcomes => cases whole
    · intro misdirected
      rcases misdirected with checked | unparsed
      · exact absurd checked check
      · exact conduct_publish_unparsed unparsed behaves
  · have other : ∀ topic payload, hook ≠ .publish (some session) topic payload :=
      fun topic payload same => publishes ⟨topic, payload, same⟩
    have good := conduct_passes check own other behaves
    constructor
    · intro refused
      obtain ⟨⟨error, failed⟩, _⟩ := refused
      cases good.symm.trans failed
    · intro misdirected
      rcases misdirected with checked | unparsed
      · exact absurd checked check
      cases hook with
      | publish presented topic payload =>
        have presents : presented = some session := own
        exact absurd (by rw [presents]) (other topic payload)
      | _ => exact unparsed.elim

/-- What is unnamed is among the events or the messages. -/
theorem exists_unnamed_iff :
    (∃ exchange ∈ said, exchange.IsUnnamed) ↔
      (∃ event ∈ said.filterMap event?, event.IsUnnamed) ∨
      ∃ delivery ∈ said.filterMap delivery?, delivery.2.publisher = "" := by
  constructor
  · intro found
    obtain ⟨exchange, member, unnamed⟩ := found
    cases exchange with
    | identify | authorize => exact unnamed.elim
    | deliver sink message outcome =>
      exact .inr ⟨(sink, message), List.mem_filterMap.mpr ⟨_, member, rfl⟩, unnamed⟩
    | announce event outcome =>
      exact .inl ⟨event, List.mem_filterMap.mpr ⟨_, member, rfl⟩, unnamed⟩
  · intro found
    rcases found with ⟨event, member, unnamed⟩ | ⟨delivery, member, unnamed⟩
    · obtain ⟨exchange, said, told⟩ := List.mem_filterMap.mp member
      cases exchange with
      | announce =>
        cases told
        exact ⟨_, said, unnamed⟩
      | _ => cases told
    · obtain ⟨exchange, said, told⟩ := List.mem_filterMap.mp member
      cases exchange with
      | deliver =>
        cases told
        exact ⟨_, said, unnamed⟩
      | _ => cases told

/-- An unnamed event comes from a disconnect: a connect is told about only if the session passed the
check, and then it has an id. -/
theorem unnamed_lifecycle_iff (behaves : Conduct gateway created hook answer said) :
    (∃ event, hook.lifecycle? gateway.instanceId answer = some event ∧ event.clientId = "") ↔
      ∃ session, hook = .disconnect (some session) ∧ session.id = "" := by
  constructor
  · intro told
    obtain ⟨event, announced, empty⟩ := told
    unfold Hook.lifecycle? at announced
    split at announced
    · rename_i session
      cases announced
      rcases Given.cases behaves with ⟨error, _, failed, _⟩ | ⟨other, checked, _⟩
      · cases failed
      · obtain ⟨same, named⟩ := authSession_eq_ok.mp checked
        rw [← Option.some.inj same] at named
        exact absurd empty named
    · rename_i session
      cases announced
      exact ⟨session, rfl, empty⟩
    · cases announced
  · intro leaves
    obtain ⟨session, rfl, empty⟩ := leaves
    exact ⟨_, rfl, empty⟩

theorem unnamed_message_iff (created : Int64) :
    (∃ message, hook.message? created = some message ∧ message.publisher = "") ↔
      ∃ session, session.id = "" ∧ ∃ topic payload route,
        hook = .publish (some session) topic payload ∧ Topic.parse topic = .ok route := by
  constructor
  · intro sent
    obtain ⟨message, made, empty⟩ := sent
    unfold Hook.message? at made
    split at made
    · rename_i session topic payload
      cases parsed : Topic.parse topic with
      | error error =>
        rw [parsed] at made
        cases made
      | ok route =>
        rw [parsed] at made
        cases made
        exact ⟨session, empty, topic, payload, route, rfl, parsed⟩
    · cases made
  · intro publishes
    obtain ⟨session, empty, topic, payload, route, rfl, parsed⟩ := publishes
    exact ⟨.new route.channel route.subtopic session.id payload created,
      by rw [Hook.message?, parsed], empty⟩

theorem unnamed_delivery_iff {message? : Option RoutedMessage} {sinks : Nat} :
    (∃ delivery ∈ message?.toList.flatMap (fun message =>
        (List.range sinks).map fun sink => (sink, message)), delivery.2.publisher = "") ↔
      0 < sinks ∧ ∃ message, message? = some message ∧ message.publisher = "" := by
  have present : (∃ sink, sink < sinks) ↔ 0 < sinks :=
    ⟨fun ⟨_, below⟩ => Nat.zero_lt_of_lt below, fun some => ⟨0, some⟩⟩
  cases message? with
  | none => simp
  | some message => simp [present]

/-- Something unnamed is said exactly if the hook acts for a session without an id. -/
theorem conduct_unnamed_iff (behaves : Conduct gateway created hook answer said) :
    (∃ exchange ∈ said, exchange.IsUnnamed) ↔ hook.ActsUnnamed gateway.sinks.length := by
  have events : (∃ event ∈ said.filterMap event?, event.IsUnnamed) ↔
      ∃ session, hook = .disconnect (some session) ∧ session.id = "" := by
    rw [← unnamed_lifecycle_iff behaves, conduct_events behaves]
    simp [Lifecycle.isUnnamed_toEvent_iff]
  rw [exists_unnamed_iff, events, conduct_deliveries behaves, unnamed_delivery_iff,
    unnamed_message_iff]
  constructor
  · intro acts
    rcases acts with ⟨session, leaves, empty⟩ | ⟨present, session, empty, publishes⟩
    · exact ⟨session, empty, .inl leaves⟩
    · exact ⟨session, empty, .inr ⟨present, publishes⟩⟩
  · intro acts
    obtain ⟨session, empty, leaves | ⟨present, publishes⟩⟩ := acts
    · exact .inl ⟨session, leaves, empty⟩
    · exact .inr ⟨present, session, empty, publishes⟩

theorem conduct_asks_named (own : hook.session? = some session) (unnamed : session.id = "")
    (behaves : Conduct gateway created hook answer said) :
    ∀ exchange ∈ said, ¬ exchange.IsQuestion := by
  by_cases check : hook.IsCheck
  · rw [(conduct_check_unnamed check own unnamed behaves).2]
    exact List.forall_mem_nil _
  · exact conduct_unasked gateway created check answer said behaves

/-- An event is about the client whose session the hook came with. -/
theorem client_of_lifecycle {instanceId : String} {event : Lifecycle}
    (told : hook.lifecycle? instanceId answer = some event) :
    ∃ session, hook.session? = some session ∧ event.clientId = session.id := by
  unfold Hook.lifecycle? at told
  split at told
  · cases told
    exact ⟨_, rfl, rfl⟩
  · cases told
    exact ⟨_, rfl, rfl⟩
  · cases told

/-- Whoever encodes what is announced finds the id of a session in it. -/
theorem conduct_announces_named {event : Event} {outcome : Except EventError Unit} {fields : Fields}
    (behaves : Conduct gateway created hook answer said)
    (announced : .announce event outcome ∈ said) (encoded : event.encoding = .ok fields) :
    ∃ session, hook.session? = some session ∧ session.id ≠ "" ∧
      fields.lookup "client_id" = some (.text session.id) := by
  have member : event ∈ said.filterMap event? := List.mem_filterMap.mpr ⟨_, announced, rfl⟩
  rw [conduct_events behaves, Option.mem_toList, Option.map_eq_some_iff] at member
  obtain ⟨lifecycle, told, rfl⟩ := member
  obtain ⟨session, own, same⟩ := client_of_lifecycle told
  have named := Lifecycle.client_of_encoded encoded
  rw [same] at named
  exact ⟨session, own, named⟩

/-- A session without an id is refused without a word exactly by the hooks that check something, and
by a publish to no topic. The checks name the missing id as the reason, and the policy is never asked
about such a session. What is said for nobody is a message of a publish to a topic, or the event of a
disconnect; every event that can be encoded has the id of the session in its fields. -/
theorem unnamed_session_is_refused_iff (gateway : Gateway σ) (created : Int64) (hook : Hook)
    (moment : Moment σ) :
    let answer := gateway.answer created hook moment
    let said := gateway.exchanges created hook moment
    (∀ session, hook.session? = some session → session.id = "" →
      ((∃ error, answer = .error error) ∧ said = [] ↔ hook.IsCheck ∨ hook.IsMisdirected) ∧
      (hook.IsCheck → answer = .error .missingClientId) ∧
      (∀ exchange ∈ said, ¬ exchange.IsQuestion)) ∧
    ((∃ exchange ∈ said, exchange.IsUnnamed) ↔ hook.ActsUnnamed gateway.sinks.length) ∧
    (∀ event outcome fields, .announce event outcome ∈ said → event.encoding = .ok fields →
      ∃ session, hook.session? = some session ∧ session.id ≠ "" ∧
        fields.lookup "client_id" = some (.text session.id)) := by
  intro answer said
  have behaves : Conduct gateway created hook answer said := conduct gateway created hook moment
  refine ⟨?_, conduct_unnamed_iff behaves, ?_⟩
  · intro session own unnamed
    refine ⟨conduct_refused_iff own unnamed behaves, ?_, conduct_asks_named own unnamed behaves⟩
    intro check
    exact (conduct_check_unnamed check own unnamed behaves).1
  · intro event outcome fields announced encoded
    exact conduct_announces_named behaves announced encoded

def openGateway : Gateway Unit where
  instanceId := "gate"
  policy.identify _ := return .ok "sensor"
  policy.authorize _ := return .ok true
  sinks := [fun _ => return .ok ()]
  events _ := return .ok ()

def drifterSession : Session := ⟨"", "sensor", ⟨"s3cret"⟩⟩

/-- The gateway publishes for a session without an id, lets it subscribe and tells about its
disconnect. -/
theorem drifter_is_let_through :
    let start : Moment Unit := ⟨none, (), .empty⟩
    let publish := Hook.publish (some drifterSession) "channels/alarms/messages" [1]
    let subscribe := Hook.subscribe (some drifterSession) ["channels/alarms/messages"]
    let disconnect := Hook.disconnect (some drifterSession)
    drifterSession.id = "" ∧
    openGateway.answer 5 (.connect (some drifterSession)) start = .ok () ∧
    openGateway.answer 5 publish start = .ok () ∧
    openGateway.exchanges 5 publish start =
      [.deliver 0 (.new "alarms" "" "" [1] 5) (.ok ())] ∧
    openGateway.answer 5 subscribe start = .ok () ∧
    openGateway.answer 5 disconnect start = .ok () ∧
    openGateway.exchanges 5 disconnect start =
      [.announce (Lifecycle.mk .disconnect "" "gate").toEvent (.ok ())] := by
  intro start publish subscribe disconnect
  exact ⟨rfl, rfl, rfl, rfl, rfl, rfl, rfl⟩

end Gateway

end ChannelGate
