import ChannelGate.Proofs.Gateway.Conduct

set_option autoImplicit false

namespace ChannelGate

namespace Exchange

def event? : Exchange → Option Event
  | .announce event _ => some event
  | _ => none

def delivery? : Exchange → Option (Nat × RoutedMessage)
  | .deliver sink message _ => some (sink, message)
  | _ => none

def IsQuestion : Exchange → Prop
  | .identify _ _ => True
  | .authorize _ _ => True
  | _ => False

/-- What is said, without the events and what became of them. -/
def besidesEvents (said : List Exchange) : List Exchange :=
  said.filter fun exchange => exchange.event?.isNone

end Exchange

namespace Hook

def IsCheck : Hook → Prop
  | .authConnect _ => True
  | .authPublish _ _ _ => True
  | .authSubscribe _ _ => True
  | _ => False

/-- What there is to tell about a hook with this answer: that a session was let in, or is gone. -/
def lifecycle? (instanceId : String) : Hook → Except GatewayError Unit → Option Lifecycle
  | .authConnect (some session), .ok () => some ⟨.connect, session.id, instanceId⟩
  | .disconnect (some session), _ => some ⟨.disconnect, session.id, instanceId⟩
  | _, _ => none

/-- The message of a publish, if there is a session and its topic parses. -/
def message? (created : Int64) : Hook → Option RoutedMessage
  | .publish (some session) topic payload =>
    match Topic.parse topic with
    | .ok route => some (.new route.channel route.subtopic session.id payload created)
    | .error _ => none
  | _ => none

end Hook

namespace Gateway

open Exchange

variable {σ τ α : Type}

theorem Given.cases {check : Except GatewayError α} {next : α → Manner}
    {answer : Except GatewayError Unit} {said : List Exchange}
    (given : Given check next answer said) :
    (∃ error, check = .error error ∧ answer = .error error ∧ said = []) ∨
      ∃ value, check = .ok value ∧ next value answer said := by
  cases check with
  | error error => exact .inl ⟨error, rfl, given.1, given.2⟩
  | ok value => exact .inr ⟨value, rfl, given⟩

/-- All that may be said is of one kind. -/
def Only (kind : Exchange → Prop) (manner : Manner) : Prop :=
  ∀ answer said, manner answer said → ∀ exchange ∈ said, kind exchange

variable {kind : Exchange → Prop}

theorem only_silent (outcome : Except GatewayError Unit) : Only kind (Silent outcome) := by
  intro answer said silent
  rw [silent.2]
  exact List.forall_mem_nil _

theorem Only.given {check : Except GatewayError α} {next : α → Manner}
    (only : ∀ value, Only kind (next value)) : Only kind (Given check next) := by
  cases check with
  | error error => exact only_silent _
  | ok value => exact only value

theorem Only.identified {credential : Credential} {next : String → Manner}
    (asked : ∀ identity, kind (.identify credential identity))
    (only : ∀ subject, Only kind (next subject)) : Only kind (Identified credential next) := by
  intro answer said told
  obtain ⟨identity, rest, rfl, given⟩ := told
  rw [List.forall_mem_cons]
  exact ⟨asked identity, Only.given only answer rest given⟩

theorem Only.authorized {request : Request} {next : Manner}
    (asked : ∀ verdict, kind (.authorize request verdict)) (only : Only kind next) :
    Only kind (Authorized request next) := by
  intro answer said told
  obtain ⟨verdict, rest, rfl, given⟩ := told
  rw [List.forall_mem_cons]
  exact ⟨asked verdict, Only.given (fun _ => only) answer rest given⟩

theorem only_announced {event : Lifecycle}
    (told : ∀ outcome, kind (.announce event.toEvent outcome)) : Only kind (Announced event) := by
  intro answer said announced
  obtain ⟨outcome, _, rfl⟩ := announced
  exact List.forall_mem_singleton.mpr (told outcome)

theorem only_deliveries {message : RoutedMessage}
    (handed : ∀ sink outcome, kind (.deliver sink message outcome)) (start : Nat)
    (outcomes : List (Except BusError Unit)) :
    ∀ exchange ∈ deliveries message start outcomes, kind exchange := by
  induction outcomes generalizing start with
  | nil => exact List.forall_mem_nil _
  | cons outcome outcomes ih =>
    exact List.forall_mem_cons.mpr ⟨handed start outcome, ih (start + 1)⟩

theorem only_spread {message : RoutedMessage} {first? : Option BusError} {sinks start : Nat}
    (handed : ∀ sink outcome, kind (.deliver sink message outcome)) :
    Only kind (Spread message first? sinks start) := by
  intro answer said spread
  obtain ⟨outcomes, _, _, rfl⟩ := spread
  exact only_deliveries handed start outcomes

theorem asks_batch (credential : Credential) (subject? : Option String) (topics : List String) :
    Only IsQuestion (Batch credential subject? topics) := by
  induction topics generalizing subject? with
  | nil =>
    cases subject? with
    | none => exact only_silent _
    | some subject => exact only_silent _
  | cons topic topics ih =>
    cases subject? with
    | none =>
      exact Only.given fun _ => Only.identified (fun _ => trivial) fun subject =>
        (ih (some subject)).authorized fun _ => trivial
    | some subject => exact Only.given fun _ => (ih (some subject)).authorized fun _ => trivial

theorem asks_authPublish (gateway : Gateway σ) (created : Int64) (session : Option Session)
    (topic : Option String) (payload : List UInt8) :
    Only IsQuestion (Conduct gateway created (.authPublish session topic payload)) :=
  Only.given fun _ => Only.given fun _ => Only.identified (fun _ => trivial) fun _ =>
    (only_silent _).authorized fun _ => trivial

theorem asks_authSubscribe (gateway : Gateway σ) (created : Int64) (session : Option Session)
    (topics : Option (List String)) :
    Only IsQuestion (Conduct gateway created (.authSubscribe session topics)) := by
  apply Only.given
  intro session
  cases topics with
  | none => exact only_silent _
  | some topics => exact asks_batch _ _ _

theorem conduct_unasked (gateway : Gateway σ) (created : Int64) {hook : Hook}
    (other : ¬ hook.IsCheck) :
    Only (fun exchange => ¬ exchange.IsQuestion) (Conduct gateway created hook) := by
  cases hook with
  | authConnect session => exact absurd trivial other
  | authPublish session topic payload => exact absurd trivial other
  | authSubscribe session topics => exact absurd trivial other
  | connect session => exact Only.given fun _ => only_silent _
  | subscribe session topics => exact Only.given fun _ => only_silent _
  | unsubscribe session topics => exact Only.given fun _ => only_silent _
  | publish session topic payload =>
    exact Only.given fun _ => Only.given fun _ => Only.given fun _ => only_spread fun _ _ => id
  | disconnect session => exact Only.given fun _ => only_announced fun _ => id

theorem event?_of_isQuestion {exchange : Exchange} (question : exchange.IsQuestion) :
    exchange.event? = none := by
  cases exchange with
  | identify credential answer => rfl
  | authorize request answer => rfl
  | deliver sink message answer => exact question.elim
  | announce event answer => exact question.elim

theorem delivery?_of_isQuestion {exchange : Exchange} (question : exchange.IsQuestion) :
    exchange.delivery? = none := by
  cases exchange with
  | identify credential answer => rfl
  | authorize request answer => rfl
  | deliver sink message answer => exact question.elim
  | announce event answer => exact question.elim

theorem Only.no_events {manner : Manner} (asks : Only IsQuestion manner)
    {answer : Except GatewayError Unit} {said : List Exchange} (told : manner answer said) :
    said.filterMap event? = [] :=
  List.filterMap_eq_nil_iff.mpr fun exchange member =>
    event?_of_isQuestion (asks answer said told exchange member)

theorem Only.no_deliveries {manner : Manner} (asks : Only IsQuestion manner)
    {answer : Except GatewayError Unit} {said : List Exchange} (told : manner answer said) :
    said.filterMap delivery? = [] :=
  List.filterMap_eq_nil_iff.mpr fun exchange member =>
    delivery?_of_isQuestion (asks answer said told exchange member)

theorem filterMap_delivery?_deliveries (message : RoutedMessage) (start : Nat)
    (outcomes : List (Except BusError Unit)) :
    (deliveries message start outcomes).filterMap delivery? =
      (List.range' start outcomes.length).map fun sink => (sink, message) := by
  induction outcomes generalizing start with
  | nil => rfl
  | cons outcome outcomes ih =>
    rw [deliveries, List.filterMap_cons_some (show delivery? _ = some (start, message) from rfl),
      ih (start + 1)]
    rfl

/-- What a hook tells about is settled by its answer. -/
theorem conduct_events {gateway : Gateway σ} {created : Int64} {hook : Hook}
    {answer : Except GatewayError Unit} {said : List Exchange}
    (behaves : Conduct gateway created hook answer said) :
    said.filterMap event? =
      ((hook.lifecycle? gateway.instanceId answer).map Lifecycle.toEvent).toList := by
  cases hook with
  | authConnect session =>
    rcases Given.cases behaves with ⟨error, _, rfl, rfl⟩ | ⟨session, checked, asked⟩
    · cases session <;> rfl
    rw [(authSession_eq_ok.mp checked).1]
    obtain ⟨identity, rest, rfl, given⟩ := asked
    rcases Given.cases given with ⟨error, _, rfl, rfl⟩ | ⟨subject, _, goes⟩
    · rfl
    by_cases owner : subject = session.principal
    · simp only [owner, ↓reduceIte] at goes
      obtain ⟨outcome, rfl, rfl⟩ := goes
      rfl
    · simp only [owner, ↓reduceIte] at goes
      obtain ⟨rfl, rfl⟩ := goes
      rfl
  | authPublish session topic payload =>
    rw [(asks_authPublish gateway created session topic payload).no_events behaves]
    rfl
  | authSubscribe session topics =>
    rw [(asks_authSubscribe gateway created session topics).no_events behaves]
    rfl
  | connect session =>
    rw [(Only.given fun _ => only_silent _).no_events behaves]
    rfl
  | subscribe session topics =>
    rw [(Only.given fun _ => only_silent _).no_events behaves]
    rfl
  | unsubscribe session topics =>
    rw [(Only.given fun _ => only_silent _).no_events behaves]
    rfl
  | publish session topic payload =>
    rcases Given.cases behaves with ⟨_, _, _, rfl⟩ | ⟨session, _, divided⟩
    · rfl
    rcases Given.cases divided with ⟨_, _, _, rfl⟩ | ⟨parts, _, named⟩
    · rfl
    rcases Given.cases named with ⟨_, _, _, rfl⟩ | ⟨target, _, outcomes, _, _, rfl⟩
    · rfl
    exact List.filterMap_eq_nil_iff.mpr (only_deliveries (fun _ _ => rfl) 0 outcomes)
  | disconnect session =>
    cases session with
    | none =>
      obtain ⟨_, rfl⟩ := behaves
      rfl
    | some session =>
      obtain ⟨outcome, rfl, rfl⟩ := behaves
      rfl

/-- Messages are delivered by a publish that has one, to every sink in order. -/
theorem conduct_deliveries {gateway : Gateway σ} {created : Int64} {hook : Hook}
    {answer : Except GatewayError Unit} {said : List Exchange}
    (behaves : Conduct gateway created hook answer said) :
    said.filterMap delivery? = (hook.message? created).toList.flatMap fun message =>
      (List.range gateway.sinks.length).map fun sink => (sink, message) := by
  cases hook with
  | authConnect session =>
    rcases Given.cases behaves with ⟨_, _, _, rfl⟩ | ⟨session, _, identity, rest, rfl, given⟩
    · rfl
    rcases Given.cases given with ⟨_, _, _, rfl⟩ | ⟨subject, _, goes⟩
    · rfl
    by_cases owner : subject = session.principal
    · simp only [owner, ↓reduceIte] at goes
      obtain ⟨outcome, _, rfl⟩ := goes
      rfl
    · simp only [owner, ↓reduceIte] at goes
      obtain ⟨_, rfl⟩ := goes
      rfl
  | authPublish session topic payload =>
    exact (asks_authPublish gateway created session topic payload).no_deliveries behaves
  | authSubscribe session topics =>
    exact (asks_authSubscribe gateway created session topics).no_deliveries behaves
  | connect session => exact (Only.given fun _ => only_silent _).no_deliveries behaves
  | subscribe session topics => exact (Only.given fun _ => only_silent _).no_deliveries behaves
  | unsubscribe session topics => exact (Only.given fun _ => only_silent _).no_deliveries behaves
  | disconnect session =>
    rcases Given.cases behaves with ⟨_, _, _, rfl⟩ | ⟨_, _, outcome, _, rfl⟩
    · rfl
    · rfl
  | publish session topic payload =>
    cases session with
    | none =>
      obtain ⟨_, rfl⟩ := behaves
      rfl
    | some session =>
      change Given _ _ answer said at behaves
      cases parsed : Topic.parse topic with
      | ok route =>
        obtain ⟨trailer, divided, read⟩ := Topic.parse_eq_ok.mp parsed
        rw [divided] at behaves
        change Given ((Topic.subtopic trailer).mapError _) _ answer said at behaves
        rw [read] at behaves
        obtain ⟨outcomes, length, _, rfl⟩ := behaves
        simp only [Hook.message?, parsed, Option.toList_some, List.flatMap_singleton]
        rw [filterMap_delivery?_deliveries, length, List.range_eq_range']
      | error error =>
        simp only [Hook.message?, parsed, Option.toList_none, List.flatMap_nil]
        cases divided : Topic.split topic with
        | error cause =>
          rw [divided] at behaves
          rw [behaves.2]
          rfl
        | ok parts =>
          rw [divided] at behaves
          change Given ((Topic.subtopic parts.trailer).mapError _) _ answer said at behaves
          cases read : Topic.subtopic parts.trailer with
          | error cause =>
            rw [read] at behaves
            rw [behaves.2]
            rfl
          | ok target =>
            rw [Topic.parse_eq_ok.mpr ⟨parts.trailer, divided, read⟩] at parsed
            cases parsed

/-- Two conducts give the same answer where the same is said, events aside. -/
def Agree (manner manner' : Manner) : Prop :=
  ∀ answer said answer' said', manner answer said → manner' answer' said' →
    besidesEvents said = besidesEvents said' → answer = answer'

theorem agree_silent (outcome : Except GatewayError Unit) :
    Agree (Silent outcome) (Silent outcome) := by
  intro answer said answer' said' told told' _
  rw [told.1, told'.1]

theorem Agree.given {check : Except GatewayError α} {next next' : α → Manner}
    (agree : ∀ value, Agree (next value) (next' value)) :
    Agree (Given check next) (Given check next') := by
  cases check with
  | error error => exact agree_silent _
  | ok value => exact agree value

theorem Agree.identified {credential : Credential} {next next' : String → Manner}
    (agree : ∀ subject, Agree (next subject) (next' subject)) :
    Agree (Identified credential next) (Identified credential next') := by
  intro answer said answer' said' told told' same
  obtain ⟨identity, rest, rfl, given⟩ := told
  obtain ⟨identity', rest', rfl, given'⟩ := told'
  obtain ⟨asked, later⟩ := List.cons.inj same
  rw [← (Exchange.identify.inj asked).2] at given'
  exact Agree.given agree _ _ _ _ given given' later

theorem Agree.authorized {request : Request} {next next' : Manner} (agree : Agree next next') :
    Agree (Authorized request next) (Authorized request next') := by
  intro answer said answer' said' told told' same
  obtain ⟨verdict, rest, rfl, given⟩ := told
  obtain ⟨verdict', rest', rfl, given'⟩ := told'
  obtain ⟨asked, later⟩ := List.cons.inj same
  rw [← (Exchange.authorize.inj asked).2] at given'
  exact Agree.given (fun _ => agree) _ _ _ _ given given' later

theorem agree_announced (event event' : Lifecycle) :
    Agree (Announced event) (Announced event') := by
  intro answer said answer' said' told told' _
  obtain ⟨_, same, _⟩ := told
  obtain ⟨_, same', _⟩ := told'
  rw [same, same']

theorem agree_batch (credential : Credential) (subject? : Option String) (topics : List String) :
    Agree (Batch credential subject? topics) (Batch credential subject? topics) := by
  induction topics generalizing subject? with
  | nil =>
    cases subject? with
    | none => exact agree_silent _
    | some subject => exact agree_silent _
  | cons topic topics ih =>
    cases subject? with
    | none =>
      exact Agree.given fun _ => Agree.identified fun subject => (ih (some subject)).authorized
    | some subject => exact Agree.given fun _ => (ih (some subject)).authorized

theorem deliveries_injective {message : RoutedMessage} {start : Nat}
    {outcomes outcomes' : List (Except BusError Unit)}
    (same : besidesEvents (deliveries message start outcomes) =
      besidesEvents (deliveries message start outcomes')) : outcomes = outcomes' := by
  induction outcomes generalizing start outcomes' with
  | nil =>
    cases outcomes' with
    | nil => rfl
    | cons outcome' outcomes' => cases same
  | cons outcome outcomes ih =>
    cases outcomes' with
    | nil => cases same
    | cons outcome' outcomes' =>
      obtain ⟨first, later⟩ := List.cons.inj same
      rw [(Exchange.deliver.inj first).2.2, ih later]

theorem agree_spread (message : RoutedMessage) (first? : Option BusError)
    (sinks sinks' start : Nat) :
    Agree (Spread message first? sinks start) (Spread message first? sinks' start) := by
  intro answer said answer' said' told told' same
  obtain ⟨outcomes, _, settled, rfl⟩ := told
  obtain ⟨outcomes', _, settled', rfl⟩ := told'
  rw [settled, settled', deliveries_injective same]

/-- The answer of a hook hangs on what the policy and the sinks said, and on nothing else. -/
theorem agree_conduct (gateway : Gateway σ) (other : Gateway τ) (created : Int64) (hook : Hook) :
    Agree (Conduct gateway created hook) (Conduct other created hook) := by
  cases hook with
  | authConnect session =>
    apply Agree.given
    intro session
    apply Agree.identified
    intro subject
    by_cases owner : subject = session.principal
    · simp only [owner, ↓reduceIte]
      exact agree_announced _ _
    · simp only [owner, ↓reduceIte]
      exact agree_silent _
  | authPublish session topic payload =>
    exact Agree.given fun _ => Agree.given fun _ => Agree.identified fun _ =>
      (agree_silent _).authorized
  | authSubscribe session topics =>
    apply Agree.given
    intro session
    cases topics with
    | none => exact agree_silent _
    | some topics => exact agree_batch _ _ _
  | connect session => exact Agree.given fun _ => agree_silent _
  | subscribe session topics => exact Agree.given fun _ => agree_silent _
  | unsubscribe session topics => exact Agree.given fun _ => agree_silent _
  | publish session topic payload =>
    exact Agree.given fun _ => Agree.given fun _ => Agree.given fun _ => agree_spread _ _ _ _ _
  | disconnect session => exact Agree.given fun _ => agree_announced _ _

theorem announce_answer (gateway : Gateway σ) (event : Lifecycle) (span : Option SpanRef)
    (before : σ × Trace) : ((gateway.announce event).run span before).1 = .ok () := by
  obtain ⟨said, _, outcome, same, _⟩ := tells_announce gateway event span before.1 before.2
  exact same

theorem answer_bind {β : Type} {first : HookPart σ α} {next next' : α → HookPart σ β}
    (same : ∀ value span before,
      ((next value).run span before).1 = ((next' value).run span before).1)
    (span : Option SpanRef) (before : σ × Trace) :
    ((first >>= next).run span before).1 = ((first >>= next').run span before).1 := by
  rw [run_bind, run_bind]
  rcases first.run span before with ⟨error | value, after⟩
  · rfl
  · exact same value span after

theorem authorizeEach_with_events (gateway : Gateway σ) (events : EventSink σ) (session : Session)
    (subject? : Option String) (topics : List String) :
    { gateway with events := events }.authorizeEach session subject? topics =
      gateway.authorizeEach session subject? topics := by
  induction topics generalizing subject? with
  | nil => cases subject? <;> rfl
  | cons topic topics ih =>
    rw [authorizeEach, authorizeEach]
    simp only [ih]
    rfl

/-- At every moment the answer is the one under any other publisher of events. -/
theorem answer_with_events (gateway : Gateway σ) (events : EventSink σ) (created : Int64)
    (hook : Hook) (moment : Moment σ) :
    { gateway with events := events }.answer created hook moment =
      gateway.answer created hook moment := by
  cases hook with
  | authConnect session =>
    apply answer_bind
    intro session
    apply answer_bind
    intro subject span before
    by_cases owner : subject = session.principal
    · simp only [ne_eq, owner, not_true_eq_false, ↓reduceIte]
      rw [announce_answer, announce_answer]
    · simp only [ne_eq, owner, not_false_eq_true, ↓reduceIte]
      rfl
  | disconnect session =>
    apply answer_bind
    intro session
    apply answer_bind
    intro written span before
    rw [announce_answer, announce_answer]
  | authPublish session topic payload => rfl
  | authSubscribe session topics =>
    cases topics with
    | none => rfl
    | some topics =>
      apply answer_bind
      intro session span before
      exact congrArg (fun part : HookPart σ Unit => (part.run span before).1)
        (authorizeEach_with_events gateway events session none topics)
  | connect session => rfl
  | publish session topic payload => rfl
  | subscribe session topics => rfl
  | unsubscribe session topics => rfl

end Gateway

end ChannelGate
