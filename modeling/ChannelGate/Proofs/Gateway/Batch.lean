import ChannelGate.Proofs.Gateway.Effects

set_option autoImplicit false

namespace ChannelGate.Gateway

variable {σ : Type}

def readRequest (subject : String) (route : Topic.Route) : Request := ⟨subject, route.channel, .read⟩

/-- One question for each topic, and each is granted. -/
def allGranted (subject : String) (routes : List Topic.Route) : List Exchange :=
  routes.map fun route => .authorize (readRequest subject route) (.ok true)

/-- Texts are topics, with these channels and subtopics. -/
def Parsed (topics : List String) (routes : List Topic.Route) : Prop :=
  topics.map Topic.parse = routes.map .ok

/-- How the topics of a known subject end: all of them may be read, or those in front may be read
and the next is no topic, or it may not be read. -/
inductive Dealt (subject : String) (topics : List String) : Manner
  | granted {routes : List Topic.Route} (parsed : Parsed topics routes) :
    Dealt subject topics (.ok ()) (allGranted subject routes)
  | malformed {front rest : List String} {topic : String} {routes : List Topic.Route}
    (order : topics = front ++ topic :: rest) (parsed : Parsed front routes)
    (unparsed : Topic.parse topic = .error .malformedTopic) :
    Dealt subject topics (.error .malformedTopic) (allGranted subject routes)
  | refused {front rest : List String} {topic : String} {routes : List Topic.Route}
    {route : Topic.Route} {verdict : Except PolicyError Bool}
    (order : topics = front ++ topic :: rest) (parsed : Parsed front routes)
    (read : Topic.parse topic = .ok route) (denied : verdict ≠ .ok true) :
    Dealt subject topics (.error .authorization)
      (allGranted subject routes ++ [.authorize (readRequest subject route) verdict])

/-- How the check of a subscription to topics ends: the first text is no topic, and nobody is asked;
or the policy is asked once who the session is, and does not know; or it knows, and the topics are
dealt with. -/
inductive Considered (credential : Credential) (first : String) (rest : List String) : Manner
  | malformed (unparsed : Topic.parse first = .error .malformedTopic) :
    Considered credential first rest (.error .malformedTopic) []
  | unknown {route : Topic.Route} {identity : Except PolicyError String}
    (read : Topic.parse first = .ok route)
    (nobody : ∀ subject, identity = .ok subject → subject = "") :
    Considered credential first rest (.error .authentication) [.identify credential identity]
  | known {route : Topic.Route} {subject : String} {answer : Except GatewayError Unit}
    {said : List Exchange} (read : Topic.parse first = .ok route) (somebody : subject ≠ "")
    (dealt : Dealt subject (first :: rest) answer said) :
    Considered credential first rest answer (.identify credential (.ok subject) :: said)

variable {subject topic : String} {topics : List String} {route : Topic.Route}
  {answer : Except GatewayError Unit} {said : List Exchange}

theorem Parsed.cons {routes : List Topic.Route} (read : Topic.parse topic = .ok route)
    (parsed : Parsed topics routes) : Parsed (topic :: topics) (route :: routes) := by
  unfold Parsed at parsed ⊢
  rw [List.map_cons, List.map_cons, read, parsed]

/-- A topic that may be read comes in front. -/
theorem Dealt.cons (read : Topic.parse topic = .ok route) (dealt : Dealt subject topics answer said) :
    Dealt subject (topic :: topics) answer
      (.authorize (readRequest subject route) (.ok true) :: said) := by
  cases dealt with
  | granted parsed => exact .granted (parsed.cons read)
  | malformed order parsed unparsed =>
    have behind : topic :: topics = _ := congrArg (topic :: ·) order
    exact .malformed behind (parsed.cons read) unparsed
  | refused order parsed last denied =>
    have behind : topic :: topics = _ := congrArg (topic :: ·) order
    exact .refused behind (parsed.cons read) last denied

theorem permitted_cases (verdict : Except PolicyError Bool) :
    (verdict = .ok true ∧ permitted verdict = .ok ()) ∨
      (verdict ≠ .ok true ∧ permitted verdict = .error .authorization) := by
  rcases verdict with error | _ | _
  · exact .inr ⟨nofun, rfl⟩
  · exact .inr ⟨nofun, rfl⟩
  · exact .inl ⟨rfl, rfl⟩

/-- The topics behind one that parses are dealt with if this one may be read. -/
theorem dealt_of_authorized {next : Manner} (read : Topic.parse topic = .ok route)
    (follows : ∀ {answer said}, next answer said → Dealt subject topics answer said)
    (asked : Authorized (readRequest subject route) next answer said) :
    Dealt subject (topic :: topics) answer said := by
  obtain ⟨verdict, later, rfl, given⟩ := asked
  rcases permitted_cases verdict with ⟨rfl, allowed⟩ | ⟨denied, refused⟩
  · rw [allowed] at given
    exact (follows given).cons read
  · rw [refused] at given
    obtain ⟨rfl, rfl⟩ := given
    have front : Parsed [] [] := rfl
    exact .refused (List.nil_append _).symm front read denied

theorem dealt_of_batch {credential : Credential}
    (told : Batch credential (some subject) topics answer said) :
    Dealt subject topics answer said := by
  induction topics generalizing answer said with
  | nil =>
    obtain ⟨rfl, rfl⟩ := told
    have none : Parsed [] [] := rfl
    exact .granted none
  | cons topic topics ih =>
    rcases Given.cases told with ⟨error, unparsed, rfl, rfl⟩ | ⟨route, read, asked⟩
    · have malformed := Topic.parse_eq_error unparsed
      subst malformed
      have front : Parsed [] [] := rfl
      exact .malformed (List.nil_append _).symm front unparsed
    · exact dealt_of_authorized read ih asked

theorem Parsed.of_mem {routes : List Topic.Route} (parsed : Parsed topics routes)
    (member : topic ∈ topics) : ∃ route, Topic.parse topic = .ok route := by
  have image : Topic.parse topic ∈ routes.map .ok := parsed ▸ List.mem_map_of_mem member
  obtain ⟨route, _, same⟩ := List.mem_map.mp image
  exact ⟨route, same.symm⟩

theorem verdict_of_mem_allGranted {routes : List Topic.Route} {request : Request}
    {verdict : Except PolicyError Bool}
    (asked : .authorize request verdict ∈ allGranted subject routes) : verdict = .ok true := by
  obtain ⟨route, _, same⟩ := List.mem_map.mp asked
  exact ((Exchange.authorize.inj same).2).symm

/-- The answer is good if and only if every text is a topic, and every topic may be read. -/
theorem Dealt.eq_ok_iff (dealt : Dealt subject topics answer said) :
    answer = .ok () ↔ ∃ routes, Parsed topics routes ∧ said = allGranted subject routes := by
  constructor
  · intro good
    cases dealt with
    | granted parsed => exact ⟨_, parsed, rfl⟩
    | malformed => cases good
    | refused => cases good
  · intro all
    obtain ⟨routes, parsed, whole⟩ := all
    cases dealt with
    | granted => rfl
    | malformed order front unparsed =>
      have member : _ ∈ topics := order ▸ List.mem_append_right _ List.mem_cons_self
      obtain ⟨route, read⟩ := parsed.of_mem member
      cases unparsed.symm.trans read
    | refused order front read denied =>
      have last : _ ∈ allGranted subject routes :=
        whole ▸ List.mem_append_right _ List.mem_cons_self
      exact absurd (verdict_of_mem_allGranted last) denied

theorem resolved_cases (identity : Except PolicyError String) :
    ((∀ subject, identity = .ok subject → subject = "") ∧
        resolved identity = .error .authentication) ∨
      ∃ subject, subject ≠ "" ∧ identity = .ok subject ∧ resolved identity = .ok subject := by
  cases identity with
  | error error => exact .inl ⟨nofun, rfl⟩
  | ok subject =>
    by_cases empty : subject = ""
    · refine .inl ⟨?_, if_pos empty⟩
      intro other same
      rw [← Except.ok.inj same, empty]
    · exact .inr ⟨subject, empty, rfl, if_neg empty⟩

theorem considered_of_batch {credential : Credential} {rest : List String}
    (told : Batch credential none (topic :: rest) answer said) :
    Considered credential topic rest answer said := by
  rcases Given.cases told with ⟨error, unparsed, rfl, rfl⟩ | ⟨route, read, asked⟩
  · have malformed := Topic.parse_eq_error unparsed
    subst malformed
    exact .malformed unparsed
  · obtain ⟨identity, later, rfl, given⟩ := asked
    rcases resolved_cases identity with ⟨nobody, fails⟩ | ⟨subject, somebody, rfl, names⟩
    · rw [fails] at given
      obtain ⟨rfl, rfl⟩ := given
      exact .unknown read nobody
    · rw [names] at given
      exact .known read somebody (dealt_of_authorized read dealt_of_batch given)

/-- The answer is good if and only if the policy knows the session and every topic may be read. -/
theorem Considered.eq_ok_iff {credential : Credential} {rest : List String}
    (considered : Considered credential topic rest answer said) :
    answer = .ok () ↔ ∃ subject routes, subject ≠ "" ∧ Parsed (topic :: rest) routes ∧
      said = .identify credential (.ok subject) :: allGranted subject routes := by
  constructor
  · intro good
    subst good
    cases considered with
    | known read somebody dealt =>
      obtain ⟨routes, parsed, whole⟩ := dealt.eq_ok_iff.mp rfl
      exact ⟨_, routes, somebody, parsed, by rw [whole]⟩
  · intro all
    obtain ⟨subject, routes, somebody, parsed, whole⟩ := all
    cases considered with
    | malformed => cases whole
    | unknown read nobody =>
      obtain ⟨asked, _⟩ := List.cons.inj whole
      exact absurd (nobody subject (Exchange.identify.inj asked).2) somebody
    | known read _ dealt =>
      obtain ⟨asked, later⟩ := List.cons.inj whole
      cases asked
      exact dealt.eq_ok_iff.mpr ⟨routes, parsed, later⟩

/-- The check of a subscription to topics takes them in their order, up to the first that fails. The
policy is asked once who the session is, if the first text is a topic; if it knows, it is asked for
the subject that it named about each topic in turn. So the answer is good exactly if the policy
knows the session, every text is a topic, and the policy was asked about every topic and allowed
it. -/
theorem batch_stops_at_first_failure (gateway : Gateway σ) (created : Int64) {session : Session}
    (named : session.id ≠ "") (first : String) (rest : List String) (moment : Moment σ) :
    let hook := Hook.authSubscribe (some session) (some (first :: rest))
    let answer := gateway.answer created hook moment
    let said := gateway.exchanges created hook moment
    Considered session.credential first rest answer said ∧
    (answer = .ok () ↔ ∃ subject routes, subject ≠ "" ∧ Parsed (first :: rest) routes ∧
      said = .identify session.credential (.ok subject) :: allGranted subject routes) := by
  intro hook answer said
  have behaves : Conduct gateway created hook answer said := conduct gateway created hook moment
  have checked : authSession (some session) = .ok session := authSession_eq_ok.mpr ⟨rfl, named⟩
  rw [Conduct, checked] at behaves
  have considered := considered_of_batch behaves
  exact ⟨considered, considered.eq_ok_iff⟩

/-- A gateway whose policy allows the first request only. -/
def wearyGateway : Gateway Nat where
  instanceId := "gate"
  policy.identify _ := return .ok "sensor"
  policy.authorize _ := Run.onState fun asked => (.ok (asked = 0), asked + 1)
  sinks := []
  events _ := return .ok ()

def meterSession : Session := ⟨"meter", "sensor", ⟨"s3cret"⟩⟩

theorem batch_stops_at_first_failure_weary :
    let hook := Hook.authSubscribe (some meterSession)
      (some ["channels/alarms/messages", "channels/alarms/messages", "alarms"])
    let start : Moment Nat := ⟨none, 0, .empty⟩
    let request : Request := ⟨"sensor", "alarms", .read⟩
    meterSession.id ≠ "" ∧ wearyGateway.answer 5 hook start = .error .authorization ∧
      wearyGateway.exchanges 5 hook start =
        [.identify meterSession.credential (.ok "sensor"), .authorize request (.ok true),
          .authorize request (.ok false)] ∧
      Considered meterSession.credential "channels/alarms/messages"
        ["channels/alarms/messages", "alarms"] (wearyGateway.answer 5 hook start)
        (wearyGateway.exchanges 5 hook start) := by
  intro hook start request
  have named : meterSession.id ≠ "" := by decide
  exact ⟨named, rfl, rfl, (batch_stops_at_first_failure wearyGateway 5 named _ _ start).1⟩

end ChannelGate.Gateway
