import ChannelGate.Proofs.Gateway.Batch
import ChannelGate.Proofs.Gateway.Fingerprint

set_option autoImplicit false

namespace ChannelGate.Gateway

/-- Something that a check asks for, and the error if this is not so. -/
structure Guard where
  met : Prop
  error : GatewayError

/-- The answer that guards lead to, one after the other: that of the first which is not met. -/
inductive Decides : List Guard → Except GatewayError Unit → Prop where
  | passed : Decides [] (.ok ())
  | pass {guard : Guard} {rest : List Guard} {answer : Except GatewayError Unit}
    (met : guard.met) (further : Decides rest answer) : Decides (guard :: rest) answer
  | stop {guard : Guard} {rest : List Guard} (failed : ¬ guard.met) :
    Decides (guard :: rest) (.error guard.error)

theorem Decides.eq_ok_iff {guards : List Guard} {answer : Except GatewayError Unit}
    (decides : Decides guards answer) : answer = .ok () ↔ ∀ guard ∈ guards, guard.met := by
  induction decides with
  | passed => exact ⟨fun _ => List.forall_mem_nil _, fun _ => rfl⟩
  | pass met further ih =>
    rw [ih, List.forall_mem_cons]
    exact (and_iff_right met).symm
  | stop failed =>
    constructor
    · intro good
      cases good
    · intro all
      exact absurd (List.forall_mem_cons.mp all).1 failed

variable {σ : Type}

/-- What the policy answers at a moment when it is asked who a session is. -/
def identity (gateway : Gateway σ) (session : Session) (moment : Moment σ) :
    Except PolicyError String :=
  (gateway.policy.identify session.credential moment.span (moment.state, moment.trace)).1

/-- What the policy answers to a request that follows the question who a session is. -/
def verdict (gateway : Gateway σ) (session : Session) (request : Request) (moment : Moment σ) :
    Except PolicyError Bool :=
  let known := gateway.policy.identify session.credential moment.span (moment.state, moment.trace)
  (gateway.policy.authorize request moment.span known.2).1

def sessionGuards (presented : Option Session) : List Guard :=
  [⟨presented ≠ none, .clientNotInitialized⟩,
    ⟨∀ session ∈ presented, session.id ≠ "", .missingClientId⟩]

def topicGuards (topic : Option String) : List Guard :=
  [⟨topic ≠ none, .missingTopicPub⟩,
    ⟨∀ text ∈ topic, ∃ route, Topic.parse text = .ok route, .malformedTopic⟩]

/-- The guards of a connect: at last the policy knows the session by its principal. -/
def connectGuards (gateway : Gateway σ) (presented : Option Session) (moment : Moment σ) :
    List Guard :=
  sessionGuards presented ++
    [⟨∀ session ∈ presented, session.principal ≠ "" ∧
      gateway.identity session moment = .ok session.principal, .authentication⟩]

/-- The guards of a publish: at last the policy knows the session, and lets it write to the channel
of the topic. -/
def publishGuards (gateway : Gateway σ) (presented : Option Session) (topic : Option String)
    (moment : Moment σ) : List Guard :=
  sessionGuards presented ++ topicGuards topic ++
    [⟨∀ session ∈ presented, ∃ subject, subject ≠ "" ∧
      gateway.identity session moment = .ok subject, .authentication⟩,
    ⟨∀ session ∈ presented, ∀ text ∈ topic, ∀ route subject, Topic.parse text = .ok route →
      gateway.identity session moment = .ok subject →
      gateway.verdict session ⟨subject, route.channel, .write⟩ moment = .ok true, .authorization⟩]

def Nobody (identity : Except PolicyError String) : Prop :=
  ∀ subject, identity = .ok subject → subject = ""

/-- How the check of a publish goes. The guards decide the answer; nobody is asked where a session
or a topic is missing or bad; else the policy is asked once who the session is, and once whether it
may write to the channel if the policy knows it. -/
structure PublishCheck (gateway : Gateway σ) (presented : Option Session) (topic : Option String)
    (moment : Moment σ) (answer : Except GatewayError Unit) (said : List Exchange) : Prop where
  decided : Decides (gateway.publishGuards presented topic moment) answer
  unasked : (¬ ∀ guard ∈ sessionGuards presented ++ topicGuards topic, guard.met) → said = []
  unknown : ∀ session text route, presented = some session → session.id ≠ "" →
    topic = some text → Topic.parse text = .ok route → Nobody (gateway.identity session moment) →
    said = [.identify session.credential (gateway.identity session moment)]
  known : ∀ session text route subject, presented = some session → session.id ≠ "" →
    topic = some text → Topic.parse text = .ok route → subject ≠ "" →
    gateway.identity session moment = .ok subject →
    let request : Request := ⟨subject, route.channel, .write⟩
    said = [.identify session.credential (.ok subject),
      .authorize request (gateway.verdict session request moment)]

/-- How the check of a connect goes. The guards decide the answer; nobody is asked without a session
that has an id; else the policy is asked once who the session is, and nothing more. -/
structure ConnectCheck (gateway : Gateway σ) (presented : Option Session) (moment : Moment σ)
    (answer : Except GatewayError Unit) (said : List Exchange) : Prop where
  decided : Decides (gateway.connectGuards presented moment) answer
  unasked : (¬ ∀ guard ∈ sessionGuards presented, guard.met) → said = []
  asked : ∀ session, presented = some session → session.id ≠ "" → ∃ told,
    said = .identify session.credential (gateway.identity session moment) :: told ∧
      ∀ exchange ∈ told, ¬ exchange.IsQuestion

variable {gateway : Gateway σ} {created : Int64} {presented : Option Session} {session : Session}
  {topic : Option String} {text subject : String} {route : Topic.Route} {payload : List UInt8}
  {moment : Moment σ}

/-- A party is asked, and it goes on with the answer. -/
theorem run_ask {α β : Type} (body : Run σ α) (next : α → HookPart σ β) (span : Option SpanRef)
    (before : σ × Trace) :
    ((liftM body : HookPart σ α) >>= next).run span before =
      (next (body span before).1).run span (body span before).2 :=
  rfl

/-- The policy knows who the session is, and it goes on from there. -/
theorem run_identify_named (gateway : Gateway σ) (session : Session)
    (next : String → HookPart σ Unit) (span : Option SpanRef) (before : σ × Trace)
    (somebody : subject ≠ "")
    (names : (gateway.policy.identify session.credential span before).1 = .ok subject) :
    (gateway.identify session >>= next).run span before =
      (next subject).run span (gateway.policy.identify session.credential span before).2 := by
  have resolves : (gateway.identify session).run span before =
      (.ok subject, (gateway.policy.identify session.credential span before).2) := by
    rw [identify, run_ask, names]
    simp only [somebody, ↓reduceIte]
    rfl
  rw [run_bind, resolves]

/-- The policy does not know who the session is, and whatever was to follow does not. -/
theorem run_identify_unknown (gateway : Gateway σ) (session : Session)
    (next : String → HookPart σ Unit) (span : Option SpanRef) (before : σ × Trace)
    (nobody : Nobody (gateway.policy.identify session.credential span before).1) :
    let done := (gateway.identify session >>= next).run span before
    done.1 = .error .authentication ∧
      done.2.1 = (gateway.policy.identify session.credential span before).2.1 := by
  rw [run_bind, identify, run_ask]
  generalize gateway.policy.identify session.credential span before = asked at nobody ⊢
  obtain ⟨answer, after⟩ := asked
  cases answer with
  | error error => exact ⟨rfl, rfl⟩
  | ok subject =>
    have empty : subject = "" := nobody subject rfl
    simp only [empty, ↓reduceIte]
    exact ⟨rfl, rfl⟩

theorem run_authorize (gateway : Gateway σ) (session : Session) (request : Request)
    (span : Option SpanRef) (before : σ × Trace) :
    let done := (gateway.authorize session request).run span before
    done.1 = permitted (gateway.policy.authorize request span before).1 ∧
      done.2.1 = (gateway.policy.authorize request span before).2.1 := by
  rw [authorize, run_ask]
  generalize gateway.policy.authorize request span before = asked
  obtain ⟨answer, after⟩ := asked
  rcases answer with error | _ | _
  · exact ⟨rfl, rfl⟩
  · exact ⟨rfl, rfl⟩
  · exact ⟨rfl, rfl⟩

/-- An overheard hook has the answer of the hook. -/
theorem answer_overheard (gateway : Gateway σ) (created : Int64) (hook : Hook) (moment : Moment σ) :
    gateway.answer created hook moment =
      (gateway.overheard.perform created hook moment.span
        ((moment.state, []), moment.trace)).1 := by
  rw [overheard_perform]
  rfl

/-- What the overheard policy says is what the policy says, and it is on record afterwards. -/
theorem overheard_identify (gateway : Gateway σ) (credential : Credential) (span : Option SpanRef)
    (state : σ) (record : List Exchange) (trace : Trace) :
    let asked := gateway.policy.identify credential span (state, trace)
    gateway.overheard.policy.identify credential span ((state, record), trace) =
      (asked.1, (asked.2.1, record ++ [.identify credential asked.1]), asked.2.2) :=
  rfl

/-- A check asks who the session is, and does not go on if the policy does not know. -/
theorem unknown_of_run {hook : Hook} {next : String → HookPart (σ × List Exchange) Unit}
    (asks : gateway.overheard.perform created hook =
      (gateway.overheard.identify session >>= next).run)
    (nobody : Nobody (gateway.identity session moment)) :
    gateway.answer created hook moment = .error .authentication ∧
      gateway.exchanges created hook moment =
        [.identify session.credential (gateway.identity session moment)] := by
  have ended := run_identify_unknown gateway.overheard session next moment.span
    ((moment.state, []), moment.trace) nobody
  rw [answer_overheard, exchanges, asks]
  exact ⟨ended.1, congrArg Prod.snd ended.2⟩

theorem perform_authPublish (gateway : Gateway σ) (created : Int64) (payload : List UInt8)
    (named : session.id ≠ "") (parsed : Topic.parse text = .ok route) :
    gateway.perform created (.authPublish (some session) (some text) payload) =
      (gateway.identify session >>= fun subject =>
        gateway.authorize session ⟨subject, route.channel, .write⟩).run := by
  have checked : authSession (some session) = .ok session := if_neg named
  change (liftM (authSession (some session)) >>= _ : HookPart σ Unit).run = _
  rw [run_given checked]
  change (liftM (Topic.parse text) >>= _ : HookPart σ Unit).run = _
  rw [run_given parsed]

theorem authPublish_known (created : Int64) (payload : List UInt8) (named : session.id ≠ "")
    (parsed : Topic.parse text = .ok route) (somebody : subject ≠ "")
    (known : gateway.identity session moment = .ok subject) :
    let hook := Hook.authPublish (some session) (some text) payload
    let request : Request := ⟨subject, route.channel, .write⟩
    gateway.answer created hook moment = permitted (gateway.verdict session request moment) ∧
      gateway.exchanges created hook moment =
        [.identify session.credential (.ok subject),
          .authorize request (gateway.verdict session request moment)] := by
  intro hook request
  have runs := perform_authPublish gateway.overheard created payload named parsed
  have names := run_identify_named gateway.overheard session
    (fun subject => gateway.overheard.authorize session ⟨subject, route.channel, .write⟩)
    moment.span ((moment.state, []), moment.trace) somebody known
  have ended := run_authorize gateway.overheard session request moment.span
    (gateway.overheard.policy.identify session.credential moment.span
      ((moment.state, []), moment.trace)).2
  rw [← names, ← runs] at ended
  rw [answer_overheard, exchanges]
  refine ⟨ended.1, (congrArg Prod.snd ended.2).trans ?_⟩
  rw [overheard_identify]
  change [Exchange.identify session.credential (gateway.identity session moment),
    .authorize request (gateway.verdict session request moment)] = _
  rw [known]

/-- A connect asks who the session is. Its principal is announced, and anybody else is refused. -/
theorem perform_authConnect (gateway : Gateway σ) (created : Int64) (named : session.id ≠ "") :
    ∃ next : String → HookPart σ Unit,
      gateway.perform created (.authConnect (some session)) =
        (gateway.identify session >>= next).run ∧
      next session.principal = gateway.announce ⟨.connect, session.id, gateway.instanceId⟩ ∧
      ∀ subject, subject ≠ session.principal → ∀ span before,
        ((next subject).run span before).1 = .error .authentication ∧
          ((next subject).run span before).2.1 = before.1 := by
  have checked : authSession (some session) = .ok session := if_neg named
  refine ⟨_, run_given checked, ?_, ?_⟩
  · simp only [ne_eq, not_true_eq_false, ↓reduceIte]
  · intro subject other span before
    simp only [ne_eq, other, not_false_eq_true, ↓reduceIte]
    exact ⟨rfl, rfl⟩

theorem authConnect_known (created : Int64) (named : session.id ≠ "") (somebody : subject ≠ "")
    (known : gateway.identity session moment = .ok subject) :
    let hook := Hook.authConnect (some session)
    let answer := gateway.answer created hook moment
    (subject = session.principal → answer = .ok ()) ∧
    (subject ≠ session.principal → answer = .error .authentication) ∧
    ∃ told, gateway.exchanges created hook moment =
        .identify session.credential (.ok subject) :: told ∧
      ∀ exchange ∈ told, ¬ exchange.IsQuestion := by
  intro hook answer
  obtain ⟨next, runs, owner, other⟩ := perform_authConnect gateway.overheard created named
  have names := run_identify_named gateway.overheard session next moment.span
    ((moment.state, []), moment.trace) somebody known
  have record : (gateway.overheard.policy.identify session.credential moment.span
      ((moment.state, []), moment.trace)).2.1.2 = [.identify session.credential (.ok subject)] := by
    rw [overheard_identify, ← known]
    rfl
  have answers : answer = ((next subject).run moment.span
      (gateway.overheard.policy.identify session.credential moment.span
        ((moment.state, []), moment.trace)).2).1 := by
    rw [← names, ← runs, ← answer_overheard]
  rw [answers, exchanges, runs, names]
  generalize (gateway.overheard.policy.identify session.credential moment.span
    ((moment.state, []), moment.trace)).2 = asked at record ⊢
  by_cases same : subject = session.principal
  · let event : Lifecycle := ⟨.connect, session.id, gateway.instanceId⟩
    obtain ⟨_, ended, outcome, good, rfl⟩ := tells_announce gateway event moment.span asked.1.1
      asked.2
    have announced := ended asked.1.2
    rw [same, owner]
    refine ⟨fun _ => ?_, fun differs => absurd rfl differs, [.announce event.toEvent outcome],
      ?_, ?_⟩
    · exact (congrArg Prod.fst announced).trans good
    · rw [← same, ← List.singleton_append, ← record]
      exact congrArg (fun outcome => outcome.2.1.2) announced
    · exact List.forall_mem_singleton.mpr id
  · have refused := other subject same moment.span asked
    refine ⟨fun equal => absurd equal same, fun _ => refused.1, [], ?_, List.forall_mem_nil _⟩
    rw [refused.2, record]

/-- Guards in front that are met. -/
theorem Decides.append {guards rest : List Guard} {answer : Except GatewayError Unit}
    (met : ∀ guard ∈ guards, guard.met) (further : Decides rest answer) :
    Decides (guards ++ rest) answer := by
  induction guards with
  | nil => exact further
  | cons guard guards ih =>
    rw [List.forall_mem_cons] at met
    exact .pass met.1 (ih met.2)

theorem nobody_or_somebody (identity : Except PolicyError String) :
    Nobody identity ∨ ∃ subject, subject ≠ "" ∧ identity = .ok subject := by
  rcases resolved_cases identity with ⟨nobody, _⟩ | ⟨subject, somebody, names, _⟩
  · exact .inl nobody
  · exact .inr ⟨subject, somebody, names⟩

theorem sessionGuards_met_iff : (∀ guard ∈ sessionGuards presented, guard.met) ↔
    ∃ session, presented = some session ∧ session.id ≠ "" := by
  rw [sessionGuards, List.forall_mem_cons, List.forall_mem_singleton]
  cases presented with
  | none => simp only [ne_eq, not_true_eq_false, false_and, reduceCtorEq, exists_false]
  | some session => simp only [ne_eq, reduceCtorEq, not_false_eq_true, Option.mem_def,
      Option.some.injEq, forall_eq', true_and, exists_eq_left']

theorem topicGuards_met_iff : (∀ guard ∈ topicGuards topic, guard.met) ↔
    ∃ text route, topic = some text ∧ Topic.parse text = .ok route := by
  rw [topicGuards, List.forall_mem_cons, List.forall_mem_singleton]
  cases topic with
  | none => simp only [ne_eq, not_true_eq_false, false_and, reduceCtorEq, exists_false]
  | some text => simp only [ne_eq, reduceCtorEq, not_false_eq_true, Option.mem_def,
      Option.some.injEq, forall_eq', true_and, exists_and_left, exists_eq_left']

/-- A session that does not meet its guards is refused, as the guards decide. -/
theorem session_refused (unmet : ¬ ∀ guard ∈ sessionGuards presented, guard.met) :
    ∃ error, authSession presented = .error error ∧
      ∀ rest, Decides (sessionGuards presented ++ rest) (.error error) := by
  cases presented with
  | none =>
    have absent : ¬ (none : Option Session) ≠ none := fun present => present rfl
    exact ⟨_, rfl, fun rest => .stop absent⟩
  | some session =>
    have present : some session ≠ none := nofun
    have empty : session.id = "" := by
      by_contra named
      exact unmet (sessionGuards_met_iff.mpr ⟨session, rfl, named⟩)
    have unnamed : ¬ ∀ other ∈ some session, other.id ≠ "" := by
      intro named
      exact named session rfl empty
    exact ⟨_, if_pos empty, fun rest => .pass present (.stop unnamed)⟩

/-- A topic that does not meet its guards is refused, as the guards decide. -/
theorem topic_refused (unmet : ¬ ∀ guard ∈ topicGuards topic, guard.met) :
    ∃ error, topic.elim (.error .missingTopicPub) Topic.parse = .error error ∧
      ∀ rest, Decides (topicGuards topic ++ rest) (.error error) := by
  cases topic with
  | none =>
    have absent : ¬ (none : Option String) ≠ none := fun present => present rfl
    exact ⟨_, rfl, fun rest => .stop absent⟩
  | some text =>
    have present : some text ≠ none := nofun
    cases parsed : Topic.parse text with
    | ok route => exact absurd (topicGuards_met_iff.mpr ⟨text, route, rfl, parsed⟩) unmet
    | error error =>
      have malformed : error = .malformedTopic := Topic.parse_eq_error parsed
      have unparsed : ¬ ∀ other ∈ some text, ∃ route, Topic.parse other = .ok route := by
        intro good
        obtain ⟨route, read⟩ := good text rfl
        cases parsed.symm.trans read
      refine ⟨_, parsed, fun rest => ?_⟩
      rw [malformed]
      exact .pass present (.stop unparsed)

/-- Where a session or a topic is missing or bad, all there is to it is that nobody is asked. -/
theorem PublishCheck.refused {answer : Except GatewayError Unit} {said : List Exchange}
    (unmet : ¬ ∀ guard ∈ sessionGuards presented ++ topicGuards topic, guard.met)
    (decided : Decides (gateway.publishGuards presented topic moment) answer) (silent : said = []) :
    PublishCheck gateway presented topic moment answer said := by
  have good {session : Session} {text : String} {route : Topic.Route}
      (there : presented = some session) (named : session.id ≠ "") (given : topic = some text)
      (parsed : Topic.parse text = .ok route) : False := by
    apply unmet
    rw [List.forall_mem_append]
    exact ⟨sessionGuards_met_iff.mpr ⟨session, there, named⟩,
      topicGuards_met_iff.mpr ⟨text, route, given, parsed⟩⟩
  exact {
    decided
    unasked := fun _ => silent
    unknown := fun _ _ _ there named given parsed => (good there named given parsed).elim
    known := fun _ _ _ _ there named given parsed => (good there named given parsed).elim }

theorem publish_front_met (named : session.id ≠ "") (parsed : Topic.parse text = .ok route) :
    ∀ guard ∈ sessionGuards (some session) ++ topicGuards (some text), guard.met := by
  rw [List.forall_mem_append]
  exact ⟨sessionGuards_met_iff.mpr ⟨session, rfl, named⟩,
    topicGuards_met_iff.mpr ⟨text, route, rfl, parsed⟩⟩

/-- The guard of the identity, for a session that is there. -/
theorem identified_iff : (∀ other ∈ some session, ∃ subject, subject ≠ "" ∧
      gateway.identity other moment = .ok subject) ↔
    ∃ subject, subject ≠ "" ∧ gateway.identity session moment = .ok subject := by
  simp only [Option.mem_def, Option.some.injEq, forall_eq']

/-- The guard of the permission, for a session that the policy knows and a text that is a topic. -/
theorem authorized_iff (parsed : Topic.parse text = .ok route)
    (known : gateway.identity session moment = .ok subject) :
    (∀ other ∈ some session, ∀ text' ∈ some text, ∀ route' subject',
      Topic.parse text' = .ok route' → gateway.identity other moment = .ok subject' →
      gateway.verdict other ⟨subject', route'.channel, .write⟩ moment = .ok true) ↔
    gateway.verdict session ⟨subject, route.channel, .write⟩ moment = .ok true := by
  simp only [Option.mem_def, Option.some.injEq, forall_eq', parsed, known, Except.ok.injEq]
  constructor
  · intro all
    exact all route subject rfl rfl
  · intro allows route' subject' sameRoute sameSubject
    rw [← sameRoute, ← sameSubject]
    exact allows

theorem publishCheck_unknown (payload : List UInt8) (named : session.id ≠ "")
    (parsed : Topic.parse text = .ok route) (nobody : Nobody (gateway.identity session moment)) :
    let hook := Hook.authPublish (some session) (some text) payload
    PublishCheck gateway (some session) (some text) moment (gateway.answer created hook moment)
      (gateway.exchanges created hook moment) := by
  intro hook
  have met := publish_front_met named parsed
  have unidentified : ¬ ∃ subject, subject ≠ "" ∧
      gateway.identity session moment = .ok subject := by
    intro known
    obtain ⟨subject, somebody, names⟩ := known
    exact somebody (nobody subject names)
  obtain ⟨answered, said⟩ :=
    unknown_of_run (perform_authPublish gateway.overheard created payload named parsed) nobody
  rw [answered, said]
  constructor
  case decided => exact Decides.append met (.stop (mt identified_iff.mp unidentified))
  case unasked => exact fun unmet => absurd met unmet
  case unknown =>
    intro other _ _ there _ _ _ _
    cases there
    rfl
  case known =>
    intro other _ _ subject there _ _ _ somebody names
    cases there
    exact absurd (nobody subject names) somebody

theorem publishCheck_known (payload : List UInt8) (named : session.id ≠ "")
    (parsed : Topic.parse text = .ok route) (somebody : subject ≠ "")
    (known : gateway.identity session moment = .ok subject) :
    let hook := Hook.authPublish (some session) (some text) payload
    PublishCheck gateway (some session) (some text) moment (gateway.answer created hook moment)
      (gateway.exchanges created hook moment) := by
  intro hook
  have met := publish_front_met named parsed
  obtain ⟨answered, said⟩ := authPublish_known created payload named parsed somebody known
  rw [answered, said]
  constructor
  case decided =>
    apply Decides.append met
    apply Decides.pass (identified_iff.mpr ⟨subject, somebody, known⟩)
    have permission := authorized_iff parsed known
    rcases permitted_cases (gateway.verdict session ⟨subject, route.channel, .write⟩ moment) with
      ⟨allows, permits⟩ | ⟨denies, refuses⟩
    · rw [permits]
      exact .pass (permission.mpr allows) .passed
    · rw [refuses]
      exact .stop (mt permission.mp denies)
  case unasked => exact fun unmet => absurd met unmet
  case unknown =>
    intro other _ _ there _ _ _ nobody
    cases there
    exact absurd (nobody subject known) somebody
  case known =>
    intro other text' route' subject' there _ given parsed' _ known'
    cases there
    cases given
    cases parsed.symm.trans parsed'
    cases known.symm.trans known'
    rfl

theorem publishCheck (gateway : Gateway σ) (created : Int64) (presented : Option Session)
    (topic : Option String) (payload : List UInt8) (moment : Moment σ) :
    let hook := Hook.authPublish presented topic payload
    PublishCheck gateway presented topic moment (gateway.answer created hook moment)
      (gateway.exchanges created hook moment) := by
  intro hook
  have behaves := conduct gateway created hook moment
  rw [Conduct] at behaves
  -- First the session, then the topic; the policy is asked only where both are good.
  by_cases present : ∀ guard ∈ sessionGuards presented, guard.met
  · obtain ⟨session, rfl, named⟩ := sessionGuards_met_iff.mp present
    rw [authSession_eq_ok.mpr ⟨rfl, named⟩, Given] at behaves
    by_cases written : ∀ guard ∈ topicGuards topic, guard.met
    · obtain ⟨text, route, rfl, parsed⟩ := topicGuards_met_iff.mp written
      rcases nobody_or_somebody (gateway.identity session moment) with
        nobody | ⟨subject, somebody, known⟩
      · exact publishCheck_unknown payload named parsed nobody
      · exact publishCheck_known payload named parsed somebody known
    · obtain ⟨error, failed, decides⟩ := topic_refused written
      rw [failed] at behaves
      obtain ⟨answered, silent⟩ := behaves
      apply PublishCheck.refused
      · exact fun all => written (List.forall_mem_append.mp all).2
      · rw [answered, publishGuards, List.append_assoc]
        exact Decides.append present (decides _)
      · exact silent
  · obtain ⟨error, failed, decides⟩ := session_refused present
    rw [failed] at behaves
    obtain ⟨answered, silent⟩ := behaves
    apply PublishCheck.refused
    · exact fun all => present (List.forall_mem_append.mp all).1
    · rw [answered, publishGuards, List.append_assoc]
      exact decides _
    · exact silent

theorem connectCheck_known (named : session.id ≠ "") (somebody : subject ≠ "")
    (known : gateway.identity session moment = .ok subject) :
    let hook := Hook.authConnect (some session)
    ConnectCheck gateway (some session) moment (gateway.answer created hook moment)
      (gateway.exchanges created hook moment) := by
  intro hook
  have met := sessionGuards_met_iff.mpr ⟨session, rfl, named⟩
  obtain ⟨owner, other, told, said, quiet⟩ :=
    authConnect_known created named somebody known
  constructor
  case decided =>
    apply Decides.append met
    by_cases same : subject = session.principal
    · rw [owner same]
      refine .pass ?_ .passed
      intro another there
      cases there
      rw [← same]
      exact ⟨somebody, known⟩
    · rw [other same]
      refine .stop ?_
      intro all
      exact same (Except.ok.inj (known.symm.trans (all session rfl).2))
  case unasked => exact fun unmet => absurd met unmet
  case asked =>
    intro another there _
    cases there
    rw [known]
    exact ⟨told, said, quiet⟩

theorem connectCheck_unknown (named : session.id ≠ "")
    (nobody : Nobody (gateway.identity session moment)) :
    let hook := Hook.authConnect (some session)
    ConnectCheck gateway (some session) moment (gateway.answer created hook moment)
      (gateway.exchanges created hook moment) := by
  intro hook
  have met := sessionGuards_met_iff.mpr ⟨session, rfl, named⟩
  obtain ⟨next, runs, -⟩ := perform_authConnect gateway.overheard created named
  obtain ⟨answered, said⟩ := unknown_of_run runs nobody
  rw [answered, said]
  constructor
  case decided =>
    apply Decides.append met
    refine .stop ?_
    intro all
    obtain ⟨somebody, names⟩ := all session rfl
    exact somebody (nobody _ names)
  case unasked => exact fun unmet => absurd met unmet
  case asked =>
    intro another there _
    cases there
    exact ⟨[], rfl, List.forall_mem_nil _⟩

theorem connectCheck (gateway : Gateway σ) (created : Int64) (presented : Option Session)
    (moment : Moment σ) :
    let hook := Hook.authConnect presented
    ConnectCheck gateway presented moment (gateway.answer created hook moment)
      (gateway.exchanges created hook moment) := by
  intro hook
  by_cases present : ∀ guard ∈ sessionGuards presented, guard.met
  · obtain ⟨session, rfl, named⟩ := sessionGuards_met_iff.mp present
    rcases nobody_or_somebody (gateway.identity session moment) with
      nobody | ⟨subject, somebody, known⟩
    · exact connectCheck_unknown named nobody
    · exact connectCheck_known named somebody known
  · obtain ⟨error, failed, decides⟩ := session_refused present
    have behaves := conduct gateway created hook moment
    rw [Conduct, failed] at behaves
    obtain ⟨answered, silent⟩ := behaves
    constructor
    case decided =>
      rw [answered]
      exact decides _
    case unasked => exact fun _ => silent
    case asked =>
      intro session there named
      exact absurd (sessionGuards_met_iff.mpr ⟨session, there, named⟩) present

theorem publishGuards_met_iff :
    (∀ guard ∈ gateway.publishGuards presented topic moment, guard.met) ↔
    ∃ session text route subject, presented = some session ∧ session.id ≠ "" ∧
      topic = some text ∧ Topic.parse text = .ok route ∧ subject ≠ "" ∧
      gateway.identity session moment = .ok subject ∧
      gateway.verdict session ⟨subject, route.channel, .write⟩ moment = .ok true := by
  rw [publishGuards, List.forall_mem_append, List.forall_mem_append, sessionGuards_met_iff,
    topicGuards_met_iff, List.forall_mem_cons, List.forall_mem_singleton]
  constructor
  · intro met
    obtain ⟨⟨⟨session, there, named⟩, text, route, given, parsed⟩, identified, authorized⟩ := met
    obtain ⟨subject, somebody, known⟩ := identified session there
    exact ⟨session, text, route, subject, there, named, given, parsed, somebody, known,
      authorized session there text given route subject parsed known⟩
  · intro good
    obtain ⟨session, text, route, subject, rfl, named, rfl, parsed, somebody, known, allows⟩ := good
    exact ⟨⟨⟨session, rfl, named⟩, text, route, rfl, parsed⟩,
      identified_iff.mpr ⟨subject, somebody, known⟩, (authorized_iff parsed known).mpr allows⟩

theorem connectGuards_met_iff : (∀ guard ∈ gateway.connectGuards presented moment, guard.met) ↔
    ∃ session, presented = some session ∧ session.id ≠ "" ∧ session.principal ≠ "" ∧
      gateway.identity session moment = .ok session.principal := by
  rw [connectGuards, List.forall_mem_append, sessionGuards_met_iff, List.forall_mem_singleton]
  constructor
  · intro met
    obtain ⟨⟨session, there, named⟩, identified⟩ := met
    exact ⟨session, there, named, identified session there⟩
  · intro good
    obtain ⟨session, rfl, named, identified⟩ := good
    refine ⟨⟨session, rfl, named⟩, ?_⟩
    intro other there
    cases there
    exact identified

/-- The checks before a publish and before a connect stop at the first guard that is not met, with
its error, and the policy is asked no more than the guards in front call for. So the check of a
publish is good exactly if a session with an id and a topic are there, and the policy knows the
session and lets it write to the channel of the topic. The check of a connect is good exactly if a
session with an id is there, and the policy knows it by its principal. -/
theorem checks_stop_at_first_guard (gateway : Gateway σ) (created : Int64)
    (presented : Option Session) (topic : Option String) (payload : List UInt8)
    (moment : Moment σ) :
    (let hook := Hook.authPublish presented topic payload
    let answer := gateway.answer created hook moment
    PublishCheck gateway presented topic moment answer (gateway.exchanges created hook moment) ∧
      (answer = .ok () ↔ ∃ session text route subject, presented = some session ∧
        session.id ≠ "" ∧ topic = some text ∧ Topic.parse text = .ok route ∧ subject ≠ "" ∧
        gateway.identity session moment = .ok subject ∧
        gateway.verdict session ⟨subject, route.channel, .write⟩ moment = .ok true)) ∧
    (let hook := Hook.authConnect presented
    let answer := gateway.answer created hook moment
    ConnectCheck gateway presented moment answer (gateway.exchanges created hook moment) ∧
      (answer = .ok () ↔ ∃ session, presented = some session ∧ session.id ≠ "" ∧
        session.principal ≠ "" ∧ gateway.identity session moment = .ok session.principal)) := by
  have publish := publishCheck gateway created presented topic payload moment
  have connect := connectCheck gateway created presented moment
  constructor
  · exact ⟨publish, publish.decided.eq_ok_iff.trans publishGuards_met_iff⟩
  · exact ⟨connect, connect.decided.eq_ok_iff.trans connectGuards_met_iff⟩

end ChannelGate.Gateway
