import ChannelGate.Proofs.Gateway.Presenting
import Mathlib.Data.List.Forall2

set_option autoImplicit false

namespace ChannelGate.Gateway

/-- A relation of hook parts over two states, kept by all that a hook is made of. -/
structure Bond (σ τ : Type) where
  Joins : {α : Type} → HookPart σ α → HookPart τ α → Prop
  answer : ∀ {α : Type} (outcome : Except GatewayError α), Joins (liftM outcome) (liftM outcome)
  note : ∀ (level : Level) (message : String) (fields : Data),
    Joins (note level message fields) (note level message fields)
  bind : ∀ {α β : Type} {first : HookPart σ α} {first' : HookPart τ α} {next : α → HookPart σ β}
    {next' : α → HookPart τ β}, Joins first first' → (∀ value, Joins (next value) (next' value)) →
    Joins (first >>= next) (first' >>= next')

namespace Bond

variable {σ τ : Type}

/-- The bond joins what the parties of two gateways do. -/
structure Parties (bond : Bond σ τ) (left : Gateway σ) (right : Gateway τ) : Prop where
  instanceId : left.instanceId = right.instanceId
  identify : ∀ credential,
    bond.Joins (liftM (left.policy.identify credential)) (liftM (right.policy.identify credential))
  authorize : ∀ request,
    bond.Joins (liftM (left.policy.authorize request)) (liftM (right.policy.authorize request))
  sinks : List.Forall₂
    (fun sink sink' => ∀ message, bond.Joins (liftM (sink message)) (liftM (sink' message)))
    left.sinks right.sinks
  events : ∀ event, bond.Joins (liftM (left.events event)) (liftM (right.events event))

variable {bond : Bond σ τ} {left : Gateway σ} {right : Gateway τ} {mine theirs : Credential}

theorem pure (bond : Bond σ τ) {α : Type} (value : α) :
    bond.Joins (Pure.pure value) (Pure.pure value) :=
  bond.answer (.ok value)

theorem throw (bond : Bond σ τ) {α : Type} (error : GatewayError) :
    bond.Joins (α := α) (MonadExcept.throw error) (MonadExcept.throw error) :=
  bond.answer (.error error)

/-- What follows a session that was looked at. -/
theorem joins_presenting {α : Type} {next : Session → HookPart σ α}
    {next' : Session → HookPart τ α} (outcome : Except GatewayError Session)
    (follows : ∀ session : Session,
      bond.Joins (next (session.presenting mine)) (next' (session.presenting theirs))) :
    bond.Joins (liftM (outcome.map (Session.presenting mine)) >>= next)
      (liftM (outcome.map (Session.presenting theirs)) >>= next') := by
  cases outcome with
  | error error => exact bond.throw error
  | ok session => exact follows session

/-- The bond joins the answers to whose the one secret is, and whose the other. -/
def Confuses (bond : Bond σ τ) (mine theirs : Credential) (left : Gateway σ) (right : Gateway τ) :
    Prop :=
  ∀ session : Session, bond.Joins (left.identify (session.presenting mine))
    (right.identify (session.presenting theirs))

/-- Answers that are joined, and lines that are written where the answer is an error. -/
theorem Confuses.of_answers
    (answers : bond.Joins (liftM (left.policy.identify mine)) (liftM (right.policy.identify theirs)))
    (lines : ∀ id error, bond.Joins
      (Gateway.note .warn "Failed to identify client"
        [("client_id", .text id), ("credential", .text mine.shortFingerprint),
          ("error", .text error)])
      (Gateway.note .warn "Failed to identify client"
        [("client_id", .text id), ("credential", .text theirs.shortFingerprint),
          ("error", .text error)])) :
    bond.Confuses mine theirs left right := by
  intro session
  apply bond.bind answers
  intro identity
  cases identity with
  | error error =>
    apply bond.bind (lines session.id error.message)
    intro written
    exact bond.throw _
  | ok subject =>
    by_cases empty : subject = ""
    · simp only [empty, ↓reduceIte]
      apply bond.bind (bond.note _ _ _)
      intro written
      exact bond.throw _
    · simp only [empty, ↓reduceIte]
      exact bond.pure subject

namespace Parties

theorem joins_identify (parties : bond.Parties left right) (session : Session) :
    bond.Joins (left.identify session) (right.identify session) :=
  Confuses.of_answers (parties.identify session.credential) (fun _ _ => bond.note _ _ _) session

theorem joins_authorize (parties : bond.Parties left right) (session : Session)
    (request : Request) :
    bond.Joins (left.authorize session request) (right.authorize session request) := by
  apply bond.bind (parties.authorize request)
  intro verdict
  rcases verdict with error | _ | _
  · apply bond.bind (bond.note _ _ _)
    intro written
    exact bond.throw _
  · apply bond.bind (bond.note _ _ _)
    intro written
    exact bond.throw _
  · exact bond.pure ()

theorem joins_authorizeEach (parties : bond.Parties left right)
    (confuses : bond.Confuses mine theirs left right) (session : Session)
    (subject? : Option String) (topics : List String) :
    bond.Joins (left.authorizeEach (session.presenting mine) subject? topics)
      (right.authorizeEach (session.presenting theirs) subject? topics) := by
  induction topics generalizing subject? with
  | nil => exact bond.pure ()
  | cons topic topics ih =>
    apply bond.bind (bond.answer (Topic.parse topic))
    intro route
    have known : ∀ subject, bond.Joins
        (left.authorize (session.presenting mine) ⟨subject, route.channel, .read⟩ >>= fun _ =>
          left.authorizeEach (session.presenting mine) (some subject) topics)
        (right.authorize (session.presenting theirs) ⟨subject, route.channel, .read⟩ >>= fun _ =>
          right.authorizeEach (session.presenting theirs) (some subject) topics) := by
      intro subject
      rw [authorize_presenting, authorize_presenting]
      exact bond.bind (parties.joins_authorize session _) fun _ => ih (some subject)
    cases subject? with
    | none => exact bond.bind (confuses session) known
    | some subject => exact known subject

theorem joins_announce (parties : bond.Parties left right) (event : Lifecycle) :
    bond.Joins (left.announce event) (right.announce event) := by
  apply bond.bind (parties.events event.toEvent)
  intro outcome
  cases outcome with
  | error error => exact bond.note _ _ _
  | ok accepted => exact bond.pure ()

theorem joins_fanOut {message : RoutedMessage} {sinks : List (MessageSink σ)}
    {sinks' : List (MessageSink τ)}
    (alike : List.Forall₂
      (fun sink sink' => ∀ message, bond.Joins (liftM (sink message)) (liftM (sink' message)))
      sinks sinks') (first? : Option BusError) :
    bond.Joins (fanOut message first? sinks) (fanOut message first? sinks') := by
  induction alike generalizing first? with
  | nil =>
    cases first? with
    | none => exact bond.pure ()
    | some error => exact bond.throw _
  | cons same rest ih =>
    have asked := same message
    cases first? with
    | none =>
      apply bond.bind asked
      intro outcome
      cases outcome with
      | ok accepted => exact ih none
      | error error => exact ih (some error)
    | some first =>
      apply bond.bind asked
      intro outcome
      cases outcome with
      | ok accepted => exact ih (some first)
      | error error => exact bond.bind (bond.note _ _ _) fun _ => ih (some first)

/-- What joins the parties, and the two secrets where the policy is asked whose they are, joins the
hooks of sessions that present the one and the other. -/
theorem joins_steps_presenting (parties : bond.Parties left right)
    (confuses : bond.Confuses mine theirs left right) (created : Int64) (hook : Hook) :
    bond.Joins (left.steps created (hook.presenting mine))
      (right.steps created (hook.presenting theirs)) := by
  have told := parties.instanceId
  cases hook with
  | authConnect session =>
    simp only [Hook.presenting, Gateway.steps, Gateway.authConnect, authSession_presenting]
    apply joins_presenting
    intro session
    apply bond.bind (confuses session)
    intro subject
    simp only [Session.presenting_principal, Session.presenting_id, told]
    by_cases owner : subject = session.principal
    · simp only [ne_eq, owner, not_true_eq_false, ↓reduceIte]
      exact parties.joins_announce _
    · simp only [ne_eq, owner, not_false_eq_true, ↓reduceIte]
      exact bond.bind (bond.note _ _ _) fun _ => bond.throw _
  | authPublish session topic payload =>
    simp only [Hook.presenting, Gateway.steps, Gateway.authPublish, authSession_presenting]
    apply joins_presenting
    intro session
    cases topic with
    | none => exact bond.throw _
    | some topic =>
      apply bond.bind (bond.answer (Topic.parse topic))
      intro route
      apply bond.bind (confuses session)
      intro subject
      rw [authorize_presenting, authorize_presenting]
      exact parties.joins_authorize session _
  | authSubscribe session topics =>
    simp only [Hook.presenting, Gateway.steps, Gateway.authSubscribe, authSession_presenting]
    apply joins_presenting
    intro session
    cases topics with
    | none => exact bond.throw _
    | some topics => exact parties.joins_authorizeEach confuses session none topics
  | publish session topic payload =>
    simp only [Hook.presenting, Gateway.steps, Gateway.publish, hookSession_presenting]
    apply joins_presenting
    intro session
    simp only [Session.presenting_id]
    apply bond.bind (bond.note _ _ _)
    intro written
    apply bond.bind (bond.answer _)
    intro parts
    apply bond.bind (bond.answer _)
    intro target
    exact joins_fanOut parties.sinks none
  | connect session =>
    simp only [Hook.presenting, Gateway.steps, hookSession_presenting]
    exact joins_presenting _ fun _ => bond.note _ _ _
  | subscribe session topics =>
    simp only [Hook.presenting, Gateway.steps, hookSession_presenting]
    exact joins_presenting _ fun _ => bond.note _ _ _
  | unsubscribe session topics =>
    simp only [Hook.presenting, Gateway.steps, hookSession_presenting]
    exact joins_presenting _ fun _ => bond.note _ _ _
  | disconnect session =>
    simp only [Hook.presenting, Gateway.steps, hookSession_presenting]
    apply joins_presenting
    intro session
    simp only [Session.presenting_id, Session.presenting_principal, told]
    exact bond.bind (bond.note _ _ _) fun _ => parties.joins_announce _

/-- What joins the parties joins the hooks. -/
theorem joins_steps (parties : bond.Parties left right) (created : Int64) (hook : Hook) :
    bond.Joins (left.steps created hook) (right.steps created hook) := by
  obtain ⟨credential, own⟩ := hook.exists_presenting
  rw [← own]
  exact parties.joins_steps_presenting
    (fun session => parties.joins_identify (session.presenting credential)) created hook

end Parties

end Bond

end ChannelGate.Gateway
