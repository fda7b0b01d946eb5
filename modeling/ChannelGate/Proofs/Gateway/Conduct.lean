import ChannelGate.Proofs.Gateway.Parts
import ChannelGate.Proofs.Topic.Grammar

set_option autoImplicit false

namespace ChannelGate.Gateway

variable {σ : Type}

/-- Answers that may be given, each with what may be said before. -/
abbrev Manner := Except GatewayError Unit → List Exchange → Prop

/-- There is one answer, and nobody is spoken to. -/
def Silent (outcome : Except GatewayError Unit) : Manner := fun answer said =>
  answer = outcome ∧ said = []

/-- An error of a check is the answer; else it goes on with the checked value. -/
def Given {α : Type} (check : Except GatewayError α) (next : α → Manner) : Manner :=
  match check with
  | .ok value => next value
  | .error error => Silent (.error error)

/-- The policy is asked who presents a credential, and it goes on if the policy knows. -/
def Identified (credential : Credential) (next : String → Manner) : Manner := fun answer said =>
  ∃ identity rest, said = .identify credential identity :: rest ∧
    Given (resolved identity) next answer rest

def Authorized (request : Request) (next : Manner) : Manner := fun answer said =>
  ∃ verdict rest, said = .authorize request verdict :: rest ∧
    Given (permitted verdict) (fun _ => next) answer rest

/-- An event is told about, and the answer is good whatever becomes of the event. -/
def Announced (event : Lifecycle) : Manner := fun answer said =>
  ∃ outcome, answer = .ok () ∧ said = [.announce event.toEvent outcome]

/-- Topic by topic, reading is authorized; who it is is asked at the first topic that parses. -/
def Batch (credential : Credential) : Option String → List String → Manner
  | _, [] => Silent (.ok ())
  | none, topic :: rest =>
    Given (Topic.parse topic) fun route =>
      Identified credential fun subject =>
        Authorized ⟨subject, route.channel, .read⟩ (Batch credential (some subject) rest)
  | some subject, topic :: rest =>
    Given (Topic.parse topic) fun route =>
      Authorized ⟨subject, route.channel, .read⟩ (Batch credential (some subject) rest)

/-- How a hook of the gateway answers, and what it says. -/
def Conduct (gateway : Gateway σ) (created : Int64) : Hook → Manner
  | .authConnect session =>
    Given (authSession session) fun session =>
      Identified session.credential fun subject =>
        if subject = session.principal then
          Announced ⟨.connect, session.id, gateway.instanceId⟩
        else Silent (.error .authentication)
  | .authPublish session topic _ =>
    Given (authSession session) fun session =>
      Given (topic.elim (.error .missingTopicPub) Topic.parse) fun route =>
        Identified session.credential fun subject =>
          Authorized ⟨subject, route.channel, .write⟩ (Silent (.ok ()))
  | .authSubscribe session topics =>
    Given (authSession session) fun session =>
      topics.elim (Silent (.error .missingTopicSub)) (Batch session.credential none)
  | .connect session => Given (hookSession .connect session) fun _ => Silent (.ok ())
  | .publish session topic payload =>
    Given (hookSession .publish session) fun session =>
      Given ((Topic.split topic).mapError (GatewayError.failed .publish)) fun parts =>
        Given ((Topic.subtopic parts.trailer).mapError (GatewayError.failed .parseSubtopic))
          fun target =>
            Spread (.new parts.channel target session.id payload created) none
              gateway.sinks.length 0
  | .subscribe session _ => Given (hookSession .subscribe session) fun _ => Silent (.ok ())
  | .unsubscribe session _ => Given (hookSession .unsubscribe session) fun _ => Silent (.ok ())
  | .disconnect session =>
    Given (hookSession .disconnect session) fun session =>
      Announced ⟨.disconnect, session.id, gateway.instanceId⟩

theorem authSession_eq_ok {presented : Option Session} {session : Session} :
    authSession presented = .ok session ↔ presented = some session ∧ session.id ≠ "" := by
  cases presented with
  | none => simp only [authSession, reduceCtorEq, false_and]
  | some other =>
    unfold authSession
    by_cases named : other.id = ""
    · simp only [named, ↓reduceIte, reduceCtorEq, Option.some.injEq, ne_eq, false_iff, not_and,
        Decidable.not_not]
      rintro rfl
      exact named
    · simp only [named, ↓reduceIte, Except.ok.injEq, Option.some.injEq, ne_eq]
      constructor
      · rintro rfl
        exact ⟨rfl, named⟩
      · exact And.left

theorem Tells.given {α : Type} {check : Except GatewayError α} {next : α → HookPart σ Unit}
    {next' : α → HookPart (σ × List Exchange) Unit} {manner : α → Manner}
    (follows : ∀ value, Tells (next value) (next' value) (manner value)) :
    Tells (liftM check >>= next) (liftM check >>= next') (Given check manner) := by
  cases check with
  | error error => exact tells_of_lift_error rfl
  | ok value => exact Tells.after_lift rfl (follows value)

/-- One part after another, when the first says one thing that settles how to go on. -/
theorem Tells.then_given {α β : Type} {first : HookPart σ α}
    {first' : HookPart (σ × List Exchange) α} {next : α → HookPart σ Unit}
    {next' : α → HookPart (σ × List Exchange) Unit} {manner : α → Manner} {entry : β → Exchange}
    {settle : β → Except GatewayError α}
    (begins : Tells first first' fun answer said =>
      ∃ heard, answer = settle heard ∧ said = [entry heard])
    (follows : ∀ value, Tells (next value) (next' value) (manner value)) :
    Tells (first >>= next) (first' >>= next') fun answer said =>
      ∃ heard rest, said = entry heard :: rest ∧ Given (settle heard) manner answer rest := by
  apply (Tells.bind begins manner follows).weaken
  intro answer said told
  rcases told with ⟨error, same, heard, settled, whole⟩ |
    ⟨value, before, after, ⟨heard, settled, first⟩, goes, whole⟩
  · refine ⟨heard, [], whole, ?_⟩
    rw [← settled]
    exact ⟨same, rfl⟩
  · rw [first] at whole
    refine ⟨heard, after, whole, ?_⟩
    rw [← settled]
    exact goes

theorem Tells.identified {gateway : Gateway σ} {session : Session}
    {next : String → HookPart σ Unit} {next' : String → HookPart (σ × List Exchange) Unit}
    {manner : String → Manner}
    (follows : ∀ subject, Tells (next subject) (next' subject) (manner subject)) :
    Tells (gateway.identify session >>= next) (gateway.overheard.identify session >>= next')
      (Identified session.credential manner) :=
  Tells.then_given (tells_identify gateway session) follows

theorem Tells.authorized {gateway : Gateway σ} {session : Session} {request : Request}
    {next : HookPart σ Unit} {next' : HookPart (σ × List Exchange) Unit} {manner : Manner}
    (follows : Tells next next' manner) :
    Tells (gateway.authorize session request >>= fun _ => next)
      (gateway.overheard.authorize session request >>= fun _ => next')
      (Authorized request manner) :=
  Tells.then_given (tells_authorize gateway session request) fun _ => follows

theorem tells_authorize_last (gateway : Gateway σ) (session : Session) (request : Request) :
    Tells (gateway.authorize session request) (gateway.overheard.authorize session request)
      (Authorized request (Silent (.ok ()))) := by
  apply (tells_authorize gateway session request).weaken
  intro answer said told
  obtain ⟨verdict, same, whole⟩ := told
  refine ⟨verdict, [], whole, ?_⟩
  rw [same]
  rcases verdict with error | _ | _
  · exact ⟨rfl, rfl⟩
  · exact ⟨rfl, rfl⟩
  · exact ⟨rfl, rfl⟩

theorem tells_announced (gateway : Gateway σ) (event : Lifecycle) :
    Tells (gateway.announce event) (gateway.overheard.announce event) (Announced event) :=
  tells_announce gateway event

theorem tells_batch (gateway : Gateway σ) (session : Session) (subject? : Option String)
    (topics : List String) :
    Tells (gateway.authorizeEach session subject? topics)
      (gateway.overheard.authorizeEach session subject? topics)
      (Batch session.credential subject? topics) := by
  induction topics generalizing subject? with
  | nil =>
    cases subject? with
    | none => exact tells_pure ()
    | some subject => exact tells_pure ()
  | cons topic topics ih =>
    cases subject? with
    | none =>
      apply Tells.given
      intro route
      apply Tells.identified
      intro subject
      exact Tells.authorized (ih (some subject))
    | some subject =>
      apply Tells.given
      intro route
      exact Tells.authorized (ih (some subject))

theorem tells_note_last (level : Level) (message : String) (fields : Data) :
    Tells (σ := σ) (note level message fields) (note level message fields) (Silent (.ok ())) :=
  tells_note level message fields

theorem tells_conduct (gateway : Gateway σ) (created : Int64) (hook : Hook) :
    Tells (gateway.steps created hook) (gateway.overheard.steps created hook)
      (Conduct gateway created hook) := by
  cases hook with
  | authConnect session =>
    apply Tells.given
    intro session
    apply Tells.identified
    intro subject
    by_cases owner : subject = session.principal
    · simp only [ne_eq, owner, not_true_eq_false, ↓reduceIte]
      exact tells_announced gateway _
    · simp only [ne_eq, owner, not_false_eq_true, ↓reduceIte]
      exact (tells_throw GatewayError.authentication).after_note _ _ _
  | authPublish session topic payload =>
    apply Tells.given
    intro session
    cases topic with
    | none => exact tells_throw _
    | some topic =>
      apply Tells.given
      intro route
      apply Tells.identified
      intro subject
      exact tells_authorize_last gateway session _
  | authSubscribe session topics =>
    apply Tells.given
    intro session
    cases topics with
    | none => exact tells_throw _
    | some topics => exact tells_batch gateway session none topics
  | connect session =>
    apply Tells.given
    intro session
    exact tells_note_last _ _ _
  | publish session topic payload =>
    apply Tells.given
    intro session
    apply Tells.after_note
    apply Tells.given
    intro parts
    apply Tells.given
    intro target
    exact tells_fanOut _ gateway.sinks 0 none
  | subscribe session topics =>
    apply Tells.given
    intro session
    exact tells_note_last _ _ _
  | unsubscribe session topics =>
    apply Tells.given
    intro session
    exact tells_note_last _ _ _
  | disconnect session =>
    apply Tells.given
    intro session
    exact (tells_announced gateway _).after_note _ _ _

/-- Every hook keeps to its conduct, whenever it is called. -/
theorem conduct (gateway : Gateway σ) (created : Int64) (hook : Hook) (moment : Moment σ) :
    Conduct gateway created hook (gateway.answer created hook moment)
      (gateway.exchanges created hook moment) :=
  ((tells_conduct gateway created hook).perform created hook moment).2

end ChannelGate.Gateway
