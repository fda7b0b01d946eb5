import ChannelGate.Proofs.Gateway.Bond
import ChannelGate.Proofs.Gateway.Exchange

set_option autoImplicit false

namespace ChannelGate.Gateway

variable {σ : Type}

def resolved : Except PolicyError String → Except GatewayError String
  | .ok subject => if subject = "" then .error .authentication else .ok subject
  | .error _ => .error .authentication

def permitted : Except PolicyError Bool → Except GatewayError Unit
  | .ok true => .ok ()
  | _ => .error .authorization

def sinkError? : Except BusError Unit → Option BusError
  | .ok () => none
  | .error e => some e

/-- How a publish ends by the first error of a sink. -/
def published : Option BusError → Except GatewayError Unit
  | none => .ok ()
  | some e => .error (.failed .publish (.broker e))

theorem tells_identify (gateway : Gateway σ) (session : Session) :
    Tells (gateway.identify session) (gateway.overheard.identify session) (fun answer said =>
      ∃ identity, answer = resolved identity ∧ said = [.identify session.credential identity]) := by
  apply tells_once resolved
  intro identity
  cases identity with
  | error error => exact (tells_throw .authentication).after_note _ _ _
  | ok subject =>
    unfold resolved
    by_cases empty : subject = ""
    · simp only [empty, ↓reduceIte]
      refine Tells.after_note ?_ _ _ _
      exact tells_of_answer _ (fun _ _ => rfl) (fun _ _ => rfl)
    · simp only [empty, ↓reduceIte]
      exact tells_pure subject

theorem tells_authorize (gateway : Gateway σ) (session : Session) (request : Request) :
    Tells (gateway.authorize session request) (gateway.overheard.authorize session request)
      (fun answer said => ∃ verdict, answer = permitted verdict ∧
        said = [.authorize request verdict]) := by
  apply tells_once permitted
  intro verdict
  cases verdict with
  | error error => exact (tells_throw .authorization).after_note _ _ _
  | ok allowed =>
    cases allowed with
    | false => exact (tells_throw .authorization).after_note _ _ _
    | true => exact tells_pure ()

theorem tells_announce (gateway : Gateway σ) (event : Lifecycle) :
    Tells (gateway.announce event) (gateway.overheard.announce event) (fun answer said =>
      ∃ outcome, answer = .ok () ∧ said = [.announce event.toEvent outcome]) := by
  apply tells_once fun _ => .ok ()
  intro outcome
  cases outcome with
  | error error => exact tells_note _ _ _
  | ok accepted => exact tells_pure ()

/-- One delivery for each outcome, at sinks that are numbered from `start` on. -/
def deliveries (message : RoutedMessage) : Nat → List (Except BusError Unit) → List Exchange
  | _, [] => []
  | start, outcome :: outcomes =>
    .deliver start message outcome :: deliveries message (start + 1) outcomes

/-- What a fan-out over some sinks says and answers, after sinks whose first error is `first?`. -/
def Spread (message : RoutedMessage) (first? : Option BusError) (sinks start : Nat)
    (answer : Except GatewayError Unit) (said : List Exchange) : Prop :=
  ∃ outcomes : List (Except BusError Unit), outcomes.length = sinks ∧
    answer = published (first?.or (outcomes.findSome? sinkError?)) ∧
    said = deliveries message start outcomes

theorem spread_nil (message : RoutedMessage) (first? : Option BusError) (start : Nat) :
    Spread message first? 0 start (published first?) [] :=
  ⟨[], rfl, by rw [List.findSome?_nil, Option.or_none], rfl⟩

/-- The first error stays the first, whatever the sinks behind it answer. -/
theorem Spread.cons {message : RoutedMessage} {first? : Option BusError} {sinks start : Nat}
    {outcome : Except BusError Unit} {answer : Except GatewayError Unit} {said : List Exchange}
    (spread : Spread message (first?.or (sinkError? outcome)) sinks (start + 1) answer said) :
    Spread message first? (sinks + 1) start answer (.deliver start message outcome :: said) := by
  obtain ⟨outcomes, length, same, heard⟩ := spread
  refine ⟨outcome :: outcomes, congrArg (· + 1) length, ?_, by rw [heard]; rfl⟩
  rw [same, List.findSome?_cons, Option.or_assoc]
  cases sinkError? outcome with
  | none => rfl
  | some error => rfl

/-- Every sink is handed the message once and in order, whatever the sinks before it answer. -/
theorem tells_fanOut (message : RoutedMessage) (sinks : List (MessageSink σ)) (start : Nat)
    (first? : Option BusError) :
    Tells (fanOut message first? sinks)
      (fanOut message first? ((sinks.zipIdx start).map overheardSink))
      (Spread message first? sinks.length start) := by
  induction sinks generalizing start first? with
  | nil =>
    have ended : ∀ answer said, answer = published first? ∧ said = [] →
        Spread message first? 0 start answer said := by
      intro answer said told
      rw [told.1, told.2]
      exact spread_nil message first? start
    cases first? with
    | none => exact (tells_pure ()).weaken ended
    | some error => exact (tells_throw _).weaken ended
  | cons sink sinks ih =>
    rw [List.zipIdx_cons, List.map_cons]
    have asked : ∀ answer said, (∃ outcome rest, said = .deliver start message outcome :: rest ∧
        Spread message (first?.or (sinkError? outcome)) sinks.length (start + 1) answer rest) →
        Spread message first? (sinks.length + 1) start answer said := by
      intro answer said told
      obtain ⟨outcome, rest, rfl, spread⟩ := told
      exact spread.cons
    cases first? with
    | none =>
      apply Tells.weaken (tells_ask _ _) asked
      intro outcome
      cases outcome with
      | ok accepted => exact ih (start + 1) none
      | error error => exact ih (start + 1) (some error)
    | some first =>
      apply Tells.weaken (tells_ask _ _) asked
      intro outcome
      cases outcome with
      | ok accepted => exact ih (start + 1) (some first)
      | error error => exact (ih (start + 1) (some first)).after_note _ _ _

/-- A party of the gateway answers so, wherever it is asked. -/
def Genuine (gateway : Gateway σ) : Exchange → Prop
  | .identify credential answer =>
    ∃ span before, (gateway.policy.identify credential span before).1 = answer
  | .authorize request answer =>
    ∃ span before, (gateway.policy.authorize request span before).1 = answer
  | .deliver number message answer =>
    ∃ sink span before, gateway.sinks[number]? = some sink ∧ (sink message span before).1 = answer
  | .announce event answer => ∃ span before, (gateway.events event span before).1 = answer

theorem tells_genuine {gateway : Gateway σ} {α : Type} (entry : α → Exchange) (body : Run σ α)
    (genuine : ∀ span before, gateway.Genuine (entry (body span before).1)) :
    Tells (liftM body : HookPart σ α) (liftM (Run.recorded entry body))
      (fun _ said => ∀ exchange ∈ said, gateway.Genuine exchange) := by
  intro span state trace
  refine ⟨_, fun _ => rfl, ?_⟩
  intro exchange member
  rw [List.mem_singleton.mp member]
  exact genuine span (state, trace)

/-- A hook and its overheard form, which only says what its parties answer. -/
def overhearing (gateway : Gateway σ) : Bond σ (σ × List Exchange) where
  Joins quiet loud := Tells quiet loud fun _ said => ∀ exchange ∈ said, gateway.Genuine exchange
  answer outcome := by
    apply (tells_lift outcome).weaken
    intro answer said told
    rw [told.2]
    exact List.forall_mem_nil _
  note level message fields := by
    apply (tells_note level message fields).weaken
    intro answer said told
    rw [told.2]
    exact List.forall_mem_nil _
  bind begins follows := by
    apply (Tells.bind begins _ follows).weaken
    intro answer said told
    rcases told with ⟨error, _, genuine⟩ | ⟨value, before, after, first, second, whole⟩
    · exact genuine
    · rw [whole, List.forall_mem_append]
      exact ⟨first, second⟩

theorem overhearing_parties (gateway : Gateway σ) :
    gateway.overhearing.Parties gateway gateway.overheard where
  instanceId := rfl
  identify credential := tells_genuine _ _ fun span before => ⟨span, before, rfl⟩
  authorize request := tells_genuine _ _ fun span before => ⟨span, before, rfl⟩
  events event := tells_genuine _ _ fun span before => ⟨span, before, rfl⟩
  sinks := by
    rw [List.forall₂_iff_get]
    refine ⟨by simp [overheard], ?_⟩
    intro number inside inside' message
    have same : gateway.overheard.sinks.get ⟨number, inside'⟩ =
        overheardSink (gateway.sinks.get ⟨number, inside⟩, number) := by
      simp [overheard]
    rw [same]
    apply tells_genuine
    intro span before
    exact ⟨_, span, before, List.getElem?_eq_getElem inside, rfl⟩

theorem tells_steps (gateway : Gateway σ) (created : Int64) (hook : Hook) :
    Tells (gateway.steps created hook) (gateway.overheard.steps created hook)
      (fun _ said => ∀ exchange ∈ said, gateway.Genuine exchange) :=
  gateway.overhearing_parties.joins_steps created hook

/-- What is overheard was answered by a party. -/
theorem genuine_of_mem_exchanges {gateway : Gateway σ} {created : Int64} {hook : Hook}
    {moment : Moment σ} {exchange : Exchange}
    (said : exchange ∈ gateway.exchanges created hook moment) : gateway.Genuine exchange :=
  ((tells_steps gateway created hook).perform created hook moment).2 exchange said

/-- Recording changes nothing: the overheard hook answers like the hook, leaves the same state and
trace, and only adds the hook's exchanges to the record. -/
theorem overheard_perform (gateway : Gateway σ) (created : Int64) (hook : Hook)
    (moment : Moment σ) (record : List Exchange) :
    gateway.overheard.perform created hook moment.span ((moment.state, record), moment.trace) =
      ((gateway.perform created hook moment.span (moment.state, moment.trace)).1,
        ((gateway.perform created hook moment.span (moment.state, moment.trace)).2.1,
          record ++ gateway.exchanges created hook moment),
        (gateway.perform created hook moment.span (moment.state, moment.trace)).2.2) :=
  ((tells_steps gateway created hook).perform created hook moment).1 record

end ChannelGate.Gateway
