import ChannelGate.Gateway.Basic
import ChannelGate.Proofs.Runs

set_option autoImplicit false

namespace ChannelGate

/-- Something said to a party, with its answer. Sinks are numbered in order. -/
inductive Exchange where
  | identify (credential : Credential) (answer : Except PolicyError String)
  | authorize (request : Request) (answer : Except PolicyError Bool)
  | deliver (sink : Nat) (message : RoutedMessage) (answer : Except BusError Unit)
  | announce (event : Event) (answer : Except EventError Unit)

/-- Where and when something starts: the span around it, and the state and trace so far. -/
structure Moment (σ : Type) where
  span : Option SpanRef
  state : σ
  trace : Trace

namespace Gateway

variable {σ α β : Type}

def overheardSink (sink : MessageSink σ × Nat) : MessageSink (σ × List Exchange) := fun message =>
  Run.recorded (.deliver sink.2 message) (sink.1 message)

/-- The gateway among parties whose exchanges are recorded. -/
def overheard (gateway : Gateway σ) : Gateway (σ × List Exchange) where
  instanceId := gateway.instanceId
  policy.identify credential :=
    Run.recorded (.identify credential) (gateway.policy.identify credential)
  policy.authorize request :=
    Run.recorded (.authorize request) (gateway.policy.authorize request)
  sinks := gateway.sinks.zipIdx.map overheardSink
  events event := Run.recorded (.announce event) (gateway.events event)

def answer (gateway : Gateway σ) (created : Int64) (hook : Hook) (moment : Moment σ) :
    Except GatewayError Unit :=
  (gateway.perform created hook moment.span (moment.state, moment.trace)).1

def exchanges (gateway : Gateway σ) (created : Int64) (hook : Hook) (moment : Moment σ) :
    List Exchange :=
  (gateway.overheard.perform created hook moment.span ((moment.state, []), moment.trace)).2.1.2

/-- Wherever they start, `loud` does what `quiet` does, and its answer and what it adds to the
record satisfy `spec`. -/
def Tells (quiet : HookPart σ α) (loud : HookPart (σ × List Exchange) α)
    (spec : Except GatewayError α → List Exchange → Prop) : Prop :=
  ∀ span state trace, ∃ said,
    (∀ record, loud.run span ((state, record), trace) =
      ((quiet.run span (state, trace)).1,
        ((quiet.run span (state, trace)).2.1, record ++ said),
        (quiet.run span (state, trace)).2.2)) ∧
    spec (quiet.run span (state, trace)).1 said

theorem Tells.weaken {quiet : HookPart σ α} {loud : HookPart (σ × List Exchange) α}
    {spec weaker : Except GatewayError α → List Exchange → Prop} (tells : Tells quiet loud spec)
    (implies : ∀ answer said, spec answer said → weaker answer said) : Tells quiet loud weaker := by
  intro span state trace
  obtain ⟨said, run, holds⟩ := tells span state trace
  exact ⟨said, run, implies _ said holds⟩

/-- A part that answers at once says nothing. -/
theorem tells_of_answer {quiet : HookPart σ α} {loud : HookPart (σ × List Exchange) α}
    (answer : Except GatewayError α)
    (plain : ∀ span before, quiet.run span before = (answer, before))
    (same : ∀ span before, loud.run span before = (answer, before)) :
    Tells quiet loud (fun result said => result = answer ∧ said = []) := by
  intro span state trace
  refine ⟨[], ?_, ?_, rfl⟩
  · intro record
    rw [plain, same, List.append_nil]
  · rw [plain]

theorem tells_pure (value : α) :
    Tells (σ := σ) (pure value) (pure value) (fun answer said => answer = .ok value ∧ said = []) :=
  tells_of_answer (.ok value) (fun _ _ => rfl) (fun _ _ => rfl)

theorem tells_throw (error : GatewayError) :
    Tells (σ := σ) (α := α) (throw error) (throw error)
      (fun answer said => answer = .error error ∧ said = []) :=
  tells_of_answer (.error error) (fun _ _ => rfl) (fun _ _ => rfl)

theorem tells_lift (answer : Except GatewayError α) :
    Tells (σ := σ) (liftM answer) (liftM answer) (fun result said => result = answer ∧ said = []) :=
  tells_of_answer answer (fun _ _ => rfl) (fun _ _ => rfl)

theorem tells_note (level : Level) (message : String) (fields : Data) :
    Tells (σ := σ) (note level message fields) (note level message fields)
      (fun answer said => answer = .ok () ∧ said = []) := by
  intro span state trace
  refine ⟨[], ?_, rfl, rfl⟩
  intro record
  rw [List.append_nil]
  rfl

/-- Asking a party is one exchange. -/
theorem tells_recorded (entry : α → Exchange) (body : Run σ α) :
    Tells (liftM body : HookPart σ α) (liftM (Run.recorded entry body))
      (fun result said => ∃ answer, result = .ok answer ∧ said = [entry answer]) := by
  intro span state trace
  exact ⟨_, fun _ => rfl, _, rfl, rfl⟩

theorem run_bind (part : HookPart σ α) (rest : α → HookPart σ β) (span : Option SpanRef)
    (before : σ × Trace) :
    (part >>= rest).run span before =
      match part.run span before with
      | (.ok value, after) => (rest value).run span after
      | (.error error, after) => (.error error, after) := by
  have first : (part >>= rest).run span before =
      ExceptT.bindCont rest (part.run span before).1 span (part.run span before).2 := rfl
  rw [first]
  rcases part.run span before with ⟨error | value, after⟩
  · rfl
  · rfl

/-- One part after another: an error of the first ends both, else the exchanges of the second
follow those of the first. -/
theorem Tells.bind {first : HookPart σ α} {first' : HookPart (σ × List Exchange) α}
    {next : α → HookPart σ β} {next' : α → HookPart (σ × List Exchange) β}
    {spec : Except GatewayError α → List Exchange → Prop} (begins : Tells first first' spec)
    (nextSpec : α → Except GatewayError β → List Exchange → Prop)
    (follows : ∀ value, Tells (next value) (next' value) (nextSpec value)) :
    Tells (first >>= next) (first' >>= next') (fun answer said =>
      (∃ error, answer = .error error ∧ spec (.error error) said) ∨
        ∃ value before after, spec (.ok value) before ∧ nextSpec value answer after ∧
          said = before ++ after) := by
  intro span state trace
  obtain ⟨before, run, holds⟩ := begins span state trace
  rw [run_bind]
  cases result : first.run span (state, trace) with
  | mk ended left =>
    rw [result] at run holds
    cases ended with
    | error error =>
      refine ⟨before, ?_, .inl ⟨error, rfl, holds⟩⟩
      intro record
      rw [run_bind, run]
    | ok value =>
      obtain ⟨after, run', holds'⟩ := follows value span left.1 left.2
      refine ⟨before ++ after, ?_, .inr ⟨value, before, after, holds, holds', rfl⟩⟩
      intro record
      rw [run_bind, run, ← List.append_assoc]
      exact run' (record ++ before)

/-- A question comes first, and what follows may depend on the answer. -/
theorem tells_ask {entry : α → Exchange} {body : Run σ α} {next : α → HookPart σ β}
    {next' : α → HookPart (σ × List Exchange) β}
    (nextSpec : α → Except GatewayError β → List Exchange → Prop)
    (follows : ∀ answer, Tells (next answer) (next' answer) (nextSpec answer)) :
    Tells ((liftM body : HookPart σ α) >>= next) (liftM (Run.recorded entry body) >>= next')
      (fun result said => ∃ answer rest, said = entry answer :: rest ∧
        nextSpec answer result rest) := by
  apply ((tells_recorded entry body).bind nextSpec follows).weaken
  intro result said told
  rcases told with ⟨error, _, answer, same, _⟩ | ⟨value, before, after, asked, holds, whole⟩
  · cases same
  · obtain ⟨answer, same, first⟩ := asked
    cases same
    rw [first] at whole
    exact ⟨value, after, whole, holds⟩

/-- A question is all that is said when its answer settles the rest. -/
theorem tells_once {entry : α → Exchange} {body : Run σ α} {next : α → HookPart σ β}
    {next' : α → HookPart (σ × List Exchange) β} (outcome : α → Except GatewayError β)
    (settles : ∀ answer, Tells (next answer) (next' answer)
      (fun result said => result = outcome answer ∧ said = [])) :
    Tells ((liftM body : HookPart σ α) >>= next) (liftM (Run.recorded entry body) >>= next')
      (fun result said => ∃ answer, result = outcome answer ∧ said = [entry answer]) := by
  apply (tells_ask _ settles).weaken
  intro result said told
  obtain ⟨answer, rest, whole, same, silent⟩ := told
  rw [silent] at whole
  exact ⟨answer, same, whole⟩

/-- A line in front changes nothing that is said. -/
theorem Tells.after_note {next : HookPart σ α} {next' : HookPart (σ × List Exchange) α}
    {spec : Except GatewayError α → List Exchange → Prop} (tells : Tells next next' spec)
    (level : Level) (message : String) (fields : Data) :
    Tells (note level message fields >>= fun _ => next)
      (note level message fields >>= fun _ => next') spec := by
  apply ((tells_note level message fields).bind (fun _ => spec) fun _ => tells).weaken
  intro answer said told
  rcases told with ⟨error, _, same, _⟩ | ⟨_, before, after, ⟨_, silent⟩, holds, whole⟩
  · cases same
  · rw [whole, silent]
    exact holds

/-- What an answer known beforehand leads to. -/
theorem Tells.after_lift {next : α → HookPart σ β} {next' : α → HookPart (σ × List Exchange) β}
    {spec : Except GatewayError β → List Exchange → Prop} {value : α} {answer : Except GatewayError α}
    (known : answer = .ok value) (tells : Tells (next value) (next' value) spec) :
    Tells (liftM answer >>= next) (liftM answer >>= next') spec := by
  subst known
  exact tells

theorem tells_of_lift_error {next : α → HookPart σ β}
    {next' : α → HookPart (σ × List Exchange) β} {answer : Except GatewayError α}
    {error : GatewayError} (known : answer = .error error) :
    Tells (liftM answer >>= next) (liftM answer >>= next')
      (fun result said => result = .error error ∧ said = []) := by
  subst known
  exact tells_throw error

/-- The record of a hook is the same whatever was recorded before. -/
theorem Tells.perform {gateway : Gateway σ} (created : Int64) (hook : Hook)
    {spec : Except GatewayError Unit → List Exchange → Prop}
    (tells : Tells (gateway.steps created hook) (gateway.overheard.steps created hook) spec)
    (moment : Moment σ) :
    (∀ record, gateway.overheard.perform created hook moment.span
        ((moment.state, record), moment.trace) =
      ((gateway.perform created hook moment.span (moment.state, moment.trace)).1,
        ((gateway.perform created hook moment.span (moment.state, moment.trace)).2.1,
          record ++ gateway.exchanges created hook moment),
        (gateway.perform created hook moment.span (moment.state, moment.trace)).2.2)) ∧
    spec (gateway.answer created hook moment) (gateway.exchanges created hook moment) := by
  obtain ⟨said, run, holds⟩ := tells moment.span moment.state moment.trace
  have heard : gateway.exchanges created hook moment = said := by
    unfold exchanges Gateway.perform
    rw [run, List.nil_append]
  rw [heard]
  exact ⟨run, holds⟩

end Gateway

end ChannelGate
