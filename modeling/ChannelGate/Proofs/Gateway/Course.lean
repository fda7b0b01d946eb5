import ChannelGate.Proofs.Gateway.Effects

set_option autoImplicit false

namespace ChannelGate.Gateway

open Exchange

variable {σ τ : Type}

def performAll (gateway : Gateway σ) :
    List (Int64 × Hook) → Run σ (List (Except GatewayError Unit)) :=
  Run.inTurn fun call => gateway.perform call.1 call.2

/-- A hook of a run, with its answer and its exchanges. -/
structure Visit where
  created : Int64
  hook : Hook
  answer : Except GatewayError Unit
  said : List Exchange

def after (gateway : Gateway σ) (created : Int64) (hook : Hook) (moment : Moment σ) : Moment σ :=
  let (_, state, trace) := gateway.perform created hook moment.span (moment.state, moment.trace)
  ⟨moment.span, state, trace⟩

/-- The hooks of a run, with the answers and exchanges that they have in it. -/
def course (gateway : Gateway σ) : List (Int64 × Hook) → Moment σ → List Visit
  | [], _ => []
  | (created, hook) :: rest, moment =>
    ⟨created, hook, gateway.answer created hook moment, gateway.exchanges created hook moment⟩ ::
      gateway.course rest (gateway.after created hook moment)

/-- A run has the answers of its course, and overheard it is the same run beside a record, which is
that of its course. -/
theorem performAll_overheard (gateway : Gateway σ) (hooks : List (Int64 × Hook))
    (moment : Moment σ) (record : List Exchange) :
    let (answers, state, trace) :=
      gateway.performAll hooks moment.span (moment.state, moment.trace)
    answers = (gateway.course hooks moment).map Visit.answer ∧
      gateway.overheard.performAll hooks moment.span ((moment.state, record), moment.trace) =
        (answers, (state, record ++ (gateway.course hooks moment).flatMap Visit.said), trace) := by
  induction hooks generalizing moment record with
  | nil => exact ⟨rfl, by rw [course, List.flatMap_nil, List.append_nil]; rfl⟩
  | cons call rest ih =>
    obtain ⟨created, hook⟩ := call
    have unfold_cons : ∀ {ρ : Type} (which : Gateway ρ) (before : ρ × Trace),
        which.performAll ((created, hook) :: rest) moment.span before =
        let (answer, after) := which.perform created hook moment.span before
        let (answers, last) := which.performAll rest moment.span after
        (answer :: answers, last) := fun _ _ => rfl
    obtain ⟨answers, whole⟩ := ih (gateway.after created hook moment)
      (record ++ gateway.exchanges created hook moment)
    rw [unfold_cons, unfold_cons, overheard_perform]
    refine ⟨congrArg (_ :: ·) answers, ?_⟩
    rw [course, List.flatMap_cons, ← List.append_assoc]
    exact congrArg (fun (result : List (Except GatewayError Unit) × (σ × List Exchange) × Trace) =>
      (gateway.answer created hook moment :: result.1, result.2)) whole

theorem course_calls (gateway : Gateway σ) (hooks : List (Int64 × Hook)) (moment : Moment σ) :
    (gateway.course hooks moment).map (fun visit => (visit.created, visit.hook)) = hooks := by
  induction hooks generalizing moment with
  | nil => rfl
  | cons call rest ih =>
    rw [course, List.map_cons, ih]

/-- What holds of every hook that keeps to its conduct holds of every visit of a run. -/
theorem forall_mem_course {gateway : Gateway σ} {hooks : List (Int64 × Hook)} {moment : Moment σ}
    {holds : Visit → Prop}
    (each : ∀ visit : Visit, Conduct gateway visit.created visit.hook visit.answer visit.said →
      holds visit) : ∀ visit ∈ gateway.course hooks moment, holds visit := by
  induction hooks generalizing moment with
  | nil => exact List.forall_mem_nil _
  | cons call rest ih =>
    rw [course, List.forall_mem_cons]
    exact ⟨each _ (conduct gateway call.1 call.2 moment), ih⟩

theorem filterMap_said {β : Type} {visits : List Visit} {select : Exchange → Option β}
    {expected : Visit → List β}
    (each : ∀ visit ∈ visits, visit.said.filterMap select = expected visit) :
    (visits.flatMap Visit.said).filterMap select = visits.flatMap expected := by
  induction visits with
  | nil => rfl
  | cons visit visits ih =>
    rw [List.forall_mem_cons] at each
    rw [List.flatMap_cons, List.flatMap_cons, List.filterMap_append, each.1, ih each.2]

/-- Runs with the same hooks have the same answers if the policy and the sinks say the same. -/
theorem course_answers_eq {gateway : Gateway σ} {other : Gateway τ}
    {hooks : List (Int64 × Hook)} {moment : Moment σ} {moment' : Moment τ}
    (same : (gateway.course hooks moment).map (fun visit => besidesEvents visit.said) =
      (other.course hooks moment').map (fun visit => besidesEvents visit.said)) :
    (gateway.course hooks moment).map Visit.answer =
      (other.course hooks moment').map Visit.answer := by
  induction hooks generalizing moment moment' with
  | nil => rfl
  | cons call rest ih =>
    obtain ⟨first, later⟩ := List.cons.inj same
    rw [course, course, List.map_cons, List.map_cons, ih later,
      agree_conduct gateway other call.1 call.2 _ _ _ _
        (conduct gateway call.1 call.2 moment) (conduct other call.1 call.2 moment') first]

/-- The effects of a run of hooks. What is recorded in the run is what its hooks say, in their
order. The events are one connect for each check of a connect that passes and one disconnect for
each disconnect with a session. The messages are those of the publishes with a session and a topic
that parses, each for every sink in order. Only checks ask the policy. And the answers are those of
any other run of these hooks, under whatever publisher of events, in which the policy and the sinks
say the same. -/
theorem effects_of_run (gateway : Gateway σ) (hooks : List (Int64 × Hook)) (start : Moment σ) :
    let visits := gateway.course hooks start
    let record := visits.flatMap Visit.said
    visits.map (fun visit => (visit.created, visit.hook)) = hooks ∧
    (let (answers, state, trace) := gateway.performAll hooks start.span (start.state, start.trace)
     answers = visits.map Visit.answer ∧
      gateway.overheard.performAll hooks start.span ((start.state, []), start.trace) =
        (answers, (state, record), trace)) ∧
    record.filterMap event? = (visits.filterMap fun visit =>
      visit.hook.lifecycle? gateway.instanceId visit.answer).map Lifecycle.toEvent ∧
    record.filterMap delivery? =
      (visits.filterMap fun visit => visit.hook.message? visit.created).flatMap (fun message =>
        (List.range gateway.sinks.length).map fun sink => (sink, message)) ∧
    (∀ visit ∈ visits, ¬ visit.hook.IsCheck →
      ∀ exchange ∈ visit.said, ¬ exchange.IsQuestion) ∧
    (∀ {τ : Type} (other : Gateway τ) (otherStart : Moment τ),
      visits.map (fun visit => besidesEvents visit.said) =
        (other.course hooks otherStart).map (fun visit => besidesEvents visit.said) →
      visits.map Visit.answer = (other.course hooks otherStart).map Visit.answer) ∧
    (∀ (events : EventSink σ) (created : Int64) (hook : Hook) (moment : Moment σ),
      { gateway with events := events }.answer created hook moment =
        gateway.answer created hook moment) := by
  intro visits record
  refine ⟨course_calls gateway hooks start, performAll_overheard gateway hooks start [], ?_, ?_, ?_,
    ?_, ?_⟩
  · rw [filterMap_said (forall_mem_course fun visit => conduct_events), List.map_filterMap,
      List.filterMap_eq_flatMap_toList]
  · rw [filterMap_said (forall_mem_course fun visit => conduct_deliveries),
      List.filterMap_eq_flatMap_toList, List.flatMap_assoc]
  · exact forall_mem_course fun visit behaves other =>
      conduct_unasked gateway visit.created other visit.answer visit.said behaves
  · intro τ other otherStart same
    exact course_answers_eq same
  · exact answer_with_events gateway

end ChannelGate.Gateway
