import ChannelGate.Proofs.Bus.Delivery

set_option autoImplicit false

namespace ChannelGate

variable {σ η : Type}

/-- The call is to leave a handler, or none, under an id and a topic. -/
inductive Call.Places : Call η → String → String → Option η → Prop where
  | subscribe (id topic : String) (handler : η) :
    Places (.subscribe id topic handler) id topic (some handler)
  | unsubscribe (id topic : String) : Places (.unsubscribe id topic) id topic none

theorem Call.Places.ne_close {call : Call η} {id topic : String} {placed? : Option η}
    (places : call.Places id topic placed?) : call ≠ .close := by
  cases places with
  | subscribe => exact nofun
  | unsubscribe => exact nofun

namespace Bus

/-- How a call failed that was to leave a handler, or none, under an id and a topic: it was refused
and did nothing, or the handler that was there was cancelled and failed, and the registry is as the
call was to leave it. -/
inductive Failure (before after : (Bus η × σ × List (Contact η)) × Trace) (call : Call η)
    (id topic : String) (placed? : Option η) (error : BusError) : Prop where
  | refused (known : before.1.1.refusal? call = some error) (idle : after = before)
  | stuck (held : η) (allowed : before.1.1.refusal? call = none)
    (present : before.1.1.handler? id topic = some held)
    (cancelled : after.1.2.2 = before.1.2.2 ++ [.cancel held (.error error)])
    (changed : ∀ id' topic', after.1.1.handler? id' topic' =
      if id' = id ∧ topic' = topic then placed? else before.1.1.handler? id' topic')

theorem open_of_allowed {bus : Bus η} {call : Call η} (other : call ≠ .close)
    (allowed : bus.refusal? call = none) : ¬ bus.closed = true := by
  intro closed
  rw [refusal?_of_closed closed other] at allowed
  cases allowed

theorem named_of_allowed {bus : Bus η} {id topic : String} {handler : η}
    (allowed : bus.refusal? (.subscribe id topic handler) = none) : ¬ (id = "" ∨ topic = "") := by
  intro blank
  rw [refusal?_of_blank bus blank] at allowed
  cases allowed

section Change

variable {call : Call η} {id topic : String} {placed? : Option η}

/-- A call that is not refused makes its change, and cancels the handler that was there. -/
theorem call_of_allowed (handling : Handling σ η) (places : call.Places id topic placed?)
    (span : Option SpanRef) {before : (Bus η × σ) × Trace}
    (allowed : before.1.1.refusal? call = none) :
    (pubSub handling).call call span before =
      (match before.1.1.handler? id topic with
        | some held => elsewhere (handling.cancel held)
        | none => return .ok ()) span ((before.1.1.next call, before.1.2), before.2) := by
  obtain ⟨⟨bus, state⟩, trace⟩ := before
  have opened : ∀ {α : Type} (next : Bus η → Run (Bus η × σ) α),
      (current >>= next) span ((bus, state), trace) = next bus span ((bus, state), trace) :=
    fun _ => rfl
  have unclosed : ¬ bus.closed = true := open_of_allowed places.ne_close allowed
  cases places with
  | subscribe id topic handler =>
    have named : ¬ (id = "" ∨ topic = "") := named_of_allowed allowed
    change subscribe handling id topic handler span ((bus, state), trace) = _
    rw [subscribe, opened]
    simp only [next, unclosed, Bool.false_eq_true, named, or_self, ↓reduceIte]
    cases bus.handler? id topic with
    | none => rfl
    | some held => rfl
  | unsubscribe id topic =>
    change unsubscribe handling id topic span ((bus, state), trace) = _
    rw [unsubscribe, opened]
    simp only [next, unclosed, Bool.false_eq_true, ↓reduceIte]
    cases present : bus.handler? id topic with
    | none =>
      rw [refusal?_of_absent present] at allowed
      cases allowed
    | some held => rfl

theorem handler?_next {bus : Bus η} (places : call.Places id topic placed?)
    (allowed : bus.refusal? call = none) (id' topic' : String) :
    (bus.next call).handler? id' topic' =
      if id' = id ∧ topic' = topic then placed? else bus.handler? id' topic' := by
  have unclosed : ¬ bus.closed = true := open_of_allowed places.ne_close allowed
  cases places with
  | subscribe id topic handler =>
    have made : bus.next (.subscribe id topic handler) = bus.insert id topic handler :=
      if_neg (not_or.mpr ⟨unclosed, named_of_allowed allowed⟩)
    rw [made]
    exact handler?_insert bus id topic handler id' topic'
  | unsubscribe id topic =>
    have made : bus.next (.unsubscribe id topic) = bus.erase id topic := if_neg unclosed
    rw [made]
    exact handler?_erase bus id topic id' topic'

/-- A call that fails is refused, or the handler that was there fails to be cancelled. -/
theorem failure_of_error (handling : Handling σ η) (places : call.Places id topic placed?)
    (span : Option SpanRef) {before : (Bus η × σ × List (Contact η)) × Trace}
    (tidy : before.1.1.Tidy) {error : BusError}
    (failed : ((pubSub handling.overheard).call call span before).1 = .error error) :
    Failure before ((pubSub handling.overheard).call call span before).2 call id topic placed?
      error := by
  cases known : before.1.1.refusal? call with
  | some reason =>
    have refused : (pubSub handling.overheard).call call span before = (.error reason, before) :=
      call_refused handling.overheard tidy known
    rw [refused] at failed ⊢
    have same : reason = error := Except.error.inj failed
    exact .refused (known.trans (congrArg some same)) rfl
  | none =>
    have runs := call_of_allowed handling.overheard places span known
    cases present : before.1.1.handler? id topic with
    | none =>
      rw [present] at runs
      rw [runs] at failed
      cases failed
    | some held =>
      rw [present] at runs
      rw [runs] at failed ⊢
      refine .stuck held known present ?_ (handler?_next places known)
      rw [← failed]
      rfl

/-- Registries hold the same subscriptions if they have the same handlers. -/
theorem mem_subscriptions_iff_handler?_eq {bus bus' : Bus η} (tidy : bus.Tidy)
    (tidy' : bus'.Tidy) :
    (∀ subscription, subscription ∈ bus'.subscriptions ↔ subscription ∈ bus.subscriptions) ↔
      ∀ id topic, bus'.handler? id topic = bus.handler? id topic := by
  constructor
  · intro same id topic
    apply Option.ext
    intro handler
    rw [← tidy.mem_subscriptions, ← tidy'.mem_subscriptions]
    exact same ⟨topic, id, handler⟩
  · intro same subscription
    obtain ⟨topic, id, handler⟩ := subscription
    rw [tidy.mem_subscriptions, tidy'.mem_subscriptions, same]

/-- After a failed call the registry is as before if the call was refused, or was to leave what was
there. -/
theorem Failure.unchanged_iff {before after : (Bus η × σ × List (Contact η)) × Trace}
    {error : BusError} (failure : Failure before after call id topic placed? error) :
    (∀ id' topic', after.1.1.handler? id' topic' = before.1.1.handler? id' topic') ↔
      before.1.1.refusal? call = some error ∨ placed? = before.1.1.handler? id topic := by
  cases failure with
  | refused known idle =>
    subst idle
    exact ⟨fun _ => .inl known, fun _ _ _ => rfl⟩
  | stuck held allowed present cancelled changed =>
    rw [allowed]
    simp only [changed, reduceCtorEq, false_or]
    constructor
    · intro same
      exact (if_pos ⟨rfl, rfl⟩).symm.trans (same id topic)
    · intro same id' topic'
      split
      · next here => rw [here.1, here.2, same]
      · rfl

/-- A handler that a call was to register gets the messages that its topic takes in, whatever the
call answered. -/
theorem placed_is_reached (handling : Handling σ η) (calls : List (Call η)) (start : Moment σ)
    {handler : η} (places : call.Places id topic (some handler))
    (allowed : (overheardRun handling calls start).2.1.1.refusal? call = none)
    {message : RoutedMessage} (taken : TakesIn topic message.subject) :
    ∃ reached contacts, Delivers handling (calls ++ [call]) message start reached contacts ∧
      ⟨topic, id, handler⟩ ∈ reached := by
  have faithful := overheardRun_faithful handling calls start
  have faithful' := overheardRun_faithful handling (calls ++ [call]) start
  have opened : Call.close ∉ calls ++ [call] := by
    rw [List.mem_append, List.mem_singleton, not_or]
    exact ⟨faithful.opened (open_of_allowed places.ne_close allowed), places.ne_close.symm⟩
  have registry : (overheardRun handling (calls ++ [call]) start).2.1.1 =
      (overheardRun handling calls start).2.1.1.next call := by
    rw [overheardRun_append_singleton]
    exact (call_leads handling.recording call start.span _).1
  have present : (overheardRun handling (calls ++ [call]) start).2.1.1.handler? id topic =
      some handler := by
    rw [registry, handler?_next places allowed]
    exact if_pos ⟨rfl, rfl⟩
  obtain ⟨reached, contacts, delivers⟩ := exists_delivers handling opened message start
  refine ⟨reached, contacts, delivers, (delivers.members _).mpr ⟨?_, taken⟩⟩
  rw [← faithful'.mem_subscriptions, faithful'.tidy.mem_subscriptions]
  exact present

end Change

/-- What a failed subscribe or unsubscribe leaves, after any calls of a new bus and whatever
handlers answer. Either the call was refused and did nothing, or the handler that was there was
cancelled, once, and its error is the answer; then the change is made all the same. So the
subscriptions are as before if the call was refused, or was to leave what was there, and only then;
and a handler that a failed subscribe put in gets the messages that its topic takes in. -/
theorem failed_change_is_refused_or_made (handling : Handling σ η) (calls : List (Call η))
    (start : Moment σ) {call : Call η} {id topic : String} {placed? : Option η}
    (places : call.Places id topic placed?) {error : BusError}
    (failed : (overheardRun handling (calls ++ [call]) start).1 =
      (overheardRun handling calls start).1 ++ [.error error]) :
    let past := overheardRun handling calls start
    let done := overheardRun handling (calls ++ [call]) start
    let bus := past.2.1.1
    Run.inTurn (pubSub handling).call (calls ++ [call]) start.span
        ((Bus.empty, start.state), start.trace) =
      (done.1, (done.2.1.1, done.2.1.2.1), done.2.2) ∧
    Failure past.2 done.2 call id topic placed? error ∧
    ((∀ subscription, subscription ∈ done.2.1.1.subscriptions ↔
        subscription ∈ bus.subscriptions) ↔
      bus.refusal? call = some error ∨ placed? = bus.handler? id topic) ∧
    ∀ handler, placed? = some handler → bus.refusal? call = none →
      ∀ message, TakesIn topic message.subject →
        ∃ reached contacts, Delivers handling (calls ++ [call]) message start reached contacts ∧
          ⟨topic, id, handler⟩ ∈ reached := by
  intro past done bus
  have tidy : bus.Tidy := (overheardRun_faithful handling calls start).tidy
  have tidy' : done.2.1.1.Tidy := (overheardRun_faithful handling (calls ++ [call]) start).tidy
  have later : done = _ := overheardRun_append_singleton handling calls call start
  have failure : Failure past.2 done.2 call id topic placed? error := by
    rw [later]
    refine failure_of_error handling places start.span tidy ?_
    change done.1 = past.1 ++ [.error error] at failed
    rw [later] at failed
    exact List.singleton_inj.mp (List.append_cancel_left failed)
  refine ⟨run_overheard handling (calls ++ [call]) start.span start.state start.trace, failure,
    ?_, ?_⟩
  · rw [mem_subscriptions_iff_handler?_eq tidy tidy']
    exact failure.unchanged_iff
  · intro handler placed allowed message taken
    subst placed
    exact placed_is_reached handling calls start places allowed taken

def stuckCalls : List (Call Bool) := [.subscribe "lamp" "channels.roof" false]

theorem failed_change_is_refused_or_made_stuck :
    let start : Moment Unit := ⟨none, (), .empty⟩
    let call : Call Bool := .subscribe "lamp" "channels.roof" true
    let past := overheardRun faulty stuckCalls start
    let done := overheardRun faulty (stuckCalls ++ [call]) start
    call.Places "lamp" "channels.roof" (some true) ∧
      done.1 = past.1 ++ [.error (.handler "stuck")] ∧
      Failure past.2 done.2 call "lamp" "channels.roof" (some true) (.handler "stuck") ∧
      ¬ ∀ subscription, subscription ∈ done.2.1.1.subscriptions ↔
        subscription ∈ past.2.1.1.subscriptions := by
  intro start call past done
  have places : call.Places "lamp" "channels.roof" (some true) := .subscribe _ _ _
  have failed : done.1 = past.1 ++ [.error (.handler "stuck")] := by decide +kernel
  obtain ⟨_, failure, unchanged, _⟩ :=
    failed_change_is_refused_or_made faulty stuckCalls start places failed
  refine ⟨places, failed, failure, ?_⟩
  rw [unchanged]
  decide +kernel

/-- A stuck handler is gone from the registry though its subscribe or unsubscribe fails: the other
handler gets what is published next, or nobody. -/
theorem stuck_handler_is_gone :
    let start : Moment Unit := ⟨none, (), .empty⟩
    let message := RoutedMessage.new "roof" "" "probe" [21] 5
    let replaced := stuckCalls ++ [.subscribe "lamp" "channels.roof" true]
    let removed := stuckCalls ++ [.unsubscribe "lamp" "channels.roof"]
    (overheardRun faulty stuckCalls start).2.1.1.subscriptions =
      [⟨"channels.roof", "lamp", false⟩] ∧
    (overheardRun faulty replaced start).1 = [.ok (), .error (.handler "stuck")] ∧
    (overheardRun faulty replaced start).2.1.1.subscriptions =
      [⟨"channels.roof", "lamp", true⟩] ∧
    (overheardRun faulty (replaced ++ [.publish message]) start).2.1.2.2.map Contact.about =
      [(false, none), (true, some message)] ∧
    (overheardRun faulty removed start).1 = [.ok (), .error (.handler "stuck")] ∧
    (overheardRun faulty removed start).2.1.1.subscriptions = [] := by
  decide +kernel

end Bus

end ChannelGate
