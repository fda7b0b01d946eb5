import ChannelGate.Proofs.Bus.Topics
import ChannelGate.Proofs.Runs

set_option autoImplicit false

namespace ChannelGate

inductive Call (η : Type) where
  | subscribe (id topic : String) (handler : η)
  | unsubscribe (id topic : String)
  | publish (message : RoutedMessage)
  | close

def PubSub.call {σ η : Type} (bus : PubSub σ η) : Call η → Run σ (Except BusError Unit)
  | .subscribe id topic handler => bus.subscribe id topic handler
  | .unsubscribe id topic => bus.unsubscribe id topic
  | .publish message => bus.publish message
  | .close => bus.close

/-- A handler was spoken to, and answered. -/
inductive Contact (η : Type) where
  | handle (handler : η) (message : RoutedMessage) (answer : Except BusError Unit)
  | cancel (handler : η) (answer : Except BusError Unit)

namespace Contact

variable {η : Type}

/-- Who was spoken to, and about which message; there is none when a handler is cancelled. -/
def about : Contact η → η × Option RoutedMessage
  | .handle handler message _ => (handler, some message)
  | .cancel handler _ => (handler, none)

def cancelled? : Contact η → Option η
  | .handle _ _ _ => none
  | .cancel handler _ => some handler

end Contact

/-- The handler that is spoken to about no message. -/
def dismissed? {η : Type} : η × Option RoutedMessage → Option η
  | (_, some _) => none
  | (handler, none) => some handler

theorem Contact.cancelled?_eq {η : Type} (contact : Contact η) :
    contact.cancelled? = dismissed? contact.about := by
  cases contact with
  | handle handler message answer => rfl
  | cancel handler answer => rfl

namespace Handling

variable {σ η : Type}

/-- What contacts with handlers do, in whatever span: a relation of states and traces before and
after them, which lines written in between do not break. -/
structure Habit (handling : Handling σ η) where
  Does : List (η × Option RoutedMessage) → σ × Trace → σ × Trace → Prop
  nothing : ∀ before, Does [] before before
  append : ∀ {about about' : List (η × Option RoutedMessage)} {before middle after : σ × Trace},
    Does about before middle → Does about' middle after → Does (about ++ about') before after
  line : ∀ level text fields span before, Does [] before (Run.log level text fields span before).2
  handle : ∀ handler message span before,
    Does [(handler, some message)] before (handling.handle handler message span before).2
  cancel : ∀ handler span before,
    Does [(handler, none)] before (handling.cancel handler span before).2

def overheard (handling : Handling σ η) : Handling (σ × List (Contact η)) η where
  handle handler message :=
    Run.recorded (.handle handler message) (handling.handle handler message)
  cancel handler := Run.recorded (.cancel handler) (handling.cancel handler)

/-- The record of overheard handlers grows by the contacts. -/
def recording (handling : Handling σ η) : handling.overheard.Habit where
  Does about before after := ∃ contacts, after.1.2 = before.1.2 ++ contacts ∧
    contacts.map Contact.about = about
  nothing before := ⟨[], (List.append_nil _).symm, rfl⟩
  append := by
    rintro about about' before middle after ⟨contacts, grown, spoken⟩ ⟨contacts', grown', spoken'⟩
    refine ⟨contacts ++ contacts', ?_, ?_⟩
    · rw [grown', grown, List.append_assoc]
    · rw [List.map_append, spoken, spoken']
  line _ _ _ _ _ := ⟨[], (List.append_nil _).symm, rfl⟩
  handle _ _ _ _ := ⟨[_], rfl, rfl⟩
  cancel _ _ _ := ⟨[_], rfl, rfl⟩

end Handling

namespace Bus

variable {σ η : Type}

/-- The error of a call that is refused. -/
def refusal? (bus : Bus η) : Call η → Option BusError
  | .subscribe id topic _ =>
    if bus.closed then some .closed
    else if id = "" ∨ topic = "" then
      some (.subscribe "subscriber id and topic must not be empty")
    else none
  | .unsubscribe id topic =>
    if bus.closed then some .closed
    else if bus.handler? id topic = none then some (.notSubscribed id topic)
    else none
  | .publish _ => if bus.closed then some .closed else none
  | .close => none

theorem refusal?_of_blank (bus : Bus η) {id topic : String} (blank : id = "" ∨ topic = "")
    (handler : η) : bus.refusal? (.subscribe id topic handler) =
      some (if bus.closed then .closed
        else .subscribe "subscriber id and topic must not be empty") := by
  simp only [refusal?, blank, ↓reduceIte]
  split
  · rfl
  · rfl

theorem refusal?_of_absent {bus : Bus η} {id topic : String}
    (absent : bus.handler? id topic = none) : bus.refusal? (.unsubscribe id topic) =
      some (if bus.closed then .closed else .notSubscribed id topic) := by
  simp only [refusal?, absent, ↓reduceIte]
  split
  · rfl
  · rfl

theorem refusal?_of_closed {bus : Bus η} (closed : bus.closed = true) {call : Call η}
    (other : call ≠ .close) : bus.refusal? call = some .closed := by
  cases call with
  | subscribe id topic handler => exact if_pos closed
  | unsubscribe id topic => exact if_pos closed
  | publish message => exact if_pos closed
  | close => exact absurd rfl other

def next (bus : Bus η) : Call η → Bus η
  | .subscribe id topic handler =>
    if bus.closed ∨ id = "" ∨ topic = "" then bus else bus.insert id topic handler
  | .unsubscribe id topic => if bus.closed then bus else bus.erase id topic
  | .publish _ => bus
  | .close => if bus.closed then bus else ⟨[], true⟩

/-- The handlers that a call speaks to, in order. -/
def contacted (bus : Bus η) : Call η → List (η × Option RoutedMessage)
  | .subscribe id topic _ =>
    if bus.closed ∨ id = "" ∨ topic = "" then []
    else (bus.handler? id topic).toList.map fun handler => (handler, none)
  | .unsubscribe id topic =>
    if bus.closed then []
    else (bus.handler? id topic).toList.map fun handler => (handler, none)
  | .publish message =>
    if bus.closed then []
    else (bus.receivers message.subject).map fun handler => (handler, some message)
  | .close =>
    if bus.closed then []
    else bus.subscriptions.map fun subscription => (subscription.handler, none)

/-- Only a publish hands on a message. -/
theorem contacted_dismissed {bus : Bus η} {call : Call η}
    (other : ∀ message, call ≠ .publish message) :
    ∀ spoken ∈ bus.contacted call, spoken.2 = none := by
  cases call with
  | publish message => exact absurd rfl (other message)
  | _ =>
    simp only [contacted]
    split
    · exact List.forall_mem_nil _
    · exact List.forall_mem_map.mpr fun _ _ => rfl

/-- From one moment to another the registry becomes `bus`, and otherwise is done what contacts with
certain handlers do. -/
def Leads {handling : Handling σ η} (habit : handling.Habit) (before : (Bus η × σ) × Trace)
    (bus : Bus η) (about : List (η × Option RoutedMessage)) (after : (Bus η × σ) × Trace) : Prop :=
  after.1.1 = bus ∧ habit.Does about (before.1.2, before.2) (after.1.2, after.2)

section Habit

variable {handling : Handling σ η} (habit : handling.Habit)

theorem leads_nothing (before : (Bus η × σ) × Trace) : Leads habit before before.1.1 [] before :=
  ⟨rfl, habit.nothing _⟩

variable {habit}

theorem Leads.trans {before middle after : (Bus η × σ) × Trace} {bus bus' : Bus η}
    {about about' : List (η × Option RoutedMessage)} (first : Leads habit before bus about middle)
    (second : Leads habit middle bus' about' after) :
    Leads habit before bus' (about ++ about') after :=
  ⟨second.1, habit.append first.2 second.2⟩

variable (habit)

theorem leads_line (level : Level) (text : String) (fields : Data) (span : Option SpanRef)
    (before : (Bus η × σ) × Trace) :
    Leads habit before before.1.1 [] (Run.log level text fields span before).2 :=
  ⟨rfl, habit.line level text fields span (before.1.2, before.2)⟩

theorem leads_handle (handler : η) (message : RoutedMessage) (span : Option SpanRef)
    (before : (Bus η × σ) × Trace) :
    Leads habit before before.1.1 [(handler, some message)]
      (elsewhere (handling.handle handler message) span before).2 :=
  ⟨rfl, habit.handle handler message span (before.1.2, before.2)⟩

theorem leads_cancel (handler : η) (span : Option SpanRef) (before : (Bus η × σ) × Trace) :
    Leads habit before before.1.1 [(handler, none)]
      (elsewhere (handling.cancel handler) span before).2 :=
  ⟨rfl, habit.cancel handler span (before.1.2, before.2)⟩

theorem leads_deliver (message : RoutedMessage) (handlers : List η) (span : Option SpanRef)
    (before : (Bus η × σ) × Trace) :
    Leads habit before before.1.1 (handlers.map fun handler => (handler, some message))
      (deliver handling message handlers span before).2 := by
  induction handlers generalizing before with
  | nil => exact leads_nothing habit before
  | cons handler rest ih =>
    have first := leads_handle habit handler message span before
    rw [deliver, Run.bind_apply]
    generalize elsewhere (handling.handle handler message) span before = outcome at first ⊢
    obtain ⟨answer, middle⟩ := outcome
    have same : middle.1.1 = before.1.1 := first.1
    rw [← same]
    cases answer with
    | ok accepted => exact first.trans (ih middle)
    | error error => exact first.trans ((leads_line habit _ _ _ span middle).trans (ih _))

theorem leads_cancelEach (handlers : List η) (span : Option SpanRef)
    (before : (Bus η × σ) × Trace) :
    Leads habit before before.1.1 (handlers.map fun handler => (handler, none))
      (cancelEach handling handlers span before).2 := by
  induction handlers generalizing before with
  | nil => exact leads_nothing habit before
  | cons handler rest ih =>
    have first := leads_cancel habit handler span before
    rw [cancelEach, Run.bind_apply]
    generalize elsewhere (handling.cancel handler) span before = outcome at first ⊢
    obtain ⟨answer, middle⟩ := outcome
    have same : middle.1.1 = before.1.1 := first.1
    rw [← same]
    cases answer with
    | ok accepted => exact first.trans (ih middle)
    | error error => exact first.trans ((leads_line habit _ _ _ span middle).trans (ih _))

/-- What a call leads to. -/
theorem call_leads (call : Call η) (span : Option SpanRef) (before : (Bus η × σ) × Trace) :
    Leads habit before (before.1.1.next call) (before.1.1.contacted call)
      ((pubSub handling).call call span before).2 := by
  obtain ⟨⟨bus, state⟩, trace⟩ := before
  have stays : Leads habit ((bus, state), trace) bus [] ((bus, state), trace) :=
    leads_nothing habit _
  have opened : ∀ {α : Type} (next : Bus η → Run (Bus η × σ) α),
      (current >>= next) span ((bus, state), trace) = next bus span ((bus, state), trace) :=
    fun _ => rfl
  cases call with
  | subscribe id topic handler =>
    change Leads _ _ _ _ (subscribe handling id topic handler span _).2
    rw [subscribe, opened]
    simp only [next, contacted]
    by_cases closed : bus.closed = true
    · simp only [closed, true_or, ↓reduceIte]
      exact stays
    · by_cases blank : id = "" ∨ topic = ""
      · simp only [closed, Bool.false_eq_true, false_or, blank, ↓reduceIte]
        exact stays
      · simp only [closed, Bool.false_eq_true, false_or, blank, ↓reduceIte]
        cases found : bus.handler? id topic with
        | none => exact ⟨rfl, habit.nothing _⟩
        | some before =>
          exact leads_cancel habit before span ((bus.insert id topic handler, state), trace)
  | unsubscribe id topic =>
    change Leads _ _ _ _ (unsubscribe handling id topic span _).2
    rw [unsubscribe, opened]
    simp only [next, contacted]
    by_cases closed : bus.closed = true
    · simp only [closed, ↓reduceIte]
      exact stays
    · simp only [closed, Bool.false_eq_true, ↓reduceIte]
      cases found : bus.handler? id topic with
      | none => exact ⟨rfl, habit.nothing _⟩
      | some before => exact leads_cancel habit before span ((bus.erase id topic, state), trace)
  | publish message =>
    change Leads _ _ _ _ (publish handling message span _).2
    rw [publish, opened]
    simp only [next, contacted]
    by_cases closed : bus.closed = true
    · simp only [closed, ↓reduceIte]
      exact stays
    · simp only [closed, Bool.false_eq_true, ↓reduceIte]
      exact (leads_line habit _ _ _ span _).trans (leads_deliver habit message _ span _)
  | close =>
    change Leads _ _ _ _ (close handling span _).2
    rw [close, opened]
    simp only [next, contacted]
    by_cases closed : bus.closed = true
    · simp only [closed, ↓reduceIte]
      exact stays
    · simp only [closed, Bool.false_eq_true, ↓reduceIte]
      have cancelled := leads_cancelEach habit (bus.subscriptions.map Subscription.handler) span
        ((⟨[], true⟩, state), trace)
      rw [List.map_map] at cancelled
      exact cancelled

end Habit

/-- A refused call answers its error and does nothing. -/
theorem call_refused (handling : Handling σ η) {call : Call η} {span : Option SpanRef}
    {before : (Bus η × σ) × Trace} (tidy : before.1.1.Tidy) {error : BusError}
    (refused : before.1.1.refusal? call = some error) :
    (pubSub handling).call call span before = (.error error, before) := by
  obtain ⟨⟨bus, state⟩, trace⟩ := before
  have opened : ∀ {α : Type} (next : Bus η → Run (Bus η × σ) α),
      (current >>= next) span ((bus, state), trace) = next bus span ((bus, state), trace) :=
    fun _ => rfl
  cases call with
  | subscribe id topic handler =>
    change subscribe handling id topic handler span ((bus, state), trace) = _
    rw [subscribe, opened]
    simp only [refusal?] at refused
    by_cases closed : bus.closed = true
    · simp only [closed, ↓reduceIte, Option.some.injEq] at refused ⊢
      rw [← refused]
      rfl
    · by_cases blank : id = "" ∨ topic = ""
      · simp only [closed, Bool.false_eq_true, ↓reduceIte, blank, Option.some.injEq] at refused ⊢
        rw [← refused]
        rfl
      · simp only [closed, Bool.false_eq_true, ↓reduceIte, blank, reduceCtorEq] at refused
  | unsubscribe id topic =>
    change unsubscribe handling id topic span ((bus, state), trace) = _
    rw [unsubscribe, opened]
    simp only [refusal?] at refused
    by_cases closed : bus.closed = true
    · simp only [closed, ↓reduceIte, Option.some.injEq] at refused ⊢
      rw [← refused]
      rfl
    · by_cases absent : bus.handler? id topic = none
      · simp only [closed, Bool.false_eq_true, ↓reduceIte, absent, Option.some.injEq] at refused ⊢
        rw [← refused, tidy.erase_absent absent]
        rfl
      · simp only [closed, Bool.false_eq_true, ↓reduceIte, absent, reduceCtorEq] at refused
  | publish message =>
    change publish handling message span ((bus, state), trace) = _
    rw [publish, opened]
    simp only [refusal?] at refused
    by_cases closed : bus.closed = true
    · simp only [closed, ↓reduceIte, Option.some.injEq] at refused ⊢
      rw [← refused]
      rfl
    · simp only [closed, Bool.false_eq_true, ↓reduceIte, reduceCtorEq] at refused
  | close => cases refused

theorem close_answer (handling : Handling σ η) (span : Option SpanRef)
    (before : (Bus η × σ) × Trace) : ((pubSub handling).call .close span before).1 = .ok () := by
  change (close handling span before).1 = .ok ()
  rw [close, Run.bind_apply]
  split
  · rfl
  · rfl

/-- A publish on an open bus is good, whatever handlers answer. -/
theorem publish_answer (handling : Handling σ η) (message : RoutedMessage) (span : Option SpanRef)
    {before : (Bus η × σ) × Trace} (opened : ¬ before.1.1.closed = true) :
    ((pubSub handling).call (.publish message) span before).1 = .ok () := by
  change (publish handling message span before).1 = .ok ()
  have known : ¬ (current span before).1.closed = true := opened
  rw [publish, Run.bind_apply, if_neg known]
  rfl

/-- Closing a closed bus does nothing. -/
theorem close_of_closed (handling : Handling σ η) (span : Option SpanRef)
    {before : (Bus η × σ) × Trace} (closed : before.1.1.closed = true) :
    (pubSub handling).call .close span before = (.ok (), before) := by
  change close handling span before = _
  have known : (current span before).1.closed = true := closed
  rw [close, Run.bind_apply, if_pos known]
  rfl

end Bus

end ChannelGate
