import ChannelGate.Proofs.Bus.Isolation
import ChannelGate.Proofs.Bus.Registry
import Mathlib.Data.Set.Card

set_option autoImplicit false

namespace ChannelGate

variable {σ τ η : Type}

def Subscription.LiveAfter (calls : List (Call η)) (subscription : Subscription η) : Prop :=
  ∃ registration : Registration η,
    registration.Live calls ∧ registration.subscription = subscription

namespace Bus

/-- The topic is the subject, or it ends in `.>`, and the subject goes on after the part before with
a dot and more. -/
def TakesIn (topic subject : String) : Prop :=
  topic = subject ∨ ∃ top rest, rest ≠ "" ∧ topic = top ++ ".>" ∧ subject = top ++ "." ++ rest

/-- Calls of a new bus whose handlers are overheard, from a moment on. -/
def overheardRun (handling : Handling σ η) (calls : List (Call η)) (start : Moment σ) :
    List (Except BusError Unit) × (Bus η × σ × List (Contact η)) × Trace :=
  Run.inTurn (pubSub handling.overheard).call calls start.span
    ((Bus.empty, start.state, []), start.trace)

/-- A publish after other calls: its answer is good, the registry stays, and the message is handed
to the subscriptions that it reaches. These are the live ones whose topics take in its subject, each
once. -/
structure Delivers (handling : Handling σ η) (calls : List (Call η)) (message : RoutedMessage)
    (start : Moment σ) (reached : List (Subscription η)) (contacts : List (Contact η)) : Prop where
  answer : (overheardRun handling (calls ++ [.publish message]) start).1 =
    (overheardRun handling calls start).1 ++ [.ok ()]
  registry : (overheardRun handling (calls ++ [.publish message]) start).2.1.1 =
    (overheardRun handling calls start).2.1.1
  record : (overheardRun handling (calls ++ [.publish message]) start).2.1.2.2 =
    (overheardRun handling calls start).2.1.2.2 ++ contacts
  handed : contacts.map Contact.about =
    reached.map fun subscription => (subscription.handler, some message)
  distinct : (reached.map Subscription.pair).Nodup
  members : ∀ subscription, subscription ∈ reached ↔
    subscription.LiveAfter calls ∧ TakesIn subscription.topic message.subject

/-- A topic with the mark takes in what goes on after the part before with a dot and more. -/
theorem topicMatches_marked {top subject : String} :
    topicMatches (top ++ ".>") subject = true ↔
      ∃ rest, rest ≠ "" ∧ subject = top ++ "." ++ rest := by
  have marked : (top ++ ".>").toList = top.toList ++ belowMark := String.toList_append
  rw [topicMatches, marked, takesIn_mark]
  constructor
  · intro given
    obtain ⟨c, rest, same⟩ := given
    refine ⟨String.ofList (c :: rest), ?_, ?_⟩
    · rw [ne_eq, ← Topic.toList_eq_nil, String.toList_ofList]
      exact List.cons_ne_nil c rest
    · rw [← String.toList_inj, same, String.toList_append, String.toList_append,
        String.toList_ofList, String.toList_ofList, List.append_assoc]
      rfl
  · intro given
    obtain ⟨rest, filled, rfl⟩ := given
    rw [ne_eq, ← Topic.toList_eq_nil] at filled
    obtain ⟨c, more, same⟩ := List.exists_cons_of_ne_nil filled
    refine ⟨c, more, ?_⟩
    rw [String.toList_append, String.toList_append, same, List.append_assoc]
    rfl

theorem topicMatches_iff {topic subject : String} :
    topicMatches topic subject = true ↔ TakesIn topic subject := by
  by_cases marked : belowMark <:+ topic.toList
  · obtain ⟨front, same⟩ := marked
    obtain ⟨top, rfl⟩ : ∃ top, topic = top ++ ".>" := by
      refine ⟨String.ofList front, ?_⟩
      rw [← String.toList_inj, ← same, String.toList_append, String.toList_ofList]
      rfl
    rw [topicMatches_marked]
    constructor
    · intro given
      obtain ⟨rest, filled, below⟩ := given
      exact .inr ⟨top, rest, filled, rfl, below⟩
    · intro given
      rcases given with rfl | ⟨other, rest, filled, topics, below⟩
      · -- The mark itself is a dot and one character more.
        exact ⟨">", by decide, by rw [String.append_assoc]; rfl⟩
      · obtain rfl : top = other := (String.append_left_inj _).mp topics
        exact ⟨rest, filled, below⟩
  · rw [topicMatches, takesIn_of_unmarked marked, String.toList_inj]
    refine (or_iff_left ?_).symm
    intro below
    obtain ⟨top, rest, _, rfl, _⟩ := below
    apply marked
    rw [String.toList_append]
    exact List.suffix_append _ _

theorem Faithful.mem_subscriptions {calls : List (Call η)} {bus : Bus η}
    (faithful : bus.Faithful calls) {subscription : Subscription η} :
    subscription ∈ bus.subscriptions ↔ subscription.LiveAfter calls := by
  obtain ⟨topic, id, handler⟩ := subscription
  rw [faithful.tidy.mem_subscriptions, faithful.holds]
  constructor
  · intro held
    obtain ⟨number, live⟩ := held
    exact ⟨_, live, rfl⟩
  · intro held
    obtain ⟨registration, live, same⟩ := held
    obtain ⟨rfl, rfl, rfl⟩ := Subscription.mk.inj same
    exact ⟨registration.number, live⟩

theorem overheardRun_append_singleton (handling : Handling σ η) (calls : List (Call η))
    (call : Call η) (start : Moment σ) :
    let past := overheardRun handling calls start
    let done := (pubSub handling.overheard).call call start.span past.2
    overheardRun handling (calls ++ [call]) start = (past.1 ++ [done.1], done.2) :=
  Run.inTurn_append_singleton _ calls call start.span _

theorem overheardRun_faithful (handling : Handling σ η) (calls : List (Call η))
    (start : Moment σ) : (overheardRun handling calls start).2.1.1.Faithful calls :=
  (run_faithful handling calls start.span start.state start.trace).1

theorem exists_delivers (handling : Handling σ η) {calls : List (Call η)}
    (opened : Call.close ∉ calls) (message : RoutedMessage) (start : Moment σ) :
    ∃ reached contacts, Delivers handling calls message start reached contacts := by
  let past := overheardRun handling calls start
  let bus := past.2.1.1
  have faithful : bus.Faithful calls := overheardRun_faithful handling calls start
  have open_now : ¬ bus.closed = true := fun closed => opened (faithful.closed.mp closed)
  have later := overheardRun_append_singleton handling calls (.publish message) start
  have good := publish_answer handling.overheard message start.span open_now
  obtain ⟨stays, contacts, grown, spoken⟩ :=
    call_leads handling.recording (.publish message) start.span past.2
  refine ⟨bus.subscriptions.filter fun subscription =>
    topicMatches subscription.topic message.subject, contacts, ?_⟩
  constructor
  case answer => rw [later, good]
  case registry =>
    rw [later]
    exact stays
  case record =>
    rw [later]
    exact grown
  case handed =>
    have handlers : contacts.map Contact.about =
        (bus.receivers message.subject).map fun handler => (handler, some message) :=
      spoken.trans (if_neg open_now)
    rw [handlers, receivers_eq, List.map_map]
    rfl
  case distinct => exact faithful.tidy.distinct_pairs.sublist (List.filter_sublist.map _)
  case members =>
    intro subscription
    rw [List.mem_filter, faithful.mem_subscriptions, topicMatches_iff]

namespace Delivers

variable {handling : Handling σ η} {calls : List (Call η)} {message : RoutedMessage}
  {start : Moment σ} {reached : List (Subscription η)} {contacts : List (Contact η)}

/-- A handler gets the message as often as it has live subscriptions that take it in. -/
theorem countP_handler [DecidableEq η]
    (delivers : Delivers handling calls message start reached contacts) (handler : η) :
    contacts.countP (fun contact => contact.about = (handler, some message)) =
      {pair | ∃ subscription : Subscription η, subscription.LiveAfter calls ∧
        TakesIn subscription.topic message.subject ∧ subscription.handler = handler ∧
        subscription.pair = pair}.ncard := by
  let own := reached.filter fun subscription => subscription.handler = handler
  have distinct : (own.map Subscription.pair).Nodup :=
    delivers.distinct.sublist (List.filter_sublist.map _)
  have pairs : {pair | ∃ subscription : Subscription η, subscription.LiveAfter calls ∧
      TakesIn subscription.topic message.subject ∧ subscription.handler = handler ∧
      subscription.pair = pair} =
      ((own.map Subscription.pair).toFinset : Set (String × String)) := by
    ext pair
    rw [List.coe_toFinset]
    simp only [own, Set.mem_ofPred_eq, List.mem_map, List.mem_filter, delivers.members,
      decide_eq_true_eq, and_assoc]
  have spoken : contacts.countP (fun contact => contact.about = (handler, some message)) =
      reached.countP fun subscription => subscription.handler = handler := by
    have counted := congrArg (List.countP fun spoken => spoken = (handler, some message))
      delivers.handed
    rw [List.countP_map, List.countP_map] at counted
    refine counted.trans (List.countP_congr ?_)
    intro subscription _
    simp only [Function.comp_apply, Prod.mk.injEq, and_true]
  rw [pairs, Set.ncard_coe_finset, List.toFinset_card_of_nodup distinct, List.length_map, spoken,
    List.countP_eq_length_filter]

/-- Who gets the message hangs on the live subscriptions only. -/
theorem perm {handling' : Handling τ η} {others : List (Call η)} {start' : Moment τ}
    {reached' : List (Subscription η)} {contacts' : List (Contact η)}
    (delivers : Delivers handling calls message start reached contacts)
    (delivers' : Delivers handling' others message start' reached' contacts')
    (same : ∀ subscription : Subscription η,
      subscription.LiveAfter calls ↔ subscription.LiveAfter others) :
    reached.Perm reached' ∧ (contacts.map Contact.about).Perm (contacts'.map Contact.about) := by
  have permuted : reached.Perm reached' := by
    rw [List.perm_ext_iff_of_nodup delivers.distinct.of_map delivers'.distinct.of_map]
    intro subscription
    rw [delivers.members, delivers'.members, same]
  refine ⟨permuted, ?_⟩
  rw [delivers.handed, delivers'.handed]
  exact permuted.map _

end Delivers

/-- Who gets a message that is published after any calls without a close, whatever handlers answer
to it and answered before. The publish is good and leaves the registry as it is. The message is
handed, as it is, to every live subscription whose topic takes in its subject, once, and to nobody
else, so a handler gets it as often as it has such subscriptions. After other calls that leave the
same subscriptions live, whatever handlers answer, it is handed to the same. Overhearing the
handlers changes nothing. -/
theorem publish_reaches_each_once [DecidableEq η] (handling : Handling σ η)
    {calls : List (Call η)} (opened : Call.close ∉ calls) (message : RoutedMessage)
    (start : Moment σ) :
    let history := calls ++ [.publish message]
    let heard := overheardRun handling history start
    Run.inTurn (pubSub handling).call history start.span ((Bus.empty, start.state), start.trace) =
      (heard.1, (heard.2.1.1, heard.2.1.2.1), heard.2.2) ∧
    ∃ reached contacts, Delivers handling calls message start reached contacts ∧
      (∀ handler, contacts.countP (fun contact => contact.about = (handler, some message)) =
        {pair | ∃ subscription : Subscription η, subscription.LiveAfter calls ∧
          TakesIn subscription.topic message.subject ∧ subscription.handler = handler ∧
          subscription.pair = pair}.ncard) ∧
      ∀ {τ : Type} (handling' : Handling τ η) (others : List (Call η)) (start' : Moment τ)
        (reached' : List (Subscription η)) (contacts' : List (Contact η)),
        (∀ subscription : Subscription η,
          subscription.LiveAfter calls ↔ subscription.LiveAfter others) →
        Delivers handling' others message start' reached' contacts' →
        reached.Perm reached' ∧
          (contacts.map Contact.about).Perm (contacts'.map Contact.about) := by
  intro history heard
  refine ⟨run_overheard handling history start.span start.state start.trace, ?_⟩
  obtain ⟨reached, contacts, delivers⟩ := exists_delivers handling opened message start
  refine ⟨reached, contacts, delivers, delivers.countP_handler, ?_⟩
  intro τ handling' others start' reached' contacts' same delivers'
  exact delivers.perm delivers' same

/-- Handlers that work, or are stuck and fail at everything. -/
def faulty : Handling Unit Bool where
  handle works _ := return if works then .ok () else .error (.handler "stuck")
  cancel works := return if works then .ok () else .error (.handler "stuck")

/-- A handler that is stuck, under two topics that take in the temperature of the roof, and handlers
that work, one of them taken away again. -/
def roofCalls : List (Call Bool) :=
  [.subscribe "lamp" "channels.roof.temp" false, .subscribe "lamp" "channels.roof.>" false,
    .subscribe "meter" "channels.roof" true, .subscribe "meter" "channels.>" true,
    .subscribe "spare" "channels.roof.temp" true, .unsubscribe "spare" "channels.roof.temp"]

theorem publish_reaches_each_once_roof :
    let message := RoutedMessage.new "roof" "temp" "probe" [21] 5
    let start : Moment Unit := ⟨none, (), .empty⟩
    Call.close ∉ roofCalls ∧
      ∃ reached contacts, Delivers faulty roofCalls message start reached contacts ∧
        contacts.map Contact.about =
          [(false, some message), (false, some message), (true, some message)] ∧
        {pair | ∃ subscription : Subscription Bool, subscription.LiveAfter roofCalls ∧
          TakesIn subscription.topic message.subject ∧ subscription.handler = false ∧
          subscription.pair = pair}.ncard = 2 := by
  intro message start
  have opened : Call.close ∉ roofCalls := by simp [roofCalls]
  obtain ⟨_, reached, contacts, delivers, counted, _⟩ :=
    publish_reaches_each_once faulty opened message start
  have heard : (overheardRun faulty (roofCalls ++ [.publish message]) start).2.1.2.2.map
      Contact.about = (overheardRun faulty roofCalls start).2.1.2.2.map Contact.about ++
        [(false, some message), (false, some message), (true, some message)] := by
    decide +kernel
  rw [delivers.record, List.map_append] at heard
  have handed := List.append_cancel_left heard
  have twice : (contacts.map Contact.about).countP (fun spoken => spoken = (false, some message)) =
      2 := by
    rw [handed]
    rfl
  rw [List.countP_map] at twice
  exact ⟨opened, reached, contacts, delivers, handed, (counted false).symm.trans twice⟩

end Bus

end ChannelGate
