import ChannelGate.Proofs.Bus.Coupled
import Mathlib.Data.List.Induction
import Mathlib.Data.Set.List

set_option autoImplicit false

namespace ChannelGate

/-- A subscribe among calls: the number of the call and what it was called with. -/
structure Registration (η : Type) where
  number : Nat
  id : String
  topic : String
  handler : η

namespace Registration

variable {η : Type}

def pair (registration : Registration η) : String × String :=
  (registration.topic, registration.id)

def subscription (registration : Registration η) : Subscription η :=
  ⟨registration.topic, registration.id, registration.handler⟩

/-- The call is a subscribe with an id and a topic, on a bus that no call closed before. -/
def MadeBy (calls : List (Call η)) (registration : Registration η) : Prop :=
  calls[registration.number]? =
      some (.subscribe registration.id registration.topic registration.handler) ∧
    registration.id ≠ "" ∧ registration.topic ≠ "" ∧
    Call.close ∉ calls.take registration.number

/-- The call replaces the registration, takes it away or closes the bus. -/
def EndedBy (registration : Registration η) : Call η → Prop
  | .subscribe id topic _ => id = registration.id ∧ topic = registration.topic
  | .unsubscribe id topic => id = registration.id ∧ topic = registration.topic
  | .publish _ => False
  | .close => True

/-- The registration was made, and nothing ended it since. -/
def Live (calls : List (Call η)) (registration : Registration η) : Prop :=
  registration.MadeBy calls ∧
    ∀ call ∈ calls.drop (registration.number + 1), ¬ registration.EndedBy call

def StartedBy (calls : List (Call η)) (call : Call η) (registration : Registration η) : Prop :=
  registration.number = calls.length ∧
    call = .subscribe registration.id registration.topic registration.handler ∧
    registration.id ≠ "" ∧ registration.topic ≠ "" ∧ Call.close ∉ calls

variable {calls : List (Call η)} {call : Call η} {registration other : Registration η}

theorem MadeBy.number_lt (made : registration.MadeBy calls) :
    registration.number < calls.length := by
  have present := made.1
  rw [List.getElem?_eq_some_iff] at present
  exact present.1

theorem StartedBy.number_eq (started : registration.StartedBy calls call) :
    registration.number = calls.length :=
  started.1

theorem madeBy_append_singleton :
    registration.MadeBy (calls ++ [call]) ↔
      registration.MadeBy calls ∨ registration.StartedBy calls call := by
  constructor
  · rintro ⟨present, named, titled, opened⟩
    rcases Nat.lt_or_ge registration.number calls.length with early | late
    · rw [List.getElem?_append_left early] at present
      rw [List.take_append_of_le_length (Nat.le_of_lt early)] at opened
      exact .inl ⟨present, named, titled, opened⟩
    · rw [List.getElem?_append_right late, List.getElem?_singleton] at present
      split at present
      · next zero =>
        have last : registration.number = calls.length := by omega
        rw [last, List.take_left'] at opened
        · exact .inr ⟨last, Option.some.inj present, named, titled, opened⟩
        · rfl
      · cases present
  · rintro (⟨present, named, titled, opened⟩ | ⟨last, rfl, named, titled, opened⟩)
    · have early := MadeBy.number_lt ⟨present, named, titled, opened⟩
      refine ⟨?_, named, titled, ?_⟩
      · rw [List.getElem?_append_left early, present]
      · rw [List.take_append_of_le_length (Nat.le_of_lt early)]
        exact opened
    · refine ⟨?_, named, titled, ?_⟩
      · rw [last, List.getElem?_concat_length]
      · rw [last, List.take_left']
        · exact opened
        · rfl

theorem live_append_singleton :
    registration.Live (calls ++ [call]) ↔
      (registration.Live calls ∧ ¬ registration.EndedBy call) ∨
        registration.StartedBy calls call := by
  have later : registration.MadeBy calls → (calls ++ [call]).drop (registration.number + 1) =
      calls.drop (registration.number + 1) ++ [call] := fun made =>
    List.drop_append_of_le_length (Nat.succ_le_of_lt made.number_lt)
  constructor
  · rintro ⟨made, since⟩
    rcases madeBy_append_singleton.mp made with before | now
    · rw [later before] at since
      exact .inl ⟨⟨before, fun call' member => since call' (List.mem_append_left _ member)⟩,
        since call (List.mem_append_right _ (List.mem_singleton_self call))⟩
    · exact .inr now
  · rintro (⟨⟨before, since⟩, lasts⟩ | now)
    · refine ⟨madeBy_append_singleton.mpr (.inl before), ?_⟩
      rw [later before]
      intro call' member
      rcases List.mem_append.mp member with early | last
      · exact since call' early
      · rw [List.mem_singleton.mp last]
        exact lasts
    · refine ⟨madeBy_append_singleton.mpr (.inr now), ?_⟩
      have none_later : (calls ++ [call]).drop (registration.number + 1) = [] := by
        apply List.drop_eq_nil_of_le
        rw [now.number_eq, List.length_append, List.length_singleton]
      rw [none_later]
      exact List.forall_mem_nil _

theorem Live.opened (live : registration.Live calls) : Call.close ∉ calls := by
  induction calls using List.reverseRecOn with
  | nil => exact List.not_mem_nil
  | append_singleton calls call ih =>
    intro closed
    rcases live_append_singleton.mp live with ⟨before, lasts⟩ | ⟨_, rfl, _, _, opened⟩
    · rcases List.mem_append.mp closed with early | last
      · exact ih before early
      · apply lasts
        rw [← List.mem_singleton.mp last]
        trivial
    · rcases List.mem_append.mp closed with early | last
      · exact opened early
      · cases List.mem_singleton.mp last

/-- One registration at most is live under an id and a topic. -/
theorem Live.unique (live : registration.Live calls) (live' : other.Live calls)
    (same : registration.pair = other.pair) : registration = other := by
  induction calls using List.reverseRecOn with
  | nil => exact absurd live.1.number_lt (Nat.not_lt_zero _)
  | append_singleton calls call ih =>
    obtain ⟨topics, ids⟩ := Prod.mk.inj same
    rcases live_append_singleton.mp live with ⟨before, lasts⟩ | now
    · rcases live_append_singleton.mp live' with ⟨before', _⟩ | now'
      · exact ih before before'
      · refine absurd ?_ lasts
        rw [now'.2.1]
        exact ⟨ids.symm, topics.symm⟩
    · rcases live_append_singleton.mp live' with ⟨_, lasts'⟩ | now'
      · refine absurd ?_ lasts'
        rw [now.2.1]
        exact ⟨ids, topics⟩
      · obtain ⟨number, id, topic, handler⟩ := registration
        obtain ⟨number', id', topic', handler'⟩ := other
        obtain rfl : number = number' := now.1.trans now'.1.symm
        obtain ⟨rfl, rfl, rfl⟩ := Call.subscribe.inj (now.2.1.symm.trans now'.2.1)
        rfl

section Map

variable {κ : Type}

def map (f : η → κ) (registration : Registration η) : Registration κ :=
  ⟨registration.number, registration.id, registration.topic, f registration.handler⟩

theorem endedBy_map (f : η → κ) (registration : Registration η) (call : Call η) :
    (registration.map f).EndedBy (call.map f) ↔ registration.EndedBy call := by
  cases call with
  | subscribe id topic handler => exact Iff.rfl
  | unsubscribe id topic => exact Iff.rfl
  | publish message => exact Iff.rfl
  | close => exact Iff.rfl

theorem close_mem_map {f : η → κ} {calls : List (Call η)} :
    Call.close ∈ calls.map (Call.map f) ↔ Call.close ∈ calls := by
  rw [List.mem_map]
  constructor
  · rintro ⟨call, member, same⟩
    cases call with
    | close => exact member
    | _ => cases same
  · exact fun member => ⟨.close, member, rfl⟩

theorem madeBy_map {f : η → κ} {calls : List (Call η)} {registration : Registration κ} :
    registration.MadeBy (calls.map (Call.map f)) ↔
      ∃ original : Registration η, original.MadeBy calls ∧ original.map f = registration := by
  unfold MadeBy
  rw [List.getElem?_map, ← List.map_take, close_mem_map, Option.map_eq_some_iff]
  constructor
  · rintro ⟨⟨call, present, same⟩, named, titled, opened⟩
    cases call with
    | subscribe id topic handler =>
      obtain ⟨rfl, rfl, handlers⟩ := Call.subscribe.inj same
      refine ⟨⟨registration.number, _, _, handler⟩, ⟨present, named, titled, opened⟩, ?_⟩
      rw [map, handlers]
    | _ => cases same
  · rintro ⟨original, ⟨present, named, titled, opened⟩, rfl⟩
    exact ⟨⟨_, present, rfl⟩, named, titled, opened⟩

theorem live_map {f : η → κ} {calls : List (Call η)} {registration : Registration κ} :
    registration.Live (calls.map (Call.map f)) ↔
      ∃ original : Registration η, original.Live calls ∧ original.map f = registration := by
  unfold Live
  rw [madeBy_map, ← List.map_drop, List.forall_mem_map]
  constructor
  · rintro ⟨⟨original, made, rfl⟩, since⟩
    exact ⟨original, ⟨made, fun call member ends =>
      since call member ((endedBy_map f original call).mpr ends)⟩, rfl⟩
  · rintro ⟨original, ⟨made, since⟩, rfl⟩
    exact ⟨⟨original, made, rfl⟩, fun call member ends =>
      since call member ((endedBy_map f original call).mp ends)⟩

end Map

end Registration

namespace Bus

variable {σ η : Type}

/-- The registry is what calls of a new bus lead to. -/
structure Faithful (calls : List (Call η)) (bus : Bus η) : Prop where
  tidy : bus.Tidy
  closed : bus.closed = true ↔ Call.close ∈ calls
  emptied : bus.closed = true → bus.topics = []
  holds : ∀ id topic handler, bus.handler? id topic = some handler ↔
    ∃ number, Registration.Live calls ⟨number, id, topic, handler⟩

namespace Faithful

variable {calls : List (Call η)} {bus : Bus η}

theorem empty : Faithful (η := η) [] Bus.empty where
  tidy := Tidy.of_empty false
  closed := ⟨fun closed => absurd closed Bool.false_ne_true, fun member => nomatch member⟩
  emptied _ := rfl
  holds id topic handler := by
    constructor
    · intro present
      cases present
    · rintro ⟨number, live⟩
      exact absurd live.1.number_lt (Nat.not_lt_zero _)

theorem opened (faithful : bus.Faithful calls) (opened : ¬ bus.closed = true) :
    Call.close ∉ calls :=
  fun member => opened (faithful.closed.mpr member)

theorem not_live (faithful : bus.Faithful calls) (closed : bus.closed = true)
    (registration : Registration η) : ¬ registration.Live calls :=
  fun live => live.opened (faithful.closed.mp closed)

/-- A call that puts nothing in and takes nothing out. -/
theorem idle (faithful : bus.Faithful calls) {call : Call η}
    (started : ∀ registration : Registration η, ¬ registration.StartedBy calls call)
    (ended : ∀ registration : Registration η, registration.Live calls →
      ¬ registration.EndedBy call)
    (closing : call = .close → bus.closed = true) : bus.Faithful (calls ++ [call]) where
  tidy := faithful.tidy
  closed := by
    rw [faithful.closed, List.mem_append, List.mem_singleton]
    refine ⟨.inl, ?_⟩
    rintro (early | last)
    · exact early
    · exact faithful.closed.mp (closing last.symm)
  emptied := faithful.emptied
  holds id topic handler := by
    rw [faithful.holds]
    apply exists_congr
    intro number
    rw [Registration.live_append_singleton]
    constructor
    · exact fun live => .inl ⟨live, ended _ live⟩
    · rintro (⟨live, _⟩ | now)
      · exact live
      · exact absurd now (started _)

theorem subscribed (faithful : bus.Faithful calls) (opened : ¬ bus.closed = true)
    {id topic : String} (named : id ≠ "") (titled : topic ≠ "") (handler : η) :
    (bus.insert id topic handler).Faithful (calls ++ [.subscribe id topic handler]) where
  tidy := faithful.tidy.insert id topic handler
  closed := by
    rw [List.mem_append, List.mem_singleton]
    constructor
    · exact fun closed => absurd closed opened
    · rintro (early | last)
      · exact faithful.closed.mpr early
      · cases last
  emptied closed := absurd closed opened
  holds id' topic' handler' := by
    rw [handler?_insert]
    simp only [Registration.live_append_singleton, Registration.EndedBy]
    by_cases same : id' = id ∧ topic' = topic
    · obtain ⟨rfl, rfl⟩ := same
      rw [if_pos ⟨rfl, rfl⟩, Option.some.injEq]
      constructor
      · rintro rfl
        exact ⟨calls.length, .inr ⟨rfl, rfl, named, titled, faithful.opened opened⟩⟩
      · rintro ⟨number, ⟨_, lasts⟩ | now⟩
        · exact absurd ⟨rfl, rfl⟩ lasts
        · exact (Call.subscribe.inj now.2.1).2.2
    · rw [if_neg same, faithful.holds]
      apply exists_congr
      intro number
      constructor
      · exact fun live => .inl ⟨live, fun ends => same ⟨ends.1.symm, ends.2.symm⟩⟩
      · rintro (⟨live, _⟩ | now)
        · exact live
        · obtain ⟨rfl, rfl, _⟩ := Call.subscribe.inj now.2.1
          exact absurd ⟨rfl, rfl⟩ same

theorem unsubscribed (faithful : bus.Faithful calls) (opened : ¬ bus.closed = true)
    (id topic : String) : (bus.erase id topic).Faithful (calls ++ [.unsubscribe id topic]) where
  tidy := faithful.tidy.erase id topic
  closed := by
    rw [closed_erase, List.mem_append, List.mem_singleton]
    constructor
    · exact fun closed => absurd closed opened
    · rintro (early | last)
      · exact faithful.closed.mpr early
      · cases last
  emptied closed := by
    rw [closed_erase] at closed
    exact absurd closed opened
  holds id' topic' handler' := by
    rw [handler?_erase]
    simp only [Registration.live_append_singleton, Registration.EndedBy]
    by_cases same : id' = id ∧ topic' = topic
    · obtain ⟨rfl, rfl⟩ := same
      rw [if_pos ⟨rfl, rfl⟩]
      constructor
      · intro present
        cases present
      · rintro ⟨number, ⟨_, lasts⟩ | now⟩
        · exact absurd ⟨rfl, rfl⟩ lasts
        · cases now.2.1
    · rw [if_neg same, faithful.holds]
      apply exists_congr
      intro number
      constructor
      · exact fun live => .inl ⟨live, fun ends => same ⟨ends.1.symm, ends.2.symm⟩⟩
      · rintro (⟨live, _⟩ | now)
        · exact live
        · cases now.2.1

theorem closing : (⟨[], true⟩ : Bus η).Faithful (calls ++ [.close]) where
  tidy := Tidy.of_empty true
  closed := ⟨fun _ => List.mem_append_right _ (List.mem_singleton_self _), fun _ => rfl⟩
  emptied _ := rfl
  holds id topic handler := by
    constructor
    · intro present
      cases present
    · rintro ⟨number, live⟩
      exact absurd (List.mem_append_right _ (List.mem_singleton_self _)) live.opened

/-- One call more. -/
theorem next (faithful : bus.Faithful calls) (call : Call η) :
    (bus.next call).Faithful (calls ++ [call]) := by
  have not_live := faithful.not_live
  cases call with
  | subscribe id topic handler =>
    by_cases closed : bus.closed = true
    · simp only [Bus.next, closed, true_or, ↓reduceIte]
      refine faithful.idle ?_ (fun _ live => absurd live (not_live closed _)) (by rintro ⟨⟩)
      exact fun _ now => now.2.2.2.2 (faithful.closed.mp closed)
    · by_cases blank : id = "" ∨ topic = ""
      · simp only [Bus.next, blank, or_true, ↓reduceIte]
        refine faithful.idle ?_ ?_ (by rintro ⟨⟩)
        · intro registration now
          obtain ⟨rfl, rfl, _⟩ := Call.subscribe.inj now.2.1
          exact blank.elim now.2.2.1 now.2.2.2.1
        · rintro registration live ⟨rfl, rfl⟩
          exact blank.elim live.1.2.1 live.1.2.2.1
      · simp only [Bus.next, closed, blank, or_false, Bool.false_eq_true, ↓reduceIte]
        exact faithful.subscribed closed (fun named => blank (.inl named))
          (fun titled => blank (.inr titled)) handler
  | unsubscribe id topic =>
    by_cases closed : bus.closed = true
    · simp only [Bus.next, closed, ↓reduceIte]
      refine faithful.idle ?_ (fun _ live => absurd live (not_live closed _)) (by rintro ⟨⟩)
      rintro registration ⟨_, ⟨⟩, _⟩
    · simp only [Bus.next, closed, Bool.false_eq_true, ↓reduceIte]
      exact faithful.unsubscribed closed id topic
  | publish message =>
    refine faithful.idle ?_ (fun _ _ => not_false) (by rintro ⟨⟩)
    rintro registration ⟨_, ⟨⟩, _⟩
  | close =>
    by_cases closed : bus.closed = true
    · simp only [Bus.next, closed, ↓reduceIte]
      refine faithful.idle ?_ (fun _ live => absurd live (not_live closed _)) fun _ => closed
      rintro registration ⟨_, ⟨⟩, _⟩
    · simp only [Bus.next, closed, Bool.false_eq_true, ↓reduceIte]
      exact closing

/-- The registrations behind the registry. -/
theorem listed (faithful : bus.Faithful calls) :
    ∃ live : List (Registration η), (live.map Registration.pair).Nodup ∧
      (∀ registration, registration ∈ live ↔ registration.Live calls) ∧
      bus.subscriptions = live.map Registration.subscription := by
  have behind : ∀ subscription ∈ bus.subscriptions, subscription ∈ Set.range
      fun registration : { registration : Registration η // registration.Live calls } =>
        registration.1.subscription := by
    rintro ⟨topic, id, handler⟩ member
    obtain ⟨number, live⟩ := (faithful.holds id topic handler).mp
      (faithful.tidy.mem_subscriptions.mp member)
    exact ⟨⟨_, live⟩, rfl⟩
  obtain ⟨found, whole⟩ : bus.subscriptions ∈ Set.range (List.map _) := by
    rw [Set.range_list_map]
    exact behind
  have shape : bus.subscriptions = (found.map Subtype.val).map Registration.subscription := by
    rw [List.map_map]
    exact whole.symm
  refine ⟨found.map Subtype.val, ?_, ?_, shape⟩
  · have distinct := faithful.tidy.distinct_pairs
    rw [shape, List.map_map] at distinct
    exact distinct
  · intro registration
    constructor
    · intro member
      obtain ⟨inside, _, rfl⟩ := List.mem_map.mp member
      exact inside.2
    · intro live
      have present := (faithful.holds registration.id registration.topic registration.handler).mpr
        ⟨registration.number, live⟩
      have member := faithful.tidy.mem_subscriptions.mpr present
      rw [shape] at member
      obtain ⟨other, inside, same⟩ := List.mem_map.mp member
      obtain ⟨original, _, rfl⟩ := List.mem_map.mp inside
      obtain ⟨topics, ids, _⟩ := Subscription.mk.inj same
      rw [← original.2.unique live (Prod.ext topics ids)]
      exact inside

/-- A message goes to the live registrations whose topics take in its subject. -/
theorem received (faithful : bus.Faithful calls) (message : RoutedMessage) :
    ∃ received : List (Registration η), received.Nodup ∧
      (∀ registration : Registration η, registration ∈ received ↔
        registration.Live calls ∧ topicMatches registration.topic message.subject = true) ∧
      bus.contacted (.publish message) =
        received.map fun registration => (registration.handler, some message) := by
  obtain ⟨live, distinct, members, whole⟩ := faithful.listed
  by_cases closed : bus.closed = true
  · refine ⟨[], List.nodup_nil, ?_, if_pos closed⟩
    intro registration
    constructor
    · exact fun member => nomatch member
    · exact fun taken => absurd taken.1 (faithful.not_live closed registration)
  · refine ⟨live.filter fun registration => topicMatches registration.topic message.subject,
      distinct.of_map.filter _, ?_, ?_⟩
    · intro registration
      rw [List.mem_filter, members]
    · simp only [contacted, closed, Bool.false_eq_true, ↓reduceIte]
      rw [receivers_eq, whole, List.filter_map, List.map_map, List.map_map]
      rfl

end Faithful

end Bus

end ChannelGate
