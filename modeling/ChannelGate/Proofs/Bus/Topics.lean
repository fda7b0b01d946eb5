import ChannelGate.Bus.Basic
import Mathlib.Data.List.Nodup

set_option autoImplicit false

namespace ChannelGate

def Subscription.pair {η : Type} (subscription : Subscription η) : String × String :=
  (subscription.topic, subscription.id)

namespace Bus

variable {α η : Type}

theorem lookup_cons (key : String) (entry : String × α) (rest : List (String × α)) :
    (entry :: rest).lookup key = if key = entry.1 then some entry.2 else rest.lookup key := by
  by_cases same : key = entry.1
  · rw [List.lookup_cons, beq_iff_eq.mpr same, if_pos same]
  · rw [List.lookup_cons, beq_false_of_ne same, if_neg same]

theorem lookup_put (key other : String) (value : α) (entries : List (String × α)) :
    (put key value entries).lookup other =
      if other = key then some value else entries.lookup other := by
  induction entries with
  | nil => exact lookup_cons other (key, value) []
  | cons entry rest ih =>
    obtain ⟨first, before⟩ := entry
    by_cases same : first = key
    · subst same
      rw [put, if_pos rfl, lookup_cons, lookup_cons]
      by_cases found : other = first
      · simp only [found, ↓reduceIte]
      · simp only [found, ↓reduceIte]
    · rw [put, if_neg same, lookup_cons, lookup_cons, ih]
      by_cases found : other = first
      · have apart : other ≠ key := by
          rw [found]
          exact same
        simp only [found, ↓reduceIte, same]
      · simp only [found, ↓reduceIte]

theorem lookup_remove (key other : String) (entries : List (String × α)) :
    (remove key entries).lookup other = if other = key then none else entries.lookup other := by
  induction entries with
  | nil => simp [remove]
  | cons entry rest ih =>
    unfold remove at ih ⊢
    by_cases same : entry.1 = key
    · rw [List.filter_cons_of_neg (by simp [same]), ih, lookup_cons, same]
      by_cases found : other = key
      · simp only [found, ↓reduceIte]
      · simp only [found, ↓reduceIte]
    · rw [List.filter_cons_of_pos (by simp [same]), lookup_cons, lookup_cons, ih]
      by_cases found : other = entry.1
      · simp only [found, ↓reduceIte, same]
      · simp only [found, ↓reduceIte]

theorem mem_put {key : String} {value : α} {entries : List (String × α)} {entry : String × α}
    (member : entry ∈ put key value entries) : entry = (key, value) ∨ entry ∈ entries := by
  induction entries with
  | nil => exact .inl (List.mem_singleton.mp member)
  | cons first rest ih =>
    obtain ⟨other, before⟩ := first
    by_cases same : other = key
    · rw [put, if_pos same] at member
      rcases List.mem_cons.mp member with new | old
      · exact .inl new
      · exact .inr (List.mem_cons_of_mem _ old)
    · rw [put, if_neg same] at member
      rcases List.mem_cons.mp member with front | later
      · exact .inr (List.mem_cons.mpr (.inl front))
      · exact (ih later).imp_right (List.mem_cons_of_mem _)

theorem put_ne_nil (key : String) (value : α) (entries : List (String × α)) :
    put key value entries ≠ [] := by
  intro empty
  have found := lookup_put key key value entries
  rw [empty, if_pos rfl] at found
  cases found

theorem put_of_lookup {key : String} {value : α} {entries : List (String × α)}
    (present : entries.lookup key = some value) : put key value entries = entries := by
  induction entries with
  | nil => cases present
  | cons entry rest ih =>
    obtain ⟨first, before⟩ := entry
    rw [lookup_cons] at present
    by_cases same : first = key
    · subst same
      have same : before = value := Option.some.inj ((if_pos rfl).symm.trans present)
      rw [put, if_pos rfl, same]
    · rw [if_neg (Ne.symm same)] at present
      rw [put, if_neg same, ih present]

theorem remove_of_lookup {key : String} {entries : List (String × α)}
    (absent : entries.lookup key = none) : remove key entries = entries := by
  apply List.filter_eq_self.mpr
  intro entry member
  have apart := List.lookup_eq_none_iff.mp absent entry member
  simpa using Ne.symm (by simpa using apart)

theorem keys_put (key : String) (value : α) (entries : List (String × α)) :
    (put key value entries).map Prod.fst =
      if key ∈ entries.map Prod.fst then entries.map Prod.fst
      else entries.map Prod.fst ++ [key] := by
  induction entries with
  | nil => simp [put]
  | cons entry rest ih =>
    obtain ⟨first, before⟩ := entry
    by_cases same : first = key
    · simp [put, same]
    · have apart : ¬ key = first := Ne.symm same
      simp only [put, if_neg same, List.map_cons, ih, List.mem_cons, apart, false_or]
      split
      · rfl
      · rfl

theorem nodup_put {key : String} {value : α} {entries : List (String × α)}
    (distinct : (entries.map Prod.fst).Nodup) :
    ((put key value entries).map Prod.fst).Nodup := by
  rw [keys_put]
  split
  · exact distinct
  · next absent =>
    rw [List.nodup_append]
    refine ⟨distinct, List.nodup_singleton key, ?_⟩
    rintro other member _ last rfl
    rw [List.mem_singleton.mp last] at member
    exact absent member

theorem nodup_remove {key : String} {entries : List (String × α)}
    (distinct : (entries.map Prod.fst).Nodup) : ((remove key entries).map Prod.fst).Nodup :=
  distinct.sublist (List.filter_sublist.map Prod.fst)

theorem mem_iff_lookup {key : String} {value : α} {entries : List (String × α)}
    (distinct : (entries.map Prod.fst).Nodup) :
    (key, value) ∈ entries ↔ entries.lookup key = some value := by
  induction entries with
  | nil => simp
  | cons entry rest ih =>
    obtain ⟨first, before⟩ := entry
    rw [List.map_cons, List.nodup_cons] at distinct
    rw [lookup_cons, List.mem_cons, Prod.mk.injEq, ih distinct.2]
    by_cases same : key = first
    · subst same
      have absent : rest.lookup key ≠ some value := by
        rw [ne_eq, ← ih distinct.2]
        intro member
        exact distinct.1 (List.mem_map.mpr ⟨(key, value), member, rfl⟩)
      simp only [true_and, absent, or_false, ↓reduceIte, Option.some.injEq, eq_comm]
    · simp only [same, false_and, false_or, ↓reduceIte]

theorem handler?_insert (bus : Bus η) (id topic : String) (handler : η) (id' topic' : String) :
    (bus.insert id topic handler).handler? id' topic' =
      if id' = id ∧ topic' = topic then some handler else bus.handler? id' topic' := by
  simp only [handler?, insert, lookup_put]
  by_cases same : topic' = topic
  · subst same
    simp only [↓reduceIte, Option.bind_some, lookup_put, and_true]
    cases bus.topics.lookup topic' with
    | none => rfl
    | some subscribers => rfl
  · simp only [same, ↓reduceIte, and_false]

theorem lookup_erase (bus : Bus η) (id topic topic' : String) :
    (bus.erase id topic).topics.lookup topic' =
      if topic' = topic then
        (bus.topics.lookup topic).bind fun subscribers =>
          if (remove id subscribers).isEmpty then none else some (remove id subscribers)
      else bus.topics.lookup topic' := by
  unfold erase
  cases found : bus.topics.lookup topic with
  | none =>
    by_cases same : topic' = topic
    · simp only [same, ↓reduceIte, found, Option.bind_none]
    · simp only [same, ↓reduceIte]
  | some subscribers =>
    by_cases empty : (remove id subscribers).isEmpty = true
    · simp only [empty, ↓reduceIte, lookup_remove, Option.bind_some]
    · simp only [empty, Bool.false_eq_true, ↓reduceIte, lookup_put, Option.bind_some]

theorem handler?_erase (bus : Bus η) (id topic id' topic' : String) :
    (bus.erase id topic).handler? id' topic' =
      if id' = id ∧ topic' = topic then none else bus.handler? id' topic' := by
  simp only [handler?, lookup_erase]
  by_cases same : topic' = topic
  · subst same
    cases found : bus.topics.lookup topic' with
    | none => simp only [↓reduceIte, Option.bind_none, and_true, ite_self]
    | some subscribers =>
      have removed := lookup_remove id id' subscribers
      simp only [↓reduceIte, Option.bind_some, and_true]
      by_cases empty : (remove id subscribers).isEmpty = true
      · rw [if_pos empty, ← removed, List.isEmpty_iff.mp empty]
        rfl
      · rw [if_neg empty, ← removed]
        rfl
  · simp only [same, ↓reduceIte, and_false]

theorem closed_erase (bus : Bus η) (id topic : String) :
    (bus.erase id topic).closed = bus.closed := by
  unfold erase
  split
  · rfl
  · rfl

/-- Every topic is there once and has handlers, each under an id of its own. -/
structure Tidy (bus : Bus η) : Prop where
  topics : (bus.topics.map Prod.fst).Nodup
  filled : ∀ entry ∈ bus.topics, entry.2 ≠ []
  ids : ∀ entry ∈ bus.topics, (entry.2.map Prod.fst).Nodup

theorem Tidy.of_empty (closed : Bool) : Tidy (η := η) ⟨[], closed⟩ :=
  ⟨List.nodup_nil, List.forall_mem_nil _, List.forall_mem_nil _⟩

theorem Tidy.mem_of_lookup {bus : Bus η} (tidy : bus.Tidy) {topic : String}
    {subscribers : List (String × η)} (found : bus.topics.lookup topic = some subscribers) :
    (topic, subscribers) ∈ bus.topics :=
  (mem_iff_lookup tidy.topics).mpr found

theorem Tidy.insert {bus : Bus η} (tidy : bus.Tidy) (id topic : String) (handler : η) :
    (bus.insert id topic handler).Tidy := by
  have distinct : (((bus.topics.lookup topic).getD []).map Prod.fst).Nodup := by
    cases found : bus.topics.lookup topic with
    | none => exact List.nodup_nil
    | some subscribers => exact tidy.ids _ (tidy.mem_of_lookup found)
  refine ⟨nodup_put tidy.topics, ?_, ?_⟩
  · intro entry member
    rcases mem_put member with rfl | old
    · exact put_ne_nil _ _ _
    · exact tidy.filled entry old
  · intro entry member
    rcases mem_put member with rfl | old
    · exact nodup_put distinct
    · exact tidy.ids entry old

theorem Tidy.erase {bus : Bus η} (tidy : bus.Tidy) (id topic : String) :
    (bus.erase id topic).Tidy := by
  unfold Bus.erase
  cases found : bus.topics.lookup topic with
  | none => exact tidy
  | some subscribers =>
    have distinct := tidy.ids _ (tidy.mem_of_lookup found)
    by_cases empty : (remove id subscribers).isEmpty = true
    · simp only [empty, ↓reduceIte]
      refine ⟨nodup_remove tidy.topics, ?_, ?_⟩
      · exact fun entry member => tidy.filled entry (List.mem_filter.mp member).1
      · exact fun entry member => tidy.ids entry (List.mem_filter.mp member).1
    · simp only [empty, Bool.false_eq_true, ↓reduceIte]
      refine ⟨nodup_put tidy.topics, ?_, ?_⟩
      · intro entry member
        rcases mem_put member with rfl | old
        · intro none_left
          exact empty (List.isEmpty_iff.mpr none_left)
        · exact tidy.filled entry old
      · intro entry member
        rcases mem_put member with rfl | old
        · exact nodup_remove distinct
        · exact tidy.ids entry old

/-- Taking away what is not there changes nothing: a tidy registry has no topic to clear away. -/
theorem Tidy.erase_absent {bus : Bus η} (tidy : bus.Tidy) {id topic : String}
    (absent : bus.handler? id topic = none) : bus.erase id topic = bus := by
  unfold Bus.erase
  unfold handler? at absent
  cases found : bus.topics.lookup topic with
  | none => rfl
  | some subscribers =>
    rw [found, Option.bind_some] at absent
    have filled : subscribers.isEmpty = false := by
      rw [List.isEmpty_eq_false_iff]
      exact tidy.filled _ (tidy.mem_of_lookup found)
    simp only [remove_of_lookup absent, filled, Bool.false_eq_true, ↓reduceIte,
      put_of_lookup found]

theorem Tidy.mem_subscriptions {bus : Bus η} (tidy : bus.Tidy) {id topic : String} {handler : η} :
    ⟨topic, id, handler⟩ ∈ bus.subscriptions ↔ bus.handler? id topic = some handler := by
  unfold subscriptions handler?
  rw [List.mem_flatMap, Option.bind_eq_some_iff]
  constructor
  · rintro ⟨entry, member, inside⟩
    obtain ⟨subscriber, subscribed, same⟩ := List.mem_map.mp inside
    obtain ⟨rfl, rfl, rfl⟩ := Subscription.mk.inj same
    exact ⟨entry.2, (mem_iff_lookup tidy.topics).mp member,
      (mem_iff_lookup (tidy.ids entry member)).mp subscribed⟩
  · rintro ⟨subscribers, found, subscribed⟩
    have member := tidy.mem_of_lookup found
    exact ⟨(topic, subscribers), member,
      List.mem_map.mpr ⟨(id, handler), (mem_iff_lookup (tidy.ids _ member)).mpr subscribed, rfl⟩⟩

theorem Tidy.distinct_pairs {bus : Bus η} (tidy : bus.Tidy) :
    (bus.subscriptions.map Subscription.pair).Nodup := by
  have pairs : bus.subscriptions.map Subscription.pair =
      bus.topics.flatMap fun entry => entry.2.map fun subscriber => (entry.1, subscriber.1) := by
    simp only [subscriptions, List.map_flatMap, List.map_map]
    rfl
  rw [pairs, List.nodup_flatMap]
  constructor
  · intro entry member
    have ids := tidy.ids entry member
    have shape : (entry.2.map fun subscriber => (entry.1, subscriber.1)) =
        (entry.2.map Prod.fst).map (entry.1, ·) := by
      rw [List.map_map]
      rfl
    rw [shape]
    exact ids.map fun _ _ same => (Prod.mk.inj same).2
  · have apart := List.pairwise_map.mp tidy.topics
    apply apart.imp
    intro first second different pair left right
    obtain ⟨_, _, rfl⟩ := List.mem_map.mp left
    obtain ⟨_, _, same⟩ := List.mem_map.mp right
    exact different (Prod.mk.inj same).1.symm

theorem receivers_eq (bus : Bus η) (subject : String) :
    bus.receivers subject = (bus.subscriptions.filter fun subscription =>
      topicMatches subscription.topic subject).map Subscription.handler := by
  unfold receivers subscriptions
  induction bus.topics with
  | nil => rfl
  | cons entry rest ih =>
    rw [List.flatMap_cons, List.filter_append, List.map_append, ← ih, List.filter_map]
    cases taken : topicMatches entry.1 subject with
    | true =>
      have all : (entry.2.filter fun _ => true) = entry.2 := List.filter_true entry.2
      simp only [List.filter_cons, taken, ↓reduceIte, List.flatMap_cons, Function.comp_def, all,
        List.map_map]
    | false =>
      have none_left : (entry.2.filter fun _ => false) = [] := List.filter_false entry.2
      simp only [List.filter_cons, taken, Bool.false_eq_true, ↓reduceIte, Function.comp_def,
        none_left, List.map_nil, List.nil_append]

theorem size_eq (bus : Bus η) : bus.size = bus.subscriptions.length := by
  have counted : ∀ (entries : List (String × List (String × η))) (count : Nat),
      entries.foldl (fun count entry => count + entry.2.length) count =
        count + (entries.flatMap fun entry => entry.2.map fun subscriber =>
          (⟨entry.1, subscriber.1, subscriber.2⟩ : Subscription η)).length := by
    intro entries
    induction entries with
    | nil => exact fun count => rfl
    | cons entry rest ih =>
      intro count
      rw [List.foldl_cons, ih, List.flatMap_cons, List.length_append, List.length_map,
        Nat.add_assoc]
  exact (counted bus.topics 0).trans (Nat.zero_add _)

end Bus

end ChannelGate
