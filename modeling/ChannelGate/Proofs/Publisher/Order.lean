import ChannelGate.Proofs.Publisher.Ledger
import ChannelGate.Publisher.Work

set_option autoImplicit false

namespace ChannelGate.Publisher

open Machine

def Call.record? : Call → Option Record
  | .publish _ _ (.probing record _) => some record
  | .publish _ _ (.appending record _) => some record
  | .publish _ _ (.queued record) => some record
  | _ => none

/-- The publish call that a move begins, with the record of its event. -/
def Machine.builds? (m : Machine) : Move → Option (Nat × Record)
  | .publish _ event stamp =>
    match event.encoding with
    | .ok fields => some (m.calls.length, m.recordOf fields stamp)
    | .error _ => none
  | _ => none

/-- The publish calls of events that could be encoded, with their records. -/
def built (steps : List (Machine × Move)) : List (Nat × Record) :=
  steps.filterMap fun step => step.1.builds? step.2

theorem built_append_singleton (steps : List (Machine × Move)) (m : Machine) (move : Move) :
    built (steps ++ [(m, move)]) = built steps ++ (m.builds? move).toList := by
  cases builds : m.builds? move <;>
    simp [built, List.filterMap_append, builds]

variable {m after : Machine} {move : Move}

/-- What a move does to the calls: nothing, or one of them begins, or one of them goes on and its
record stays the same. -/
inductive CallWay (m : Machine) (move : Move) (after : Machine) : Prop
  | same (calls : after.calls = m.calls) (builds : m.builds? move = none)
  | enter (call : Call) (calls : after.calls = m.calls ++ [call])
    (builds : m.builds? move = call.record?.map (m.calls.length, ·))
  | proceed {number : Nat} {old : Call} (new : Call) (present : m.calls[number]? = some old)
    (calls : after.calls = m.calls.set number new)
    (record : ∀ record, new.record? = some record → old.record? = some record)
    (builds : m.builds? move = none)

theorem record?_of_ended {call : Call} (ended : call.record? = none) (other : Option Record)
    (record : Record) (same : call.record? = some record) : other = some record := by
  rw [ended] at same
  cases same

theorem Way.calls (way : Way m move after) : CallWay m move after := by
  cases way with
  | refuse unencoded => exact .enter _ rfl (by simp only [builds?, unencoded]; rfl)
  | begin encoded => exact .enter _ rfl (by simp only [builds?, encoded]; rfl)
  | ask | join | overtake => exact .enter _ rfl rfl
  | offer free head waiting =>
    rename_i number began rest scope record
    obtain ⟨calls, _⟩ := offer_calls { m with queue := rest } scope record
    refine .proceed (.publish began scope (.finished (.ok ()))) waiting ?_
      (record?_of_ended rfl _) rfl
    show (Machine.offer _ scope record).calls.set number _ = _
    rw [calls]
  | answer free head waiting => exact .proceed _ waiting rfl (record?_of_ended rfl _) rfl
  | probed waiting | unprobed waiting | late waiting =>
    exact .proceed _ waiting rfl (fun _ same => same) rfl
  | store waiting | fail waiting | joined waiting | abandoned waiting | closed waiting =>
    exact .proceed _ waiting rfl (record?_of_ended rfl _) rfl
  | drain | loopStored => exact .same (drainNext_calls ..) rfl
  | loopFailed => exact .same (finishDrain_calls ..) rfl
  | _ => exact .same rfl rfl

theorem mem_accepted {fates : List (Nat × Fate)} {number : Nat} {record : Record} :
    (number, record) ∈ accepted fates ↔ (number, .buffered record) ∈ fates := by
  unfold accepted
  rw [List.mem_filterMap]
  constructor
  · intro given
    obtain ⟨⟨other, fate⟩, member, same⟩ := given
    cases fate <;> cases same
    exact member
  · intro member
    exact ⟨_, member, rfl⟩

/-- A call whose record the buffer takes carried that record. -/
theorem carried_of_settles {number : Nat} {record : Record}
    (settled : m.settles? move = some (number, .buffered record)) :
    ∃ call, m.calls[number]? = some call ∧ call.record? = some record := by
  unfold settles? at settled
  split at settled
  · split at settled <;> cases settled
  · split at settled
    · split at settled <;> cases settled
    · cases settled
  · split at settled
    · split at settled
      · rename_i present
        split at settled
        · cases settled
          exact ⟨_, present, rfl⟩
        · cases settled
      · cases settled
    · cases settled
  · cases settled

/-- The records that calls carry, and those that the buffer took, were built for these calls. -/
structure Origins (built : List (Nat × Record)) (fates : List (Nat × Fate)) (calls : List Call) :
    Prop where
  carried : ∀ number call record, calls[number]? = some call → call.record? = some record →
    (number, record) ∈ built
  taken : ∀ entry ∈ accepted fates, entry ∈ built

theorem Origins.way {built : List (Nat × Record)} {fates : List (Nat × Fate)}
    (origins : Origins built fates m.calls) (way : Way m move after) :
    Origins (built ++ (m.builds? move).toList) (fates ++ (m.settles? move).toList)
      after.calls := by
  constructor
  · intro number call record present carries
    rw [List.mem_append]
    cases way.calls with
    | same calls =>
      rw [calls] at present
      exact .inl (origins.carried number call record present carries)
    | enter begun calls builds =>
      rw [calls, List.getElem?_append] at present
      split at present
      · exact .inl (origins.carried number call record present carries)
      · rename_i outside
        have same : call = begun := List.mem_singleton.mp (List.mem_of_getElem? present)
        have last : number = m.calls.length := by
          have inside := (List.getElem?_eq_some_iff.mp present).1
          rw [List.length_singleton] at inside
          omega
        rw [same] at carries
        rw [builds, carries, last]
        exact .inr (List.mem_singleton.mpr rfl)
    | proceed new old calls kept =>
      rename_i other before _
      rw [calls] at present
      by_cases same : other = number
      · subst same
        rw [List.getElem?_set_self (List.getElem?_eq_some_iff.mp old).1] at present
        cases present
        exact .inl (origins.carried other before record old (kept record carries))
      · rw [List.getElem?_set_ne same] at present
        exact .inl (origins.carried number call record present carries)
  · intro given member
    obtain ⟨number, record⟩ := given
    rw [accepted_append, List.mem_append] at member
    rw [List.mem_append]
    rcases member with old | new
    · exact .inl (origins.taken _ old)
    · rw [mem_accepted, Option.mem_toList] at new
      obtain ⟨call, present, carries⟩ := carried_of_settles new
      exact .inl (origins.carried number call record present carries)

theorem Trail.origins {settings : Settings} {steps : List (Machine × Move)} {m : Machine}
    (trail : Trail settings steps m) : Origins (built steps) (fates steps) m.calls := by
  induction trail with
  | start valid store host => exact ⟨nofun, nofun⟩
  | move move _ made ih =>
    rw [built_append_singleton, fates_append_singleton]
    exact ih.way (way_of_act made)

/-- What was built for a call is the stamped record of the event that the call publishes. -/
theorem Trail.mem_built {settings : Settings} {steps : List (Machine × Move)} {m : Machine}
    (trail : Trail settings steps m) {number : Nat} {record : Record}
    (member : (number, record) ∈ built steps) :
    ∃ before scope event stamp fields, (before, Move.publish scope event stamp) ∈ steps ∧
      before.calls.length = number ∧ event.encoding = .ok fields ∧
      record = ⟨settings.stream, settings.maxStreamLen,
        fields.insert occurredAt (.int stamp)⟩ := by
  obtain ⟨⟨before, move⟩, step, builds⟩ := List.mem_filterMap.mp member
  obtain ⟨earlier, left⟩ := trail.before _ step
  cases move with
  | publish scope event stamp =>
    simp only [builds?] at builds
    split at builds
    · rename_i fields encoded
      cases builds
      refine ⟨before, scope, event, stamp, fields, step, rfl, encoded, ?_⟩
      rw [recordOf, left.settings_eq]
    · cases builds
  | _ => cases builds

theorem accepted_numbers_sublist (fates : List (Nat × Fate)) :
    ((accepted fates).map Prod.fst).Sublist (fates.map Prod.fst) := by
  induction fates with
  | nil => exact .slnil
  | cons entry rest ih =>
    obtain ⟨number, fate⟩ := entry
    cases fate with
    | buffered record => exact ih.cons_cons number
    | _ => exact ih.cons number

/-- Whenever the lock is free, the records that the buffer ever took, in the order in which it took
them, are those that the recovery loop stored, in order, and then those that wait. Each belongs to
a publish call of its own and is the record that was built when its event was published. -/
theorem buffered_records_in_order {settings : Settings} {steps : List (Machine × Move)}
    {m : Machine} (trail : Trail settings steps m) (free : m.isDraining = false) :
    (accepted (fates steps)).map Prod.snd = drained m.stored ++ m.buffer.records ∧
      ((accepted (fates steps)).map Prod.fst).Nodup ∧
      ∀ number record, (number, record) ∈ accepted (fates steps) →
        ∃ before scope event stamp fields, (before, Move.publish scope event stamp) ∈ steps ∧
          before.calls.length = number ∧ event.encoding = .ok fields ∧
          record = ⟨settings.stream, settings.maxStreamLen,
            fields.insert occurredAt (.int stamp)⟩ := by
  have books := trail.books
  refine ⟨(books.flow_of_free free).fifo.symm,
    books.settled.once.sublist (accepted_numbers_sublist _), ?_⟩
  intro number record member
  exact trail.mem_built (trail.origins.taken _ member)

theorem buffered_records_in_order_outage :
    ∃ m, Trail .standard (unsteady.path outage) m ∧ m.isDraining = false ∧
      (accepted (fates (unsteady.path outage))).map Prod.snd =
        drained m.stored ++ m.buffer.records ∧
      (drained m.stored).map Record.fields = [[("occurred_at", .int 1)]] ∧
      m.buffer.records.map Record.fields = [[("occurred_at", .int 2)]] := by
  obtain ⟨m, made, free, stored, waiting⟩ : ∃ m, outage.foldlM act unsteady = some m ∧
      m.isDraining = false ∧ (drained m.stored).map Record.fields = [[("occurred_at", .int 1)]] ∧
      m.buffer.records.map Record.fields = [[("occurred_at", .int 2)]] :=
    ⟨_, rfl, rfl, rfl, rfl⟩
  have trail := (Trail.start _ _ _).follow outage made
  exact ⟨m, trail, free, (buffered_records_in_order trail free).1, stored, waiting⟩

end ChannelGate.Publisher
