import ChannelGate.Proofs.Publisher.Ledger
import ChannelGate.Proofs.Publisher.Turns
import Mathlib.Logic.Function.Basic

set_option autoImplicit false

namespace ChannelGate.Publisher

open Machine

def Call.isQueued : Call → Bool
  | .publish _ _ (.queued _) | .pending none => true
  | _ => false

def Machine.wants (m : Machine) : Party → Bool
  | .loop => m.loop.isQueued
  | .call number => (m.calls[number]?).any Call.isQueued

variable {m after : Machine} {move : Move}

theorem wants_of_set {number : Nat} {old : Call} (new : Call)
    (present : m.calls[number]? = some old) (calls : after.calls = m.calls.set number new)
    (loop : after.loop = m.loop) :
    after.wants = Function.update m.wants (.call number) new.isQueued := by
  funext party
  cases party with
  | loop => simp [wants, loop]
  | call other =>
    have inside := (List.getElem?_eq_some_iff.mp present).1
    by_cases same : other = number
    · subst same
      simp [wants, calls, inside]
    · have apart : Party.call other ≠ Party.call number := fun equal => same (Party.call.inj equal)
      rw [Function.update_of_ne apart]
      simp only [wants, calls, List.getElem?_set_ne (Ne.symm same)]

theorem wants_of_append (call : Call) (calls : after.calls = m.calls ++ [call])
    (loop : after.loop = m.loop) :
    after.wants = Function.update m.wants (.call m.calls.length) call.isQueued := by
  funext party
  cases party with
  | loop => simp [wants, loop]
  | call other =>
    by_cases same : other = m.calls.length
    · subst same
      simp [wants, calls]
    · have apart : Party.call other ≠ Party.call m.calls.length :=
        fun equal => same (Party.call.inj equal)
      rw [Function.update_of_ne apart]
      simp only [wants, calls]
      by_cases inside : other < m.calls.length
      · rw [List.getElem?_append_left inside]
      · rw [List.getElem?_eq_none (by simp; omega), List.getElem?_eq_none (by omega)]

theorem wants_of_loop (calls : after.calls = m.calls) :
    after.wants = Function.update m.wants .loop after.loop.isQueued := by
  funext party
  cases party with
  | loop => simp [wants]
  | call other => simp [wants, calls]

/-- What a move does to the lock: a party comes to want it and goes to the end of the queue, or the
first of the queue takes it and wants it no more, or neither. -/
inductive QueueWay (m : Machine) (move : Move) (after : Machine) : Prop
  | keeps (queue : after.queue = m.queue) (wants : after.wants = m.wants)
  | joins (party : Party) (queue : after.queue = m.queue ++ [party])
    (before : m.wants party = false) (wants : after.wants = Function.update m.wants party true)
  | leaves (party : Party) (granted : move = .grant) (free : m.isDraining = false)
    (queue : m.queue = party :: after.queue)
    (wants : after.wants = Function.update m.wants party false)

theorem wants_of_passed {first : Party}
    (unwanted : ∀ number began scope record, first = .call number →
      m.calls[number]? ≠ some (.publish began scope (.queued record)))
    (unasked : ∀ number, first = .call number → m.calls[number]? ≠ some (.pending none))
    (idle : first = .loop → m.loop.isQueued = false) : m.wants first = false := by
  cases first with
  | loop => exact idle rfl
  | call number =>
    show (m.calls[number]?).any Call.isQueued = false
    cases present : m.calls[number]? with
    | none => rfl
    | some call =>
      rw [Option.any_some]
      unfold Call.isQueued
      split
      · exact absurd present (unwanted number _ _ _ rfl)
      · exact absurd present (unasked number rfl)
      · rfl

theorem wants_call {number : Nat} {call : Call} (present : m.calls[number]? = some call) :
    m.wants (.call number) = call.isQueued := by
  rw [wants, present]
  rfl

theorem wants_new : m.wants (.call m.calls.length) = false := by
  rw [wants, List.getElem?_eq_none (Nat.le_refl _)]
  rfl

/-- A call that goes on without the lock. -/
theorem QueueWay.proceed {number : Nat} {old : Call} (new : Call)
    (present : m.calls[number]? = some old) (before : old.isQueued = false)
    (behind : new.isQueued = false) (calls : after.calls = m.calls.set number new)
    (loop : after.loop = m.loop) (queue : after.queue = m.queue) : QueueWay m move after := by
  refine .keeps queue ?_
  rw [wants_of_set new present calls loop, behind]
  exact Function.update_eq_self_iff.mpr ((wants_call present).trans before).symm

/-- A call that begins without the lock. -/
theorem QueueWay.enter (call : Call) (behind : call.isQueued = false)
    (calls : after.calls = m.calls ++ [call]) (loop : after.loop = m.loop)
    (queue : after.queue = m.queue) : QueueWay m move after := by
  refine .keeps queue ?_
  rw [wants_of_append call calls loop, behind]
  exact Function.update_eq_self_iff.mpr wants_new.symm

/-- A publish call that comes to want the lock. -/
theorem QueueWay.ask {number : Nat} {old : Call} (new : Call)
    (present : m.calls[number]? = some old) (before : old.isQueued = false)
    (behind : new.isQueued = true) (calls : after.calls = m.calls.set number new)
    (loop : after.loop = m.loop) (queue : after.queue = m.queue ++ [.call number]) :
    QueueWay m move after := by
  refine .joins (.call number) queue ((wants_call present).trans before) ?_
  rw [wants_of_set new present calls loop, behind]

/-- A recovery loop that goes on without the lock. -/
theorem QueueWay.turn (before : m.loop.isQueued = false) (behind : after.loop.isQueued = false)
    (calls : after.calls = m.calls) (queue : after.queue = m.queue) : QueueWay m move after := by
  refine .keeps queue ?_
  rw [wants_of_loop calls, behind]
  exact Function.update_eq_self_iff.mpr before.symm

/-- A recovery loop that comes to want the lock. -/
theorem QueueWay.knock (before : m.loop.isQueued = false) (behind : after.loop.isQueued = true)
    (calls : after.calls = m.calls) (queue : after.queue = m.queue ++ [.loop]) :
    QueueWay m move after := by
  refine .joins .loop queue before ?_
  rw [wants_of_loop calls, behind]

/-- A recovery loop that gets the lock. -/
theorem QueueWay.serve {rest : List Party} (free : m.isDraining = false)
    (head : m.queue = .loop :: rest) (behind : after.loop.isQueued = false)
    (calls : after.calls = m.calls) (queue : after.queue = rest) : QueueWay m .grant after := by
  refine .leaves .loop rfl free (queue ▸ head) ?_
  rw [wants_of_loop calls, behind]

theorem Machine.finishDrain_unqueued (m : Machine) (due count : Nat) :
    (m.finishDrain due count).loop.isQueued = false := by
  obtain ⟨lines, same⟩ := m.finishDrain_eq due count
  rw [same]
  rfl

theorem Machine.drainNext_unqueued (m : Machine) (due count : Nat) :
    (m.drainNext due count).loop.isQueued = false := by
  obtain ⟨_, same⟩ | ⟨_, _, _, _, _, _, same⟩ := m.drainNext_cases due count
  · rw [same]
    exact m.finishDrain_unqueued due count
  · rw [same]
    rfl

theorem Way.queue (way : Way m move after) : QueueWay m move after := by
  have calm : ∀ {loop : Loop}, m.loop = loop → loop.isQueued = false →
      m.loop.isQueued = false := by
    intro loop same idle
    rwa [same]
  cases way with
  | refuse | begin | join | overtake => exact .enter _ rfl rfl rfl rfl
  | ask =>
    refine .joins _ rfl wants_new ?_
    apply wants_of_append (.pending none)
    · rfl
    · rfl
  | cancel | restock | wait => exact .keeps rfl rfl
  | @offer number began rest scope record free head waiting =>
    have untouched := offer_untouched { m with queue := rest } scope record
    have loop := (offer_calls { m with queue := rest } scope record).2.2.1
    refine .leaves (.call number) rfl free (head.trans (congrArg _ untouched.queue.symm)) ?_
    refine wants_of_set (.publish began scope (.finished (.ok ()))) waiting ?_ loop
    show (Machine.offer _ scope record).calls.set number _ = _
    rw [untouched.calls]
  | answer free head waiting =>
    refine .leaves _ rfl free head ?_
    apply wants_of_set (.pending (some m.buffer.size)) waiting
    · rfl
    · rfl
  | @pass first rest free head unwanted unasked idle =>
    refine .leaves first rfl free head ?_
    exact (Function.update_eq_self_iff.mpr (wants_of_passed unwanted unasked idle).symm).symm
  | rest free head | probe free head | halt free head => exact .serve free head rfl rfl rfl
  | @drain due rest free head loop =>
    have untouched := drainNext_untouched { m with queue := rest } due 0
    exact .serve free head (drainNext_unqueued ..) untouched.calls untouched.queue
  | probed waiting | store waiting | fail waiting | joined waiting | abandoned waiting
  | closed waiting =>
    exact .proceed _ waiting rfl rfl rfl rfl rfl
  | unprobed waiting | late waiting => exact .ask _ waiting rfl rfl rfl rfl rfl
  | stop loop | tick loop | loopProbed loop => exact .knock (calm loop rfl) rfl rfl rfl
  | loopUnprobed loop => exact .turn (calm loop rfl) rfl rfl rfl
  | loopStored loop =>
    exact .turn (calm loop rfl) (drainNext_unqueued ..) (drainNext_untouched ..).calls
      (drainNext_untouched ..).queue
  | loopFailed loop =>
    exact .turn (calm loop rfl) (finishDrain_unqueued ..) (finishDrain_untouched ..).calls
      (finishDrain_untouched ..).queue

/-- The queue holds those who want the lock, each once. -/
def Queued (m : Machine) : Prop := ∀ party, m.queue.count party = (m.wants party).toNat

theorem Queued.way (queued : Queued m) (way : Way m move after) : Queued after := by
  intro party
  have before := queued party
  cases way.queue with
  | keeps queue wants => rw [queue, wants, before]
  | joins joining queue unwanted wants =>
    rw [queue, wants, List.count_append, List.count_singleton, before]
    by_cases same : party = joining
    · subst same
      simp [unwanted]
    · simp [Function.update_of_ne same, Ne.symm same]
  | leaves leaving granted free queue wants =>
    -- One entry is gone; there was only one, as a party cannot want the lock twice.
    rw [queue, List.count_cons] at before
    rw [wants]
    by_cases same : party = leaving
    · subst same
      have once := Bool.toNat_le (m.wants party)
      simp only [BEq.rfl, ↓reduceIte] at before
      rw [Function.update_self, Bool.toNat_false]
      omega
    · rw [Function.update_of_ne same, ← before]
      simp [Ne.symm same]

/-- Everybody who wants the lock stands in the queue. -/
theorem Queued.mem_iff (queued : Queued m) (party : Party) :
    party ∈ m.queue ↔ m.wants party = true := by
  rw [← List.count_pos_iff, queued party]
  cases m.wants party <;> decide

/-- The lock never comes to somebody who does not want it. -/
theorem Queued.wants_head (queued : Queued m) {first : Party} {rest : List Party}
    (head : m.queue = first :: rest) : m.wants first = true := by
  rw [← queued.mem_iff, head]
  exact List.mem_cons_self

theorem Trail.queued {settings : Settings} {steps : List (Machine × Move)}
    (trail : Trail settings steps m) : Queued m := by
  induction trail with
  | start valid store host =>
    intro party
    cases party with
    | call number => rfl
    | loop =>
      change 0 = (Loop.launched settings host).isQueued.toNat
      obtain ⟨_, loop⟩ | ⟨_, loop⟩ := Loop.launched_cases settings host <;> rw [loop] <;> rfl
  | move move _ made ih => exact ih.way (way_of_act made)

/-- A reply is awaited from now on, and no longer than the limit. -/
theorem Reply.within_endsAt (reply : Reply) (now limit : Nat) :
    now ≤ (reply.within now limit).endsAt ∧ (reply.within now limit).endsAt ≤ now + limit := by
  unfold within
  split
  · exact ⟨Nat.le_add_right _ _, Nat.le_refl _⟩
  · split
    · rename_i inTime
      exact ⟨Nat.le_add_right _ _, Nat.add_le_add_left inTime _⟩
    · exact ⟨Nat.le_add_right _ _, Nat.le_refl _⟩

/-- What a move does to the drain. It starts when the lock comes to the recovery loop, writes one
record after the other, and ends with all of them written or with one that it puts back. While it
lasts nobody else touches the buffer. -/
inductive DrainWay (m after : Machine) : Prop
  | idle (before : m.isDraining = false) (behind : after.isDraining = false)
    (room : m.buffer.size ≤ m.buffer.capacity → after.buffer.size ≤ m.buffer.capacity)
  | starts {due count : Nat} {record : Record} {call : Awaited} {rest : List Party}
    (before : m.isDraining = false) (head : m.queue = .loop :: rest)
    (behind : after.loop = .draining due record count call) (later : m.now ≤ call.endsAt)
    (soon : call.endsAt ≤ m.now + m.settings.writeTimeout)
    (records : m.buffer.records = record :: after.buffer.records)
  | holds (before : m.isDraining = true) (behind : after.loop = m.loop)
    (records : after.buffer.records = m.buffer.records)
  | goes {due nextDue count nextCount : Nat} {record next : Record} {call nextCall : Awaited}
    (before : m.loop = .draining due record count call) (come : call.endsAt ≤ m.now)
    (behind : after.loop = .draining nextDue next nextCount nextCall)
    (later : m.now ≤ nextCall.endsAt)
    (soon : nextCall.endsAt ≤ m.now + m.settings.writeTimeout)
    (records : m.buffer.records = next :: after.buffer.records)
  | ends {due count : Nat} {record : Record} {call : Awaited}
    (before : m.loop = .draining due record count call) (come : call.endsAt ≤ m.now)
    (behind : after.isDraining = false) (gone : after.loop.isQueued = false)
    (records : after.buffer.size ≤ m.buffer.size + 1)

theorem Machine.finishDrain_idle (m : Machine) (due count : Nat) :
    (m.finishDrain due count).isDraining = false ∧
      (m.finishDrain due count).buffer = m.buffer := by
  obtain ⟨lines, same⟩ := m.finishDrain_eq due count
  rw [same]
  exact ⟨rfl, rfl⟩

/-- A drain that goes on awaits the write of the next record. -/
theorem Machine.drainNext_draining (m : Machine) (due count : Nat) :
    (m.drainNext due count).isDraining = false ∧ (m.drainNext due count).buffer = m.buffer ∨
    ∃ record call, (m.drainNext due count).loop = .draining due record count call ∧
      m.now ≤ call.endsAt ∧ call.endsAt ≤ m.now + m.settings.writeTimeout ∧
      m.buffer.records = record :: (m.drainNext due count).buffer.records := by
  unfold drainNext Buffer.popFront
  cases m.buffer.records with
  | nil => exact .inl (m.finishDrain_idle due count)
  | cons record rest =>
    obtain ⟨later, soon⟩ := (Reply.take m.store.appends).1.within_endsAt m.now
      m.settings.writeTimeout
    exact .inr ⟨record, _, rfl, later, soon, rfl⟩

theorem DrainWay.same (loop : after.loop = m.loop) (buffer : after.buffer = m.buffer) :
    DrainWay m after := by
  cases draining : m.isDraining with
  | false =>
    refine .idle draining ?_ ?_
    · rwa [isDraining, loop]
    · rw [buffer]
      exact id
  | true => exact .holds draining loop (congrArg Buffer.records buffer)

theorem DrainWay.turn (before : m.isDraining = false) (behind : after.isDraining = false)
    (records : after.buffer.records = m.buffer.records) : DrainWay m after := by
  refine .idle before behind ?_
  rw [Buffer.size, Buffer.size, records]
  exact id

theorem tryPush_queued {buffer : Buffer} {record : Record}
    (queued : (buffer.tryPush record).1 = .queued) :
    buffer.closed = false ∧ buffer.size < buffer.capacity := by
  unfold Buffer.tryPush at queued
  split at queued
  · cases queued
  split at queued
  · cases queued
  · rename_i unclosed fits
    exact ⟨Bool.not_eq_true _ ▸ unclosed, Nat.lt_of_not_le fits⟩

theorem tryPush_refused {buffer : Buffer} {record : Record}
    (refused : (buffer.tryPush record).1 ≠ .queued) :
    buffer.closed = true ∨ buffer.capacity ≤ buffer.size := by
  unfold Buffer.tryPush at refused
  split at refused
  · rename_i closed
    exact .inl closed
  split at refused
  · rename_i full
    exact .inr full
  · exact absurd rfl refused

theorem Machine.offer_size (m : Machine) (scope : List String) (record : Record)
    (room : m.buffer.size ≤ m.buffer.capacity) :
    (m.offer scope record).buffer.size ≤ m.buffer.capacity := by
  obtain ⟨queued, lines, same⟩ | ⟨_, lines, same⟩ := m.offer_cases scope record
  · rw [same]
    show (m.buffer.records ++ [record]).length ≤ _
    rw [List.length_append, List.length_singleton]
    exact (tryPush_queued queued).2
  · rw [same]
    exact room

theorem Way.drain_way (way : Way m move after) : DrainWay m after := by
  have free : ∀ {loop : Loop}, m.loop = loop → loop.hand = [] → m.isDraining = false := by
    intro loop same empty
    rw [isDraining_eq, same, empty]
    rfl
  cases way with
  | @offer number began rest scope record free head waiting =>
    refine .idle free ?_ (offer_size { m with queue := rest } scope record)
    have loop := (offer_calls { m with queue := rest } scope record).2.2.1
    rw [isDraining_eq] at free ⊢
    show (!((Machine.offer _ scope record).loop.hand.isEmpty)) = false
    rw [loop]
    exact free
  | rest unheld | probe unheld | halt unheld => exact .turn unheld rfl rfl
  | @drain due rest unheld head loop =>
    rcases drainNext_draining { m with queue := rest } due 0 with
      ⟨behind, buffer⟩ | ⟨record, call, behind, later, soon, records⟩
    · exact .turn unheld behind (congrArg Buffer.records buffer)
    · exact .starts unheld head behind later soon records
  | stop loop | tick loop | loopProbed loop | loopUnprobed loop =>
    exact .turn (free loop rfl) rfl rfl
  | @loopStored due count record call loop come answered =>
    rcases drainNext_draining { m with stored := _ } due (count + 1) with
      ⟨behind, buffer⟩ | ⟨next, nextCall, behind, later, soon, records⟩
    · refine .ends loop come behind (drainNext_unqueued ..) ?_
      rw [buffer]
      exact Nat.le_add_right _ _
    · exact .goes loop come behind later soon records
  | loopFailed loop come =>
    obtain ⟨behind, buffer⟩ := finishDrain_idle (log { m with buffer := _ } _ _ _ _) _ _
    refine .ends loop come behind (finishDrain_unqueued ..) ?_
    rw [buffer]
    exact Nat.le_refl _
  | _ => exact .same rfl rfl

theorem Way.capacity_eq (way : Way m move after) :
    after.buffer.capacity = m.buffer.capacity := by
  cases way with
  | offer => exact (offer_untouched ..).capacity
  | drain | loopStored => exact (drainNext_untouched ..).capacity
  | loopFailed => exact (finishDrain_untouched ..).capacity
  | _ => rfl

/-- The buffer and the hand of the drain hold no more than the buffer may. -/
structure HasRoom (m : Machine) : Prop where
  capacity : m.buffer.capacity = m.settings.maxPending
  size : m.loop.hand.length + m.buffer.size ≤ m.buffer.capacity

theorem hand_of_free (free : m.isDraining = false) : m.loop.hand = [] := by
  rw [isDraining_eq] at free
  simpa using free

theorem HasRoom.way (room : HasRoom m) (way : Way m move after) : HasRoom after := by
  obtain ⟨capacity, size⟩ := room
  refine ⟨by rw [way.capacity_eq, way.settings_eq, capacity], ?_⟩
  rw [way.capacity_eq]
  cases way.drain_way with
  | idle before behind fits =>
    rw [hand_of_free before, List.length_nil, Nat.zero_add] at size
    rw [hand_of_free behind, List.length_nil, Nat.zero_add]
    exact fits size
  | starts before head behind later soon records =>
    rw [Buffer.size, records, List.length_cons] at size
    rw [behind, Loop.hand, List.length_singleton, Buffer.size]
    omega
  | holds before behind records => rwa [behind, Buffer.size, records]
  | goes before come behind later soon records =>
    rw [Buffer.size, records, List.length_cons] at size
    rw [behind, Loop.hand, List.length_singleton, Buffer.size]
    omega
  | ends before come behind gone records =>
    rw [before, Loop.hand, List.length_singleton] at size
    rw [hand_of_free behind, List.length_nil]
    omega

theorem Trail.hasRoom {settings : Settings} {steps : List (Machine × Move)}
    (trail : Trail settings steps m) : HasRoom m := by
  induction trail with
  | start valid store host =>
    refine ⟨rfl, ?_⟩
    change (Loop.launched settings host).hand.length + 0 ≤ settings.maxPending
    rw [Loop.hand_launched]
    exact Nat.zero_le _
  | move move _ made ih => exact ih.way (way_of_act made)

end ChannelGate.Publisher
