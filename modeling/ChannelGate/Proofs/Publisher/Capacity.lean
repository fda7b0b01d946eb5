import ChannelGate.Proofs.Publisher.Lock

set_option autoImplicit false

namespace ChannelGate.Publisher

open Machine

/-- The record that a move offers to the buffer: that of the publish call that gets the lock. -/
def Machine.offered? (m : Machine) : Move → Option Record
  | .grant =>
    match m.queue with
    | .call number :: _ =>
      match m.calls[number]? with
      | some (.publish _ _ (.queued record)) => some record
      | _ => none
    | _ => none
  | _ => none

/-- When a buffer that may hold `limit` records answers an offer so, and what becomes of the buffer
and the metrics. -/
inductive Admission (limit : Nat) (record : Record) (buffer : Buffer) (metrics : Metrics) :
    PushOutcome → Buffer → Metrics → Prop
  | queued (opened : buffer.closed = false) (room : buffer.size < limit) :
    Admission limit record buffer metrics .queued
      { buffer with records := buffer.records ++ [record] }
      ((metrics.increase 1 .buffered).setPending (buffer.records ++ [record]).length)
  | full (opened : buffer.closed = false) (filled : buffer.size = limit) :
    Admission limit record buffer metrics .full buffer (metrics.increase 1 .dropped)
  | closed (closed : buffer.closed = true) :
    Admission limit record buffer metrics .closed buffer (metrics.increase 1 .dropped)

variable {settings : Settings} {steps : List (Machine × Move)} {m after : Machine} {move : Move}

/-- A buffer that never holds more than its capacity is filled to it when it is full. -/
theorem Machine.offer_admission (m : Machine) (scope : List String) (record : Record)
    (fits : m.buffer.size ≤ m.buffer.capacity) :
    Admission m.buffer.capacity record m.buffer m.metrics (m.buffer.tryPush record).1
      (m.offer scope record).buffer (m.offer scope record).metrics := by
  unfold offer
  by_cases closed : m.buffer.closed = true
  · have pushed : m.buffer.tryPush record = (.closed, m.buffer) := by
      rw [Buffer.tryPush, if_pos closed]
    rw [pushed]
    exact .closed closed
  · have opened : m.buffer.closed = false := Bool.not_eq_true _ ▸ closed
    by_cases filled : m.buffer.capacity ≤ m.buffer.size
    · have pushed : m.buffer.tryPush record = (.full, m.buffer) := by
        rw [Buffer.tryPush, if_neg closed, if_pos filled]
      rw [pushed]
      exact .full opened (Nat.le_antisymm fits filled)
    · have pushed : m.buffer.tryPush record =
          (.queued, { m.buffer with records := m.buffer.records ++ [record] }) := by
        rw [Buffer.tryPush, if_neg closed, if_neg filled]
      rw [pushed]
      exact .queued opened (Nat.lt_of_not_le filled)

/-- An offer is made with the lock free. -/
theorem Way.admission (way : Way m move after) (room : HasRoom m) {record : Record}
    (offers : m.offered? move = some record) :
    m.loop.hand = [] ∧ Admission m.settings.maxPending record m.buffer m.metrics
      (m.buffer.tryPush record).1 after.buffer after.metrics := by
  cases way with
  | @offer number began rest scope offered free head waiting =>
    simp only [offered?, head, waiting, Option.some.injEq] at offers
    subst offers
    have empty := hand_of_free free
    have fits := room.size
    rw [empty, List.length_nil, Nat.zero_add] at fits
    refine ⟨empty, ?_⟩
    rw [← room.capacity]
    exact offer_admission { m with queue := rest } scope offered fits
  | answer free head waiting => simp [offered?, head, waiting] at offers
  | pass free head unwanted =>
    simp only [offered?, head] at offers
    split at offers
    · rename_i number _ same
      cases same
      split at offers
      · rename_i waiting
        exact absurd waiting (unwanted _ _ _ _ rfl)
      · cases offers
    · cases offers
  | rest _ head | probe _ head | drain _ head | halt _ head => simp [offered?, head] at offers
  | _ => cases offers

theorem Machine.finishDrain_dropped (m : Machine) (due count : Nat) :
    (m.finishDrain due count).metrics.dropped = m.metrics.dropped := by
  obtain ⟨lines, same⟩ := m.finishDrain_eq due count
  rw [same]
  rfl

theorem Machine.drainNext_dropped (m : Machine) (due count : Nat) :
    (m.drainNext due count).metrics.dropped = m.metrics.dropped := by
  obtain ⟨_, same⟩ | ⟨_, _, _, _, _, _, same⟩ := m.drainNext_cases due count
  · rw [same]
    exact m.finishDrain_dropped due count
  · rw [same]

/-- Nothing is dropped but what was offered. -/
theorem Way.dropped_eq (way : Way m move after) (offers : m.offered? move = none) :
    after.metrics.dropped = m.metrics.dropped := by
  cases way with
  | offer free head waiting => simp [offered?, head, waiting] at offers
  | drain | loopStored => exact drainNext_dropped ..
  | loopFailed => exact finishDrain_dropped ..
  | _ => rfl

/-- A write of the drain that fails puts its record back in front, and the hand is empty again. -/
theorem Way.put_back (way : Way m .loopAppended after) {due count : Nat} {record : Record}
    {call : Awaited} {error : EventError} (loop : m.loop = .draining due record count call)
    (failed : call.result (.writeTimeout m.settings.writeTimeout) = .error error) :
    after.buffer = m.buffer.pushFront record ∧ after.loop.hand = [] := by
  cases way with
  | loopStored held come answered =>
    cases loop.symm.trans held
    rw [failed] at answered
    cases answered
  | loopFailed held come =>
    cases loop.symm.trans held
    obtain ⟨free, buffer⟩ := finishDrain_idle (log { m with buffer := _ } _ _ _ _) due count
    exact ⟨buffer, hand_of_free free⟩

/-- In every state of a run the buffer and the hand of the drain hold together no more than the
settings allow; a record that could not be written is put back and fits; a publish call that gets
the lock finds the hand empty, and its record is refused by an open buffer only if this holds just
what it may; and nothing else is dropped. -/
theorem buffer_keeps_its_bound (trail : Trail settings steps m) :
    m.loop.hand.length + m.buffer.size ≤ settings.maxPending ∧
    (∀ due record count call error after, m.loop = .draining due record count call →
      call.result (.writeTimeout settings.writeTimeout) = .error error →
      m.act .loopAppended = some after →
      after.buffer = m.buffer.pushFront record ∧ after.loop.hand = [] ∧
        after.buffer.size ≤ settings.maxPending) ∧
    ∀ move after, m.act move = some after →
      (∀ record, m.offered? move = some record →
        m.loop.hand = [] ∧ Admission settings.maxPending record m.buffer m.metrics
          (m.buffer.tryPush record).1 after.buffer after.metrics) ∧
      (m.offered? move = none → after.metrics.dropped = m.metrics.dropped) := by
  have room := trail.hasRoom
  have same := trail.settings_eq
  refine ⟨?_, ?_, ?_⟩
  · rw [← same, ← room.capacity]
    exact room.size
  · intro due record count call error after loop failed made
    rw [← same] at failed ⊢
    have way := way_of_act made
    obtain ⟨back, empty⟩ := way.put_back loop failed
    refine ⟨back, empty, ?_⟩
    -- With the hand empty the bound of the new state is one on its buffer alone.
    have room' := room.way way
    have size := room'.size
    rw [room'.capacity, empty, List.length_nil, Nat.zero_add, way.settings_eq] at size
    exact size
  · intro move after made
    rw [← same]
    have way := way_of_act made
    exact ⟨fun record offers => way.admission room offers, way.dropped_eq⟩

def narrow : Settings := ⟨"events", 10, 2, 60000, 100, 1000⟩

/-- A store that is down for two probes, answers the third, is down again for the fourth, and fails
at every write. -/
def crowded : Machine :=
  Machine.initial narrow (by decide)
    { pings := [⟨some 0, .error (.store "down")⟩, ⟨some 0, .error (.store "down")⟩, .ready,
        ⟨some 0, .error (.store "down")⟩]
      appends := [⟨some 0, .error (.store "down")⟩]
      closes := [] }
    .fresh

/-- Two events fill the buffer. A third one waits for the lock while the drain writes the first,
which is put back. -/
def squeeze : List Move :=
  [.publish [] ⟨"first", .ok []⟩ 1, .probed 0, .grant, .publish [] ⟨"second", .ok []⟩ 2,
    .probed 1, .grant, .wait 60000, .tick, .grant, .loopProbed, .grant,
    .publish [] ⟨"third", .ok []⟩ 3, .probed 2]

theorem buffer_keeps_its_bound_narrow :
    ∃ held full after, Trail narrow (crowded.path squeeze) held ∧ held.loop.hand.length = 1 ∧
      held.buffer.size = 1 ∧ held.act .loopAppended = some full ∧ full.buffer.size = 2 ∧
      full.act .grant = some after ∧ after.metrics.dropped = 1 ∧
      ∃ record, full.offered? .grant = some record ∧ full.loop.hand = [] ∧
        Admission 2 record full.buffer full.metrics .full after.buffer after.metrics := by
  obtain ⟨held, made, inHand, waiting, full, failed, filled, after, granted, lost, record, offered,
      refused⟩ : ∃ held, squeeze.foldlM act crowded = some held ∧ held.loop.hand.length = 1 ∧
        held.buffer.size = 1 ∧ ∃ full, held.act .loopAppended = some full ∧
        full.buffer.size = 2 ∧ ∃ after, full.act .grant = some after ∧
        after.metrics.dropped = 1 ∧ ∃ record, full.offered? .grant = some record ∧
        (full.buffer.tryPush record).1 = .full :=
    ⟨_, rfl, rfl, rfl, _, rfl, rfl, _, rfl, rfl, _, rfl, rfl⟩
  have trail := (Trail.start _ _ _).follow squeeze made
  obtain ⟨empty, admission⟩ := ((buffer_keeps_its_bound (trail.move _ failed)).2.2 _ _ granted).1
    record offered
  rw [refused] at admission
  exact ⟨held, full, after, trail, inHand, waiting, failed, filled, granted, lost, record, offered,
    empty, admission⟩

end ChannelGate.Publisher
