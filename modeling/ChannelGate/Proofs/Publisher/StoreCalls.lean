import ChannelGate.Proofs.Publisher.Trail

set_option autoImplicit false

namespace ChannelGate.Publisher

open Machine

/-- The store call that a move starts, and who makes it. -/
def Machine.starts? (m : Machine) : Move → Option (StoreOp × Party)
  | .publish _ event _ =>
    match event.encoding with
    | .ok _ => some (.ping, .call m.calls.length)
    | .error _ => none
  | .close _ => if m.awaited then some (.close, .call m.calls.length) else none
  | .grant =>
    match m.queue, m.loop, m.buffer.records with
    | .loop :: _, .checking _, _ :: _ => some (.ping, .loop)
    | .loop :: _, .claiming _, _ :: _ => some (.append, .loop)
    | _, _, _ => none
  | .probed number =>
    match m.calls[number]? with
    | some (.publish _ _ (.probing _ call)) =>
      match call.result (.probeTimeout m.settings.probeTimeout) with
      | .ok () => some (.append, .call number)
      | .error _ => none
    | _ => none
  | .joined number => some (.close, .call number)
  | .loopAppended =>
    match m.loop, m.buffer.records with
    | .draining _ _ _ call, _ :: _ =>
      match call.result (.writeTimeout m.settings.writeTimeout) with
      | .ok () => some (.append, .loop)
      | .error _ => none
    | _, _ => none
  | _ => none

/-- The store calls that were started by a move that was made. -/
def Machine.startedBy (m : Machine) (move : Move) : List Started :=
  ((m.act move).map fun after => after.started.drop m.started.length).getD []

/-- The store calls that a move starts, as they are kept in the list of all that were started. -/
def Machine.opened (m : Machine) (move : Move) : List Started :=
  ((m.starts? move).map fun start => ⟨start.1, start.2, m.now⟩).toList

theorem Machine.offer_started (m : Machine) (scope : List String) (record : Record) :
    (m.offer scope record).started = m.started := by
  obtain ⟨_, lines, same⟩ | ⟨_, lines, same⟩ := m.offer_cases scope record
  · rw [same]
  · rw [same]

theorem Machine.finishDrain_started (m : Machine) (due count : Nat) :
    (m.finishDrain due count).started = m.started := by
  obtain ⟨lines, same⟩ := m.finishDrain_eq due count
  rw [same]

/-- A drain that goes on writes the next record. -/
theorem Machine.drainNext_started (m : Machine) (due count : Nat) :
    (m.drainNext due count).started =
      m.started ++ match m.buffer.records with
        | [] => []
        | _ :: _ => [⟨.append, .loop, m.now⟩] := by
  unfold drainNext Buffer.popFront
  cases m.buffer.records with
  | nil => exact (finishDrain_started m due count).trans (List.append_nil _).symm
  | cons record rest => rfl

variable {m after : Machine} {move : Move}

theorem starts?_of_not_loop {number : Nat} {rest : List Party}
    (head : m.queue = .call number :: rest) : m.starts? .grant = none := by
  simp only [starts?, head]

theorem starts?_of_not_queued {rest : List Party} (head : m.queue = .loop :: rest)
    (idle : m.loop.isQueued = false) : m.starts? .grant = none := by
  simp only [starts?, head]
  split
  · rename_i loop _
    rw [loop] at idle
    cases idle
  · rename_i loop _
    rw [loop] at idle
    cases idle
  · rfl

theorem opened_of_none (none : m.starts? move = none) : m.opened move = [] := by
  rw [opened, none]
  rfl

/-- A move starts at most one store call. -/
theorem Way.started_eq (way : Way m move after) :
    after.started = m.started ++ m.opened move := by
  cases way with
  | refuse unencoded => simp [opened, starts?, unencoded]
  | begin encoded =>
    simp only [opened, starts?, encoded]
    rfl
  | join first => simp [opened, starts?, first]
  | overtake later =>
    simp only [opened, starts?, later, ↓reduceIte]
    rfl
  | offer free head waiting =>
    rw [opened_of_none (starts?_of_not_loop head), List.append_nil]
    exact offer_started ..
  | answer free head waiting =>
    rw [opened_of_none (starts?_of_not_loop head), List.append_nil]
    rfl
  | @pass first rest free head unwanted unasked idle =>
    have none : m.starts? .grant = none := by
      cases first with
      | loop => exact starts?_of_not_queued head (idle rfl)
      | call number => exact starts?_of_not_loop head
    rw [opened_of_none none, List.append_nil]
  | rest free head loop empty => simp [opened, starts?, head, loop, empty]
  | probe free head loop present =>
    obtain ⟨record, rest, records⟩ := List.exists_cons_of_ne_nil present
    simp only [opened, starts?, head, loop, records]
    rfl
  | drain free head loop =>
    rw [drainNext_started]
    simp only [opened, starts?, head, loop]
    cases m.buffer.records <;> rfl
  | halt free head loop => simp [opened, starts?, head, loop, log]
  | probed waiting come answered =>
    simp only [opened, starts?, waiting, answered]
    rfl
  | unprobed waiting come failed =>
    simp [opened, starts?, waiting, failed, askToBuffer, log, setCall]
  | loopStored loop come answered =>
    rw [drainNext_started]
    cases records : m.buffer.records with
    | nil => simp only [opened, starts?, loop, records, Option.map_none, Option.toList_none]
    | cons record rest =>
      simp only [opened, starts?, loop, records, answered]
      rfl
  | loopFailed loop come failed =>
    rw [finishDrain_started]
    have none : m.starts? .loopAppended = none := by
      cases records : m.buffer.records <;> simp only [starts?, loop, records, failed]
    rw [opened_of_none none, List.append_nil]
    rfl
  | joined | abandoned => rfl
  | _ => exact (List.append_nil _).symm

theorem startedBy_eq (made : m.act move = some after) : m.startedBy move = m.opened move := by
  rw [startedBy, made, Option.map_some, Option.getD_some, (way_of_act made).started_eq,
    List.drop_left]

theorem mem_opened {entry : Started} :
    entry ∈ m.opened move ↔
      m.starts? move = some (entry.op, entry.party) ∧ entry.time = m.now := by
  obtain ⟨op, party, time⟩ := entry
  cases starts : m.starts? move with
  | none => simp [opened, starts]
  | some start =>
    obtain ⟨calling, caller⟩ := start
    simp only [opened, starts, Option.map_some, Option.toList_some, List.mem_singleton,
      Started.mk.injEq, Option.some.injEq, Prod.mk.injEq]
    constructor
    · intro given
      exact ⟨⟨given.1.symm, given.2.1.symm⟩, given.2.2⟩
    · intro given
      exact ⟨given.1.1.symm, given.1.2.symm, given.2⟩

/-- The store is closed by a close call that has not to wait for the recovery loop, or by one that
has waited. -/
theorem move_of_starts_close {party : Party} (starts : m.starts? move = some (.close, party)) :
    ((∃ scope, move = .close scope) ∧ m.awaited = true) ∨ ∃ number, move = .joined number := by
  unfold starts? at starts
  split at starts
  case h_2 =>
    split at starts
    · rename_i later
      exact .inl ⟨⟨_, rfl⟩, later⟩
    · cases starts
  case h_5 =>
    rename_i number
    exact .inr ⟨number, rfl⟩
  all_goals
    repeat' split at starts
    all_goals cases starts

/-- A recovery loop that is over starts no store call. -/
theorem running_of_starts {op : StoreOp} (starts : m.starts? move = some (op, .loop)) :
    m.loop.isOver = false := by
  unfold starts? at starts
  split at starts
  case h_3 =>
    split at starts
    · rename_i loop _
      rw [loop]
      rfl
    · rename_i loop _
      rw [loop]
      rfl
    · cases starts
  case h_6 =>
    split at starts
    · rename_i loop _
      rw [loop]
      rfl
    · cases starts
  all_goals
    repeat' split at starts
    all_goals cases starts

end ChannelGate.Publisher
