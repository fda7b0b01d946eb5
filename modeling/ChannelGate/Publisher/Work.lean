import ChannelGate.Publisher.Machine

set_option autoImplicit false

namespace ChannelGate.Publisher

/-- Bounds the moves that a call has still to make. -/
def Call.work : Call → Nat
  | .publish _ _ (.probing ..) => 8
  | .publish _ _ (.appending ..) => 6
  | .publish _ _ (.queued _) => 3
  | .publish _ _ (.finished _) => 0
  | .pending none => 1
  | .pending (some _) => 0
  | .close _ .joining => 2
  | .close _ (.closing ..) => 1
  | .close _ (.finished _) => 0

def callsWork : List Call → Nat
  | [] => 0
  | call :: calls => call.work + callsWork calls

/-- Bounds the moves that the recovery loop has still to make in its cycle with `size` waiting
records. -/
def Loop.work (size : Nat) : Loop → Nat
  | .waiting _ => 3
  | .checking _ => 2 * size + 9
  | .probing .. => 2 * size + 8
  | .claiming _ => 2 * size + 6
  | .draining .. => 2 * size + 5
  | .closing => 1
  | .stopped | .broken => 0

def Loop.due? : Loop → Option Nat
  | .waiting due => some due
  | .checking due => some due
  | .probing due _ => some due
  | .claiming due => some due
  | .draining due _ _ _ => some due
  | .closing | .stopped | .broken => none

namespace Machine

/-- Bounds the moves that all parties have still to make at this instant. -/
def work (m : Machine) : Nat :=
  callsWork m.calls + m.queue.length + m.loop.work m.buffer.records.length

/-- How many ticks may have come due. -/
def overdue (m : Machine) : Nat :=
  match m.loop.due? with
  | some due => m.now + 1 - due
  | none => 0

/-- What a move of a waiting party does to the measure: it takes no time, and it has less work left
or fewer ticks. -/
structure Smaller (after before : Machine) : Prop where
  now : after.now = before.now
  less : after.overdue < before.overdue ∨
    after.overdue ≤ before.overdue ∧ after.work < before.work

/-- Replacing one element of a list changes the sum by the difference of the two. -/
theorem sum_map_set (calls : List Call) (number : Nat) (old new : Call)
    (present : calls[number]? = some old) :
    callsWork (calls.set number new) + old.work =
      callsWork calls + new.work := by
  induction calls generalizing number with
  | nil => simp at present
  | cons head rest ih =>
    cases number with
    | zero =>
      simp only [List.getElem?_cons_zero, Option.some.injEq] at present
      subst present
      simp only [List.set_cons_zero, callsWork]
      omega
    | succ number =>
      simp only [List.getElem?_cons_succ] at present
      have := ih number present
      simp only [List.set_cons_succ, callsWork]
      omega

/-- The work in terms of the parts of the machine that hold it. -/
theorem work_eq (m : Machine) : m.work =
    callsWork m.calls + m.queue.length + m.loop.work m.buffer.records.length := rfl

/-- At one instant, with the next tick at one instant, as many ticks may have come due. -/
theorem overdue_eq (after before : Machine) (now : after.now = before.now)
    (due : after.loop.due? = before.loop.due?) : after.overdue = before.overdue := by
  simp only [overdue, now, due]

/-- Offering a record touches only the buffer and the counters. -/
theorem offer_calls (m : Machine) (scope : List String) (record : Record) :
    (m.offer scope record).calls = m.calls ∧ (m.offer scope record).queue = m.queue ∧
      (m.offer scope record).loop = m.loop ∧ (m.offer scope record).now = m.now ∧
      (m.offer scope record).buffer.records.length ≤ m.buffer.records.length + 1 := by
  have size := m.buffer.length_tryPush_le record
  unfold offer
  rcases pushed : m.buffer.tryPush record with ⟨outcome, buffer⟩
  rw [pushed] at size
  cases outcome <;> simp [log]
  exact size

/-- One record more lets the recovery loop make two moves more. -/
theorem loopWork_le (loop : Loop) (small large : Nat) (h : large ≤ small + 1) :
    loop.work large ≤ loop.work small + 2 := by
  cases loop <;> simp only [Loop.work] <;> omega

/-- A served call has less to do than a call that waits for the lock. -/
theorem serveCall_measure (m : Machine) (number : Nat) :
    (m.serveCall number).now = m.now ∧ (m.serveCall number).overdue = m.overdue ∧
      (m.serveCall number).work ≤ m.work := by
  unfold serveCall
  split
  · next began scope record present =>
    obtain ⟨calls, queue, loop, now, size⟩ := offer_calls m scope record
    refine ⟨by simp [setCall, now], by simp [setCall, overdue, loop, now], ?_⟩
    have sum := sum_map_set m.calls number _ (.publish began scope (.finished (.ok ()))) present
    have bound := loopWork_le m.loop _ _ size
    simp only [work_eq, setCall, calls, queue, loop] at *
    simp only [Call.work] at sum
    omega
  · next present =>
    refine ⟨rfl, rfl, ?_⟩
    have sum := sum_map_set m.calls number _ (.pending (some m.buffer.size)) present
    simp only [work_eq, setCall]
    simp only [Call.work] at sum
    omega
  · exact ⟨rfl, rfl, Nat.le_refl _⟩

/-- The end of a drain leaves calls and queue alone, and the recovery loop waits. -/
theorem finishDrain_measure (m : Machine) (due count : Nat) :
    (m.finishDrain due count).now = m.now ∧ (m.finishDrain due count).loop.due? = some due ∧
      (m.finishDrain due count).work = callsWork m.calls + m.queue.length + 3 := by
  unfold finishDrain
  split <;> exact ⟨rfl, rfl, rfl⟩

/-- The next record of a drain leaves less to do than the claim to the lock, and no more than the
write before it. -/
theorem drainNext_measure (m : Machine) (due count : Nat) :
    (m.drainNext due count).now = m.now ∧ (m.drainNext due count).loop.due? = some due ∧
      (m.drainNext due count).work + 2 ≤
        callsWork m.calls + m.queue.length + 2 * m.buffer.records.length + 5 := by
  unfold drainNext Buffer.popFront
  split
  · obtain ⟨now, dueAfter, work⟩ := finishDrain_measure m due count
    exact ⟨now, dueAfter, by omega⟩
  · next record buffer e =>
    split at e
    · simp at e
    · next first rest records =>
      simp only [Prod.mk.injEq, Option.some.injEq] at e
      refine ⟨rfl, rfl, ?_⟩
      simp only [append, work_eq, Loop.work, ← e.2, records, List.length_cons]
      omega

/-- A served recovery loop has no more to do than before it was served. -/
theorem serveLoop_measure (m : Machine) :
    m.serveLoop.now = m.now ∧ m.serveLoop.overdue ≤ m.overdue ∧ m.serveLoop.work ≤ m.work := by
  unfold serveLoop
  split
  · next due loop =>
    split
    · refine ⟨rfl, by simp [overdue, loop, Loop.due?], ?_⟩
      simp only [work_eq, loop, Loop.work]
      omega
    · refine ⟨rfl, by simp [ping, overdue, loop, Loop.due?], ?_⟩
      simp only [ping, work_eq, loop, Loop.work]
      omega
  · next due loop =>
    obtain ⟨now, dueAfter, bound⟩ := drainNext_measure m due 0
    refine ⟨now, Nat.le_of_eq (overdue_eq _ _ now (by rw [dueAfter, loop]; rfl)), ?_⟩
    simp only [work_eq, loop, Loop.work] at *
    omega
  · next loop =>
    refine ⟨rfl, by simp [log, overdue, loop, Loop.due?], ?_⟩
    simp only [log, work_eq, loop, Loop.work]
    omega
  · exact ⟨rfl, Nat.le_refl _, Nat.le_refl _⟩

/-- Whoever takes the lock leaves the queue. -/
theorem grant_smaller (m after : Machine) (h : m.go .grant = some after) : Smaller after m := by
  unfold go at h
  dsimp only at h
  split at h
  · simp at h
  split at h
  · simp at h
  · next number rest queue =>
    simp only [Option.some.injEq] at h
    subst h
    obtain ⟨now, overdue, work⟩ := serveCall_measure { m with queue := rest } number
    refine ⟨now, .inr ⟨Nat.le_of_eq overdue, Nat.lt_of_le_of_lt work ?_⟩⟩
    simp [work_eq, queue]
  · next rest queue =>
    simp only [Option.some.injEq] at h
    subst h
    obtain ⟨now, overdue, work⟩ := serveLoop_measure { m with queue := rest }
    refine ⟨now, .inr ⟨overdue, Nat.lt_of_le_of_lt work ?_⟩⟩
    simp [work_eq, queue]

/-- A publish call that goes on after its probe has less to do. -/
theorem probed_smaller (m after : Machine) (number : Nat) (h : m.go (.probed number) = some after) :
    Smaller after m := by
  unfold go at h
  dsimp only at h
  split at h
  · next began scope record call present =>
    split at h
    · simp only [Option.some.injEq] at h
      subst h
      unfold afterProbe
      split
      · refine ⟨rfl, .inr ⟨Nat.le_refl _, ?_⟩⟩
        have sum := sum_map_set m.calls number _
          (.publish began scope (.appending record (m.append (.call number)).1)) present
        simp only [Call.work] at sum
        simp only [append, setCall, work_eq] at *
        omega
      · refine ⟨rfl, .inr ⟨Nat.le_refl _, ?_⟩⟩
        have sum := sum_map_set m.calls number _ (.publish began scope (.queued record)) present
        simp only [Call.work] at sum
        simp only [askToBuffer, log, setCall, work_eq, List.length_append, List.length_singleton]
        omega
    · simp at h
  · simp at h

/-- A publish call that goes on after its write has less to do. -/
theorem appended_smaller (m after : Machine) (number : Nat)
    (h : m.go (.appended number) = some after) : Smaller after m := by
  unfold go at h
  dsimp only at h
  split at h
  · next began scope record call present =>
    split at h
    · simp only [Option.some.injEq] at h
      subst h
      unfold afterAppend
      split
      · refine ⟨rfl, .inr ⟨Nat.le_refl _, ?_⟩⟩
        have sum := sum_map_set m.calls number _ (.publish began scope (.finished (.ok ()))) present
        simp only [Call.work] at sum
        simp only [work_eq]
        omega
      · refine ⟨rfl, .inr ⟨Nat.le_refl _, ?_⟩⟩
        have sum := sum_map_set m.calls number _ (.publish began scope (.queued record)) present
        simp only [Call.work] at sum
        simp only [askToBuffer, log, setCall, work_eq, List.length_append, List.length_singleton]
        omega
      · next e _ _ =>
        refine ⟨rfl, .inr ⟨Nat.le_refl _, ?_⟩⟩
        have sum := sum_map_set m.calls number _ (.publish began scope (.finished (.error e)))
          present
        simp only [Call.work] at sum
        simp only [setCall, work_eq]
        omega
    · simp at h
  · simp at h

/-- A close call that goes to the store has less to do. -/
theorem afterJoin_smaller (m : Machine) (number : Nat) (scope : List String)
    (present : m.calls[number]? = some (.close scope .joining)) :
    Smaller (m.afterJoin number scope) m := by
  refine ⟨rfl, .inr ⟨Nat.le_refl _, ?_⟩⟩
  have sum := sum_map_set m.calls number _ (.close scope (m.closeStore (.call number)).1) present
  simp only [Call.work, closeStore] at sum
  simp only [afterJoin, closeStore, setCall, work_eq]
  omega

/-- A close call that goes on has less to do. -/
theorem joined_smaller (m after : Machine) (number : Nat) (h : m.go (.joined number) = some after) :
    Smaller after m := by
  unfold go at h
  dsimp only at h
  split at h
  · next scope present loop =>
    simp only [Option.some.injEq] at h
    subst h
    exact afterJoin_smaller m number scope present
  · next scope present loop =>
    simp only [Option.some.injEq] at h
    subst h
    obtain ⟨now, less⟩ := afterJoin_smaller (m.reportBreakdown scope) number scope present
    exact ⟨now, less⟩
  · simp at h

/-- A close call whose store answered is over. -/
theorem closed_smaller (m after : Machine) (number : Nat) (h : m.go (.closed number) = some after) :
    Smaller after m := by
  unfold go at h
  dsimp only at h
  split at h
  · next scope endsAt answer present =>
    split at h
    · simp only [Option.some.injEq] at h
      subst h
      refine ⟨rfl, .inr ⟨Nat.le_refl _, ?_⟩⟩
      have sum := sum_map_set m.calls number _ (.close scope (.finished answer)) present
      simp only [Call.work] at sum
      simp only [setCall, work_eq]
      omega
    · simp at h
  · simp at h

/-- A recovery loop that ends has less to do. -/
theorem stop_smaller (m after : Machine) (h : m.go .stop = some after) : Smaller after m := by
  unfold go at h
  dsimp only at h
  split at h
  · next due loop =>
    split at h
    · simp only [Option.some.injEq] at h
      subst h
      refine ⟨rfl, .inr ⟨by simp [overdue, loop, Loop.due?], ?_⟩⟩
      simp only [work_eq, loop, Loop.work, List.length_append, List.length_singleton]
      omega
    · simp at h
  · simp at h

/-- Valid settings have a period. -/
theorem checkInterval_pos (m : Machine) : 0 < m.settings.checkInterval := by
  have valid := m.valid
  unfold Settings.fault? at valid
  repeat' split at valid
  all_goals first | omega | simp at valid

/-- A tick moves the next one on. -/
theorem tick_smaller (m after : Machine) (h : m.go .tick = some after) : Smaller after m := by
  unfold go at h
  dsimp only at h
  split at h
  · next due loop =>
    split at h
    · next come =>
      simp only [Option.some.injEq] at h
      subst h
      refine ⟨rfl, .inl ?_⟩
      have period := m.checkInterval_pos
      simp only [overdue, loop, Loop.due?, nextDue]
      split <;> omega
    · simp at h
  · simp at h

/-- A recovery loop that goes on after its probe has less to do. -/
theorem loopProbed_smaller (m after : Machine) (h : m.go .loopProbed = some after) :
    Smaller after m := by
  unfold go at h
  dsimp only at h
  split at h
  · next due call loop =>
    split at h
    · simp only [Option.some.injEq] at h
      subst h
      unfold afterLoopProbe
      split
      · refine ⟨rfl, .inr ⟨by simp [overdue, loop, Loop.due?], ?_⟩⟩
        simp only [work_eq, loop, Loop.work, List.length_append, List.length_singleton]
        omega
      · refine ⟨rfl, .inr ⟨by simp [log, overdue, loop, Loop.due?], ?_⟩⟩
        simp only [log, work_eq, loop, Loop.work]
        omega
    · simp at h
  · simp at h

/-- After a write of the drain less is left to do than before it. -/
theorem afterLoopAppend_measure (m : Machine) (due : Nat) (record : Record) (count : Nat)
    (result : Except EventError Unit) :
    (m.afterLoopAppend due record count result).now = m.now ∧
      (m.afterLoopAppend due record count result).loop.due? = some due ∧
      (m.afterLoopAppend due record count result).work + 2 ≤
        callsWork m.calls + m.queue.length + 2 * m.buffer.records.length + 5 := by
  unfold afterLoopAppend
  split
  · exact drainNext_measure { m with stored := m.stored ++ [Stored.mk record .loop m.now] } due
      (count + 1)
  · next e =>
    obtain ⟨now, dueAfter, work⟩ := finishDrain_measure
      (({ m with buffer := m.buffer.pushFront record } : Machine).log .warn
        "Failed to drain buffered event"
        [("error", .text e.message), ("pending", .number (m.buffer.pushFront record).size)] []) due
      count
    refine ⟨now, dueAfter, ?_⟩
    simp only [log] at work
    simp only [log]
    omega

/-- A recovery loop that goes on after a write has less to do. -/
theorem loopAppended_smaller (m after : Machine) (h : m.go .loopAppended = some after) :
    Smaller after m := by
  unfold go at h
  dsimp only at h
  split at h
  · next due record count call loop =>
    split at h
    · simp only [Option.some.injEq] at h
      have before : m.work = callsWork m.calls + m.queue.length +
          (2 * m.buffer.records.length + 5) := by rw [work_eq, loop]; rfl
      obtain ⟨now, dueAfter, work⟩ := m.afterLoopAppend_measure due record count
        (call.result (.writeTimeout m.settings.writeTimeout))
      rw [h] at now dueAfter work
      exact ⟨now, .inr ⟨Nat.le_of_eq (overdue_eq _ _ now (by rw [dueAfter, loop]; rfl)), by omega⟩⟩
    · simp at h
  · simp at h

/-- Every move of a waiting party has less left to do after it. -/
theorem go_smaller (m after : Machine) (move : Move) (h : m.go move = some after) :
    Smaller after m := by
  cases move with
  | grant => exact grant_smaller m after h
  | probed number => exact probed_smaller m after number h
  | appended number => exact appended_smaller m after number h
  | joined number => exact joined_smaller m after number h
  | closed number => exact closed_smaller m after number h
  | stop => exact stop_smaller m after h
  | tick => exact tick_smaller m after h
  | loopProbed => exact loopProbed_smaller m after h
  | loopAppended => exact loopAppended_smaller m after h
  | _ => cases h

/-- The step of the schedule is a move of a waiting party. -/
theorem step_smaller (m after : Machine) (h : m.step? = some after) : Smaller after m := by
  obtain ⟨move, _, made⟩ := List.exists_of_findSome?_eq_some h
  exact go_smaller m after move made

end Machine

end ChannelGate.Publisher
