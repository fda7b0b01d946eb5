import ChannelGate.Proofs.Publisher.PublishCall
import ChannelGate.Proofs.Publisher.Resting

set_option autoImplicit false

namespace ChannelGate.Publisher

open Machine

/-- The instant by which a publish call that began at `began` needs the store no more. -/
def Settings.deadline (settings : Settings) (began : Nat) : Nat :=
  began + settings.probeTimeout + settings.writeTimeout

/-- The longest time for which a drain holds the lock. -/
def Settings.longestDrain (settings : Settings) : Nat :=
  settings.maxPending * settings.writeTimeout

/-- What a call in the queue can count on. A free lock comes to it at this instant, unless the
recovery loop stands before it; a drain ends when all that it may still write is written. -/
inductive Turn (m : Machine) (number deadline : Nat) : Prop
  | soon (free : m.isDraining = false) (inTime : m.now ≤ deadline)
  | next {ahead behind : List Party} (free : m.isDraining = false)
    (queue : m.queue = ahead ++ .call number :: behind) (clear : .loop ∉ ahead)
    (inTime : m.now ≤ deadline + m.settings.longestDrain)
  | held {due count : Nat} {record : Record} {call : Awaited}
    (loop : m.loop = .draining due record count call)
    (inTime : call.endsAt + m.buffer.size * m.settings.writeTimeout ≤
      deadline + m.settings.longestDrain)

def Call.InTime (m : Machine) (number : Nat) : Call → Prop
  | .publish began _ (.probing _ call) =>
    m.now ≤ call.endsAt ∧ call.endsAt ≤ began + m.settings.probeTimeout
  | .publish began _ (.appending _ call) =>
    m.now ≤ call.endsAt ∧ call.endsAt ≤ m.settings.deadline began
  | .publish began _ (.queued _) => Turn m number (m.settings.deadline began)
  | _ => True

def DrainInTime (m : Machine) : Prop :=
  ∀ {due count : Nat} {record : Record} {call : Awaited},
    m.loop = .draining due record count call →
      m.now ≤ call.endsAt ∧ call.endsAt ≤ m.now + m.settings.writeTimeout

structure Timely (m : Machine) : Prop where
  drain : DrainInTime m
  calls : ∀ {number : Nat} {call : Call}, m.calls[number]? = some call → call.InTime m number

variable {m after : Machine} {move : Move}

theorem eq_draining_of_isDraining (held : m.isDraining = true) :
    ∃ due record count call, m.loop = .draining due record count call := by
  unfold isDraining at held
  split at held
  · rename_i due record count call loop
    exact ⟨due, record, count, call, loop⟩
  · cases held

/-- A full buffer takes no longer to drain than the longest drain. -/
theorem HasRoom.time_le (room : HasRoom m) {size : Nat} (fits : size ≤ m.buffer.capacity) :
    size * m.settings.writeTimeout ≤ m.settings.longestDrain := by
  rw [room.capacity] at fits
  exact Nat.mul_le_mul_right _ fits

/-- A call that comes to want the lock before its deadline. -/
theorem Turn.of_now_le {number deadline : Nat} (room : HasRoom m) (drain : DrainInTime m)
    (inTime : m.now ≤ deadline) : Turn m number deadline := by
  by_cases held : m.isDraining = true
  · obtain ⟨due, record, count, call, loop⟩ := eq_draining_of_isDraining held
    refine .held loop ?_
    have soon := (drain loop).2
    have size := room.size
    rw [loop, Loop.hand, List.length_singleton] at size
    have time := room.time_le size
    rw [Nat.add_mul, Nat.one_mul] at time
    omega
  · exact .soon (Bool.not_eq_true _ ▸ held) inTime

/-- The queue before a call gets shorter, and nobody goes before it. -/
theorem Way.queue_ahead (way : Way m move after) {number : Nat}
    (other : m.caller? move ≠ some number) {ahead behind : List Party}
    (queue : m.queue = ahead ++ .call number :: behind) (clear : .loop ∉ ahead) :
    ∃ ahead behind, after.queue = ahead ++ .call number :: behind ∧ Party.loop ∉ ahead := by
  cases way.queue with
  | keeps same => exact ⟨ahead, behind, same.trans queue, clear⟩
  | joins party grown =>
    refine ⟨ahead, behind ++ [party], ?_, clear⟩
    rw [grown, queue, List.append_assoc, List.cons_append]
  | leaves party granted free left =>
    subst granted
    cases ahead with
    | nil =>
      have first : m.queue = .call number :: behind := queue
      rw [caller?, first] at other
      exact absurd rfl other
    | cons first rest =>
      rw [queue, List.cons_append, List.cons.injEq] at left
      exact ⟨rest, behind, left.2.symm, fun mem => clear (List.mem_cons_of_mem _ mem)⟩

theorem Turn.now_le_of_loop_first {number deadline : Nat} (turn : Turn m number deadline)
    (free : m.isDraining = false) {rest : List Party} (head : m.queue = .loop :: rest) :
    m.now ≤ deadline := by
  cases turn with
  | soon _ inTime => exact inTime
  | @next ahead behind _ queue clear inTime =>
    -- The loop stands first, but it stands nowhere before the call.
    rw [head] at queue
    cases ahead with
    | nil => cases queue
    | cons first others =>
      rw [List.cons_append, List.cons.injEq] at queue
      exact absurd (queue.1 ▸ List.mem_cons_self) clear
  | held loop =>
    rw [isDraining, loop] at free
    cases free

theorem Turn.drained_by {number deadline due count : Nat} {record : Record} {call : Awaited}
    (turn : Turn m number deadline) (loop : m.loop = .draining due record count call) :
    call.endsAt + m.buffer.size * m.settings.writeTimeout ≤
      deadline + m.settings.longestDrain := by
  cases turn with
  | soon free | next free =>
    rw [isDraining, loop] at free
    cases free
  | held same inTime =>
    rw [loop] at same
    cases same
    exact inTime

/-- A call that stays in the queue stays in time. -/
theorem Turn.way {number deadline : Nat} (turn : Turn m number deadline) (way : Way m move after)
    (other : m.caller? move ≠ some number) (awake : ∀ till, move ≠ .wait till)
    (drain : DrainInTime m) (room : HasRoom after) (queued : Queued after)
    (stays : .call number ∈ after.queue) : Turn after number deadline := by
  have now := way.now_eq awake
  have settings := way.settings_eq
  -- The lock stays free, or a drain starts, or one is under way, or one ends.
  cases way.drain_way with
  | idle before behind _ =>
    cases turn with
    | soon free inTime => exact .soon behind (now ▸ inTime)
    | next free queue clear inTime =>
      obtain ⟨ahead, rest, queue, clear⟩ := way.queue_ahead other queue clear
      exact .next behind queue clear (by rwa [now, settings])
    | held loop =>
      rw [isDraining, loop] at before
      cases before
  | starts before head behind later soon records =>
    have early := turn.now_le_of_loop_first before head
    have size := room.size
    rw [behind, Loop.hand, List.length_singleton] at size
    have time := room.time_le size
    rw [Nat.add_mul, Nat.one_mul] at time
    refine .held behind ?_
    rw [settings] at time ⊢
    omega
  | holds before behind records =>
    obtain ⟨due, record, count, call, loop⟩ := eq_draining_of_isDraining before
    refine .held (behind.trans loop) ?_
    rw [Buffer.size, records, settings]
    exact turn.drained_by loop
  | goes before come behind later soon records =>
    have inTime := turn.drained_by before
    have pending := (drain before).1
    rw [Buffer.size, records, List.length_cons, Nat.add_mul, Nat.one_mul] at inTime
    refine .held behind ?_
    rw [settings, Buffer.size]
    omega
  | ends before come behind gone records =>
    have inTime := turn.drained_by before
    have pending := (drain before).1
    -- The loop that has just drained cannot stand before the call.
    have absent : Party.loop ∉ after.queue := by
      intro mem
      have wanted := (queued.mem_iff .loop).mp mem
      cases gone.symm.trans wanted
    obtain ⟨ahead, rest, queue⟩ := List.append_of_mem stays
    refine .next behind queue ?_ ?_
    · intro mem
      rw [queue] at absent
      exact absent (List.mem_append_left _ mem)
    · rw [now, settings]
      omega

theorem DrainInTime.way (drain : DrainInTime m) (way : Way m move after)
    (awake : ∀ till, move ≠ .wait till) : DrainInTime after := by
  intro due count record call loop
  have now := way.now_eq awake
  have settings := way.settings_eq
  have held : after.isDraining = true := by rw [isDraining, loop]
  rw [now, settings]
  cases way.drain_way with
  | idle before behind _ => cases held.symm.trans behind
  | ends before come behind _ _ => cases held.symm.trans behind
  | holds before behind records => exact drain (behind ▸ loop)
  | starts before head behind later soon records | goes before come behind later soon records =>
    rw [loop] at behind
    cases behind
    exact ⟨later, soon⟩

/-- A call that is not moved, and does not wait for the lock, keeps to its times. -/
theorem Call.InTime.keep {number : Nat} {call : Call} (inTime : call.InTime m number)
    (unqueued : call.isQueued = false) (now : after.now = m.now)
    (settings : after.settings = m.settings) : call.InTime after number := by
  unfold InTime at inTime ⊢
  rw [now, settings]
  split
  · exact inTime
  · exact inTime
  · cases unqueued
  · exact True.intro

theorem eq_of_begun {call new : Call} (present : (m.calls ++ [new])[m.calls.length]? = some call) :
    call = new := by
  simpa using present.symm

theorem eq_of_moved {number : Nat} {call old new : Call} (before : m.calls[number]? = some old)
    (present : (m.calls.set number new)[number]? = some call) : call = new := by
  have inside := (List.getElem?_eq_some_iff.mp before).1
  rw [List.getElem?_set_self inside] at present
  exact (Option.some.inj present).symm

/-- A call that is moved keeps to its times. -/
theorem Timely.own (timely : Timely m) (queued : Queued m) (way : Way m move after)
    (room : HasRoom after) (drain : DrainInTime after) {number : Nat} {call : Call}
    (own : m.caller? move = some number) (present : after.calls[number]? = some call) :
    call.InTime after number := by
  cases way with
  | refuse | ask | join | overtake =>
    cases own
    rw [eq_of_begun present]
    exact True.intro
  | begin =>
    cases own
    rw [eq_of_begun present]
    exact Reply.within_endsAt _ _ _
  | @offer other began rest scope record free head waiting =>
    rw [caller?, head] at own
    cases own
    have calls := (offer_untouched { m with queue := rest } scope record).calls
    have moved : call = .publish began scope (.finished (.ok ())) := by
      apply eq_of_moved waiting
      rw [← present]
      show _ = (List.set (Machine.offer _ scope record).calls number _)[number]?
      rw [calls]
    rw [moved]
    exact True.intro
  | answer free head waiting =>
    rw [caller?, head] at own
    cases own
    rw [eq_of_moved waiting present]
    exact True.intro
  | pass free head unwanted unasked idle =>
    cases (queued.wants_head head).symm.trans (wants_of_passed unwanted unasked idle)
  | probed waiting come =>
    cases own
    rw [eq_of_moved waiting present]
    obtain ⟨later, soon⟩ := timely.calls waiting
    obtain ⟨begun, limit⟩ := Reply.within_endsAt (Reply.take m.store.appends).1 m.now
      m.settings.writeTimeout
    refine ⟨begun, Nat.le_trans limit ?_⟩
    show m.now + m.settings.writeTimeout ≤ _ + m.settings.probeTimeout + m.settings.writeTimeout
    omega
  | @unprobed other began scope record awaited error waiting come =>
    cases own
    rw [eq_of_moved waiting present]
    obtain ⟨later, soon⟩ := timely.calls waiting
    apply Turn.of_now_le room drain
    show m.now ≤ began + m.settings.probeTimeout + m.settings.writeTimeout
    omega
  | late waiting come =>
    cases own
    rw [eq_of_moved waiting present]
    obtain ⟨later, soon⟩ := timely.calls waiting
    exact Turn.of_now_le room drain (Nat.le_trans later soon)
  | store waiting | fail waiting | joined waiting | abandoned waiting | closed waiting =>
    cases own
    rw [eq_of_moved waiting present]
    exact True.intro
  | rest free head | probe free head | drain free head | halt free head =>
    rw [caller?, head] at own
    cases own
  | _ => cases own

theorem Timely.way (timely : Timely m) (way : Way m move after) (awake : ∀ till, move ≠ .wait till)
    (queued : Queued m) (room : HasRoom m) : Timely after := by
  have drain : DrainInTime after := DrainInTime.way timely.drain way awake
  refine ⟨drain, ?_⟩
  intro number call present
  by_cases own : m.caller? move = some number
  · exact timely.own queued way (room.way way) drain own present
  have inTime := timely.calls (way.call_of_eq present own)
  cases unqueued : call.isQueued with
  | false => exact inTime.keep unqueued (way.now_eq awake) way.settings_eq
  | true =>
    have stays : .call number ∈ after.queue := by
      rw [(queued.way way).mem_iff, wants_call present, unqueued]
    unfold Call.isQueued at unqueued
    split at unqueued
    · have turn : Turn m number _ := inTime
      show Turn after number (after.settings.deadline _)
      rw [way.settings_eq]
      exact turn.way way own awake timely.drain (room.way way) (queued.way way) stays
    · exact True.intro
    · cases unqueued

/-- Time passes only up to the next instant at which somebody wants to go on. -/
theorem Timely.wait (timely : Timely m) (queued : Queued m) {till : Nat}
    (fired : m.fire (.wait till) = some after) : Timely after := by
  simp only [fire] at fired
  split at fired
  · rename_i possible
    cases fired
    obtain ⟨later, quiet, within⟩ := possible
    have rest : m.step? = none := Option.isNone_iff_eq_none.mp quiet
    have reach : ∀ {timer}, timer ∈ m.timers → till ≤ timer := by
      intro timer mem
      exact of_decide_eq_true (List.all_eq_true.mp within timer mem)
    constructor
    · intro due record count call loop
      have timed : m.loop.timer? = some call.endsAt := by
        rw [show m.loop = .draining due count record call from loop]
        rfl
      have soon := (timely.drain loop).2
      refine ⟨reach (mem_timers.mpr (.inr timed)), ?_⟩
      show call.endsAt ≤ till + m.settings.writeTimeout
      omega
    · intro number call present
      have inTime := timely.calls present
      unfold Call.InTime at inTime ⊢
      split at inTime
      · exact ⟨reach (mem_timers.mpr (.inl ⟨number, _, present, rfl⟩)), inTime.2⟩
      · exact ⟨reach (mem_timers.mpr (.inl ⟨number, _, present, rfl⟩)), inTime.2⟩
      · -- Whoever waits for the lock waits for a drain.
        have stands := (queued.mem_iff (.call number)).mpr (wants_call present)
        cases inTime with
        | held loop inTime => exact .held loop inTime
        | soon free | next free =>
          rw [queue_of_rest rest free] at stands
          cases stands
      · exact True.intro
  · cases fired

theorem Machine.Reachable.timely {settings : Settings} (reached : Reachable settings m) :
    Timely m := by
  induction reached with
  | initial valid store host =>
    constructor
    · intro due count record call loop
      have hand := Loop.hand_launched settings host
      rw [show Loop.launched settings host = .draining due record count call from loop] at hand
      cases hand
    · intro number call present
      cases present
  | @move before after move reached fired ih =>
    obtain ⟨steps, trail⟩ := reached.trail
    cases move with
    | wait till => exact ih.wait trail.queued fired
    | _ => exact ih.way (way_of_act (act_of_fire fired)) nofun trail.queued trail.hasRoom

variable {settings : Settings} {number began : Nat} {scope : List String} {stage : PublishStage}

/-- A publish call that is not over is in time, or it is kept by the lock. -/
inductive Running (m : Machine) (number began : Nat) (stage : PublishStage) : Prop
  | inTime (early : m.now ≤ m.settings.deadline began)
  /-- A drain holds the lock, or the lock is free and handed on at this instant. -/
  | kept {record : Record} (waits : stage = .queued record)
    (lock : m.isDraining = true ∨ m.go .grant ≠ none)
    (bounded : m.now ≤ m.settings.deadline began + m.settings.longestDrain)

theorem Machine.Reachable.running (reached : Reachable settings m)
    (present : m.calls[number]? = some (.publish began scope stage))
    (unfinished : ∀ answer, stage ≠ .finished answer) : Running m number began stage := by
  have inTime := reached.timely.calls present
  cases stage with
  | probing record call =>
    obtain ⟨later, soon⟩ := inTime
    exact .inTime (Nat.le_trans later (Nat.le_trans soon (Nat.le_add_right _ _)))
  | appending record call =>
    obtain ⟨later, soon⟩ := inTime
    exact .inTime (Nat.le_trans later soon)
  | finished answer => exact absurd rfl (unfinished answer)
  | queued record =>
    obtain ⟨steps, trail⟩ := reached.trail
    have stands := (trail.queued.mem_iff (.call number)).mpr (wants_call present)
    have wanted : m.queue ≠ [] := List.ne_nil_of_mem stands
    have turn : Turn m number (m.settings.deadline began) := inTime
    cases turn with
    | soon free early => exact .inTime early
    | next free _ _ bounded => exact .kept rfl (.inr (go_grant_ne_none free wanted)) bounded
    | held loop bounded =>
      have draining : m.isDraining = true := by rw [isDraining, loop]
      have later := (reached.timely.drain loop).1
      exact .kept rfl (.inl draining) (by omega)

theorem Running.now_le (running : Running m number began stage) :
    m.now ≤ m.settings.deadline began + m.settings.longestDrain := by
  cases running with
  | inTime early => exact Nat.le_trans early (Nat.le_add_right _ _)
  | kept _ _ bounded => exact bounded

/-- The call is a publish call that began at `began` in the spans `scope`. -/
def Machine.Publishes (m : Machine) (number began : Nat) (scope : List String) : Prop :=
  ∃ stage, m.calls[number]? = some (.publish began scope stage)

theorem Machine.Reachable.publishes_runUntil (reached : Reachable settings m)
    (publishes : m.Publishes number began scope) (limit : Nat) (done : Machine → Bool) :
    (m.runUntil limit done).Publishes number began scope := by
  have kept : ∀ {before after : Machine} {move : Move}, before.fire move = some after →
      Reachable settings before ∧ before.Publishes number began scope →
      Reachable settings after ∧ after.Publishes number began scope := by
    rintro before after move fired ⟨reached, next, present⟩
    obtain ⟨steps, trail⟩ := reached.trail
    have way := way_of_act (act_of_fire fired)
    exact ⟨reached.move move fired, way.stays_publish trail.queued present⟩
  exact (runUntil_keeps kept ⟨reached, publishes⟩).2

/-- A publish call has its answer once the schedule has run past the longest drain. -/
theorem Machine.Reachable.publish_returns (reached : Reachable settings m)
    (present : m.calls[number]? = some (.publish began scope stage)) {limit : Nat}
    (enough : settings.deadline began + settings.longestDrain < limit) :
    ∃ answer, (m.runUntil limit fun _ => false).calls[number]? =
      some (.publish began scope (.finished answer)) := by
  have ran : Reachable settings (m.runUntil limit fun _ => false) := reached.runUntil limit _
  have late := limit_le_now_runUntil limit m
  obtain ⟨next, there⟩ := reached.publishes_runUntil ⟨stage, present⟩ limit fun _ => false
  obtain ⟨steps, trail⟩ := ran.trail
  cases next with
  | finished answer => exact ⟨answer, there⟩
  | _ =>
    have bounded := (ran.running there nofun).now_le
    rw [trail.settings_eq] at bounded
    omega

/-- A publish call that is not over has run no longer than the time limits of its probe and its
write, unless it waits for the lock that a drain holds or leaves at this instant. It waits no longer
than a drain of a full buffer takes, and then the schedule brings it its answer. -/
theorem publish_time_bounded (reached : Reachable settings m)
    (present : m.calls[number]? = some (.publish began scope stage))
    (unfinished : ∀ answer, stage ≠ .finished answer) :
    (began + settings.probeTimeout + settings.writeTimeout < m.now →
      ∃ record, stage = .queued record ∧ (m.isDraining = true ∨ m.go .grant ≠ none)) ∧
    m.now ≤ began + settings.probeTimeout + settings.writeTimeout +
      settings.maxPending * settings.writeTimeout ∧
    ∀ limit, began + settings.probeTimeout + settings.writeTimeout +
        settings.maxPending * settings.writeTimeout < limit →
      ∃ answer, (m.runUntil limit fun _ => false).calls[number]? =
        some (.publish began scope (.finished answer)) := by
  obtain ⟨steps, trail⟩ := reached.trail
  have running := reached.running present unfinished
  have bounded := running.now_le
  rw [trail.settings_eq] at bounded
  refine ⟨?_, bounded, fun limit enough => reached.publish_returns present enough⟩
  intro late
  cases running with
  | inTime early =>
    rw [trail.settings_eq] at early
    exact absurd early (Nat.not_le_of_gt late)
  | kept waits lock _ => exact ⟨_, waits, lock⟩

theorem Machine.Reachable.follow (reached : Reachable settings m) (moves : List Move)
    (made : moves.foldlM fire m = some after) : Reachable settings after := by
  induction moves generalizing m with
  | nil =>
    cases made
    exact reached
  | cons move rest ih =>
    rw [List.foldlM_cons, Option.bind_eq_bind, Option.bind_eq_some_iff] at made
    obtain ⟨next, first, others⟩ := made
    exact ih (reached.move move first) others

/-- A publisher whose store fails two probes and then answers one; every write takes nearly as long
as it may. -/
def sluggish : Machine :=
  Machine.initial .standard standard_valid
    { pings := [⟨some 0, .error (.store "down")⟩, ⟨some 0, .error (.store "down")⟩, .ready,
        ⟨some 0, .error (.store "down")⟩]
      appends := [⟨some 900, .ok ()⟩]
      closes := [] }
    .fresh

/-- Two events are buffered; a third is published while the drain writes the first. -/
def lockedOut : List Move :=
  [.publish [] ⟨"first", .ok []⟩ 1, .probed 0, .grant, .publish [] ⟨"second", .ok []⟩ 2,
    .probed 1, .grant, .wait 60000, .tick, .grant, .loopProbed, .grant, .wait 60100,
    .publish [] ⟨"third", .ok []⟩ 3, .probed 2, .wait 60900, .loopAppended, .wait 61500]

/-- The probe failed at once, and the call has been waiting for the lock ever since. -/
theorem publish_locked_out :
    ∃ m, Reachable .standard m ∧
      (∃ scope record, m.calls[2]? = some (.publish 60100 scope (.queued record))) ∧
      60100 + Settings.standard.probeTimeout + Settings.standard.writeTimeout < m.now := by
  obtain ⟨m, made, queued, now⟩ : ∃ m, lockedOut.foldlM fire sluggish = some m ∧
      (∃ scope record, m.calls[2]? = some (.publish 60100 scope (.queued record))) ∧
      m.now = 61500 := ⟨_, rfl, ⟨_, _, rfl⟩, rfl⟩
  refine ⟨m, (Reachable.initial _ _ _).follow lockedOut made, queued, ?_⟩
  rw [now]
  decide

theorem publish_time_bounded_locked_out :
    ∃ m scope record, Reachable .standard m ∧
      m.calls[2]? = some (.publish 60100 scope (.queued record)) ∧
      (m.isDraining = true ∨ m.go .grant ≠ none) ∧
      m.now ≤ 60100 + Settings.standard.probeTimeout + Settings.standard.writeTimeout +
        Settings.standard.maxPending * Settings.standard.writeTimeout := by
  obtain ⟨m, made, scope, record, queued, now⟩ : ∃ m, lockedOut.foldlM fire sluggish = some m ∧
      ∃ scope record, m.calls[2]? = some (.publish 60100 scope (.queued record)) ∧
        m.now = 61500 := ⟨_, rfl, _, _, rfl, rfl⟩
  have reached := (Reachable.initial _ _ _).follow lockedOut made
  obtain ⟨locked, bounded, _⟩ := publish_time_bounded reached queued nofun
  have late : 60100 + Settings.standard.probeTimeout + Settings.standard.writeTimeout < m.now := by
    rw [now]
    decide
  obtain ⟨_, _, lock⟩ := locked late
  exact ⟨m, scope, record, reached, queued, lock, bounded⟩

end ChannelGate.Publisher
