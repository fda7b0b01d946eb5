import ChannelGate.Proofs.Publisher.Cycle
import ChannelGate.Proofs.Publisher.Deadline

set_option autoImplicit false

namespace ChannelGate.Publisher

open Machine

variable {settings : Settings} {steps earlier later : List (Machine × Move)}
  {m start began after : Machine} {move : Move}

/-- A run that made a move went on from what the move led to. -/
theorem Trail.onward_of_append (trail : Trail settings steps m)
    (split : steps = earlier ++ (start, move) :: later) :
    ∃ next, start.act move = some next ∧ Onward next later m := by
  obtain ⟨valid, store, host, onward⟩ := trail.onward
  obtain ⟨mid, _, goes⟩ := onward.split split
  obtain ⟨rfl, next, made, rest⟩ := goes.first
  exact ⟨next, made, rest⟩

/-- What is known of a cycle after its tick is known as long as it lasts and at its end. -/
theorem Onward.cycle (onward : Onward began later m) (begun : Cycle earlier began began.loop)
    (within : ∀ step ∈ later, step.1.loop.inCycle = true) : Cycle (earlier ++ later) m m.loop := by
  induction onward with
  | stay => rwa [List.append_nil]
  | @move steps before after move onward made ih =>
    have running := within (before, move) (List.mem_append_right _ (List.mem_singleton.mpr rfl))
    have sofar := ih fun step member => within step (List.mem_append_left _ member)
    rw [← List.append_assoc]
    exact sofar.way running made

theorem Machine.finishDrain_loop (m : Machine) (due count : Nat) :
    (m.finishDrain due count).loop = .waiting due := by
  obtain ⟨lines, same⟩ := m.finishDrain_eq due count
  rw [same]

theorem Machine.drainNext_unprobing (m : Machine) (due count : Nat) {nextDue : Nat}
    {call : Awaited} : (m.drainNext due count).loop ≠ .probing nextDue call := by
  obtain ⟨_, same⟩ | ⟨_, _, _, _, _, _, same⟩ := m.drainNext_cases due count
  · rw [same, m.finishDrain_loop]
    nofun
  · rw [same]
    nofun

/-- The probe of the recovery loop that is awaited was awaited before, or it starts now. -/
theorem Way.loop_probe (way : Way m move after) {due : Nat} {call : Awaited}
    (loop : after.loop = .probing due call) :
    m.loop = .probing due call ∨
      (m.now ≤ call.endsAt ∧ call.endsAt ≤ m.now + m.settings.probeTimeout) := by
  cases way with
  | @offer number began rest scope record =>
    rw [← loop]
    exact .inl (offer_calls { m with queue := rest } scope record).2.2.1.symm
  | probe =>
    cases loop
    exact .inr (Reply.within_endsAt _ _ _)
  | drain | loopStored => exact absurd loop (drainNext_unprobing _ _ _)
  | loopFailed => cases (finishDrain_loop ..).symm.trans loop
  | rest | halt | stop | tick | loopProbed | loopUnprobed => cases loop
  | _ => exact .inl loop

def LoopProbeInTime (m : Machine) : Prop :=
  ∀ {due : Nat} {call : Awaited}, m.loop = .probing due call →
    m.now ≤ call.endsAt ∧ call.endsAt ≤ m.now + m.settings.probeTimeout

theorem LoopProbeInTime.way (inTime : LoopProbeInTime m) (way : Way m move after)
    (awake : ∀ till, move ≠ .wait till) : LoopProbeInTime after := by
  intro due call loop
  rw [way.now_eq awake, way.settings_eq]
  rcases way.loop_probe loop with before | fresh
  · exact inTime before
  · exact fresh

theorem LoopProbeInTime.wait (inTime : LoopProbeInTime m) {till : Nat}
    (fired : m.fire (.wait till) = some after) : LoopProbeInTime after := by
  simp only [fire] at fired
  split at fired
  · rename_i possible
    cases fired
    obtain ⟨later, _, within⟩ := possible
    intro due call loop
    have awaited : m.loop = .probing due call := loop
    have timer : call.endsAt ∈ m.timers := mem_timers.mpr (.inr (by rw [awaited]; rfl))
    refine ⟨of_decide_eq_true (List.all_eq_true.mp within _ timer), ?_⟩
    have soon := (inTime awaited).2
    show call.endsAt ≤ till + m.settings.probeTimeout
    omega
  · cases fired

theorem Machine.Reachable.loopProbe (reached : Reachable settings m) : LoopProbeInTime m := by
  induction reached with
  | initial valid store host =>
    intro due call loop
    have outside := Loop.inCycle_launched settings host
    rw [show Loop.launched settings host = .probing due call from loop] at outside
    cases outside
  | @move before after move reached fired ih =>
    cases move with
    | wait till => exact ih.wait fired
    | _ => exact ih.way (way_of_act (act_of_fire fired)) nofun

/-- An instant by which the cycle of the recovery loop is over: its probe has its limit, and so has
the write of each record that its drain may still find. -/
def Machine.cycleEnd (m : Machine) : Nat :=
  match m.loop with
  | .checking _ => m.now + m.settings.probeTimeout + m.settings.longestDrain
  | .probing _ call => call.endsAt + m.settings.longestDrain
  | .claiming _ => m.now + m.settings.longestDrain
  | .draining _ _ _ call => call.endsAt + m.buffer.size * m.settings.writeTimeout
  | _ => m.now

theorem Machine.Reachable.cycleEnd_le (reached : Reachable settings m) :
    m.cycleEnd ≤ m.now + settings.probeTimeout + settings.longestDrain := by
  obtain ⟨steps, trail⟩ := reached.trail
  rw [← trail.settings_eq]
  unfold cycleEnd
  split
  · exact Nat.le_refl _
  · rename_i due call loop
    exact Nat.add_le_add_right (reached.loopProbe loop).2 _
  · omega
  · rename_i due record count call loop
    have soon := (reached.timely.drain loop).2
    have size := trail.hasRoom.size
    rw [loop, Loop.hand, List.length_singleton] at size
    have time := trail.hasRoom.time_le size
    rw [Nat.add_mul, Nat.one_mul] at time
    omega
  · omega

theorem Machine.drainNext_cycleEnd (m : Machine) (due count : Nat)
    (running : (m.drainNext due count).loop.inCycle = true) :
    (m.drainNext due count).cycleEnd ≤ m.now + m.buffer.size * m.settings.writeTimeout := by
  unfold drainNext Buffer.popFront at running ⊢
  rw [Buffer.size]
  cases records : m.buffer.records with
  | nil =>
    simp only [records, finishDrain_loop] at running
    cases running
  | cons record rest =>
    have soon := ((Reply.take m.store.appends).1.within_endsAt m.now m.settings.writeTimeout).2
    rw [List.length_cons, Nat.add_mul, Nat.one_mul, Nat.add_comm (rest.length * _), ← Nat.add_assoc]
    exact Nat.add_le_add_right soon _

theorem cycleEnd_eq (loop : after.loop = m.loop) (now : after.now = m.now)
    (settings : after.settings = m.settings)
    (size : m.isDraining = true → after.buffer.size = m.buffer.size) :
    after.cycleEnd = m.cycleEnd := by
  unfold cycleEnd
  rw [loop, now, settings]
  split
  case h_4 draining =>
    rw [size (by rw [isDraining, draining])]
  all_goals rfl

/-- A move within a cycle does not put off its end. -/
theorem Way.cycleEnd_le (way : Way m move after) (awake : ∀ till, move ≠ .wait till)
    (room : HasRoom m) (probe : LoopProbeInTime m) (drain : DrainInTime m)
    (before : m.loop.inCycle = true) (behind : after.loop.inCycle = true) :
    after.cycleEnd ≤ m.cycleEnd := by
  cases way with
  | wait => exact absurd rfl (awake _)
  | @offer number began rest scope record free =>
    have same : (({ m with queue := rest }.offer scope record).setCall number
        (.publish began scope (.finished (.ok ())))).loop = m.loop :=
      (offer_calls { m with queue := rest } scope record).2.2.1
    have untouched := offer_untouched { m with queue := rest } scope record
    refine Nat.le_of_eq (cycleEnd_eq same untouched.now untouched.settings fun held => ?_)
    cases free.symm.trans held
  | probe free head loop =>
    have soon := ((Reply.take m.store.pings).1.within_endsAt m.now m.settings.probeTimeout).2
    rw [cycleEnd, cycleEnd, loop]
    exact Nat.add_le_add_right soon _
  | @drain due rest free head loop =>
    have size := room.size
    rw [hand_of_free free, List.length_nil, Nat.zero_add] at size
    have ends : m.cycleEnd = m.now + m.settings.longestDrain := by rw [cycleEnd, loop]
    rw [ends]
    exact Nat.le_trans (drainNext_cycleEnd _ _ _ behind)
      (Nat.add_le_add_left (room.time_le size) _)
  | loopProbed loop =>
    rw [cycleEnd, cycleEnd, loop]
    exact Nat.add_le_add_right (probe loop).1 _
  | @loopStored due count record call loop =>
    have ends : m.cycleEnd = call.endsAt + m.buffer.size * m.settings.writeTimeout := by
      rw [cycleEnd, loop]
    rw [ends]
    exact Nat.le_trans (drainNext_cycleEnd _ _ _ behind) (Nat.add_le_add_right (drain loop).1 _)
  | loopFailed =>
    rw [finishDrain_loop] at behind
    cases behind
  | tick loop =>
    rw [loop] at before
    cases before
  | rest | halt | stop | loopUnprobed => cases behind
  | _ => exact Nat.le_of_eq (cycleEnd_eq rfl rfl rfl fun _ => rfl)

/-- While everybody waits nobody holds the lock but a drain, so a recovery loop in its cycle waits
for the store, and the end of the cycle does not move. -/
theorem timer_of_rest (rest : m.step? = none) (queued : Queued m)
    (running : m.loop.inCycle = true) :
    ∃ timer, m.loop.timer? = some timer ∧ timer ≤ m.cycleEnd ∧
      ∀ till, { m with now := till }.cycleEnd = m.cycleEnd := by
  have locked : m.isDraining = false → m.loop.isQueued = false := by
    intro free
    rw [← Bool.not_eq_true]
    intro wanted
    have stands := (queued.mem_iff .loop).mpr wanted
    rw [queue_of_rest rest free] at stands
    cases stands
  unfold cycleEnd
  cases loop : m.loop with
  | checking | claiming =>
    rw [isDraining, loop] at locked
    cases locked rfl
  | probing due call => exact ⟨call.endsAt, rfl, Nat.le_add_right _ _, fun _ => rfl⟩
  | draining due record count call => exact ⟨call.endsAt, rfl, Nat.le_add_right _ _, fun _ => rfl⟩
  | waiting | closing | stopped | broken =>
    rw [loop] at running
    cases running

/-- The schedule takes a cycle to its end. -/
theorem Machine.Reachable.cycle_over (reached : Reachable settings m) {limit : Nat}
    (enough : m.loop.inCycle = true → m.cycleEnd ≤ limit) :
    (m.runUntil limit fun later => !later.loop.inCycle).loop.inCycle = false := by
  induction m using runUntil.induct limit (fun later => !later.loop.inCycle) with
  | case1 m met =>
    rw [runUntil_of_done met]
    exact (Bool.not_eq_true' _).mp met
  | case2 m unmet after moved ih =>
    rw [runUntil_of_step (Bool.not_eq_true _ ▸ unmet) moved]
    obtain ⟨move, _, made⟩ := List.exists_of_findSome?_eq_some moved
    refine ih (reached.move move (fire_of_go made)) fun behind => ?_
    obtain ⟨steps, trail⟩ := reached.trail
    have before : m.loop.inCycle = true := by simpa using unmet
    have awake : ∀ till, move ≠ .wait till := by
      rintro till rfl
      cases made
    have way := way_of_act (act_of_fire (fire_of_go made))
    exact Nat.le_trans (way.cycleEnd_le awake trail.hasRoom reached.loopProbe reached.timely.drain
      before behind) (enough before)
  | case3 m unmet rest after waited ih =>
    rw [runUntil_of_wait (Bool.not_eq_true _ ▸ unmet) rest waited]
    refine ih (reached.move _ waited) fun _ => ?_
    obtain ⟨steps, trail⟩ := reached.trail
    have before : m.loop.inCycle = true := by simpa using unmet
    obtain ⟨_, _, _, still⟩ := timer_of_rest rest trail.queued before
    have same : after = { m with now := m.nextInstant limit } := by
      simp only [fire] at waited
      split at waited
      · cases waited
        rfl
      · cases waited
    rw [same, still]
    exact enough before
  | case4 m unmet rest stuck =>
    -- Time could pass up to the end of the cycle, and that is within the limit.
    obtain ⟨steps, trail⟩ := reached.trail
    have before : m.loop.inCycle = true := by simpa using unmet
    obtain ⟨timer, awaited, inTime, _⟩ := timer_of_rest rest trail.queued before
    have later := loopTimer_later rest awaited
    have ends := enough before
    exact absurd stuck (fire_wait_ne_none rest (by omega))

/-- A cycle of the recovery loop, from its tick on. Whatever the store and the publish calls do
meanwhile, it calls the store as `Cycle` says: not at all if the buffer was empty when it got the
lock; else it probes once, and if the store answered it writes the records that it found when it got
the lock again, in order, one call for each, up to the first that failed; what it has written is
gone from the buffer and counted, and the rest is in the buffer in order. The schedule brings every
cycle to its end. -/
theorem recovery_cycle {cycle : List (Machine × Move)}
    (trail : Trail settings (earlier ++ (start, .tick) :: cycle) m)
    (within : ∀ step ∈ cycle, step.1.loop.inCycle = true) :
    Cycle cycle m m.loop ∧
    (Reachable settings m → ∀ limit,
      m.now + settings.probeTimeout + settings.maxPending * settings.writeTimeout ≤ limit →
      ∃ more ended, ended = m.runUntil limit (fun later => !later.loop.inCycle) ∧
        Onward m more ended ∧ ended.loop.inCycle = false ∧
        Cycle (cycle ++ more) ended ended.loop) := by
  obtain ⟨began, ticked, onward⟩ := trail.onward_of_append rfl
  have begun : Cycle [] began began.loop := by
    cases way_of_act ticked with
    | tick => exact .checking rfl
  have known : Cycle cycle m m.loop := onward.cycle begun within
  refine ⟨known, fun reached limit enough => ?_⟩
  obtain ⟨more, further, inside⟩ := onward_runUntil m limit fun later => !later.loop.inCycle
  refine ⟨more, _, rfl, further, ?_, ?_⟩
  · exact reached.cycle_over fun _ => Nat.le_trans reached.cycleEnd_le enough
  · exact further.cycle known fun step member => by simpa using inside step member

/-- A cycle that finds two records and an answering store: it locks, probes, locks again and writes
them. -/
def recovering : List Move := [.grant, .loopProbed, .grant, .loopAppended, .loopAppended]

theorem moves_of_fired {moves : List Move} (fired : moves.foldlM fire m = some after) :
    moves.foldlM act m = some after := by
  induction moves generalizing m with
  | nil => exact fired
  | cons move rest ih =>
    rw [List.foldlM_cons, Option.bind_eq_bind, Option.bind_eq_some_iff] at fired ⊢
    obtain ⟨next, first, others⟩ := fired
    exact ⟨next, act_of_fire first, ih others⟩

/-- The second write fails, so one record is written and the other one put back. Where the schedule
takes over after the first three moves, it ends the cycle, too. -/
theorem recovery_cycle_outage :
    ∃ start began mid m : Machine,
      Trail .standard (unsteady.path (outage.take 7) ++ (start, .tick) :: began.path recovering) m ∧
      m.metrics = ⟨0, 2, 0, 1, 1⟩ ∧ Cycle (began.path recovering) m m.loop ∧
      mid.isDraining = true ∧ ∃ more ended, Onward mid more ended ∧ ended.loop.inCycle = false ∧
        Cycle (began.path (recovering.take 3) ++ more) ended ended.loop := by
  obtain ⟨start, before, began, ticked, mid, half, draining, m, whole, counts, within, inside⟩ :
      ∃ start, (outage.take 7).foldlM fire unsteady = some start ∧
        ∃ began, start.fire .tick = some began ∧
        ∃ mid, (recovering.take 3).foldlM fire began = some mid ∧ mid.isDraining = true ∧
        ∃ m, recovering.foldlM fire began = some m ∧ m.metrics = ⟨0, 2, 0, 1, 1⟩ ∧
          (began.path recovering).all (·.1.loop.inCycle) = true ∧
          (began.path (recovering.take 3)).all (·.1.loop.inCycle) = true :=
    ⟨_, rfl, _, rfl, _, rfl, rfl, _, rfl, rfl, rfl, rfl⟩
  have trail : Trail .standard (unsteady.path (outage.take 7) ++ [(start, .tick)]) began :=
    ((Trail.start _ _ _).follow _ (moves_of_fired before)).move _ (act_of_fire ticked)
  have run : ∀ {moves : List Move} {later : Machine}, moves.foldlM fire began = some later →
      Trail .standard (unsteady.path (outage.take 7) ++ (start, .tick) :: began.path moves) later := by
    intro moves later fired
    rw [List.append_cons]
    exact (onward_path moves (moves_of_fired fired)).trail trail
  have reached : Reachable .standard mid :=
    (((Reachable.initial _ _ _).follow _ before).move _ ticked).follow _ half
  obtain ⟨known, _⟩ := recovery_cycle (run whole) (List.all_eq_true.mp within)
  obtain ⟨_, schedule⟩ := recovery_cycle (run half) (List.all_eq_true.mp inside)
  obtain ⟨more, ended, _, onward, idle, cycle⟩ := schedule reached _ (Nat.le_refl _)
  exact ⟨start, began, mid, m, run whole, counts, known, draining, more, ended, onward, idle, cycle⟩

end ChannelGate.Publisher
