import ChannelGate.Proofs.Publisher.Recovery

set_option autoImplicit false

namespace ChannelGate.Publisher

open Machine

def LoopCall.isProbe (call : LoopCall) : Bool := call.op = .ping

/-- What the recovery loop does from one tick to the next: a cycle, in which it probes at most once,
and then nothing. -/
structure Spell (cycle idle : List (Machine × Move)) : Prop where
  running : ∀ step ∈ cycle, step.1.loop.inCycle = true
  resting : ∀ step ∈ idle, step.1.loop.inCycle = false
  probes : (loopCalls cycle).countP LoopCall.isProbe ≤ 1
  silent : loopCalls idle = []

/-- What the ticks of a run keep to with a period of so many milliseconds. -/
structure Paced (period : Nat) (steps : List (Machine × Move)) : Prop where
  /-- Before the first tick the loop asks nothing of the store. -/
  unasked : ∀ earlier later, steps = earlier ++ later → cyclesBegun earlier = 0 →
    loopCalls earlier = []
  /-- A tick comes no sooner than a period after the start, and a period more for each tick before
  it. -/
  begins : ∀ earlier start later, steps = earlier ++ (start, .tick) :: later →
    (cyclesBegun earlier + 1) * period ≤ start.now
  /-- Two ticks are a period apart, and a period more for each tick between them, less five
  milliseconds in all. -/
  spaced : ∀ earlier first between second later,
    steps = earlier ++ (first, .tick) :: (between ++ (second, .tick) :: later) →
    first.now + (cyclesBegun between + 1) * period ≤ second.now + 5
  /-- A tick comes when every cycle that was begun before it is finished, and with the tick itself
  nothing is asked of the store. -/
  apart : ∀ earlier start later, steps = earlier ++ (start, .tick) :: later →
    start.loop.inCycle = false ∧ cyclesEnded earlier = cyclesBegun earlier ∧
      loopCalls [(start, .tick)] = []
  /-- What follows a tick up to the next one is the rest of its cycle and what is done meanwhile. -/
  spells : ∀ earlier start part later, steps = earlier ++ (start, .tick) :: (part ++ later) →
    cyclesBegun part = 0 → ∃ cycle idle, part = cycle ++ idle ∧ Spell cycle idle

variable {settings : Settings} {steps earlier more : List (Machine × Move)}
  {m after later began : Machine} {move : Move}

theorem cyclesBegun_append_singleton (steps : List (Machine × Move)) (m : Machine) (move : Move) :
    cyclesBegun (steps ++ [(m, move)]) = cyclesBegun steps + move.isTick.toNat := by
  unfold cyclesBegun
  rw [List.countP_append, List.countP_singleton]
  cases move.isTick <;> rfl

/-- The next tick is due when it was, or this move is the tick and the next one is due a period
later. -/
theorem Way.due (way : Way m move after) {due : Nat} (pending : after.loop.due? = some due) :
    ∃ before, m.loop.due? = some before ∧
      (move.isTick = false ∧ due = before ∨
        move.isTick = true ∧ before ≤ m.now ∧ due = m.nextDue before) := by
  cases way with
  | @offer number began rest scope record =>
    have loop := (offer_calls { m with queue := rest } scope record).2.2.1
    have same : m.loop.due? = some due := by
      rw [← loop]
      exact pending
    exact ⟨due, same, .inl ⟨rfl, rfl⟩⟩
  | rest _ _ loop | probe _ _ loop | loopProbed loop | loopUnprobed loop =>
    rw [loop]
    exact ⟨due, pending, .inl ⟨rfl, rfl⟩⟩
  | drain _ _ loop =>
    rw [(drainNext_measure _ _ _).2.1] at pending
    rw [loop]
    exact ⟨due, pending, .inl ⟨rfl, rfl⟩⟩
  | loopStored loop =>
    rw [(drainNext_measure _ _ _).2.1] at pending
    rw [loop]
    exact ⟨due, pending, .inl ⟨rfl, rfl⟩⟩
  | loopFailed loop =>
    rw [(finishDrain_measure _ _ _).2.1] at pending
    rw [loop]
    exact ⟨due, pending, .inl ⟨rfl, rfl⟩⟩
  | halt | stop => cases pending
  | tick loop come =>
    rw [loop]
    exact ⟨_, rfl, .inr ⟨rfl, come, (Option.some.inj pending).symm⟩⟩
  | _ => exact ⟨due, pending, .inl ⟨rfl, rfl⟩⟩

/-- A tick that comes when it is due, or later, puts the next one a period on. -/
theorem Machine.nextDue_bounds (m : Machine) {due : Nat} (come : due ≤ m.now) :
    due + m.settings.checkInterval ≤ m.nextDue due ∧
      m.now + m.settings.checkInterval ≤ m.nextDue due + 5 := by
  unfold nextDue
  split <;> omega

theorem Onward.settings_eq (onward : Onward m steps later) : later.settings = m.settings := by
  induction onward with
  | stay => rfl
  | move move _ made ih => exact (way_of_act made).settings_eq.trans ih

/-- With every tick the next one is due a period later, or still later. -/
theorem Onward.due (onward : Onward m steps later) {due : Nat}
    (pending : later.loop.due? = some due) :
    ∃ before, m.loop.due? = some before ∧
      before + cyclesBegun steps * m.settings.checkInterval ≤ due := by
  induction onward generalizing due with
  | stay => exact ⟨due, pending, by simp [cyclesBegun]⟩
  | @move steps last after move onward made ih =>
    obtain ⟨between, awaited, goes⟩ := (way_of_act made).due pending
    obtain ⟨before, start, bound⟩ := ih awaited
    refine ⟨before, start, ?_⟩
    rw [cyclesBegun_append_singleton]
    rcases goes with ⟨other, same⟩ | ⟨tick, come, next⟩
    · rw [other, same]
      exact bound
    · have further := (last.nextDue_bounds come).1
      rw [onward.settings_eq, ← next] at further
      rw [tick, Bool.toNat_true, Nat.add_mul, Nat.one_mul]
      omega

/-- Outside of a cycle the recovery loop asks nothing of the store. -/
theorem loopAsks_of_outside (made : m.act move = some after) (outside : m.loop.inCycle = false) :
    m.loopAsks move = [] := by
  apply loopAsks_eq_nil made
  intro op starts
  rcases move_of_starts_loop starts with ⟨rfl, _, queued⟩ | rfl
  · cases loop : m.loop with
    | closing => simp [starts?, loop] at starts
    | checking | claiming =>
      rw [loop] at outside
      cases outside
    | _ =>
      rw [loop] at queued
      cases queued
  · cases loop : m.loop with
    | draining =>
      rw [loop] at outside
      cases outside
    | _ => simp [starts?, loop] at starts

/-- Without a tick a loop that is in no cycle stays in none. -/
theorem Onward.idle (onward : Onward m steps later) (outside : m.loop.inCycle = false)
    (unticked : cyclesBegun steps = 0) :
    later.loop.inCycle = false ∧ (∀ step ∈ steps, step.1.loop.inCycle = false) ∧
      loopCalls steps = [] := by
  induction onward with
  | stay => exact ⟨outside, List.forall_mem_nil _, rfl⟩
  | @move steps last after move onward made ih =>
    rw [cyclesBegun_append_singleton, Nat.add_eq_zero_iff] at unticked
    obtain ⟨idle, resting, silent⟩ := ih unticked.1
    have other : move.isTick = false := by simpa using unticked.2
    refine ⟨?_, ?_, ?_⟩
    · rw [← Bool.not_eq_true]
      intro running
      have before := (way_of_act made).inCycle.2 other running
      rw [idle] at before
      cases before
    · intro step member
      rcases List.mem_append.mp member with earlier | now
      · exact resting step earlier
      · rw [List.mem_singleton.mp now]
        exact idle
    · rw [loopCalls_append_singleton, silent, loopAsks_of_outside made idle, List.append_nil]

theorem countP_map_write (heard : Except EventError Unit) (records : List Record) :
    (records.map (LoopCall.write heard)).countP LoopCall.isProbe = 0 := by
  rw [List.countP_map, List.countP_eq_zero]
  intro record _ probe
  cases probe

theorem Drained.countP_writes {found left : List Record} {writes : List LoopCall}
    {written : List Record} (drained : Drained found writes written left) :
    writes.countP LoopCall.isProbe = 0 := by
  cases drained with
  | all => exact countP_map_write _ _
  | upTo whole =>
    rw [List.countP_append, countP_map_write, List.countP_singleton]
    rfl

/-- A cycle has one probe at most. -/
theorem Cycle.probes_le {stage : Loop} (cycle : Cycle steps m stage) :
    (loopCalls steps).countP LoopCall.isProbe ≤ 1 := by
  cases cycle with
  | checking calls | idle _ _ calls =>
    rw [calls]
    exact Nat.zero_le _
  | probing _ _ _ calls | unreachable _ _ calls | claiming _ _ calls =>
    rw [calls]
    exact Nat.le_refl _
  | draining _ _ _ calls =>
    rw [calls, List.countP_cons, List.countP_append, countP_map_write, List.countP_singleton]
    exact Nat.le_refl _
  | flushed _ _ dealt _ calls =>
    rw [calls, List.countP_cons, dealt.countP_writes]
    exact Nat.le_refl _

/-- Moves that begin where a cycle ended, with no tick among them. -/
theorem Onward.resting
    (onward : Onward m (steps.dropWhile fun step => step.1.loop.inCycle) later)
    (unticked : cyclesBegun (steps.dropWhile fun step => step.1.loop.inCycle) = 0) :
    (∀ step ∈ steps.dropWhile fun step => step.1.loop.inCycle, step.1.loop.inCycle = false) ∧
      loopCalls (steps.dropWhile fun step => step.1.loop.inCycle) = [] := by
  cases behind : steps.dropWhile fun step => step.1.loop.inCycle with
  | nil => exact ⟨List.forall_mem_nil _, rfl⟩
  | cons step others =>
    have outside : step.1.loop.inCycle = false := by
      have stops := List.head_dropWhile_not (fun step : Machine × Move => step.1.loop.inCycle)
        (l := steps) (by rw [behind]; simp)
      simpa only [behind, List.head_cons] using stops
    rw [behind] at onward unticked
    rw [onward.first.1] at outside
    exact (onward.idle outside unticked).2

/-- Up to the next tick the loop runs its cycle to the end, and is idle then. -/
theorem Onward.spell (onward : Onward began steps later) (begun : Cycle [] began began.loop)
    (unticked : cyclesBegun steps = 0) :
    ∃ cycle idle, steps = cycle ++ idle ∧ Spell cycle idle := by
  have whole : steps = (steps.takeWhile fun step => step.1.loop.inCycle) ++
      steps.dropWhile fun step => step.1.loop.inCycle := List.takeWhile_append_dropWhile.symm
  obtain ⟨mid, runs, rests⟩ := onward.split whole
  have running : ∀ step ∈ steps.takeWhile fun step => step.1.loop.inCycle,
      step.1.loop.inCycle = true := List.all_eq_true.mp List.all_takeWhile
  have probes := (runs.cycle begun running).probes_le
  have unticked' : cyclesBegun (steps.dropWhile fun step => step.1.loop.inCycle) = 0 := by
    rw [whole, cyclesBegun, List.countP_append] at unticked
    exact (Nat.add_eq_zero_iff.mp unticked).2
  obtain ⟨resting, silent⟩ := rests.resting unticked'
  exact ⟨_, _, whole, running, resting, probes, silent⟩

/-- The first tick is due after a period, if ever. -/
theorem Loop.due_launched {host : Host} {due : Nat}
    (pending : (Loop.launched settings host).due? = some due) : settings.checkInterval = due := by
  obtain ⟨_, loop⟩ | ⟨_, loop⟩ := launched_cases settings host
  · rw [loop] at pending
    exact Option.some.inj pending
  · rw [loop] at pending
    cases pending

structure Ticked (settings : Settings) (earlier : List (Machine × Move)) (start next : Machine)
    (due : Nat) : Prop where
  reached : ∃ valid store host, Onward (Machine.initial settings valid store host) earlier start
  waiting : start.loop = .waiting due
  come : due ≤ start.now
  made : start.act .tick = some next
  next : next.loop = .checking (start.nextDue due)

theorem Trail.ticked {start : Machine} (trail : Trail settings steps m)
    (whole : steps = earlier ++ (start, .tick) :: more) :
    ∃ next due, Ticked settings earlier start next due ∧ Onward next more m := by
  obtain ⟨valid, store, host, onward⟩ := trail.onward
  obtain ⟨mid, reached, goes⟩ := onward.split whole
  obtain ⟨rfl, next, made, rest⟩ := goes.first
  cases way_of_act made with
  | tick loop come => exact ⟨_, _, ⟨⟨valid, store, host, reached⟩, loop, come, made, rfl⟩, rest⟩

section
variable {start next : Machine} {due : Nat} (ticked : Ticked settings earlier start next due)
include ticked

theorem Ticked.settings_eq : start.settings = settings := by
  obtain ⟨valid, store, host, onward⟩ := ticked.reached
  exact onward.settings_eq

theorem Ticked.due_bounds :
    start.loop.due? = some due ∧ next.loop.due? = some (start.nextDue due) ∧
      start.now + settings.checkInterval ≤ start.nextDue due + 5 := by
  have late := (start.nextDue_bounds ticked.come).2
  rw [ticked.settings_eq] at late
  rw [ticked.waiting, ticked.next]
  exact ⟨rfl, rfl, late⟩

/-- A tick comes a period after the start at the earliest. -/
theorem Ticked.begins : (cyclesBegun earlier + 1) * settings.checkInterval ≤ start.now := by
  obtain ⟨valid, store, host, onward⟩ := ticked.reached
  obtain ⟨before, first, bound⟩ := onward.due ticked.due_bounds.1
  have period : settings.checkInterval = before := Loop.due_launched first
  have come := ticked.come
  have later : settings.checkInterval + cyclesBegun earlier * settings.checkInterval ≤ due := by
    rw [← period] at bound
    exact bound
  rw [Nat.add_mul, Nat.one_mul]
  omega

theorem Ticked.apart :
    start.loop.inCycle = false ∧ cyclesEnded earlier = cyclesBegun earlier ∧
      loopCalls [(start, .tick)] = [] := by
  obtain ⟨valid, store, host, onward⟩ := ticked.reached
  have trail : Trail settings earlier start := onward.trail (.start valid store host)
  have outside : start.loop.inCycle = false := by
    rw [ticked.waiting]
    rfl
  have cycles := trail.cycles
  rw [outside, Bool.toNat_false, Nat.add_zero] at cycles
  have silent : loopCalls ([] ++ [(start, .tick)]) = [] := by
    rw [loopCalls_append_singleton, loopAsks_of_outside ticked.made outside]
    rfl
  exact ⟨outside, cycles.symm, silent⟩

/-- Only the lateness of the first of two ticks can bring them closer together than the periods
between them. -/
theorem Ticked.spaced {before between : List (Machine × Move)} {second next' : Machine}
    {due' : Nat} (onward : Onward next between second)
    (ticked' : Ticked settings before second next' due') :
    start.now + (cyclesBegun between + 1) * settings.checkInterval ≤ second.now + 5 := by
  obtain ⟨_, awaited, late⟩ := ticked.due_bounds
  obtain ⟨pending, _, _⟩ := ticked'.due_bounds
  obtain ⟨first, reached, bound⟩ := onward.due pending
  have same : start.nextDue due = first := Option.some.inj (awaited.symm.trans reached)
  have period : next.settings = settings := onward.settings_eq.symm.trans ticked'.settings_eq
  have come := ticked'.come
  rw [← same, period] at bound
  rw [Nat.add_mul, Nat.one_mul]
  omega

end

/-- The recovery loop never bursts, however long its cycles take. Its first cycle begins a period
after the start or later; any two begin a period apart or more, with a period more for each one
between them, less five milliseconds in all; one ends before the next begins; and the loop probes
once in each at most. -/
theorem recovery_never_bursts (trail : Trail settings steps m) :
    Paced settings.checkInterval steps := by
  constructor
  · intro earlier later whole unticked
    obtain ⟨valid, store, host, onward⟩ := trail.onward
    obtain ⟨mid, reached, _⟩ := onward.split whole
    exact (reached.idle (Loop.inCycle_launched ..) unticked).2.2
  · intro earlier start later whole
    obtain ⟨next, due, ticked, _⟩ := trail.ticked whole
    exact ticked.begins
  · intro earlier first between second later whole
    obtain ⟨next, due, ticked, onward⟩ := trail.ticked whole
    obtain ⟨mid, within, goes⟩ := onward.split rfl
    have here : second = mid := goes.first.1
    have again : steps = (earlier ++ (first, .tick) :: between) ++ (second, .tick) :: later := by
      rw [whole, List.append_assoc, List.cons_append]
    obtain ⟨next', due', ticked', _⟩ := trail.ticked again
    rw [← here] at within
    exact ticked.spaced within ticked'
  · intro earlier start later whole
    obtain ⟨next, due, ticked, _⟩ := trail.ticked whole
    exact ticked.apart
  · intro earlier start part later whole unticked
    obtain ⟨next, due, ticked, onward⟩ := trail.ticked whole
    obtain ⟨mid, within, _⟩ := onward.split rfl
    have begun : Cycle [] next next.loop := by
      rw [ticked.next]
      exact .checking rfl
    exact within.spell begun unticked

/-- A period of a second, and a store that takes a little longer for every write. -/
def brisk : Settings := ⟨"events", 10, 5, 1000, 100, 2000⟩

/-- It is down for the first probe, for the third and for the fourth. -/
def leisurely : Machine :=
  Machine.initial brisk (by decide)
    { pings := [⟨some 0, .error (.store "down")⟩, .ready, ⟨some 0, .error (.store "down")⟩,
        ⟨some 0, .error (.store "down")⟩, .ready]
      appends := [⟨some 1004, .ok ()⟩]
      closes := [] }
    .fresh

/-- A write that ends four milliseconds after the second tick was due leaves the third where it was
due; two writes that end a second too late put the fifth off. -/
def laggingCycles : List Move :=
  [.publish [] ⟨"first", .ok []⟩ 1, .probed 0, .grant, .wait 1000, .tick, .grant, .loopProbed,
    .grant, .wait 2004, .loopAppended, .tick, .grant, .publish [] ⟨"second", .ok []⟩ 2, .probed 1,
    .grant, .publish [] ⟨"third", .ok []⟩ 3, .probed 2, .grant, .wait 3000, .tick, .grant,
    .loopProbed, .grant, .wait 4004, .loopAppended, .wait 5008, .loopAppended, .tick, .grant,
    .wait 6008, .tick]

theorem recovery_never_bursts_lagging :
    ∃ m, Reachable brisk m ∧ Trail brisk (leisurely.path laggingCycles) m ∧
      ((leisurely.path laggingCycles).filter (·.2.isTick)).map (·.1.now) =
        [1000, 2004, 3000, 5008, 6008] ∧
      Paced 1000 (leisurely.path laggingCycles) := by
  obtain ⟨m, fired, ticks⟩ : ∃ m, laggingCycles.foldlM fire leisurely = some m ∧
      ((leisurely.path laggingCycles).filter (·.2.isTick)).map (·.1.now) =
        [1000, 2004, 3000, 5008, 6008] := ⟨_, rfl, rfl⟩
  have trail := (Trail.start _ _ _).follow laggingCycles (moves_of_fired fired)
  have reached : Reachable brisk m := (Reachable.initial _ _ _).follow _ fired
  exact ⟨m, reached, trail, ticks, recovery_never_bursts trail⟩

end ChannelGate.Publisher
