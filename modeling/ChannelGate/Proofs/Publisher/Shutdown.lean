import ChannelGate.Proofs.Publisher.Closing
import ChannelGate.Proofs.Publisher.Outcome

set_option autoImplicit false

namespace ChannelGate.Publisher

open Machine

/-- The recovery loop is in a cycle, between the tick that starts it and its wait for the next. -/
def Loop.inCycle : Loop → Bool
  | .checking _ | .probing .. | .claiming _ | .draining .. => true
  | _ => false

theorem Loop.inCycle_launched (settings : Settings) (host : Host) :
    (Loop.launched settings host).inCycle = false := by
  obtain ⟨_, loop⟩ | ⟨_, loop⟩ := launched_cases settings host <;> rw [loop] <;> rfl

def Move.isTick : Move → Bool
  | .tick => true
  | _ => false

def Machine.endsCycle (m : Machine) (move : Move) : Bool :=
  m.loop.inCycle && (m.act move).any fun after => !after.loop.inCycle

def cyclesBegun (steps : List (Machine × Move)) : Nat :=
  steps.countP fun step => step.2.isTick

def cyclesEnded (steps : List (Machine × Move)) : Nat :=
  steps.countP fun step => step.1.endsCycle step.2

variable {settings : Settings} {steps more : List (Machine × Move)} {m after later : Machine}
  {move : Move}

/-- Only a tick starts a cycle, and only while the loop is in none. -/
theorem Way.inCycle (way : Way m move after) :
    (move.isTick = true → m.loop.inCycle = false ∧ after.loop.inCycle = true) ∧
    (move.isTick = false → after.loop.inCycle = true → m.loop.inCycle = true) := by
  constructor
  · intro tick
    cases way with
    | tick loop =>
      rw [loop]
      exact ⟨rfl, rfl⟩
    | _ => cases tick
  · intro other running
    cases way with
    | tick => cases other
    | @offer number began rest scope record =>
      have loop := (offer_calls { m with queue := rest } scope record).2.2.1
      rwa [← loop]
    | rest _ _ loop | probe _ _ loop | drain _ _ loop =>
      rw [loop]
      rfl
    | halt | stop => cases running
    | loopProbed loop | loopUnprobed loop | loopStored loop | loopFailed loop =>
      rw [loop]
      rfl
    | _ => exact running

/-- The cycles that were begun are those that are finished, and the one in which the loop is. -/
theorem Trail.cycles (trail : Trail settings steps m) :
    cyclesBegun steps = cyclesEnded steps + m.loop.inCycle.toNat := by
  induction trail with
  | start valid store host =>
    change 0 = 0 + (Loop.launched settings host).inCycle.toNat
    rw [Loop.inCycle_launched]
    rfl
  | @move steps before after move trail made ih =>
    obtain ⟨tick, other⟩ := (way_of_act made).inCycle
    unfold cyclesBegun cyclesEnded at ih ⊢
    rw [List.countP_append, List.countP_append, List.countP_singleton, List.countP_singleton, ih]
    simp only [endsCycle, made, Option.any_some]
    cases begins : move.isTick with
    | true =>
      obtain ⟨rest, running⟩ := tick begins
      simp [rest, running]
    | false =>
      cases running : after.loop.inCycle with
      | true => simp [other begins running]
      | false => cases before.loop.inCycle <;> simp

/-- A buffer is closed by the recovery loop, with its last move. -/
theorem Way.closes (way : Way m move after) (unclosed : m.buffer.closed = false)
    (closed : after.buffer.closed = true) : move = .grant ∧ m.loop = .closing := by
  have still : after.buffer.closed = m.buffer.closed → move = .grant ∧ m.loop = .closing := by
    intro same
    cases unclosed.symm.trans (same.symm.trans closed)
  cases way with
  | halt _ _ loop => exact ⟨rfl, loop⟩
  | offer => exact still (offer_untouched ..).closed
  | drain | loopStored => exact still (drainNext_untouched ..).closed
  | loopFailed => exact still (finishDrain_untouched ..).closed
  | _ => exact still rfl

structure ClosedAt (settings : Settings) (earlier : List (Machine × Move))
    (before behind : Machine) :
    Prop where
  trail : Trail settings earlier before
  made : before.act .grant = some behind
  unclosed : before.buffer.closed = false
  closed : behind.buffer.closed = true
  /-- No cycle of the recovery loop is under way. -/
  finished : cyclesBegun earlier = cyclesEnded earlier

theorem Trail.closing (trail : Trail settings steps m) (closed : m.buffer.closed = true) :
    ∃ earlier before behind more, steps = earlier ++ (before, .grant) :: more ∧
      ClosedAt settings earlier before behind ∧ Onward behind more m := by
  induction trail with
  | start valid store host => cases closed
  | @move steps last after move trail made ih =>
    by_cases already : last.buffer.closed = true
    · obtain ⟨earlier, before, behind, more, rfl, moment, onward⟩ := ih already
      refine ⟨earlier, before, behind, more ++ [(last, move)], ?_, moment, onward.move move made⟩
      rw [List.append_assoc, List.cons_append]
    · have unclosed : last.buffer.closed = false := Bool.not_eq_true _ ▸ already
      obtain ⟨rfl, loop⟩ := (way_of_act made).closes unclosed closed
      have cycles := trail.cycles
      rw [loop] at cycles
      exact ⟨steps, last, after, [], rfl, ⟨trail, made, unclosed, closed, cycles⟩, .stay⟩

/-- What no move changes any more once the buffer is closed, and what no move does. -/
structure Still (m : Machine) (more : List (Machine × Move)) (later : Machine) : Prop where
  stopped : later.loop = .stopped
  buffer : later.buffer = m.buffer
  drained : later.metrics.drained = m.metrics.drained
  buffered : later.metrics.buffered = m.metrics.buffered
  /-- The recovery loop makes no store call. -/
  silent : ∀ step ∈ more, ∀ entry ∈ step.1.startedBy step.2, entry.party ≠ .loop
  cycles : cyclesBegun more = 0

/-- An offer to a closed buffer only counts what it drops. -/
theorem Machine.offer_closed (m : Machine) (scope : List String) (record : Record)
    (closed : m.buffer.closed = true) :
    ∃ lines, m.offer scope record =
      { m with metrics := m.metrics.increase 1 .dropped, lines := lines } := by
  obtain ⟨pushed, _⟩ | ⟨_, same⟩ := m.offer_cases scope record
  · cases closed.symm.trans (tryPush_queued pushed).1
  · exact same

theorem Way.still (way : Way m move after) (stopped : m.loop = .stopped)
    (closed : m.buffer.closed = true) :
    after.buffer = m.buffer ∧ after.metrics.drained = m.metrics.drained ∧
      after.metrics.buffered = m.metrics.buffered := by
  have running : ∀ {loop : Loop}, m.loop = loop → loop ≠ .stopped → False :=
    fun same other => other (same.symm.trans stopped)
  cases way with
  | @offer number began rest scope record =>
    obtain ⟨lines, same⟩ := offer_closed { m with queue := rest } scope record closed
    show (Machine.offer _ scope record).buffer = _ ∧ (Machine.offer _ scope record).metrics.drained
      = _ ∧ (Machine.offer _ scope record).metrics.buffered = _
    rw [same]
    exact ⟨rfl, rfl, rfl⟩
  | drain _ _ loop | halt _ _ loop => exact (running loop nofun).elim
  | loopStored loop | loopFailed loop => exact (running loop nofun).elim
  | _ => exact ⟨rfl, rfl, rfl⟩

theorem Onward.still (onward : Onward m more later) (stopped : m.loop = .stopped)
    (closed : m.buffer.closed = true) : Still m more later := by
  induction onward with
  | stay =>
    refine ⟨stopped, rfl, rfl, rfl, ?_, rfl⟩
    intro step member
    cases member
  | @move steps last after move onward made ih =>
    have way := way_of_act made
    obtain ⟨buffer, drained, buffered⟩ := way.still ih.stopped (ih.buffer ▸ closed)
    refine ⟨way.loop.stopped ih.stopped, buffer.trans ih.buffer, drained.trans ih.drained,
      buffered.trans ih.buffered, ?_, ?_⟩
    · intro step member entry started
      rcases List.mem_append.mp member with earlier | now
      · exact ih.silent step earlier entry started
      · rw [List.mem_singleton.mp now, startedBy_eq made] at started
        intro loop
        have starts := (mem_opened.mp started).1
        rw [loop] at starts
        have running := running_of_starts starts
        rw [ih.stopped] at running
        cases running
    · have before := ih.cycles
      have silent : move.isTick = false := by
        cases tick : move.isTick with
        | false => rfl
        | true =>
          have running := (way.inCycle.1 tick).2
          rw [way.loop.stopped ih.stopped] at running
          cases running
      unfold cyclesBegun at before ⊢
      rw [List.countP_append, before, List.countP_singleton, silent]
      rfl

/-- How a publish call ends that is not over when the buffer is closed, by what it hears of the
store: what it would have put into the buffer it drops, and what it can write is published. -/
structure Concluded (settings : Settings) (event : Event) (stamp : Int64) (done : Footprint)
    (answer : Except EventError Unit) : Prop where
  outcome : ∃ outcome, Asks outcome done.asked
  dropped : Asks .absorbed done.asked →
    answer = .ok () ∧ done = ⟨done.asked, [], grows [.dropped], []⟩
  published : Asks .published done.asked →
    answer = .ok () ∧ ∃ fields record, event.encoding = .ok fields ∧
      Stamped settings fields stamp record ∧ done = ⟨done.asked, [record], grows [.published], []⟩

variable {event : Event} {stamp : Int64} {number : Nat} {stage : PublishStage}
  {answer : Except EventError Unit}

/-- A publish call that ends now, with the buffer closed. -/
theorem Progress.concludes (made : m.act move = some after) (same : m.settings = settings)
    (closed : m.buffer.closed = true)
    (way : PublishWay m number after move stage (.finished answer))
    (progress : Progress settings event stamp number steps stage) :
    Concluded settings event stamp (footprint (steps ++ [(m, move)])) answer := by
  subst same
  cases way with
  | store answered started stored metrics buffer =>
    cases progress with
    | appending encoded stamped awaits done =>
      cases awaits.symm.trans answered
      rw [done_after_counting made rfl done started stored metrics buffer]
      exact ⟨⟨.published, .published⟩, nofun, fun _ => ⟨rfl, _, _, encoded, stamped, rfl⟩⟩
  | fail failed other started quietly =>
    cases progress with
    | appending encoded stamped awaits done =>
      cases awaits.symm.trans failed
      rw [quiet_after made done (started.trans (List.append_nil _).symm) quietly]
      refine ⟨⟨.failed, .failed other⟩, fun asks => ?_, nofun⟩
      cases Asks.unique (.failed other) asks
  | buffer free head started stored unclosed => cases closed.symm.trans unclosed
  | drop free head started stored refused metrics buffer =>
    cases progress with
    | queued encoded stamped outage done =>
      rw [done_after_counting made rfl done started (stored.trans (List.append_nil _).symm) metrics
        buffer]
      refine ⟨⟨.absorbed, outage⟩, fun _ => ⟨rfl, rfl⟩, fun asks => ?_⟩
      cases Asks.unique outage asks

/-- Whatever happens after the buffer was closed, a publish call that was not over then ends as it
should. -/
theorem Onward.concludes (onward : Onward m more later) (trail : Trail settings steps m)
    (closed : m.buffer.closed = true) {start : Machine} {scope : List String}
    (begun : (start, Move.publish scope event stamp) ∈ steps ++ more)
    (unfinished : ∀ answer, m.calls[start.calls.length]? ≠
      some (.publish start.now scope (.finished answer)))
    (ended : later.calls[start.calls.length]? =
      some (.publish start.now scope (.finished answer))) :
    Concluded settings event stamp (footprint (own start.calls.length (steps ++ more))) answer := by
  have stopped := trail.stopped closed
  induction onward generalizing answer with
  | stay => exact absurd ended (unfinished answer)
  | @move more last after move onward made ih =>
    have way := way_of_act made
    have sofar := onward.trail trail
    rw [← List.append_assoc] at begun ⊢
    rcases List.mem_append.mp begun with earlier | now
    · obtain ⟨stage, present, progress⟩ := sofar.progress earlier
      by_cases turn : last.caller? move = some start.calls.length
      · obtain ⟨next, there, goes⟩ := way.publish sofar.queued present turn
        cases there.symm.trans ended
        have shut : last.buffer.closed = true := (onward.still stopped closed).buffer ▸ closed
        rw [own_append_of_own turn]
        exact progress.concludes made sofar.settings_eq shut goes
      · rw [own_append_of_other turn]
        exact ih earlier (way.call_of_eq ended turn)
    · -- Only an event that cannot be encoded is over with the move that begins its call.
      cases List.mem_singleton.mp now
      have new : footprint (own start.calls.length (steps ++ more)) = .quiet [] := by
        rw [sofar.own_eq_nil (Nat.le_refl _)]
        rfl
      rw [own_append_of_own rfl]
      cases way with
      | refuse unencoded =>
        rw [quiet_after made new (List.append_nil _).symm ⟨rfl, rfl, rfl⟩]
        exact ⟨⟨.refused, .refused⟩, nofun, nofun⟩
      | begin encoded => cases List.getElem?_concat_length.symm.trans ended

/-- The schedule leads on by moves, each made in a state in which the goal is not met. -/
theorem onward_runUntil (m : Machine) (limit : Nat) (done : Machine → Bool) :
    ∃ more, Onward m more (m.runUntil limit done) ∧ ∀ step ∈ more, done step.1 = false := by
  have first : ∀ {before after later : Machine} {move : Move} {more : List (Machine × Move)},
      before.fire move = some after → done before = false → Onward after more later →
      (∀ step ∈ more, done step.1 = false) →
      ∃ more, Onward before more later ∧ ∀ step ∈ more, done step.1 = false := by
    intro before after later move more fired unmet onward rest
    refine ⟨(before, move) :: more, (Onward.stay.move move (act_of_fire fired)).trans onward, ?_⟩
    exact List.forall_mem_cons.mpr ⟨unmet, rest⟩
  induction m using runUntil.induct limit done with
  | case1 m met =>
    rw [runUntil_of_done met]
    exact ⟨[], .stay, List.forall_mem_nil _⟩
  | case2 m unmet after moved ih =>
    have unmet : done m = false := (Bool.not_eq_true _).mp unmet
    rw [runUntil_of_step unmet moved]
    obtain ⟨move, _, made⟩ := List.exists_of_findSome?_eq_some moved
    obtain ⟨more, onward, rest⟩ := ih
    exact first (fire_of_go made) unmet onward rest
  | case3 m unmet rest after waited ih =>
    have unmet : done m = false := (Bool.not_eq_true _).mp unmet
    rw [runUntil_of_wait unmet rest waited]
    obtain ⟨more, onward, rest⟩ := ih
    exact first waited unmet onward rest
  | case4 m unmet rest stuck =>
    rw [runUntil_of_stuck rest stuck]
    exact ⟨[], .stay, List.forall_mem_nil _⟩

theorem exists_onward_runUntil (m : Machine) (limit : Nat) (done : Machine → Bool) :
    ∃ more, Onward m more (m.runUntil limit done) :=
  (onward_runUntil m limit done).imp fun _ run => run.1

/-- A publisher is closed for good. The buffer was closed when every cycle of the recovery loop that
had begun was finished, and whatever happens from there on: no cycle begins, the loop makes no store
call, the buffer stays as it is, and nothing is counted as buffered or drained. A publish call that
was not over then drops its record where it would have buffered it and succeeds, and is published
where its probe and its write succeed; the schedule brings every such call to its end. -/
theorem shutdown_is_final (trail : Trail settings steps m) (closed : m.buffer.closed = true) :
    (∃ earlier before behind more, steps = earlier ++ (before, .grant) :: more ∧
      ClosedAt settings earlier before behind ∧ Onward behind more m ∧ Still behind more m) ∧
    ∀ more later, Onward m more later → Still m more later ∧
      ∀ start scope event stamp, (start, Move.publish scope event stamp) ∈ steps ++ more →
        (∀ answer, m.calls[start.calls.length]? ≠
          some (.publish start.now scope (.finished answer))) →
        (∀ answer, later.calls[start.calls.length]? =
            some (.publish start.now scope (.finished answer)) →
          Concluded settings event stamp (footprint (own start.calls.length (steps ++ more)))
            answer) ∧
        (Reachable settings later → ∀ limit,
          start.now + settings.probeTimeout + settings.writeTimeout +
            settings.maxPending * settings.writeTimeout < limit →
          ∃ rest answer, Onward later rest (later.runUntil limit fun _ => false) ∧
            (later.runUntil limit fun _ => false).calls[start.calls.length]? =
              some (.publish start.now scope (.finished answer)) ∧
            Concluded settings event stamp
              (footprint (own start.calls.length (steps ++ (more ++ rest)))) answer) := by
  refine ⟨?_, fun more later onward => ⟨onward.still (trail.stopped closed) closed, ?_⟩⟩
  · obtain ⟨earlier, before, behind, more, same, moment, onward⟩ := trail.closing closed
    have stopped := (moment.trail.move _ moment.made).stopped moment.closed
    exact ⟨earlier, before, behind, more, same, moment, onward, onward.still stopped moment.closed⟩
  · intro start scope event stamp begun unfinished
    refine ⟨fun answer ended => onward.concludes trail closed begun unfinished ended, ?_⟩
    intro reached limit enough
    obtain ⟨stage, present, _⟩ := (onward.trail trail).progress begun
    obtain ⟨answer, ended⟩ := reached.publish_returns present enough
    obtain ⟨rest, further⟩ := exists_onward_runUntil later limit fun _ => false
    have begun : (start, Move.publish scope event stamp) ∈ steps ++ (more ++ rest) := by
      rw [← List.append_assoc]
      exact List.mem_append_left _ begun
    exact ⟨rest, answer, further, ended,
      (onward.trans further).concludes trail closed begun unfinished ended⟩

/-- The loop is told to stop while one event waits for the lock, and another comes to wait behind
the loop. -/
def halting : List Move :=
  [.publish [] ⟨"first", .ok []⟩ 1, .probed 0, .cancel, .stop, .publish [] ⟨"second", .ok []⟩ 2,
    .probed 1, .grant, .grant]

/-- The event behind the loop gets the lock, and a third one finds the store answering. -/
def halted : List Move :=
  [.grant, .publish [] ⟨"third", .ok []⟩ 3, .probed 2, .appended 2]

theorem shutdown_is_final_halting :
    ∃ m later, Trail .standard (unsteady.path halting) m ∧ m.buffer.closed = true ∧
      Onward m (m.path halted) later ∧ later.metrics = ⟨1, 1, 1, 0, 1⟩ ∧
      Still m (m.path halted) later ∧
      Concluded .standard ⟨"second", .ok []⟩ 2
        (footprint (own 1 (unsteady.path halting ++ m.path halted))) (.ok ()) := by
  obtain ⟨m, made, closed, ⟨record, waits⟩, later, further, counts, ended⟩ :
      ∃ m, halting.foldlM act unsteady = some m ∧ m.buffer.closed = true ∧
        (∃ record, m.calls[1]? = some (.publish 0 [] (.queued record))) ∧
        ∃ later, halted.foldlM act m = some later ∧ later.metrics = ⟨1, 1, 1, 0, 1⟩ ∧
          later.calls[1]? = some (.publish 0 [] (.finished (.ok ()))) :=
    ⟨_, rfl, rfl, ⟨_, rfl⟩, _, rfl, rfl, rfl⟩
  have trail := (Trail.start _ _ _).follow halting made
  have onward := onward_path halted further
  obtain ⟨start, begun, number, now⟩ :
      ∃ start, (start, Move.publish [] ⟨"second", .ok []⟩ 2) ∈ unsteady.path halting ∧
        start.calls.length = 1 ∧ start.now = 0 :=
    ⟨_, .tail _ (.tail _ (.tail _ (.tail _ (.head _)))), rfl, rfl⟩
  have unfinished : ∀ answer, m.calls[1]? ≠ some (.publish 0 [] (.finished answer)) := by
    intro answer same
    cases waits.symm.trans same
  obtain ⟨still, calls⟩ := (shutdown_is_final trail closed).2 _ later onward
  have second := calls start [] ⟨"second", .ok []⟩ 2 (List.mem_append_left _ begun)
  rw [number, now] at second
  exact ⟨m, later, trail, closed, onward, counts, still, (second unfinished).1 _ ended⟩

end ChannelGate.Publisher
