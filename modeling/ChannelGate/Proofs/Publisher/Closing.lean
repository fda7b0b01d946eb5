import ChannelGate.Proofs.Publisher.Ledger
import ChannelGate.Proofs.Publisher.StoreCalls
import ChannelGate.Proofs.Publisher.Turns

set_option autoImplicit false

namespace ChannelGate.Publisher

open Machine

/-- The loop runs before and after a move, or it stays as it is, or it stops and leaves the buffer
closed. -/
inductive LoopWay (m after : Machine) : Prop
  | same (loop : after.loop = m.loop) (closed : after.buffer.closed = m.buffer.closed)
  | goes (before : m.loop.isOver = false) (behind : after.loop.isOver = false)
    (closed : after.buffer.closed = m.buffer.closed)
  | stops (before : m.loop.isOver = false) (behind : after.loop = .stopped)
    (closed : after.buffer.closed = true)

theorem Machine.finishDrain_running (m : Machine) (due count : Nat) :
    (m.finishDrain due count).loop.isOver = false := by
  obtain ⟨lines, same⟩ := m.finishDrain_eq due count
  rw [same]
  rfl

theorem Machine.drainNext_running (m : Machine) (due count : Nat) :
    (m.drainNext due count).loop.isOver = false := by
  obtain ⟨_, same⟩ | ⟨_, _, _, _, _, _, same⟩ := m.drainNext_cases due count
  · rw [same]
    exact m.finishDrain_running due count
  · rw [same]
    rfl

variable {m after : Machine} {move : Move}

theorem Way.loop (way : Way m move after) : LoopWay m after := by
  have running : ∀ {loop : Loop}, m.loop = loop → loop.isOver = false → m.loop.isOver = false := by
    intro loop same other
    rwa [same]
  cases way with
  | @offer number began rest scope record =>
    have loop := (offer_calls { m with queue := rest } scope record).2.2.1
    exact .same loop (offer_untouched ..).closed
  | rest _ _ loop | probe _ _ loop => exact .goes (running loop rfl) rfl rfl
  | drain _ _ loop =>
    exact .goes (running loop rfl) (drainNext_running _ _ _) (drainNext_untouched ..).closed
  | halt _ _ loop => exact .stops (running loop rfl) rfl rfl
  | stop loop | tick loop | loopProbed loop | loopUnprobed loop =>
    exact .goes (running loop rfl) rfl rfl
  | loopStored loop =>
    exact .goes (running loop rfl) (drainNext_running _ _ _) (drainNext_untouched ..).closed
  | loopFailed loop =>
    exact .goes (running loop rfl) (finishDrain_running _ _ _) (finishDrain_untouched ..).closed
  | _ => exact .same rfl rfl

/-- A loop that is over stays as it is. -/
theorem LoopWay.ended (way : LoopWay m after) (ended : m.loop.isOver = true) :
    after.loop = m.loop := by
  cases way with
  | same loop => exact loop
  | goes before | stops before => cases ended.symm.trans before

theorem LoopWay.stopped (way : LoopWay m after) (stopped : m.loop = .stopped) :
    after.loop = .stopped := by
  rw [way.ended (by rw [stopped]; rfl), stopped]

/-- No loop breaks down once it has begun to wait. -/
theorem LoopWay.broken_iff (way : LoopWay m after) : after.loop = .broken ↔ m.loop = .broken := by
  cases way with
  | same loop => rw [loop]
  | goes before behind =>
    constructor
    · intro broken
      rw [broken] at behind
      cases behind
    · intro broken
      rw [broken] at before
      cases before
  | stops before behind =>
    rw [behind]
    refine iff_of_false nofun ?_
    intro broken
    rw [broken] at before
    cases before

variable {settings : Settings} {steps : List (Machine × Move)}

/-- A closed buffer means that the recovery loop stopped. -/
theorem Trail.stopped (trail : Trail settings steps m) (closed : m.buffer.closed = true) :
    m.loop = .stopped := by
  induction trail with
  | start valid store host => cases closed
  | @move steps before after move trail made ih =>
    cases (way_of_act made).loop with
    | same loop same =>
      rw [loop]
      exact ih (same ▸ closed)
    | goes running _ same =>
      rw [ih (same ▸ closed)] at running
      cases running
    | stops _ behind => exact behind

/-- The recovery loop breaks down at its start, or never. -/
theorem Trail.broken_iff (trail : Trail settings steps m) :
    m.loop = .broken ↔ m.host.clockEnd < settings.checkInterval := by
  induction trail with
  | start valid store host =>
    change Loop.launched settings host = .broken ↔ host.clockEnd < settings.checkInterval
    obtain ⟨shown, loop⟩ | ⟨hidden, loop⟩ := Loop.launched_cases settings host
    · rw [loop]
      exact iff_of_false nofun (Nat.not_lt_of_le shown)
    · rw [loop]
      exact iff_of_true rfl hidden
  | move move _ made ih =>
    have way := way_of_act made
    rw [way.loop.broken_iff, way.host_eq, ih]

theorem Trail.host_eq (trail : Trail settings steps m) :
    ∀ step ∈ steps, step.1.host = m.host := by
  induction trail with
  | start valid store host =>
    intro step member
    cases member
  | move move _ made ih =>
    intro step member
    rw [(way_of_act made).host_eq]
    rcases List.mem_append.mp member with earlier | last
    · exact ih step earlier
    · rw [List.mem_singleton.mp last]

/-- Nobody joins a loop that still runs. -/
theorem Way.joining (way : Way m move after) {number : Nat} {scope : List String}
    (waits : m.calls[number]? = some (.close scope .joining)) :
    m.loop.isOver = true ∨ after.calls[number]? = some (.close scope .joining) := by
  by_cases own : m.caller? move = some number
  · have inside := (List.getElem?_eq_some_iff.mp waits).1
    cases way with
    | joined _ stopped => exact .inl (by rw [stopped]; rfl)
    | abandoned _ broken => exact .inl (by rw [broken]; rfl)
    | refuse | begin | ask | join | overtake =>
      exact absurd (Option.some.inj own) (Nat.ne_of_gt inside)
    | offer free head waiting | answer free head waiting =>
      rw [caller?, head] at own
      rw [Option.some.inj own, waits] at waiting
      cases waiting
    | probed waiting | unprobed waiting | store waiting | late waiting | fail waiting
    | closed waiting =>
      rw [Option.some.inj own, waits] at waiting
      cases waiting
    | pass => exact .inr waits
    | rest _ head | probe _ head | drain _ head | halt _ head =>
      rw [caller?, head] at own
      cases own
    | _ => cases own
  · exact .inr (way.call_eq waits own)

def Machine.HasCloserWaiting (m : Machine) : Prop :=
  ∃ (number : Nat) (scope : List String), m.calls[number]? = some (.close scope .joining)

/-- What a closer relies on: a loop that stopped has closed the buffer, and who finds the loop
already awaited finds it over, or finds a call that still waits for it. -/
structure Handover (m : Machine) : Prop where
  closed : m.loop = .stopped → m.buffer.closed = true
  awaited : m.awaited = true → m.loop.isOver = true ∨ m.HasCloserWaiting

/-- Only a close call takes it on itself to wait for the loop. -/
theorem Way.awaited_eq (way : Way m move after) :
    after.awaited = m.awaited ∨ after.HasCloserWaiting := by
  cases way with
  | @join scope first => exact .inr ⟨m.calls.length, scope, by simp⟩
  | offer => exact .inl (offer_untouched ..).awaited
  | drain | loopStored => exact .inl (drainNext_untouched ..).awaited
  | loopFailed => exact .inl (finishDrain_untouched ..).awaited
  | _ => exact .inl rfl

theorem Handover.way (handover : Handover m) (way : Way m move after) : Handover after := by
  have stays : m.loop.isOver = true → after.loop.isOver = true := by
    intro ended
    rw [way.loop.ended ended, ended]
  constructor
  · intro stopped
    cases way.loop with
    | same loop closed =>
      rw [loop] at stopped
      rw [closed]
      exact handover.closed stopped
    | goes _ behind =>
      rw [stopped] at behind
      cases behind
    | stops _ _ closed => exact closed
  · intro awaited
    -- The call that took it on itself goes on waiting until the loop is over.
    rcases way.awaited_eq with same | waiting
    · rw [same] at awaited
      rcases handover.awaited awaited with ended | ⟨number, scope, waits⟩
      · exact .inl (stays ended)
      · rcases way.joining waits with ended | still
        · exact .inl (stays ended)
        · exact .inr ⟨number, scope, still⟩
    · exact .inr waiting

theorem Trail.handover (trail : Trail settings steps m) : Handover m := by
  induction trail with
  | start valid store host =>
    refine ⟨?_, nofun⟩
    change Loop.launched settings host = .stopped → _
    obtain ⟨_, loop⟩ | ⟨_, loop⟩ := Loop.launched_cases settings host <;> rw [loop] <;> exact nofun
  | move move _ made ih => exact ih.way (way_of_act made)

/-- The move begins a close call while another one still waits for the recovery loop. -/
def Machine.Overtakes (m : Machine) (move : Move) : Prop :=
  (∃ scope, move = .close scope) ∧ m.HasCloserWaiting

/-- Whoever closes the store comes after the loop, or overtakes a call that still waits for it. -/
theorem Handover.of_closes (handover : Handover m) (way : Way m move after) {party : Party}
    (closes : m.starts? move = some (.close, party)) :
    m.loop.isOver = true ∨ m.Overtakes move := by
  rcases move_of_starts_close closes with ⟨close, later⟩ | ⟨number, joins⟩
  · rcases handover.awaited later with ended | waiting
    · exact .inl ended
    · exact .inr ⟨close, waiting⟩
  · subst joins
    cases way with
    | joined _ stopped => exact .inl (by rw [stopped]; rfl)
    | abandoned _ broken => exact .inl (by rw [broken]; rfl)

/-- No close call begins while another one still waits for the recovery loop. -/
def Apart (steps : List (Machine × Move)) : Prop :=
  ∀ step ∈ steps, ¬ step.1.Overtakes step.2

theorem Apart.of_append {first second : List (Machine × Move)} (apart : Apart (first ++ second)) :
    Apart first ∧ Apart second := by
  constructor
  · intro step member
    exact apart step (List.mem_append_left _ member)
  · intro step member
    exact apart step (List.mem_append_right _ member)

/-- Every call that closes the store is started with the recovery loop over and the buffer closed,
and the loop calls the store no more. -/
structure ClosedLast (steps : List (Machine × Move)) (m : Machine) : Prop where
  stopped : ∀ step ∈ steps, ∀ entry ∈ step.1.startedBy step.2, entry.op = .close →
    step.1.loop = .stopped ∧ step.1.buffer.closed = true
  silent : m.started.Pairwise fun earlier later => earlier.op = .close → later.party ≠ .loop

/-- With close calls apart, a closed store means that the recovery loop is over. -/
structure Quiet (m : Machine) : Prop where
  ended : ∀ entry ∈ m.started, entry.op = .close → m.loop.isOver = true
  silent : m.started.Pairwise fun earlier later => earlier.op = .close → later.party ≠ .loop

theorem Quiet.way (quiet : Quiet m) (handover : Handover m) (way : Way m move after)
    (apart : ¬ m.Overtakes move) : Quiet after := by
  constructor
  · intro entry member closes
    have ended : m.loop.isOver = true := by
      rw [way.started_eq] at member
      rcases List.mem_append.mp member with before | fresh
      · exact quiet.ended entry before closes
      · have starts := (mem_opened.mp fresh).1
        rw [closes] at starts
        exact (handover.of_closes way starts).resolve_right apart
    rw [way.loop.ended ended, ended]
  · rw [way.started_eq]
    refine List.pairwise_append.mpr ⟨quiet.silent, ?_, ?_⟩
    · unfold opened
      cases m.starts? move with
      | none => exact .nil
      | some start => exact List.pairwise_singleton _ _
    · intro earlier before later fresh closes loop
      -- A loop that calls the store runs, so the store was not closed before.
      have starts := (mem_opened.mp fresh).1
      rw [loop] at starts
      cases (quiet.ended earlier before closes).symm.trans (running_of_starts starts)

theorem Trail.quiet (trail : Trail settings steps m) (apart : Apart steps) : Quiet m := by
  induction trail with
  | start valid store host => exact ⟨nofun, .nil⟩
  | @move steps before after move trail made ih =>
    obtain ⟨earlier, last⟩ := apart.of_append
    exact (ih earlier).way trail.handover (way_of_act made) (last _ (List.mem_singleton.mpr rfl))

theorem Trail.closes (trail : Trail settings steps m) :
    ∀ step ∈ steps, ∀ entry ∈ step.1.startedBy step.2, entry.op = .close →
      step.1.loop.isOver = true ∨ step.1.Overtakes step.2 := by
  induction trail with
  | start valid store host =>
    intro step member
    cases member
  | @move steps before after move trail made ih =>
    intro step member entry fresh closes
    rcases List.mem_append.mp member with earlier | last
    · exact ih step earlier entry fresh closes
    · rw [List.mem_singleton.mp last] at fresh ⊢
      rw [startedBy_eq made] at fresh
      have starts := (mem_opened.mp fresh).1
      rw [closes] at starts
      exact trail.handover.of_closes (way_of_act made) starts

/-- A loop that is over and did not break down has closed the buffer. -/
theorem Trail.stopped_of_isOver (trail : Trail settings steps m) (ended : m.loop.isOver = true)
    (shown : settings.checkInterval ≤ m.host.clockEnd) :
    m.loop = .stopped ∧ m.buffer.closed = true := by
  cases loop : m.loop with
  | stopped => exact ⟨rfl, trail.handover.closed loop⟩
  | broken => exact absurd (trail.broken_iff.mp loop) (Nat.not_lt_of_le shown)
  | _ =>
    rw [loop] at ended
    cases ended

/-- The recovery loop broke down at its start: it makes no store call, and the buffer stays open,
also for every call that closes the store. -/
structure Unattended (steps : List (Machine × Move)) (m : Machine) : Prop where
  before : ∀ step ∈ steps, step.1.loop = .broken ∧ step.1.buffer.closed = false
  behind : m.loop = .broken ∧ m.buffer.closed = false
  silent : ∀ entry ∈ m.started, entry.party ≠ .loop

theorem Trail.open_of_broken (trail : Trail settings steps m) (broken : m.loop = .broken) :
    m.buffer.closed = false := by
  cases closed : m.buffer.closed with
  | false => rfl
  | true => cases broken.symm.trans (trail.stopped closed)

theorem Trail.silent_of_broken (trail : Trail settings steps m) (broken : m.loop = .broken) :
    ∀ entry ∈ m.started, entry.party ≠ .loop := by
  induction trail with
  | start valid store host =>
    intro entry member
    cases member
  | @move steps before after move trail made ih =>
    have way := way_of_act made
    have already : before.loop = .broken := way.loop.broken_iff.mp broken
    intro entry member loop
    rw [way.started_eq] at member
    rcases List.mem_append.mp member with earlier | fresh
    · exact ih already entry earlier loop
    · have starts := (mem_opened.mp fresh).1
      rw [loop] at starts
      have running := running_of_starts starts
      rw [already] at running
      cases running

theorem Trail.unattended (trail : Trail settings steps m)
    (hidden : m.host.clockEnd < settings.checkInterval) : Unattended steps m := by
  have broken : m.loop = .broken := trail.broken_iff.mpr hidden
  refine ⟨?_, ⟨broken, trail.open_of_broken broken⟩, trail.silent_of_broken broken⟩
  intro step member
  obtain ⟨earlier, reached⟩ := trail.before step member
  have same := trail.host_eq step member
  have already : step.1.loop = .broken := reached.broken_iff.mpr (same ▸ hidden)
  exact ⟨already, reached.open_of_broken already⟩

/-- If the clock can show the first tick of the recovery loop, the store is closed with the loop
stopped and the buffer closed, except by a close call that begins while another one waits for the
loop, and in a run without such a call the store is closed last. If not, the loop breaks down at its
start and the buffer is never closed. -/
theorem store_closed_last (trail : Trail settings steps m) :
    (settings.checkInterval ≤ m.host.clockEnd →
      (∀ step ∈ steps, ∀ entry ∈ step.1.startedBy step.2, entry.op = .close →
        (step.1.loop = .stopped ∧ step.1.buffer.closed = true) ∨ step.1.Overtakes step.2) ∧
      (Apart steps → ClosedLast steps m)) ∧
    (m.host.clockEnd < settings.checkInterval → Unattended steps m) := by
  refine ⟨?_, trail.unattended⟩
  intro shown
  have closes : ∀ step ∈ steps, ∀ entry ∈ step.1.startedBy step.2, entry.op = .close →
      (step.1.loop = .stopped ∧ step.1.buffer.closed = true) ∨ step.1.Overtakes step.2 := by
    intro step member entry fresh closes
    obtain ⟨earlier, reached⟩ := trail.before step member
    have same := trail.host_eq step member
    exact (trail.closes step member entry fresh closes).imp_left
      fun ended => reached.stopped_of_isOver ended (same ▸ shown)
  refine ⟨closes, fun apart => ⟨?_, (trail.quiet apart).silent⟩⟩
  intro step member entry fresh close
  exact (closes step member entry fresh close).resolve_right (apart step member)

def Call.isJoining : Call → Bool
  | .close _ .joining => true
  | _ => false

/-- Whether close calls are apart can be seen from the calls of the states in which they begin. -/
theorem apart_of_all
    (checked : steps.all (fun
      | (before, .close _) => before.calls.all fun call => !call.isJoining
      | _ => true) = true) : Apart steps := by
  rintro ⟨before, move⟩ member ⟨⟨scope, close⟩, number, own, waits⟩
  cases close
  have calls := List.all_eq_true.mp checked _ member
  have apart := List.all_eq_true.mp calls _ (List.mem_of_getElem? waits)
  cases apart

def orderly : List Move :=
  [.publish [] ⟨"first", .ok []⟩ 1, .probed 0, .grant, .close [], .stop, .grant, .joined 1,
    .close []]

theorem store_closed_last_orderly :
    ∃ m, Trail .standard (unsteady.path orderly) m ∧
      (m.started.map fun entry => (entry.op, entry.party)) =
        [(.ping, .call 0), (.close, .call 1), (.close, .call 2)] ∧
      ClosedLast (unsteady.path orderly) m := by
  obtain ⟨m, made, started, host⟩ : ∃ m, orderly.foldlM act unsteady = some m ∧
      (m.started.map fun entry => (entry.op, entry.party)) =
        [(.ping, .call 0), (.close, .call 1), (.close, .call 2)] ∧ m.host = .fresh :=
    ⟨_, rfl, rfl, rfl⟩
  have trail := (Trail.start _ _ _).follow orderly made
  have shown : Settings.standard.checkInterval ≤ m.host.clockEnd := by
    rw [host]
    decide
  exact ⟨m, trail, started, ((store_closed_last trail).1 shown).2 (apart_of_all rfl)⟩

/-- Two events wait and the drain writes the first of them when the publisher is closed twice. -/
def overtaken : List Move :=
  [.publish [] ⟨"first", .ok []⟩ 1, .probed 0, .grant, .publish [] ⟨"second", .ok []⟩ 2,
    .probed 1, .grant, .wait 60000, .tick, .grant, .loopProbed, .grant, .close [], .close [],
    .loopAppended]

/-- Settings with the longest period that can be configured, whose first tick no clock can show. -/
def unending : Settings := { Settings.standard with checkInterval := 0xFFFFFFFFFFFFFFFF * 1000 }

def unwatched : Machine := .initial unending (by decide) .ready .fresh

def dismissed : List Move := [.close [], .joined 0]

/-- A second close call closes the store under the drain, which then writes on. And a recovery loop
that broke down leaves the buffer open for the only close call. -/
theorem not_always_closed_last :
    (∃ m, Trail .standard (unsteady.path overtaken) m ∧
      (m.started.map fun entry => (entry.op, entry.party)) =
        [(.ping, .call 0), (.ping, .call 1), (.ping, .loop), (.append, .loop), (.close, .call 3),
          (.append, .loop)] ∧
      ¬ ClosedLast (unsteady.path overtaken) m) ∧
    ∃ m, Trail unending (unwatched.path dismissed) m ∧
      (m.started.map fun entry => (entry.op, entry.party)) = [(.close, .call 0)] ∧
      m.buffer.closed = false ∧ ¬ ClosedLast (unwatched.path dismissed) m := by
  constructor
  · obtain ⟨m, made, started⟩ : ∃ m, overtaken.foldlM act unsteady = some m ∧
        (m.started.map fun entry => (entry.op, entry.party)) =
          [(.ping, .call 0), (.ping, .call 1), (.ping, .loop), (.append, .loop), (.close, .call 3),
            (.append, .loop)] := ⟨_, rfl, rfl⟩
    refine ⟨m, (Trail.start _ _ _).follow overtaken made, started, ?_⟩
    intro last
    have silent : (m.started.map fun entry => (entry.op, entry.party)).Pairwise
        fun earlier later => earlier.1 = .close → later.2 ≠ .loop :=
      List.pairwise_map.mpr last.silent
    rw [started] at silent
    revert silent
    decide
  · obtain ⟨m, made, started, unclosed⟩ : ∃ m, dismissed.foldlM act unwatched = some m ∧
        (m.started.map fun entry => (entry.op, entry.party)) = [(.close, .call 0)] ∧
        m.buffer.closed = false := ⟨_, rfl, rfl, rfl⟩
    refine ⟨m, (Trail.start _ _ _).follow dismissed made, started, unclosed, ?_⟩
    intro last
    obtain ⟨stopped, _⟩ := last.stopped _ (.tail _ (.head _)) ⟨.close, .call 0, 0⟩ (.head _) rfl
    cases stopped

end ChannelGate.Publisher
