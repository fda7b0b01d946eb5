import ChannelGate.Proofs.Publisher.Shutdown

set_option autoImplicit false

namespace ChannelGate.Publisher

open Machine

/-- A store call of the recovery loop: the record that it hands over, if it is a write, and what
the loop hears of it. -/
structure LoopCall where
  op : StoreOp
  record : Option Record
  heard : Except EventError Unit

def LoopCall.probe (heard : Except EventError Unit) : LoopCall := ⟨.ping, none, heard⟩

def LoopCall.write (heard : Except EventError Unit) (record : Record) : LoopCall :=
  ⟨.append, some record, heard⟩

/-- The store calls that the recovery loop starts with a move. A record that it writes is in the
hand of the drain afterwards. -/
def Machine.loopAsks (m : Machine) (move : Move) : List LoopCall :=
  ((m.startedBy move).filter fun entry => entry.party = .loop).map fun entry =>
    ⟨entry.op, (m.act move).bind fun after => after.loop.hand.head?, m.heard entry.op⟩

def loopCalls (steps : List (Machine × Move)) : List LoopCall :=
  steps.flatMap fun step => step.1.loopAsks step.2

/-- The recovery loop gets the lock at this stage, with one of these moves. -/
structure Locks (steps : List (Machine × Move)) (locked : Machine) (stage : Loop) : Prop where
  member : (locked, Move.grant) ∈ steps
  loop : locked.loop = stage
  first : locked.queue.head? = some .loop

/-- The recovery loop has found records, and since then it has taken none of them out of the
buffer, stored none and counted none. -/
structure Kept (look m : Machine) : Prop where
  found : look.buffer.records ≠ []
  records : look.buffer.records <+: m.buffer.records
  stored : drained m.stored = drained look.stored
  counted : m.metrics.drained = look.metrics.drained

/-- How a drain deals with the records that it finds: it writes them in order, with one call for
each, up to the first one whose write fails. What it has `written` is in front of what is `left`. -/
inductive Drained (found : List Record) : List LoopCall → List Record → List Record → Prop
  | all : Drained found (found.map (.write (.ok ()))) found []
  | upTo {written behind : List Record} {record : Record} {error : EventError}
    (whole : found = written ++ record :: behind) :
    Drained found (written.map (.write (.ok ())) ++ [.write (.error error) record]) written
      (record :: behind)

/-- After its look the recovery loop got the lock again, in the state `locked` and with the records
still there, and has stored `written` since then. -/
structure Draining (steps : List (Machine × Move)) (due : Nat) (locked : Machine)
    (written : List Record) (m : Machine) : Prop where
  looked : ∃ look, Locks steps look (.checking due) ∧ Kept look locked
  claimed : Locks steps locked (.claiming due)
  stored : drained m.stored = drained locked.stored ++ written

/-- What is known of a cycle of the recovery loop at a stage, by the moves since its tick. -/
inductive Cycle (steps : List (Machine × Move)) (m : Machine) : Loop → Prop
  /-- It has not looked yet. -/
  | checking {due : Nat} (calls : loopCalls steps = []) : Cycle steps m (.checking due)
  /-- It is over: there were no records, and the store was not called. -/
  | idle {due : Nat} {look : Machine} (looked : Locks steps look (.checking due))
    (empty : look.buffer.records = []) (calls : loopCalls steps = []) :
    Cycle steps m (.waiting due)
  | probing {due : Nat} {look : Machine} {call : Awaited} {heard : Except EventError Unit}
    (looked : Locks steps look (.checking due)) (kept : Kept look m)
    (awaits : call.result (.probeTimeout m.settings.probeTimeout) = heard)
    (calls : loopCalls steps = [.probe heard]) : Cycle steps m (.probing due call)
  /-- It is over: the probe failed or took too long, and nothing else was asked. -/
  | unreachable {due : Nat} {look : Machine} {error : EventError}
    (looked : Locks steps look (.checking due)) (kept : Kept look m)
    (calls : loopCalls steps = [.probe (.error error)]) : Cycle steps m (.waiting due)
  | claiming {due : Nat} {look : Machine} (looked : Locks steps look (.checking due))
    (kept : Kept look m) (calls : loopCalls steps = [.probe (.ok ())]) :
    Cycle steps m (.claiming due)
  /-- The drain has written some of the records that it found and awaits the write of the next. -/
  | draining {due : Nat} {locked : Machine} {written : List Record} {record : Record}
    {call : Awaited} {heard : Except EventError Unit} (drain : Draining steps due locked written m)
    (found : locked.buffer.records = written ++ record :: m.buffer.records)
    (awaits : call.result (.writeTimeout m.settings.writeTimeout) = heard)
    (calls : loopCalls steps =
      .probe (.ok ()) :: (written.map (.write (.ok ())) ++ [.write heard record]))
    (counted : m.metrics.drained = locked.metrics.drained) :
    Cycle steps m (.draining due record written.length call)
  /-- It is over: the drain has dealt with what it found under the lock. -/
  | flushed {due : Nat} {locked : Machine} {writes : List LoopCall} {written : List Record}
    (drain : Draining steps due locked written m) (some : 0 < locked.buffer.size)
    (dealt : Drained locked.buffer.records writes written m.buffer.records)
    (few : writes.length ≤ locked.buffer.size)
    (calls : loopCalls steps = .probe (.ok ()) :: writes)
    (counted : m.metrics.drained = locked.metrics.drained + written.length) :
    Cycle steps m (.waiting due)

theorem loopCalls_append_singleton (steps : List (Machine × Move)) (m : Machine) (move : Move) :
    loopCalls (steps ++ [(m, move)]) = loopCalls steps ++ m.loopAsks move := by
  simp [loopCalls]

theorem Locks.later {steps : List (Machine × Move)} {locked : Machine} {stage : Loop}
    (locks : Locks steps locked stage) (step : Machine × Move) :
    Locks (steps ++ [step]) locked stage :=
  ⟨List.mem_append_left _ locks.member, locks.loop, locks.first⟩

theorem Kept.some {look m : Machine} (kept : Kept look m) : m.buffer.records ≠ [] := by
  intro empty
  have records := kept.records
  rw [empty] at records
  exact kept.found (List.prefix_nil.mp records)

theorem Drained.length_le {found left : List Record} {writes : List LoopCall}
    {written : List Record} (drained : Drained found writes written left) :
    writes.length ≤ found.length := by
  cases drained with
  | all => rw [List.length_map]
  | upTo whole =>
    rw [whole, List.length_append, List.length_append, List.length_map, List.length_singleton,
      List.length_cons]
    omega

variable {m after : Machine} {move : Move}

/-- Only the lock and an answered write bring the recovery loop to call the store. -/
theorem move_of_starts_loop {op : StoreOp} (starts : m.starts? move = some (op, .loop)) :
    (move = .grant ∧ m.queue.head? = some .loop ∧ m.loop.isQueued = true) ∨
      move = .loopAppended := by
  unfold starts? at starts
  split at starts
  case h_3 =>
    split at starts
    · rename_i queue loop records
      rw [queue, loop]
      exact .inl ⟨rfl, rfl, rfl⟩
    · rename_i queue loop records
      rw [queue, loop]
      exact .inl ⟨rfl, rfl, rfl⟩
    · cases starts
  case h_6 => exact .inr rfl
  all_goals
    repeat' split at starts
    all_goals cases starts

theorem loopAsks_eq_nil (made : m.act move = some after)
    (other : ∀ op, m.starts? move ≠ some (op, .loop)) : m.loopAsks move = [] := by
  rw [loopAsks, startedBy_eq made, opened]
  cases starts : m.starts? move with
  | none => rfl
  | some start =>
    obtain ⟨op, party⟩ := start
    cases party with
    | loop => exact absurd starts (other op)
    | call number => rfl

theorem loopAsks_of_none (made : m.act move = some after) (none : m.starts? move = none) :
    m.loopAsks move = [] := by
  apply loopAsks_eq_nil made
  intro op starts
  rw [none] at starts
  cases starts

theorem loopAsks_eq (made : m.act move = some after) {op : StoreOp}
    (starts : m.starts? move = some (op, .loop)) :
    m.loopAsks move = [⟨op, after.loop.hand.head?, m.heard op⟩] := by
  rw [loopAsks, startedBy_eq made, opened, starts, made]
  rfl

/-- A drain that goes on awaits the write of the next record. -/
theorem Machine.drainNext_cons (m : Machine) (due count : Nat) {record : Record}
    {rest : List Record} (records : m.buffer.records = record :: rest) :
    ∃ call, call.result (.writeTimeout m.settings.writeTimeout) = m.heard .append ∧
      (m.drainNext due count).loop = .draining due record count call ∧
      (m.drainNext due count).buffer.records = rest ∧
      (m.drainNext due count).stored = m.stored ∧
      (m.drainNext due count).metrics = m.metrics := by
  unfold drainNext Buffer.popFront
  rw [records]
  exact ⟨_, Reply.result_within _ _ _ _, rfl, rfl, rfl, rfl⟩

theorem Machine.drainNext_nil (m : Machine) (due count : Nat) (records : m.buffer.records = []) :
    m.drainNext due count = m.finishDrain due count := by
  unfold drainNext Buffer.popFront
  rw [records]

/-- A move that the recovery loop has no part in: it may add records to the buffer, and not even
that under a drain. -/
structure Aside (m : Machine) (move : Move) (after : Machine) : Prop where
  silent : m.loopAsks move = []
  loop : after.loop = m.loop
  records : m.buffer.records <+: after.buffer.records
  held : m.loop.hand ≠ [] → after.buffer.records = m.buffer.records
  stored : drained after.stored = drained m.stored
  counted : after.metrics.drained = m.metrics.drained

theorem Kept.aside {look : Machine} (kept : Kept look m) (aside : Aside m move after) :
    Kept look after :=
  ⟨kept.found, kept.records.trans aside.records, aside.stored.trans kept.stored,
    aside.counted.trans kept.counted⟩

variable {steps : List (Machine × Move)}

theorem Draining.later {due : Nat} {locked : Machine} {written more : List Record}
    (drain : Draining steps due locked written m) (step : Machine × Move)
    (stored : drained after.stored = drained m.stored ++ more) :
    Draining (steps ++ [step]) due locked (written ++ more) after := by
  obtain ⟨⟨look, looked, kept⟩, claimed, before⟩ := drain
  refine ⟨⟨look, looked.later step, kept⟩, claimed.later step, ?_⟩
  rw [stored, before, List.append_assoc]

theorem Draining.some {due : Nat} {locked : Machine} {written : List Record}
    (drain : Draining steps due locked written m) : 0 < locked.buffer.size := by
  obtain ⟨look, _, kept⟩ := drain.looked
  exact List.length_pos_iff.mpr kept.some

theorem Cycle.aside (cycle : Cycle steps m m.loop) (running : m.loop.inCycle = true)
    (aside : Aside m move after) (settings : after.settings = m.settings) :
    Cycle (steps ++ [(m, move)]) after after.loop := by
  have calls : loopCalls (steps ++ [(m, move)]) = loopCalls steps := by
    rw [loopCalls_append_singleton, aside.silent, List.append_nil]
  have held := aside.held
  rw [aside.loop]
  generalize m.loop = stage at cycle running held
  cases cycle with
  | checking silent => exact .checking (calls.trans silent)
  | probing looked kept awaits asked =>
    exact .probing (looked.later _) (kept.aside aside) (settings ▸ awaits) (calls.trans asked)
  | claiming looked kept asked =>
    exact .claiming (looked.later _) (kept.aside aside) (calls.trans asked)
  | @draining due locked written record call heard drain found awaits asked counted =>
    have goes := drain.later (m, move) (aside.stored.trans (List.append_nil _).symm)
    rw [List.append_nil] at goes
    refine .draining goes ?_ (settings ▸ awaits) (calls.trans asked)
      (aside.counted.trans counted)
    rw [held (List.cons_ne_nil _ _), found]
  | idle | unreachable | flushed => cases running

/-- A drain that has come to an end. -/
theorem Cycle.finish {due : Nat} {locked left : Machine} {writes : List LoopCall}
    {written : List Record} (drain : Draining steps due locked written left)
    (dealt : Drained locked.buffer.records writes written left.buffer.records)
    (calls : loopCalls steps = .probe (.ok ()) :: writes)
    (counted : left.metrics.drained = locked.metrics.drained) :
    Cycle steps (left.finishDrain due written.length)
      (left.finishDrain due written.length).loop := by
  obtain ⟨lines, same⟩ := left.finishDrain_eq due written.length
  rw [same]
  refine .flushed ⟨drain.looked, drain.claimed, drain.stored⟩ drain.some dealt dealt.length_le
    calls ?_
  rw [← counted]
  rfl

/-- A drain that goes on with the next record, or has nothing left to write. -/
theorem Cycle.goOn {due : Nat} {locked left : Machine} {written : List Record}
    (drain : Draining steps due locked written left)
    (found : locked.buffer.records = written ++ left.buffer.records)
    (calls : loopCalls steps = .probe (.ok ()) :: (written.map (.write (.ok ())) ++
      (left.buffer.records.head?.map (.write (left.heard .append))).toList))
    (counted : left.metrics.drained = locked.metrics.drained) :
    Cycle steps (left.drainNext due written.length) (left.drainNext due written.length).loop := by
  cases records : left.buffer.records with
  | nil =>
    rw [records] at calls found
    rw [List.head?_nil, Option.map_none, Option.toList_none, List.append_nil] at calls
    rw [left.drainNext_nil due written.length records]
    have all : locked.buffer.records = written := found.trans (List.append_nil _)
    refine .finish drain ?_ calls counted
    rw [records, all]
    exact .all
  | cons record rest =>
    rw [records] at calls found
    obtain ⟨call, awaits, loop, waiting, stored, metrics⟩ :=
      left.drainNext_cons due written.length records
    rw [loop]
    refine .draining ⟨drain.looked, drain.claimed, ?_⟩ ?_ ?_ calls ?_
    · rw [stored, drain.stored]
    · rw [waiting, found]
    · rw [drainNext_settings, awaits]
    · rw [metrics, counted]

theorem Machine.offer_drained (m : Machine) (scope : List String) (record : Record) :
    (m.offer scope record).metrics.drained = m.metrics.drained := by
  obtain ⟨_, lines, same⟩ | ⟨_, lines, same⟩ := m.offer_cases scope record
  · rw [same]
    rfl
  · rw [same]
    rfl

theorem Machine.offer_prefix (m : Machine) (scope : List String) (record : Record) :
    m.buffer.records <+: (m.offer scope record).buffer.records := by
  obtain ⟨_, lines, same⟩ | ⟨_, lines, same⟩ := m.offer_cases scope record
  · rw [same]
    exact List.prefix_append _ _
  · have records : (m.offer scope record).buffer.records = m.buffer.records :=
      congrArg (·.buffer.records) same
    exact records ▸ List.prefix_refl _

theorem Aside.offer {number began : Nat} {rest : List Party} {scope : List String}
    {record : Record} (free : m.isDraining = false) (silent : m.loopAsks .grant = []) :
    Aside m .grant (({ m with queue := rest }.offer scope record).setCall number
      (.publish began scope (.finished (.ok ())))) where
  silent := silent
  loop := (offer_calls { m with queue := rest } scope record).2.2.1
  records := offer_prefix { m with queue := rest } scope record
  held holds := absurd (hand_of_free free) holds
  stored := congrArg drained (offer_stored { m with queue := rest } scope record)
  counted := offer_drained { m with queue := rest } scope record

/-- A move that leaves all this as it is. -/
theorem Aside.still (silent : m.loopAsks move = []) (loop : after.loop = m.loop)
    (records : after.buffer.records = m.buffer.records)
    (stored : drained after.stored = drained m.stored)
    (counted : after.metrics.drained = m.metrics.drained) : Aside m move after :=
  ⟨silent, loop, records ▸ List.prefix_refl _, fun _ => records, stored, counted⟩

theorem loopAsks_of_call {number : Nat} {rest : List Party} (made : m.act .grant = some after)
    (head : m.queue = .call number :: rest) : m.loopAsks .grant = [] := by
  apply loopAsks_eq_nil made
  intro op starts
  cases (starts?_of_not_loop head).symm.trans starts

theorem loopAsks_of_idle {first : Party} {rest : List Party} (made : m.act .grant = some after)
    (head : m.queue = first :: rest) (idle : first = .loop → m.loop.isQueued = false) :
    m.loopAsks .grant = [] := by
  apply loopAsks_eq_nil made
  intro op starts
  rcases move_of_starts_loop starts with ⟨_, loop, queued⟩ | other
  · rw [head, List.head?_cons] at loop
    cases (idle (Option.some.inj loop)).symm.trans queued
  · cases other

theorem starts?_of_claiming {due : Nat} {rest : List Party} (head : m.queue = .loop :: rest)
    (loop : m.loop = .claiming due) :
    m.starts? .grant = m.buffer.records.head?.map fun _ => (.append, .loop) := by
  cases records : m.buffer.records with
  | nil => simp only [starts?, head, loop, records, List.head?_nil, Option.map_none]
  | cons record rest =>
    simp only [starts?, head, loop, records, List.head?_cons, Option.map_some]

theorem starts?_of_draining {due count : Nat} {record : Record} {call : Awaited}
    (loop : m.loop = .draining due record count call)
    (answered : call.result (.writeTimeout m.settings.writeTimeout) = .ok ()) :
    m.starts? .loopAppended = m.buffer.records.head?.map fun _ => (.append, .loop) := by
  cases records : m.buffer.records with
  | nil => simp only [starts?, loop, records, List.head?_nil, Option.map_none]
  | cons record rest =>
    simp only [starts?, loop, records, answered, List.head?_cons, Option.map_some]

theorem starts?_of_failed {due count : Nat} {record : Record} {call : Awaited} {error : EventError}
    (loop : m.loop = .draining due record count call)
    (failed : call.result (.writeTimeout m.settings.writeTimeout) = .error error) :
    m.starts? .loopAppended = none := by
  cases records : m.buffer.records <;> simp only [starts?, loop, records, failed]

/-- What a drain hands to the store next is the record in front. -/
theorem loopAsks_of_drainNext {left : Machine} {due count : Nat}
    (made : m.act move = some (left.drainNext due count))
    (starts : m.starts? move = left.buffer.records.head?.map fun _ => (.append, .loop))
    (heard : left.heard .append = m.heard .append) :
    m.loopAsks move = (left.buffer.records.head?.map (.write (left.heard .append))).toList := by
  cases records : left.buffer.records with
  | nil =>
    apply loopAsks_eq_nil made
    intro op some
    rw [starts, records] at some
    cases some
  | cons record rest =>
    rw [records] at starts
    obtain ⟨call, _, loop, _⟩ := left.drainNext_cons due count records
    rw [loopAsks_eq made starts, loop, heard]
    rfl

/-- Every move of the recovery loop takes its cycle on to the next stage, and every other move leaves
it where it is. -/
theorem Cycle.way (cycle : Cycle steps m m.loop) (running : m.loop.inCycle = true)
    (made : m.act move = some after) : Cycle (steps ++ [(m, move)]) after after.loop := by
  have way := way_of_act made
  have settings := way.settings_eq
  have calls := loopCalls_append_singleton steps m move
  have here : (m, move) ∈ steps ++ [(m, move)] :=
    List.mem_append_right _ (List.mem_singleton.mpr rfl)
  have silent : m.starts? move = none → m.loopAsks move = [] := loopAsks_of_none made
  cases way with
  | @rest due others free head loop empty =>
    rw [loop] at cycle
    cases cycle with
    | checking unasked =>
      have asks : m.loopAsks .grant = [] := silent (by simp only [starts?, head, loop, empty])
      refine .idle ⟨here, loop, by rw [head, List.head?_cons]⟩ empty ?_
      rw [calls, unasked, asks, List.append_nil]
  | @probe due others free head loop present =>
    rw [loop] at cycle
    cases cycle with
    | checking unasked =>
      obtain ⟨record, rest, records⟩ := List.exists_cons_of_ne_nil present
      have starts : m.starts? .grant = some (.ping, .loop) := by
        simp only [starts?, head, loop, records]
      refine .probing ⟨here, loop, by rw [head, List.head?_cons]⟩
        ⟨present, List.prefix_refl _, rfl, rfl⟩ (Reply.result_within _ _ _ _) ?_
      rw [calls, unasked, loopAsks_eq made starts]
      rfl
  | @drain due others free head loop =>
    have asks := loopAsks_of_drainNext made (starts?_of_claiming head loop) rfl
    rw [loop] at cycle
    cases cycle with
    | @claiming _ look looked kept asked =>
      have drain : Draining (steps ++ [(m, .grant)]) due m [] { m with queue := others } :=
        ⟨⟨look, looked.later _, kept⟩, ⟨here, loop, by rw [head, List.head?_cons]⟩,
          (List.append_nil _).symm⟩
      refine .goOn drain rfl ?_ rfl
      rw [calls, asked, asks]
      rfl
  | @loopProbed due call loop come answered =>
    have asks := silent rfl
    rw [loop] at cycle
    cases cycle with
    | probing looked kept awaits asked =>
      rw [asked, asks, ← awaits, answered, List.append_nil] at calls
      exact .claiming (looked.later _) ⟨kept.found, kept.records, kept.stored, kept.counted⟩ calls
  | @loopUnprobed due call error loop come failed =>
    have asks := silent rfl
    rw [loop] at cycle
    cases cycle with
    | probing looked kept awaits asked =>
      rw [asked, asks, ← awaits, failed, List.append_nil] at calls
      exact .unreachable (looked.later _) ⟨kept.found, kept.records, kept.stored, kept.counted⟩
        calls
  | @loopStored due count record call loop come answered =>
    have asks := loopAsks_of_drainNext made (starts?_of_draining loop answered) rfl
    rw [loop] at cycle
    cases cycle with
    | @draining _ locked written _ _ heard drain found awaits asked counted =>
      rw [answered] at awaits
      have goes : Draining (steps ++ [(m, .loopAppended)]) due locked (written ++ [record])
          { m with stored := m.stored ++ [⟨record, .loop, m.now⟩] } :=
        drain.later _ (drained_append _ _)
      have length : written.length + 1 = (written ++ [record]).length := by
        rw [List.length_append, List.length_singleton]
      rw [length]
      refine .goOn goes ?_ ?_ counted
      · rw [found, List.append_assoc]
        rfl
      · rw [calls, asked, asks, ← awaits, List.map_append]
        rfl
  | @loopFailed due count record call error loop come failed =>
    have asks := silent (starts?_of_failed loop failed)
    rw [loop] at cycle
    cases cycle with
    | @draining _ locked written _ _ heard drain found awaits asked counted =>
      rw [asked, asks, ← awaits, failed, List.append_nil] at calls
      have goes := drain.later (m, .loopAppended) (List.append_nil _).symm
      rw [List.append_nil] at goes
      exact .finish ⟨goes.looked, goes.claimed, goes.stored⟩ (.upTo found) calls counted
  | halt _ _ loop | stop loop | tick loop =>
    rw [loop] at running
    cases running
  | offer free head =>
    exact cycle.aside running (.offer free (loopAsks_of_call made head)) settings
  | answer free head =>
    exact cycle.aside running (.still (loopAsks_of_call made head) rfl rfl rfl rfl) settings
  | pass free head unwanted unasked idle =>
    exact cycle.aside running (.still (loopAsks_of_idle made head idle) rfl rfl rfl rfl) settings
  | store =>
    have asks := silent rfl
    refine cycle.aside running (.still asks rfl rfl ?_ rfl) settings
    exact (drained_append _ _).trans (List.append_nil _)
  | _ =>
    refine cycle.aside running (.still (loopAsks_eq_nil made fun op starts => ?_) rfl rfl rfl rfl)
      settings
    rcases move_of_starts_loop starts with ⟨same, _⟩ | same <;> cases same

end ChannelGate.Publisher
