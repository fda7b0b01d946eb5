import ChannelGate.Publisher.Machine

set_option autoImplicit false

namespace ChannelGate.Publisher

namespace Machine

/-- Makes a move at any point of a run: time may pass also while somebody could go on. -/
def act (m : Machine) : Move → Option Machine
  | .wait till => if m.now ≤ till then some { m with now := till } else none
  | move => m.fire move

theorem act_of_fire {m after : Machine} {move : Move} (fired : m.fire move = some after) :
    m.act move = some after := by
  cases move with
  | wait till =>
    simp only [fire] at fired
    split at fired
    · rename_i possible
      simpa only [act, Nat.le_of_lt possible.1, ↓reduceIte] using fired
    · cases fired
  | _ => exact fired

end Machine

open Machine

/-- A state with the way to it: every state that was left, and the move that was made in it. Time
may pass whenever it likes, so every interleaving of the parties at the points where they wait is a
trail. -/
inductive Trail (settings : Settings) : List (Machine × Move) → Machine → Prop
  | start (valid : settings.fault? = none) (store : Store) (host : Host) :
    Trail settings [] (Machine.initial settings valid store host)
  | move {steps : List (Machine × Move)} {before after : Machine} (move : Move)
    (trail : Trail settings steps before) (made : before.act move = some after) :
    Trail settings (steps ++ [(before, move)]) after

def Machine.path (m : Machine) : List Move → List (Machine × Move)
  | [] => []
  | move :: rest => (m, move) :: ((m.act move).map fun after => after.path rest).getD []

/-- Moves that lead on from a state, each with the state that was left by it. -/
inductive Onward (m : Machine) : List (Machine × Move) → Machine → Prop
  | stay : Onward m [] m
  | move {steps : List (Machine × Move)} {before after : Machine} (move : Move)
    (onward : Onward m steps before) (made : before.act move = some after) :
    Onward m (steps ++ [(before, move)]) after

theorem Onward.trans {m mid later : Machine} {steps more : List (Machine × Move)}
    (first : Onward m steps mid) (second : Onward mid more later) :
    Onward m (steps ++ more) later := by
  induction second with
  | stay => rwa [List.append_nil]
  | move move _ made ih =>
    rw [← List.append_assoc]
    exact ih.move move made

theorem Onward.split {m later : Machine} {steps first rest : List (Machine × Move)}
    (onward : Onward m steps later) (whole : steps = first ++ rest) :
    ∃ mid, Onward m first mid ∧ Onward mid rest later := by
  induction onward generalizing rest with
  | stay =>
    obtain ⟨rfl, rfl⟩ := List.nil_eq_append_iff.mp whole
    exact ⟨m, .stay, .stay⟩
  | @move steps before after move onward made ih =>
    rcases rest.eq_nil_or_concat with rfl | ⟨others, step, rfl⟩
    · rw [List.append_nil] at whole
      rw [← whole]
      exact ⟨after, onward.move move made, .stay⟩
    · rw [List.concat_eq_append, ← List.append_assoc] at whole
      obtain ⟨front, same⟩ := List.append_inj' whole rfl
      obtain ⟨mid, reached, goes⟩ := ih front
      refine ⟨mid, reached, ?_⟩
      rw [List.concat_eq_append, ← List.singleton_inj.mp same]
      exact goes.move move made

/-- The first move of a run is made in its first state. -/
theorem Onward.first {m start later : Machine} {move : Move} {more : List (Machine × Move)}
    (onward : Onward m ((start, move) :: more) later) :
    start = m ∧ ∃ next, m.act move = some next ∧ Onward next more later := by
  have front : (start, move) :: more = [(start, move)] ++ more := rfl
  obtain ⟨next, single, goes⟩ := onward.split front
  generalize whole : [(start, move)] = steps at single
  cases single with
  | stay => cases whole
  | @move steps before _ last onward made =>
    cases onward with
    | stay =>
      obtain ⟨rfl, rfl⟩ := Prod.mk.injEq .. ▸ List.singleton_inj.mp whole
      exact ⟨rfl, next, made, goes⟩
    | move =>
      have lengths := congrArg List.length whole
      simp at lengths

/-- A run that goes on is a run. -/
theorem Onward.trail {settings : Settings} {m later : Machine}
    {steps more : List (Machine × Move)} (onward : Onward m more later)
    (trail : Trail settings steps m) : Trail settings (steps ++ more) later := by
  induction onward with
  | stay => rwa [List.append_nil]
  | move move _ made ih =>
    rw [← List.append_assoc]
    exact ih.move move made

theorem Trail.onward {settings : Settings} {steps : List (Machine × Move)} {m : Machine}
    (trail : Trail settings steps m) :
    ∃ valid store host, Onward (Machine.initial settings valid store host) steps m := by
  induction trail with
  | start valid store host => exact ⟨valid, store, host, .stay⟩
  | move move _ made ih =>
    obtain ⟨valid, store, host, onward⟩ := ih
    exact ⟨valid, store, host, onward.move move made⟩

theorem onward_path {m after : Machine} (moves : List Move)
    (made : moves.foldlM act m = some after) : Onward m (m.path moves) after := by
  induction moves generalizing m with
  | nil =>
    cases made
    exact .stay
  | cons move rest ih =>
    rw [List.foldlM_cons, Option.bind_eq_bind, Option.bind_eq_some_iff] at made
    obtain ⟨next, first, others⟩ := made
    simpa only [path, first, Option.map_some, Option.getD_some, List.nil_append,
      List.singleton_append] using (Onward.stay.move move first).trans (ih others)

theorem Trail.follow {settings : Settings} {steps : List (Machine × Move)} {m after : Machine}
    (trail : Trail settings steps m) (moves : List Move)
    (made : moves.foldlM act m = some after) :
    Trail settings (steps ++ m.path moves) after :=
  (onward_path moves made).trail trail

/-- States that are reached while time passes only when everybody waits have a trail. -/
theorem Machine.Reachable.trail {settings : Settings} {m : Machine}
    (reached : Reachable settings m) : ∃ steps, Trail settings steps m := by
  induction reached with
  | initial valid store host => exact ⟨[], .start valid store host⟩
  | move move _ fired ih =>
    obtain ⟨steps, trail⟩ := ih
    exact ⟨_, trail.move move (act_of_fire fired)⟩

namespace Machine

/-- Only a record that is queued reaches the buffer; every other one is dropped. -/
theorem offer_cases (m : Machine) (scope : List String) (record : Record) :
    ((m.buffer.tryPush record).1 = .queued ∧ ∃ lines, m.offer scope record =
      { m with
        buffer := { m.buffer with records := m.buffer.records ++ [record] }
        metrics := (m.metrics.increase 1 .buffered).setPending (m.buffer.records ++ [record]).length
        lines := lines }) ∨
    ((m.buffer.tryPush record).1 ≠ .queued ∧ ∃ lines, m.offer scope record =
      { m with metrics := m.metrics.increase 1 .dropped, lines := lines }) := by
  unfold offer
  rcases pushed : m.buffer.tryPush record with ⟨outcome, buffer⟩
  cases outcome with
  | queued =>
    unfold Buffer.tryPush at pushed
    split at pushed
    · cases pushed
    split at pushed
    · cases pushed
    cases pushed
    exact .inl ⟨rfl, _, rfl⟩
  | full => exact .inr ⟨nofun, _, rfl⟩
  | closed => exact .inr ⟨nofun, _, rfl⟩

theorem finishDrain_eq (m : Machine) (due count : Nat) :
    ∃ lines, m.finishDrain due count =
      { m with
        metrics := (m.metrics.increase count .drained).setPending m.buffer.size
        loop := .waiting due
        lines := lines } := by
  unfold finishDrain
  split
  · exact ⟨_, rfl⟩
  · exact ⟨_, rfl⟩

theorem drainNext_cases (m : Machine) (due count : Nat) :
    (m.buffer.records = [] ∧ m.drainNext due count = m.finishDrain due count) ∨
    (∃ record rest, m.buffer.records = record :: rest ∧
      ∃ call store started, m.drainNext due count =
        { m with
          buffer := { m.buffer with records := rest }
          store := store
          started := started
          loop := .draining due record count call }) := by
  unfold drainNext Buffer.popFront
  cases records : m.buffer.records with
  | nil => exact .inl ⟨rfl, rfl⟩
  | cons record rest => exact .inr ⟨record, rest, rfl, _, _, _, rfl⟩

/-- What an offer to the buffer and the drain leave as it is. -/
structure Untouched (m after : Machine) : Prop where
  settings : after.settings = m.settings
  host : after.host = m.host
  now : after.now = m.now
  awaited : after.awaited = m.awaited
  calls : after.calls = m.calls
  queue : after.queue = m.queue
  capacity : after.buffer.capacity = m.buffer.capacity
  closed : after.buffer.closed = m.buffer.closed

theorem offer_untouched (m : Machine) (scope : List String) (record : Record) :
    Untouched m (m.offer scope record) := by
  obtain ⟨_, lines, same⟩ | ⟨_, lines, same⟩ := m.offer_cases scope record
  · rw [same]
    exact ⟨rfl, rfl, rfl, rfl, rfl, rfl, rfl, rfl⟩
  · rw [same]
    exact ⟨rfl, rfl, rfl, rfl, rfl, rfl, rfl, rfl⟩

theorem finishDrain_untouched (m : Machine) (due count : Nat) :
    Untouched m (m.finishDrain due count) := by
  obtain ⟨lines, same⟩ := m.finishDrain_eq due count
  rw [same]
  exact ⟨rfl, rfl, rfl, rfl, rfl, rfl, rfl, rfl⟩

theorem drainNext_untouched (m : Machine) (due count : Nat) :
    Untouched m (m.drainNext due count) := by
  obtain ⟨_, same⟩ | ⟨_, _, _, _, _, _, same⟩ := m.drainNext_cases due count
  · rw [same]
    exact m.finishDrain_untouched due count
  · rw [same]
    exact ⟨rfl, rfl, rfl, rfl, rfl, rfl, rfl, rfl⟩

section
variable (m : Machine) (due count : Nat)

@[simp] theorem offer_settings (scope : List String) (record : Record) :
    (m.offer scope record).settings = m.settings :=
  (m.offer_untouched scope record).settings

@[simp] theorem finishDrain_calls : (m.finishDrain due count).calls = m.calls :=
  (m.finishDrain_untouched due count).calls

@[simp] theorem finishDrain_settings : (m.finishDrain due count).settings = m.settings :=
  (m.finishDrain_untouched due count).settings

@[simp] theorem drainNext_calls : (m.drainNext due count).calls = m.calls :=
  (m.drainNext_untouched due count).calls

@[simp] theorem drainNext_settings : (m.drainNext due count).settings = m.settings :=
  (m.drainNext_untouched due count).settings

end

end Machine

def Loop.isQueued : Loop → Bool
  | .checking _ | .claiming _ | .closing => true
  | _ => false

def Loop.isOver : Loop → Bool
  | .stopped | .broken => true
  | _ => false

theorem Loop.launched_cases (settings : Settings) (host : Host) :
    (settings.checkInterval ≤ host.clockEnd ∧
      Loop.launched settings host = .waiting settings.checkInterval) ∨
    (host.clockEnd < settings.checkInterval ∧ Loop.launched settings host = .broken) := by
  unfold launched
  split
  · rename_i shown
    exact .inl ⟨shown, rfl⟩
  · rename_i hidden
    exact .inr ⟨Nat.lt_of_not_le hidden, rfl⟩

/-- The ways on from a state: what each move does, apart from the cases in which it cannot be
made. -/
inductive Way (m : Machine) : Move → Machine → Prop
  /-- An event that cannot be encoded ends its publish call. -/
  | refuse {scope : List String} {event : Event} {stamp : Int64} {error : EventError}
    (unencoded : event.encoding = .error error) :
    Way m (.publish scope event stamp)
      { m with calls := m.calls ++ [.publish m.now scope (.finished (.error error))] }
  | begin {scope : List String} {event : Event} {stamp : Int64} {fields : Fields}
    (encoded : event.encoding = .ok fields) :
    Way m (.publish scope event stamp)
      { (m.ping (.call m.calls.length)).2 with
        calls := m.calls ++ [.publish m.now scope
          (.probing (m.recordOf fields stamp) (m.ping (.call m.calls.length)).1)] }
  | ask :
    Way m .pending
      { m with
        calls := m.calls ++ [.pending none], queue := m.queue ++ [.call m.calls.length] }
  /-- The first close call waits for the recovery loop. -/
  | join {scope : List String} (first : m.awaited = false) :
    Way m (.close scope)
      { m with cancelled := true, awaited := true, calls := m.calls ++ [.close scope .joining] }
  /-- A later close call goes to the store at once. -/
  | overtake {scope : List String} (later : m.awaited = true) :
    Way m (.close scope)
      { ({ m with cancelled := true }.closeStore (.call m.calls.length)).2 with
        calls := m.calls ++
          [.close scope ({ m with cancelled := true }.closeStore (.call m.calls.length)).1] }
  | cancel : Way m .cancel { m with cancelled := true }
  | restock (store : Store) : Way m (.restock store) { m with store := store }
  | wait {till : Nat} (later : m.now ≤ till) : Way m (.wait till) { m with now := till }
  /-- A publish call has the lock. -/
  | offer {number began : Nat} {rest : List Party} {scope : List String} {record : Record}
    (free : m.isDraining = false) (head : m.queue = .call number :: rest)
    (waiting : m.calls[number]? = some (.publish began scope (.queued record))) :
    Way m .grant
      (({ m with queue := rest }.offer scope record).setCall number
        (.publish began scope (.finished (.ok ()))))
  | answer {number : Nat} {rest : List Party} (free : m.isDraining = false)
    (head : m.queue = .call number :: rest) (waiting : m.calls[number]? = some (.pending none)) :
    Way m .grant
      ({ m with queue := rest }.setCall number (.pending (some m.buffer.size)))
  /-- The lock comes to somebody who does not want it. -/
  | pass {first : Party} {rest : List Party} (free : m.isDraining = false)
    (head : m.queue = first :: rest)
    (unwanted : ∀ number began scope record, first = .call number →
      m.calls[number]? ≠ some (.publish began scope (.queued record)))
    (unasked : ∀ number, first = .call number → m.calls[number]? ≠ some (.pending none))
    (idle : first = .loop → m.loop.isQueued = false) :
    Way m .grant { m with queue := rest }
  /-- The recovery loop finds the buffer empty. -/
  | rest {due : Nat} {rest : List Party} (free : m.isDraining = false)
    (head : m.queue = .loop :: rest) (loop : m.loop = .checking due)
    (empty : m.buffer.records = []) :
    Way m .grant { m with queue := rest, loop := .waiting due }
  /-- The recovery loop finds records. -/
  | probe {due : Nat} {rest : List Party} (free : m.isDraining = false)
    (head : m.queue = .loop :: rest) (loop : m.loop = .checking due)
    (present : m.buffer.records ≠ []) :
    Way m .grant
      { ({ m with queue := rest }.ping .loop).2 with
        loop := .probing due ({ m with queue := rest }.ping .loop).1 }
  | drain {due : Nat} {rest : List Party} (free : m.isDraining = false)
    (head : m.queue = .loop :: rest) (loop : m.loop = .claiming due) :
    Way m .grant ({ m with queue := rest }.drainNext due 0)
  /-- The recovery loop closes the buffer and is over. -/
  | halt {rest : List Party} (free : m.isDraining = false) (head : m.queue = .loop :: rest)
    (loop : m.loop = .closing) :
    Way m .grant
      (log { m with queue := rest, buffer := m.buffer.close, loop := .stopped } .debug
        "Event recovery loop stopped" [] [])
  | probed {number began : Nat} {scope : List String} {record : Record} {call : Awaited}
    (waiting : m.calls[number]? = some (.publish began scope (.probing record call)))
    (come : call.endsAt ≤ m.now)
    (answered : call.result (.probeTimeout m.settings.probeTimeout) = .ok ()) :
    Way m (.probed number)
      ((m.append (.call number)).2.setCall number
        (.publish began scope (.appending record (m.append (.call number)).1)))
  | unprobed {number began : Nat} {scope : List String} {record : Record} {call : Awaited}
    {error : EventError}
    (waiting : m.calls[number]? = some (.publish began scope (.probing record call)))
    (come : call.endsAt ≤ m.now)
    (failed : call.result (.probeTimeout m.settings.probeTimeout) = .error error) :
    Way m (.probed number)
      ((m.log .debug "Event store probe failed" [("error", .text error.message)]
        scope).askToBuffer number began scope record)
  | store {number began : Nat} {scope : List String} {record : Record} {call : Awaited}
    (waiting : m.calls[number]? = some (.publish began scope (.appending record call)))
    (come : call.endsAt ≤ m.now)
    (answered : call.result (.writeTimeout m.settings.writeTimeout) = .ok ()) :
    Way m (.appended number)
      { m with
        stored := m.stored ++ [⟨record, .call number, m.now⟩]
        metrics := m.metrics.increase 1 .published
        calls := m.calls.set number (.publish began scope (.finished (.ok ()))) }
  | late {number began limit : Nat} {scope : List String} {record : Record} {call : Awaited}
    (waiting : m.calls[number]? = some (.publish began scope (.appending record call)))
    (come : call.endsAt ≤ m.now)
    (failed : call.result (.writeTimeout m.settings.writeTimeout) = .error (.writeTimeout limit)) :
    Way m (.appended number)
      ((m.log .warn "Event store write timed out, buffering event"
        [("timeout_ms", .number limit)] scope).askToBuffer number began scope record)
  | fail {number began : Nat} {scope : List String} {record : Record} {call : Awaited}
    {error : EventError}
    (waiting : m.calls[number]? = some (.publish began scope (.appending record call)))
    (come : call.endsAt ≤ m.now)
    (failed : call.result (.writeTimeout m.settings.writeTimeout) = .error error)
    (other : ∀ limit, error ≠ .writeTimeout limit) :
    Way m (.appended number)
      (m.setCall number (.publish began scope (.finished (.error error))))
  | joined {number : Nat} {scope : List String}
    (waiting : m.calls[number]? = some (.close scope .joining)) (stopped : m.loop = .stopped) :
    Way m (.joined number) (m.afterJoin number scope)
  /-- The loop that a close call waited for broke down. -/
  | abandoned {number : Nat} {scope : List String}
    (waiting : m.calls[number]? = some (.close scope .joining)) (broken : m.loop = .broken) :
    Way m (.joined number) ((m.reportBreakdown scope).afterJoin number scope)
  | closed {number endsAt : Nat} {scope : List String} {answer : Except EventError Unit}
    (waiting : m.calls[number]? = some (.close scope (.closing (some endsAt) answer)))
    (come : endsAt ≤ m.now) :
    Way m (.closed number) (m.setCall number (.close scope (.finished answer)))
  | stop {due : Nat} (loop : m.loop = .waiting due) (told : m.cancelled = true) :
    Way m .stop { m with loop := .closing, queue := m.queue ++ [.loop] }
  | tick {due : Nat} (loop : m.loop = .waiting due) (come : due ≤ m.now) :
    Way m .tick { m with loop := .checking (m.nextDue due), queue := m.queue ++ [.loop] }
  | loopProbed {due : Nat} {call : Awaited} (loop : m.loop = .probing due call)
    (come : call.endsAt ≤ m.now)
    (answered : call.result (.probeTimeout m.settings.probeTimeout) = .ok ()) :
    Way m .loopProbed { m with loop := .claiming due, queue := m.queue ++ [.loop] }
  | loopUnprobed {due : Nat} {call : Awaited} {error : EventError}
    (loop : m.loop = .probing due call) (come : call.endsAt ≤ m.now)
    (failed : call.result (.probeTimeout m.settings.probeTimeout) = .error error) :
    Way m .loopProbed
      (log { m with loop := .waiting due } .debug "Event store still unreachable"
        [("error", .text error.message)] [])
  | loopStored {due count : Nat} {record : Record} {call : Awaited}
    (loop : m.loop = .draining due record count call) (come : call.endsAt ≤ m.now)
    (answered : call.result (.writeTimeout m.settings.writeTimeout) = .ok ()) :
    Way m .loopAppended
      (drainNext { m with stored := m.stored ++ [⟨record, .loop, m.now⟩] } due (count + 1))
  | loopFailed {due count : Nat} {record : Record} {call : Awaited} {error : EventError}
    (loop : m.loop = .draining due record count call) (come : call.endsAt ≤ m.now)
    (failed : call.result (.writeTimeout m.settings.writeTimeout) = .error error) :
    Way m .loopAppended
      (finishDrain (log { m with buffer := m.buffer.pushFront record } .warn
        "Failed to drain buffered event"
        [("error", .text error.message), ("pending", .number (m.buffer.pushFront record).size)]
        []) due count)

variable {m after : Machine}

theorem way_of_publish {scope : List String} {event : Event} {stamp : Int64}
    (made : m.act (.publish scope event stamp) = some after) :
    Way m (.publish scope event stamp) after := by
  simp only [act, fire, beginPublish, Option.some.injEq] at made
  subst made
  split
  · rename_i error unencoded
    exact .refuse unencoded
  · rename_i fields encoded
    exact .begin encoded

theorem way_of_close {scope : List String} (made : m.act (.close scope) = some after) :
    Way m (.close scope) after := by
  simp only [act, fire, beginClose, Option.some.injEq] at made
  subst made
  split
  · rename_i later
    exact .overtake later
  · rename_i first
    exact .join (Bool.not_eq_true _ ▸ first)

theorem way_of_grant_call {number : Nat} {rest : List Party} (free : m.isDraining = false)
    (head : m.queue = .call number :: rest) :
    Way m .grant (serveCall { m with queue := rest } number) := by
  unfold serveCall
  split
  · rename_i began scope record waiting
    exact .offer free head waiting
  · rename_i waiting
    exact .answer free head waiting
  · rename_i unwanted unasked
    refine .pass free head ?_ ?_ nofun
    · intro other began scope record same
      cases same
      exact unwanted began scope record
    · intro other same
      cases same
      exact unasked

theorem way_of_grant_loop {rest : List Party} (free : m.isDraining = false)
    (head : m.queue = .loop :: rest) :
    Way m .grant (serveLoop { m with queue := rest }) := by
  unfold serveLoop
  split
  · rename_i due loop
    split
    · rename_i empty
      exact .rest free head loop (List.isEmpty_iff.mp empty)
    · rename_i present
      exact .probe free head loop (fun empty => present (List.isEmpty_iff.mpr empty))
  · rename_i due loop
    exact .drain free head loop
  · rename_i loop
    exact .halt free head loop
  · rename_i unchecking unclaiming unclosing
    refine .pass free head nofun nofun ?_
    intro
    unfold Loop.isQueued
    split
    · rename_i due loop
      exact absurd loop (unchecking due)
    · rename_i due loop
      exact absurd loop (unclaiming due)
    · rename_i loop
      exact absurd loop unclosing
    · rfl

theorem way_of_grant (made : m.go .grant = some after) : Way m .grant after := by
  unfold go at made
  dsimp only at made
  split at made
  · cases made
  · rename_i draining
    have free : m.isDraining = false := Bool.not_eq_true _ ▸ draining
    split at made
    · cases made
    · rename_i number rest head
      cases made
      exact way_of_grant_call free head
    · rename_i rest head
      cases made
      exact way_of_grant_loop free head

theorem way_of_probed {number : Nat} (made : m.go (.probed number) = some after) :
    Way m (.probed number) after := by
  unfold go at made
  dsimp only at made
  split at made
  · rename_i began scope record call waiting
    split at made
    · rename_i come
      cases made
      unfold afterProbe
      split
      · rename_i answered
        exact .probed waiting come answered
      · rename_i error failed
        exact .unprobed waiting come failed
    · cases made
  · cases made

theorem way_of_appended {number : Nat} (made : m.go (.appended number) = some after) :
    Way m (.appended number) after := by
  unfold go at made
  dsimp only at made
  split at made
  · rename_i began scope record call waiting
    split at made
    · rename_i come
      cases made
      unfold afterAppend
      split
      · rename_i answered
        exact .store waiting come answered
      · rename_i limit failed
        exact .late waiting come failed
      · rename_i error other failed
        exact .fail waiting come failed (fun limit same => other limit same)
    · cases made
  · cases made

theorem way_of_joined {number : Nat} (made : m.go (.joined number) = some after) :
    Way m (.joined number) after := by
  unfold go at made
  dsimp only at made
  split at made
  · rename_i waiting stopped
    cases made
    exact .joined waiting stopped
  · rename_i waiting broken
    cases made
    exact .abandoned waiting broken
  · cases made

theorem way_of_closed {number : Nat} (made : m.go (.closed number) = some after) :
    Way m (.closed number) after := by
  unfold go at made
  dsimp only at made
  split at made
  · rename_i endsAt answer waiting
    split at made
    · rename_i come
      cases made
      exact .closed waiting come
    · cases made
  · cases made

theorem way_of_stop (made : m.go .stop = some after) : Way m .stop after := by
  unfold go at made
  dsimp only at made
  split at made
  · rename_i due loop
    split at made
    · rename_i told
      cases made
      exact .stop loop told
    · cases made
  · cases made

theorem way_of_tick (made : m.go .tick = some after) : Way m .tick after := by
  unfold go at made
  dsimp only at made
  split at made
  · rename_i due loop
    split at made
    · rename_i come
      cases made
      exact .tick loop come
    · cases made
  · cases made

theorem way_of_loopProbed (made : m.go .loopProbed = some after) : Way m .loopProbed after := by
  unfold go at made
  dsimp only at made
  split at made
  · rename_i due call loop
    split at made
    · rename_i come
      cases made
      unfold afterLoopProbe
      split
      · rename_i answered
        exact .loopProbed loop come answered
      · rename_i error failed
        exact .loopUnprobed loop come failed
    · cases made
  · cases made

theorem way_of_loopAppended (made : m.go .loopAppended = some after) :
    Way m .loopAppended after := by
  unfold go at made
  dsimp only at made
  split at made
  · rename_i due record count call loop
    split at made
    · rename_i come
      cases made
      unfold afterLoopAppend
      split
      · rename_i answered
        exact .loopStored loop come answered
      · rename_i error failed
        exact .loopFailed loop come failed
    · cases made
  · cases made

/-- Every move that can be made is one of the ways on. -/
theorem way_of_act {move : Move} (made : m.act move = some after) : Way m move after := by
  cases move with
  | publish scope event stamp => exact way_of_publish made
  | pending => cases made; exact .ask
  | close scope => exact way_of_close made
  | cancel => cases made; exact .cancel
  | restock store => cases made; exact .restock store
  | wait till =>
    simp only [act] at made
    split at made
    · rename_i later
      cases made
      exact .wait later
    · cases made
  | grant => exact way_of_grant made
  | probed number => exact way_of_probed made
  | appended number => exact way_of_appended made
  | joined number => exact way_of_joined made
  | closed number => exact way_of_closed made
  | stop => exact way_of_stop made
  | tick => exact way_of_tick made
  | loopProbed => exact way_of_loopProbed made
  | loopAppended => exact way_of_loopAppended made

theorem Way.settings_eq {move : Move} (way : Way m move after) : after.settings = m.settings := by
  cases way with
  | offer => exact offer_settings ..
  | drain | loopStored => exact drainNext_settings ..
  | loopFailed => exact finishDrain_settings ..
  | _ => rfl

/-- No move changes where the publisher runs. -/
theorem Way.host_eq {move : Move} (way : Way m move after) : after.host = m.host := by
  cases way with
  | offer => exact (offer_untouched ..).host
  | drain | loopStored => exact (drainNext_untouched ..).host
  | loopFailed => exact (finishDrain_untouched ..).host
  | _ => rfl

theorem Trail.settings_eq {settings : Settings} {steps : List (Machine × Move)}
    (trail : Trail settings steps m) : m.settings = settings := by
  induction trail with
  | start valid store host => rfl
  | move move _ made ih => exact (way_of_act made).settings_eq.trans ih

/-- Every state that a run left was reached by the run. -/
theorem Trail.before {settings : Settings} {steps : List (Machine × Move)}
    (trail : Trail settings steps m) (step : Machine × Move) (member : step ∈ steps) :
    ∃ earlier, Trail settings earlier step.1 := by
  induction trail with
  | start valid store host => cases member
  | move move trail _ ih =>
    rcases List.mem_append.mp member with old | new
    · exact ih old
    · rw [List.mem_singleton.mp new]
      exact ⟨_, trail⟩

end ChannelGate.Publisher
