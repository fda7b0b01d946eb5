import ChannelGate.Proofs.Publisher.Trail
import Mathlib.Data.List.Perm.Basic

set_option autoImplicit false

namespace ChannelGate.Publisher

open Machine

/-- What becomes of an event by the end of its publish call. -/
inductive Fate where
  | stored (record : Record)
  | buffered (record : Record)
  | dropped (record : Record)
  | failed (error : EventError)

/-- The counter of a fate; errors are not counted. -/
def Fate.metric? : Fate → Option Metric
  | .stored _ => some .published
  | .buffered _ => some .buffered
  | .dropped _ => some .dropped
  | .failed _ => none

/-- The publish call that a move ends, with the fate of its event. -/
def Machine.settles? (m : Machine) : Move → Option (Nat × Fate)
  | .publish _ event _ =>
    match event.encoding with
    | .error error => some (m.calls.length, .failed error)
    | .ok _ => none
  | .appended number =>
    match m.calls[number]? with
    | some (.publish _ _ (.appending record call)) =>
      match call.result (.writeTimeout m.settings.writeTimeout) with
      | .ok () => some (number, .stored record)
      | .error (.writeTimeout _) => none
      | .error error => some (number, .failed error)
    | _ => none
  | .grant =>
    match m.queue with
    | .call number :: _ =>
      match m.calls[number]? with
      | some (.publish _ _ (.queued record)) =>
        match (m.buffer.tryPush record).1 with
        | .queued => some (number, .buffered record)
        | _ => some (number, .dropped record)
      | _ => none
    | _ => none
  | _ => none

/-- The publish calls that are over, with the fates of their events, in the order in which they
ended. -/
def fates (steps : List (Machine × Move)) : List (Nat × Fate) :=
  steps.filterMap fun step => step.1.settles? step.2

def direct (fates : List (Nat × Fate)) : List (Nat × Record) :=
  fates.filterMap fun
    | (number, .stored record) => some (number, record)
    | _ => none

def accepted (fates : List (Nat × Fate)) : List (Nat × Record) :=
  fates.filterMap fun
    | (number, .buffered record) => some (number, record)
    | _ => none

def dropped (fates : List (Nat × Fate)) : List (Nat × Record) :=
  fates.filterMap fun
    | (number, .dropped record) => some (number, record)
    | _ => none

def failed (fates : List (Nat × Fate)) : List (Nat × EventError) :=
  fates.filterMap fun
    | (number, .failed error) => some (number, error)
    | _ => none

section
variable (first second : List (Nat × Fate))

@[simp] theorem direct_append : direct (first ++ second) = direct first ++ direct second :=
  List.filterMap_append

@[simp] theorem accepted_append :
    accepted (first ++ second) = accepted first ++ accepted second :=
  List.filterMap_append

@[simp] theorem dropped_append : dropped (first ++ second) = dropped first ++ dropped second :=
  List.filterMap_append

@[simp] theorem failed_append : failed (first ++ second) = failed first ++ failed second :=
  List.filterMap_append

end

/-- There is no other fate, and every event has only one. -/
theorem length_fates (fates : List (Nat × Fate)) :
    fates.length = (direct fates).length + (accepted fates).length + (dropped fates).length +
      (failed fates).length := by
  induction fates with
  | nil => rfl
  | cons entry rest ih =>
    obtain ⟨number, fate⟩ := entry
    rw [← List.singleton_append, direct_append, accepted_append, dropped_append, failed_append]
    simp only [List.length_append, ih]
    cases fate <;> simp only [direct, accepted, dropped, failed, List.filterMap_cons,
      List.filterMap_nil, List.length_cons, List.length_nil] <;> omega

theorem fates_append_singleton (steps : List (Machine × Move)) (m : Machine) (move : Move) :
    fates (steps ++ [(m, move)]) = fates steps ++ (m.settles? move).toList := by
  cases settled : m.settles? move <;>
    simp [fates, List.filterMap_append, settled]

def Call.isSettled : Call → Bool
  | .publish _ _ (.finished _) => true
  | _ => false

def Call.isRefused : Call → Bool
  | .publish _ _ (.finished (.error _)) => true
  | _ => false

theorem Call.isRefused_of_unsettled {call : Call} (unsettled : call.isSettled = false) :
    call.isRefused = false := by
  unfold isRefused
  split
  · cases unsettled
  · rfl

structure Settled (fates : List (Nat × Fate)) (calls : List Call) : Prop where
  once : (fates.map Prod.fst).Nodup
  finished : ∀ number, number ∈ fates.map Prod.fst ↔
    ∃ call, calls[number]? = some call ∧ call.isSettled = true
  count : calls.countP Call.isSettled = fates.length
  refused : calls.countP Call.isRefused = (failed fates).length

theorem countP_set_of_getElem? {α : Type} (p : α → Bool) (list : List α) (number : Nat)
    (old new : α) (present : list[number]? = some old) (before : p old = false) :
    (list.set number new).countP p = list.countP p + if p new then 1 else 0 := by
  obtain ⟨inside, same⟩ := List.getElem?_eq_some_iff.mp present
  rw [List.countP_set inside, same, before]
  rfl

namespace Settled

variable {fates : List (Nat × Fate)} {calls : List Call}

theorem start : Settled [] [] := by
  refine ⟨List.nodup_nil, ?_, rfl, rfl⟩
  intro number
  simp

/-- A call that begins is not over. -/
theorem enter (settled : Settled fates calls) (call : Call) (unsettled : call.isSettled = false) :
    Settled fates (calls ++ [call]) := by
  refine ⟨settled.once, ?_, ?_, ?_⟩
  · intro number
    rw [settled.finished, List.getElem?_append]
    split
    · rfl
    · rename_i outside
      have absent : calls[number]? = none := List.getElem?_eq_none (by omega)
      have single : ∀ other, [call][number - calls.length]? = some other → other = call := by
        intro other present
        exact List.mem_singleton.mp (List.mem_of_getElem? present)
      constructor
      · intro given
        obtain ⟨other, present, _⟩ := given
        rw [absent] at present
        cases present
      · intro given
        obtain ⟨other, present, ended⟩ := given
        rw [single other present, unsettled] at ended
        cases ended
  · simp only [List.countP_append, List.countP_singleton, unsettled, Bool.false_eq_true,
      ↓reduceIte, Nat.add_zero, settled.count]
  · simp only [List.countP_append, List.countP_singleton, Call.isRefused_of_unsettled unsettled,
      Bool.false_eq_true, ↓reduceIte, Nat.add_zero, settled.refused]

/-- A call that goes on is not over. -/
theorem proceed (settled : Settled fates calls) {number : Nat} {old new : Call}
    (present : calls[number]? = some old) (before : old.isSettled = false)
    (after : new.isSettled = false) : Settled fates (calls.set number new) := by
  refine ⟨settled.once, ?_, ?_, ?_⟩
  · intro other
    rw [settled.finished]
    by_cases same : number = other
    · subst same
      have inside := (List.getElem?_eq_some_iff.mp present).1
      rw [present]
      simp [inside, before, after]
    · rw [List.getElem?_set_ne same]
  · rw [countP_set_of_getElem? _ _ _ _ _ present before, after, settled.count]
    rfl
  · rw [countP_set_of_getElem? _ _ _ _ _ present (Call.isRefused_of_unsettled before),
      Call.isRefused_of_unsettled after, settled.refused]
    rfl

/-- A call that ends is over from then on. -/
theorem finish (settled : Settled fates calls) {number : Nat} {old : Call} (began : Nat)
    (scope : List String) (answer : Except EventError Unit) (fate : Fate)
    (present : calls[number]? = some old) (before : old.isSettled = false)
    (refused : (failed [(number, fate)]).length = if answer.isOk then 0 else 1) :
    Settled (fates ++ [(number, fate)])
      (calls.set number (.publish began scope (.finished answer))) := by
  have inside := (List.getElem?_eq_some_iff.mp present).1
  have fresh : number ∉ fates.map Prod.fst := by
    intro member
    obtain ⟨call, found, ended⟩ := (settled.finished number).mp member
    rw [present] at found
    cases found
    rw [before] at ended
    cases ended
  refine ⟨?_, ?_, ?_, ?_⟩
  · rw [List.map_append]
    refine List.nodup_append.mpr ⟨settled.once, List.pairwise_singleton _ _, ?_⟩
    intro other member last single equal
    have same : other = number := equal.trans (List.mem_singleton.mp single)
    exact fresh (same ▸ member)
  · intro other
    rw [List.map_append, List.mem_append, settled.finished]
    by_cases same : number = other
    · subst same
      simp [inside, Call.isSettled]
    · have apart : other ≠ number := fun equal => same equal.symm
      simp [List.getElem?_set_ne same, apart]
  · rw [countP_set_of_getElem? _ _ _ _ _ present before, settled.count, List.length_append]
    rfl
  · rw [countP_set_of_getElem? _ _ _ _ _ present (Call.isRefused_of_unsettled before),
      settled.refused, failed_append, List.length_append, refused]
    cases answer <;> rfl

/-- A call that ends where it begins. -/
theorem refuse (settled : Settled fates calls) (began : Nat) (scope : List String)
    (error : EventError) :
    Settled (fates ++ [(calls.length, .failed error)])
      (calls ++ [.publish began scope (.finished (.error error))]) := by
  have entered := settled.enter (.pending none) rfl
  have present : (calls ++ [Call.pending none])[calls.length]? = some (.pending none) := by simp
  have finished := entered.finish began scope (.error error) (.failed error) present rfl rfl
  simpa using finished

end Settled

def written (stored : List Stored) : List (Nat × Record) :=
  stored.filterMap fun entry =>
    match entry.party with
    | .call number => some (number, entry.record)
    | .loop => none

def drained (stored : List Stored) : List Record :=
  stored.filterMap fun entry =>
    match entry.party with
    | .call _ => none
    | .loop => some entry.record

theorem written_append (first second : List Stored) :
    written (first ++ second) = written first ++ written second := List.filterMap_append

theorem drained_append (first second : List Stored) :
    drained (first ++ second) = drained first ++ drained second := List.filterMap_append

theorem stored_perm (stored : List Stored) :
    (stored.map Stored.record).Perm ((written stored).map Prod.snd ++ drained stored) := by
  induction stored with
  | nil => exact .nil
  | cons entry rest ih =>
    obtain ⟨record, party, time⟩ := entry
    cases party with
    | loop => exact (ih.cons record).trans List.perm_middle.symm
    | call number => exact ih.cons record

/-- The record that the drain took out of the buffer and has not stored yet. -/
def Loop.hand : Loop → List Record
  | .draining _ record _ _ => [record]
  | _ => []

theorem Machine.isDraining_eq (m : Machine) : m.isDraining = !m.loop.hand.isEmpty := by
  unfold isDraining Loop.hand
  cases m.loop <;> rfl

theorem Loop.hand_launched (settings : Settings) (host : Host) :
    (Loop.launched settings host).hand = [] := by
  obtain ⟨_, loop⟩ | ⟨_, loop⟩ := launched_cases settings host <;> rw [loop] <;> rfl

/-- The records that the drain has stored and not counted yet. -/
def Loop.uncounted : Loop → Nat
  | .draining _ _ count _ => count
  | _ => 0

theorem Loop.uncounted_launched (settings : Settings) (host : Host) :
    (Loop.launched settings host).uncounted = 0 := by
  obtain ⟨_, loop⟩ | ⟨_, loop⟩ := launched_cases settings host <;> rw [loop] <;> rfl

/-- The counters of publish calls count fates. -/
structure Counted (fates : List (Nat × Fate)) (metrics : Metrics) : Prop where
  published : metrics.published = (direct fates).length
  buffered : metrics.buffered = (accepted fates).length
  dropped : metrics.dropped = (dropped fates).length

/-- Records go through the buffer to the store in the order in which the buffer took them; `held`
are those that wait, and the last `uncounted` of the stored ones are not counted yet. -/
structure Flow (fates : List (Nat × Fate)) (stored : List Stored) (metrics : Metrics)
    (held : List Record) (uncounted : Nat) : Prop where
  direct : written stored = direct fates
  fifo : drained stored ++ held = (accepted fates).map Prod.snd
  drained : metrics.drained + uncounted = (drained stored).length

theorem Counted.settle {fates : List (Nat × Fate)} {metrics : Metrics}
    (counted : Counted fates metrics) (number : Nat) (fate : Fate) :
    Counted (fates ++ [(number, fate)])
      (fate.metric?.elim metrics (metrics.increase 1)) := by
  obtain ⟨published, buffered, dropped⟩ := counted
  constructor
  · rw [direct_append, List.length_append, ← published]
    cases fate <;> rfl
  · rw [accepted_append, List.length_append, ← buffered]
    cases fate <;> rfl
  · rw [dropped_append, List.length_append, ← dropped]
    cases fate <;> rfl

/-- A publish call ends: `fresh` is what it stored, `taken` what the buffer took. -/
theorem Flow.settle {fates : List (Nat × Fate)} {stored : List Stored} {metrics : Metrics}
    {held : List Record} {uncounted : Nat} (flow : Flow fates stored metrics held uncounted)
    (entry : Nat × Fate) (fresh : List Stored) (taken : List Record)
    (wrote : written fresh = ChannelGate.Publisher.direct [entry])
    (apart : ChannelGate.Publisher.drained fresh = [])
    (took : taken = (accepted [entry]).map Prod.snd) :
    Flow (fates ++ [entry]) (stored ++ fresh) metrics (held ++ taken) uncounted := by
  constructor
  · rw [written_append, direct_append, flow.direct, wrote]
  · rw [drained_append, apart, List.append_nil, accepted_append, List.map_append, ← flow.fifo,
      took, List.append_assoc]
  · rw [drained_append, apart, List.append_nil, flow.drained]

/-- What holds of a run at every point, also while a drain is under way. -/
structure Books (fates : List (Nat × Fate)) (m : Machine) : Prop where
  settled : Settled fates m.calls
  counted : Counted fates m.metrics
  flow : Flow fates m.stored m.metrics (m.loop.hand ++ m.buffer.records) m.loop.uncounted
  gauge : m.isDraining = false → m.metrics.pending = m.buffer.size

namespace Books

variable {fates : List (Nat × Fate)} {m after : Machine}

/-- Moves that store nothing, count nothing and leave the drain and the buffer alone. -/
theorem keep (books : Books fates m) (settled : Settled fates after.calls)
    (metrics : after.metrics = m.metrics) (stored : after.stored = m.stored)
    (records : after.buffer.records = m.buffer.records) (hand : after.loop.hand = m.loop.hand)
    (uncounted : after.loop.uncounted = m.loop.uncounted) : Books fates after := by
  refine ⟨settled, ?_, ?_, ?_⟩
  · rw [metrics]
    exact books.counted
  · rw [metrics, stored, records, hand, uncounted]
    exact books.flow
  · intro free
    rw [isDraining_eq, hand, ← isDraining_eq] at free
    rw [metrics, Buffer.size, records]
    exact books.gauge free

theorem finishDrain (settled : Settled fates m.calls) (counted : Counted fates m.metrics)
    {due count : Nat} (flow : Flow fates m.stored m.metrics m.buffer.records count) :
    Books fates (m.finishDrain due count) := by
  obtain ⟨lines, same⟩ := m.finishDrain_eq due count
  rw [same]
  exact ⟨settled, ⟨counted.published, counted.buffered, counted.dropped⟩,
    ⟨flow.direct, flow.fifo, flow.drained⟩, fun _ => rfl⟩

theorem drainNext (settled : Settled fates m.calls) (counted : Counted fates m.metrics)
    {due count : Nat} (flow : Flow fates m.stored m.metrics m.buffer.records count) :
    Books fates (m.drainNext due count) := by
  obtain ⟨_, same⟩ | ⟨record, rest, records, call, store, started, same⟩ :=
    m.drainNext_cases due count
  · rw [same]
    exact finishDrain settled counted flow
  · rw [same]
    refine ⟨settled, counted, ?_, nofun⟩
    simpa only [Loop.hand, Loop.uncounted, List.singleton_append, ← records] using flow

theorem unsettled {move : Move} (books : Books fates after) (none : m.settles? move = none) :
    Books (fates ++ (m.settles? move).toList) after := by
  rw [none, Option.toList_none, List.append_nil]
  exact books

/-- The buffer takes a record. -/
theorem buffer (books : Books fates m) {number : Nat} {record : Record} {calls : List Call}
    {queue : List Party} {lines : List LogLine}
    (settled : Settled (fates ++ [(number, .buffered record)]) calls) :
    Books (fates ++ [(number, .buffered record)])
      { m with
        calls := calls
        queue := queue
        buffer := { m.buffer with records := m.buffer.records ++ [record] }
        metrics :=
          (m.metrics.increase 1 .buffered).setPending (m.buffer.records ++ [record]).length
        lines := lines } := by
  have counted := books.counted.settle number (.buffered record)
  have flow := books.flow.settle (number, .buffered record) [] [record] rfl rfl rfl
  refine ⟨settled, ⟨counted.published, counted.buffered, counted.dropped⟩, ?_, fun _ => rfl⟩
  rw [List.append_nil, List.append_assoc] at flow
  exact ⟨flow.direct, flow.fifo, flow.drained⟩

/-- A record is dropped. -/
theorem drop (books : Books fates m) {number : Nat} {record : Record} {calls : List Call}
    {queue : List Party} {lines : List LogLine}
    (settled : Settled (fates ++ [(number, .dropped record)]) calls) :
    Books (fates ++ [(number, .dropped record)])
      { m with
        calls := calls
        queue := queue
        metrics := m.metrics.increase 1 .dropped
        lines := lines } := by
  have flow := books.flow.settle (number, .dropped record) [] [] rfl rfl rfl
  rw [List.append_nil, List.append_nil] at flow
  exact ⟨settled, books.counted.settle number (.dropped record),
    ⟨flow.direct, flow.fifo, flow.drained⟩, books.gauge⟩

/-- A publish call stores its record. -/
theorem store (books : Books fates m) {number time : Nat} {record : Record} {calls : List Call}
    (settled : Settled (fates ++ [(number, .stored record)]) calls) :
    Books (fates ++ [(number, .stored record)])
      { m with
        stored := m.stored ++ [⟨record, .call number, time⟩]
        metrics := m.metrics.increase 1 .published
        calls := calls } := by
  have flow := books.flow.settle (number, .stored record)
    [⟨record, .call number, time⟩] [] rfl rfl rfl
  rw [List.append_nil] at flow
  exact ⟨settled, books.counted.settle number (.stored record),
    ⟨flow.direct, flow.fifo, flow.drained⟩, books.gauge⟩

/-- An error ends a publish call. -/
theorem fail (books : Books fates m) {number : Nat} {error : EventError} {calls : List Call}
    (settled : Settled (fates ++ [(number, .failed error)]) calls) :
    Books (fates ++ [(number, .failed error)]) { m with calls := calls } := by
  have flow := books.flow.settle (number, .failed error) [] [] rfl rfl rfl
  rw [List.append_nil, List.append_nil] at flow
  exact ⟨settled, books.counted.settle number (.failed error), flow, books.gauge⟩

/-- Every move keeps the books. -/
theorem way {move : Move} (books : Books fates m) (way : Way m move after) :
    Books (fates ++ (m.settles? move).toList) after := by
  cases way with
  | refuse unencoded =>
    simp only [settles?, unencoded]
    exact books.fail (books.settled.refuse _ _ _)
  | begin encoded =>
    refine unsettled ?_ (by simp only [settles?, encoded])
    exact books.keep (books.settled.enter _ rfl) rfl rfl rfl rfl rfl
  | ask | join | overtake =>
    refine unsettled ?_ rfl
    exact books.keep (books.settled.enter _ rfl) rfl rfl rfl rfl rfl
  | cancel | restock | wait =>
    refine unsettled ?_ rfl
    exact books.keep books.settled rfl rfl rfl rfl rfl
  | offer free head waiting =>
    rename_i number began rest scope record
    obtain ⟨queued, lines, same⟩ | ⟨refused, lines, same⟩ :=
      offer_cases { m with queue := rest } scope record
    · rw [same]
      simp only at queued
      simp only [settles?, head, waiting, queued]
      exact books.buffer (books.settled.finish _ _ _ _ waiting rfl rfl)
    · rw [same]
      simp only at refused
      simp only [settles?, head, waiting]
      exact books.drop (books.settled.finish _ _ _ _ waiting rfl rfl)
  | answer free head waiting =>
    refine unsettled ?_ (by simp only [settles?, head, waiting])
    exact books.keep (books.settled.proceed waiting rfl rfl) rfl rfl rfl rfl rfl
  | pass free head unwanted =>
    refine unsettled (books.keep books.settled rfl rfl rfl rfl rfl) ?_
    simp only [settles?, head]
    split
    · rename_i number _ same
      cases same
      split
      · rename_i waiting
        exact absurd waiting (unwanted _ _ _ _ rfl)
      · rfl
    · rfl
  | rest free head loop | probe free head loop =>
    refine unsettled ?_ (by simp only [settles?, head])
    exact books.keep books.settled rfl rfl rfl (by rw [loop]; rfl) (by rw [loop]; rfl)
  | drain free head loop =>
    refine unsettled ?_ (by simp only [settles?, head])
    apply drainNext
    · exact books.settled
    · exact books.counted
    · have flow := books.flow
      rw [loop] at flow
      exact flow
  | halt free head loop =>
    refine unsettled ?_ (by simp only [settles?, head])
    exact books.keep books.settled rfl rfl rfl (by rw [loop]; rfl) (by rw [loop]; rfl)
  | probed waiting | unprobed waiting =>
    refine unsettled ?_ rfl
    exact books.keep (books.settled.proceed waiting rfl rfl) rfl rfl rfl rfl rfl
  | store waiting come answered =>
    simp only [settles?, waiting, answered]
    exact books.store (books.settled.finish _ _ _ _ waiting rfl rfl)
  | late waiting come failed =>
    refine unsettled ?_ (by simp only [settles?, waiting, failed])
    exact books.keep (books.settled.proceed waiting rfl rfl) rfl rfl rfl rfl rfl
  | fail waiting come failed other =>
    simp only [settles?, waiting, failed]
    exact books.fail (books.settled.finish _ _ _ _ waiting rfl rfl)
  | joined waiting | abandoned waiting | closed waiting =>
    refine unsettled ?_ rfl
    exact books.keep (books.settled.proceed waiting rfl rfl) rfl rfl rfl rfl rfl
  | stop loop | tick loop | loopProbed loop | loopUnprobed loop =>
    refine unsettled ?_ rfl
    exact books.keep books.settled rfl rfl rfl (by rw [loop]; rfl) (by rw [loop]; rfl)
  | loopStored loop come answered =>
    refine unsettled ?_ rfl
    obtain ⟨direct, fifo, drained⟩ := books.flow
    rw [loop] at fifo drained
    apply drainNext
    · exact books.settled
    · exact books.counted
    · constructor
      · rw [written_append, direct]
        exact List.append_nil _
      · rw [drained_append, ← fifo, List.append_assoc]
        rfl
      · rw [drained_append, List.length_append, ← drained]
        rfl
  | loopFailed loop come failed =>
    refine unsettled ?_ rfl
    apply finishDrain
    · exact books.settled
    · exact books.counted
    · have flow := books.flow
      rw [loop] at flow
      exact flow

end Books

theorem Trail.books {settings : Settings} {steps : List (Machine × Move)} {m : Machine}
    (trail : Trail settings steps m) : Books (fates steps) m := by
  induction trail with
  | start valid store host =>
    refine ⟨Settled.start, ⟨rfl, rfl, rfl⟩, ?_, fun _ => rfl⟩
    change Flow [] [] .zero ((Loop.launched settings host).hand ++ [])
      (Loop.launched settings host).uncounted
    rw [Loop.hand_launched, Loop.uncounted_launched]
    exact ⟨rfl, rfl, rfl⟩
  | move move _ made ih =>
    rw [fates_append_singleton]
    exact ih.way (way_of_act made)

/-- With the lock free there is nothing between the buffer and the store. -/
theorem Books.flow_of_free {fates : List (Nat × Fate)} {m : Machine} (books : Books fates m)
    (free : m.isDraining = false) :
    Flow fates m.stored m.metrics m.buffer.records 0 := by
  have flow := books.flow
  unfold isDraining at free
  cases loop : m.loop <;> rw [loop] at free flow <;> first | exact flow | cases free

/-- The books of a run agree: the counters account for every publish call that is over, the gauge
shows the buffer, the store holds what was counted as written. Every such call has one fate, and
the store holds the records of the calls that wrote directly and of those that left the buffer. -/
structure Balanced (fates : List (Nat × Fate)) (m : Machine) : Prop where
  calls : m.calls.countP Call.isSettled =
    m.metrics.published + m.metrics.buffered + m.metrics.dropped +
      m.calls.countP Call.isRefused
  buffered : m.metrics.buffered = m.metrics.drained + m.buffer.size
  pending : m.metrics.pending = m.buffer.size
  stored : m.stored.length = m.metrics.published + m.metrics.drained
  once : (fates.map Prod.fst).Nodup
  finished : ∀ number, number ∈ fates.map Prod.fst ↔
    ∃ call, m.calls[number]? = some call ∧ call.isSettled = true
  contents : (m.stored.map Stored.record).Perm
    ((direct fates).map Prod.snd ++ ((accepted fates).map Prod.snd).take m.metrics.drained)

/-- The books of every run agree whenever no drain is under way. -/
theorem ledger_balances {settings : Settings} {steps : List (Machine × Move)} {m : Machine}
    (trail : Trail settings steps m) (free : m.isDraining = false) :
    Balanced (fates steps) m := by
  have books := trail.books
  obtain ⟨wrote, fifo, count⟩ := books.flow_of_free free
  have left : ((accepted (fates steps)).map Prod.snd).take m.metrics.drained =
      drained m.stored := by
    rw [← fifo, show m.metrics.drained = (drained m.stored).length from count]
    exact List.take_left
  have contents := stored_perm m.stored
  rw [wrote, ← left] at contents
  refine ⟨?_, ?_, books.gauge free, ?_, books.settled.once, books.settled.finished, contents⟩
  · rw [books.settled.count, length_fates, books.counted.published, books.counted.buffered,
      books.counted.dropped, books.settled.refused]
  · have sizes := congrArg List.length fifo
    rw [List.length_append, List.length_map, ← books.counted.buffered, ← count] at sizes
    exact sizes.symm
  · have sizes := contents.length_eq
    rw [left, List.length_map, List.length_append, List.length_map, ← count,
      ← books.counted.published] at sizes
    exact sizes

/-- A publisher whose store is down for two probes, and fails at the second write of the drain. -/
def unsteady : Machine :=
  Machine.initial .standard (by decide)
    { pings := [⟨some 0, .error (.store "down")⟩, ⟨some 0, .error (.store "down")⟩, .ready]
      appends := [.ready, ⟨some 0, .error (.store "down")⟩]
      closes := [] }
    .fresh

/-- Two events are buffered; a cycle of the recovery loop writes one and puts the other back. -/
def outage : List Move :=
  [.publish [] ⟨"first", .ok []⟩ 1, .probed 0, .grant, .publish [] ⟨"second", .ok []⟩ 2,
    .probed 1, .grant, .wait 60000, .tick, .grant, .loopProbed, .grant, .loopAppended,
    .loopAppended]

theorem ledger_balances_outage :
    ∃ m, Trail .standard (unsteady.path outage) m ∧ m.isDraining = false ∧
      m.metrics = ⟨0, 2, 0, 1, 1⟩ ∧ Balanced (fates (unsteady.path outage)) m := by
  obtain ⟨m, made, free, counts⟩ : ∃ m, outage.foldlM act unsteady = some m ∧
      m.isDraining = false ∧ m.metrics = ⟨0, 2, 0, 1, 1⟩ := ⟨_, rfl, rfl, rfl⟩
  have trail := (Trail.start _ _ _).follow outage made
  exact ⟨m, trail, free, counts, ledger_balances trail free⟩

end ChannelGate.Publisher
