import ChannelGate.Proofs.Publisher.Lock
import ChannelGate.Proofs.Publisher.StoreCalls

set_option autoImplicit false

namespace ChannelGate.Publisher

open Machine

/-- Nothing is stored or counted, and the buffer is left alone. -/
structure Quietly (m after : Machine) : Prop where
  stored : after.stored = m.stored
  metrics : after.metrics = m.metrics
  buffer : after.buffer = m.buffer

/-- What a move of a publish call does, between its stages before and after it. -/
inductive PublishWay (m : Machine) (number : Nat) (after : Machine) :
    Move → PublishStage → PublishStage → Prop
  | probed {record : Record} {call : Awaited}
    (answered : call.result (.probeTimeout m.settings.probeTimeout) = .ok ())
    (started : after.started = m.started ++ [⟨.append, .call number, m.now⟩])
    (quietly : Quietly m after) :
    PublishWay m number after (.probed number) (.probing record call)
      (.appending record (m.append (.call number)).1)
  | unprobed {record : Record} {call : Awaited} {error : EventError}
    (failed : call.result (.probeTimeout m.settings.probeTimeout) = .error error)
    (started : after.started = m.started) (quietly : Quietly m after) :
    PublishWay m number after (.probed number) (.probing record call) (.queued record)
  | store {record : Record} {call : Awaited}
    (answered : call.result (.writeTimeout m.settings.writeTimeout) = .ok ())
    (started : after.started = m.started)
    (stored : after.stored = m.stored ++ [⟨record, .call number, m.now⟩])
    (metrics : after.metrics = m.metrics.increase 1 .published)
    (buffer : after.buffer = m.buffer) :
    PublishWay m number after (.appended number) (.appending record call) (.finished (.ok ()))
  | late {record : Record} {call : Awaited} {limit : Nat}
    (failed : call.result (.writeTimeout m.settings.writeTimeout) = .error (.writeTimeout limit))
    (started : after.started = m.started) (quietly : Quietly m after) :
    PublishWay m number after (.appended number) (.appending record call) (.queued record)
  | fail {record : Record} {call : Awaited} {error : EventError}
    (failed : call.result (.writeTimeout m.settings.writeTimeout) = .error error)
    (other : ∀ limit, error ≠ .writeTimeout limit) (started : after.started = m.started)
    (quietly : Quietly m after) :
    PublishWay m number after (.appended number) (.appending record call)
      (.finished (.error error))
  | buffer {record : Record} (free : m.isDraining = false)
    (head : m.queue.head? = some (.call number)) (started : after.started = m.started)
    (stored : after.stored = m.stored) (unclosed : m.buffer.closed = false)
    (fits : m.buffer.size < m.buffer.capacity)
    (metrics : after.metrics = (m.metrics.increase 1 .buffered).setPending (m.buffer.size + 1))
    (buffer : after.buffer = { m.buffer with records := m.buffer.records ++ [record] }) :
    PublishWay m number after .grant (.queued record) (.finished (.ok ()))
  | drop {record : Record} (free : m.isDraining = false)
    (head : m.queue.head? = some (.call number)) (started : after.started = m.started)
    (stored : after.stored = m.stored)
    (refused : m.buffer.closed = true ∨ m.buffer.capacity ≤ m.buffer.size)
    (metrics : after.metrics = m.metrics.increase 1 .dropped)
    (buffer : after.buffer = m.buffer) :
    PublishWay m number after .grant (.queued record) (.finished (.ok ()))

variable {m after : Machine} {move : Move}

theorem Machine.offer_stored (m : Machine) (scope : List String) (record : Record) :
    (m.offer scope record).stored = m.stored := by
  obtain ⟨_, lines, same⟩ | ⟨_, lines, same⟩ := m.offer_cases scope record
  · rw [same]
  · rw [same]

/-- A call that has the lock offers its record to the buffer. -/
theorem PublishWay.offer {number began : Nat} {rest : List Party} {scope : List String}
    {record : Record} (free : m.isDraining = false) (head : m.queue = .call number :: rest) :
    PublishWay m number (({ m with queue := rest }.offer scope record).setCall number
      (.publish began scope (.finished (.ok ())))) .grant (.queued record)
      (.finished (.ok ())) := by
  have first : m.queue.head? = some (.call number) := by rw [head, List.head?_cons]
  have started := offer_started { m with queue := rest } scope record
  have stored := offer_stored { m with queue := rest } scope record
  obtain ⟨pushed, lines, same⟩ | ⟨pushed, lines, same⟩ :=
    offer_cases { m with queue := rest } scope record
  · obtain ⟨unclosed, fits⟩ := tryPush_queued pushed
    refine .buffer free first started stored unclosed fits ?_ ?_
    · show (Machine.offer _ scope record).metrics = _
      rw [same]
      simp only [List.length_append, List.length_singleton, Buffer.size, Int.natCast_add,
        Int.cast_ofNat_Int]
    · show (Machine.offer _ scope record).buffer = _
      rw [same]
  · refine .drop free first started stored (tryPush_refused pushed) ?_ ?_
    · show (Machine.offer _ scope record).metrics = _
      rw [same]
    · show (Machine.offer _ scope record).buffer = _
      rw [same]

/-- A publish call that moves goes on to its next stage. -/
theorem Way.publish (way : Way m move after) (queued : Queued m) {number began : Nat}
    {scope : List String} {stage : PublishStage}
    (present : m.calls[number]? = some (.publish began scope stage))
    (own : m.caller? move = some number) :
    ∃ next, after.calls[number]? = some (.publish began scope next) ∧
      PublishWay m number after move stage next := by
  have inside := (List.getElem?_eq_some_iff.mp present).1
  have moved : ∀ call, (m.calls.set number call)[number]? = some call :=
    fun call => List.getElem?_set_self inside
  cases way with
  | refuse | begin | ask | join | overtake =>
    cases own
    exact absurd inside (Nat.lt_irrefl _)
  | @offer other began rest scope record free head waiting =>
    rw [caller?, head] at own
    cases own
    cases present.symm.trans waiting
    have calls := (offer_untouched { m with queue := rest } scope record).calls
    refine ⟨_, ?_, .offer free head⟩
    show (List.set (Machine.offer _ scope record).calls number _)[number]? = _
    rw [calls]
    exact moved _
  | answer free head waiting =>
    rw [caller?, head] at own
    cases own
    cases present.symm.trans waiting
  | pass free head unwanted unasked idle =>
    cases (queued.wants_head head).symm.trans (wants_of_passed unwanted unasked idle)
  | probed waiting come answered =>
    cases own
    cases present.symm.trans waiting
    exact ⟨_, moved _, .probed answered rfl ⟨rfl, rfl, rfl⟩⟩
  | unprobed waiting come failed =>
    cases own
    cases present.symm.trans waiting
    exact ⟨_, moved _, .unprobed failed rfl ⟨rfl, rfl, rfl⟩⟩
  | store waiting come answered =>
    cases own
    cases present.symm.trans waiting
    exact ⟨_, moved _, .store answered rfl rfl rfl rfl⟩
  | late waiting come failed =>
    cases own
    cases present.symm.trans waiting
    exact ⟨_, moved _, .late failed rfl ⟨rfl, rfl, rfl⟩⟩
  | fail waiting come failed other =>
    cases own
    cases present.symm.trans waiting
    exact ⟨_, moved _, .fail failed other rfl ⟨rfl, rfl, rfl⟩⟩
  | joined waiting | abandoned waiting | closed waiting =>
    cases own
    cases present.symm.trans waiting
  | rest free head | probe free head | drain free head | halt free head =>
    rw [caller?, head] at own
    cases own
  | _ => cases own

/-- A publish call stays one. -/
theorem Way.stays_publish (way : Way m move after) (queued : Queued m) {number began : Nat}
    {scope : List String} {stage : PublishStage}
    (present : m.calls[number]? = some (.publish began scope stage)) :
    ∃ next, after.calls[number]? = some (.publish began scope next) := by
  by_cases own : m.caller? move = some number
  · obtain ⟨next, there, _⟩ := way.publish queued present own
    exact ⟨next, there⟩
  · exact ⟨stage, way.call_eq present own⟩

end ChannelGate.Publisher
