import ChannelGate.Proofs.Event.Fields
import ChannelGate.Proofs.Publisher.Deadline
import ChannelGate.Proofs.Publisher.Order

set_option autoImplicit false

namespace ChannelGate.Publisher

open Machine

/-- What a caller hears who waits no longer than the limit. -/
def Reply.heard (reply : Reply) (limit : Nat) (late : EventError) : Except EventError Unit :=
  match reply.delay with
  | some delay => if delay ≤ limit then reply.answer else .error late
  | none => .error late

def Machine.heard (m : Machine) : StoreOp → Except EventError Unit
  | .ping =>
    (Reply.take m.store.pings).1.heard m.settings.probeTimeout
      (.probeTimeout m.settings.probeTimeout)
  | .append =>
    (Reply.take m.store.appends).1.heard m.settings.writeTimeout
      (.writeTimeout m.settings.writeTimeout)
  | .close => (Reply.take m.store.closes).1.answer

/-- What moves do to everything that calls share: the store calls with what is heard of them, the
records stored, the growth of the metrics, and the buffer before and after each change of it. -/
structure Footprint where
  asked : List (StoreOp × Except EventError Unit)
  stored : List Record
  growth : Metric → Int
  changes : List (Buffer × Buffer)

def grows (metrics : List Metric) (metric : Metric) : Int := if metric ∈ metrics then 1 else 0

/-- Store calls that leave no trace but what is heard of them. -/
def Footprint.quiet (asked : List (StoreOp × Except EventError Unit)) : Footprint :=
  ⟨asked, [], grows [], []⟩

def Footprint.append (first second : Footprint) : Footprint where
  asked := first.asked ++ second.asked
  stored := first.stored ++ second.stored
  growth metric := first.growth metric + second.growth metric
  changes := first.changes ++ second.changes

def Machine.footprint (m : Machine) (move : Move) : Footprint :=
  match m.act move with
  | none => .quiet []
  | some after =>
    { asked := (after.started.drop m.started.length).map fun entry => (entry.op, m.heard entry.op)
      stored := (after.stored.drop m.stored.length).map Stored.record
      growth := fun metric => after.metrics.value metric - m.metrics.value metric
      changes := if after.buffer = m.buffer then [] else [(m.buffer, after.buffer)] }

def footprint (steps : List (Machine × Move)) : Footprint :=
  steps.foldl (fun sum step => sum.append (step.1.footprint step.2)) (.quiet [])

def own (number : Nat) (steps : List (Machine × Move)) : List (Machine × Move) :=
  steps.filter fun step => step.1.caller? step.2 = some number

/-- A record of encoded fields in which only the time of sending is set. -/
structure Stamped (settings : Settings) (fields : Fields) (stamp : Int64) (record : Record) :
    Prop where
  stream : record.stream = settings.stream
  maxLen : record.maxLen = settings.maxStreamLen
  sent : record.fields.lookup occurredAt = some (.int stamp)
  others : ∀ name, name ≠ occurredAt → record.fields.lookup name = fields.lookup name
  ascending : fields.Ascending → record.fields.Ascending

inductive Outcome where
  | refused
  | published
  | failed
  | absorbed

/-- The store calls that a publish call with an outcome makes, and what it hears of them. -/
inductive Asks : Outcome → List (StoreOp × Except EventError Unit) → Prop
  | refused : Asks .refused []
  | published : Asks .published [(.ping, .ok ()), (.append, .ok ())]
  | failed {error : EventError} (other : ∀ limit, error ≠ .writeTimeout limit) :
    Asks .failed [(.ping, .ok ()), (.append, .error error)]
  /-- The probe fails or takes too long. -/
  | unprobed (error : EventError) : Asks .absorbed [(.ping, .error error)]
  /-- The write takes too long, or says so. -/
  | late (limit : Nat) : Asks .absorbed [(.ping, .ok ()), (.append, .error (.writeTimeout limit))]

/-- What a publish call answers and what its moves do, for each outcome. -/
inductive Accounted (settings : Settings) (event : Event) (stamp : Int64) (number : Nat)
    (steps : List (Machine × Move)) : Outcome → Except EventError Unit → Prop
  | refused {error : EventError} (unencoded : event.encoding = .error error)
    (done : footprint steps = .quiet []) :
    Accounted settings event stamp number steps .refused (.error error)
  | published {fields : Fields} {record : Record} (encoded : event.encoding = .ok fields)
    (stamped : Stamped settings fields stamp record)
    (done : footprint steps =
      ⟨[(.ping, .ok ()), (.append, .ok ())], [record], grows [.published], []⟩) :
    Accounted settings event stamp number steps .published (.ok ())
  /-- The store refuses the write. -/
  | failed {fields : Fields} {error : EventError} (encoded : event.encoding = .ok fields)
    (other : ∀ limit, error ≠ .writeTimeout limit)
    (done : footprint steps = .quiet [(.ping, .ok ()), (.append, .error error)]) :
    Accounted settings event stamp number steps .failed (.error error)
  /-- The record is offered to the buffer when the call gets the lock. -/
  | absorbed {fields : Fields} {record : Record} {locked : Machine}
    {asked : List (StoreOp × Except EventError Unit)} (encoded : event.encoding = .ok fields)
    (stamped : Stamped settings fields stamp record) (outage : Asks .absorbed asked)
    (granted : (locked, Move.grant) ∈ steps) (free : locked.isDraining = false)
    (first : locked.queue.head? = some (.call number))
    (done : footprint steps =
      if locked.buffer.closed = false ∧ locked.buffer.size < settings.maxPending then
        ⟨asked, [], grows [.buffered, .pending],
          [(locked.buffer, { locked.buffer with records := locked.buffer.records ++ [record] })]⟩
      else ⟨asked, [], grows [.dropped], []⟩) :
    Accounted settings event stamp number steps .absorbed (.ok ())

/-- What is known of a publish call at a stage: until it is over it leaves no trace. -/
inductive Progress (settings : Settings) (event : Event) (stamp : Int64) (number : Nat)
    (steps : List (Machine × Move)) : PublishStage → Prop
  | probing {fields : Fields} {record : Record} {call : Awaited} {heard : Except EventError Unit}
    (encoded : event.encoding = .ok fields) (stamped : Stamped settings fields stamp record)
    (awaits : call.result (.probeTimeout settings.probeTimeout) = heard)
    (done : footprint steps = .quiet [(.ping, heard)]) :
    Progress settings event stamp number steps (.probing record call)
  | appending {fields : Fields} {record : Record} {call : Awaited}
    {heard : Except EventError Unit} (encoded : event.encoding = .ok fields)
    (stamped : Stamped settings fields stamp record)
    (awaits : call.result (.writeTimeout settings.writeTimeout) = heard)
    (done : footprint steps = .quiet [(.ping, .ok ()), (.append, heard)]) :
    Progress settings event stamp number steps (.appending record call)
  | queued {fields : Fields} {record : Record} {asked : List (StoreOp × Except EventError Unit)}
    (encoded : event.encoding = .ok fields) (stamped : Stamped settings fields stamp record)
    (outage : Asks .absorbed asked) (done : footprint steps = .quiet asked) :
    Progress settings event stamp number steps (.queued record)
  | finished {outcome : Outcome} {answer : Except EventError Unit}
    (accounted : Accounted settings event stamp number steps outcome answer) :
    Progress settings event stamp number steps (.finished answer)

theorem Reply.result_within (reply : Reply) (now limit : Nat) (late : EventError) :
    (reply.within now limit).result late = reply.heard limit late := by
  unfold within heard
  cases reply.delay with
  | none => rfl
  | some delay =>
    simp only
    split <;> rfl

theorem Stamped.recordOf (m : Machine) (fields : Fields) (stamp : Int64) :
    Stamped m.settings fields stamp (m.recordOf fields stamp) where
  stream := rfl
  maxLen := rfl
  sent := fields.lookup_insert_self occurredAt _
  others _ apart := fields.lookup_insert_of_ne apart _
  ascending ascending := ascending.insert occurredAt _

theorem Asks.unique {outcome other : Outcome} {asked : List (StoreOp × Except EventError Unit)}
    (asks : Asks outcome asked) (again : Asks other asked) : other = outcome := by
  cases asks with
  | refused =>
    cases again
    rfl
  | published =>
    cases again
    rfl
  | failed notLate =>
    cases again with
    | failed => rfl
    | late limit => exact absurd rfl (notLate limit)
  | unprobed error =>
    cases again
    rfl
  | late limit =>
    cases again with
    | failed notLate => exact absurd rfl (notLate limit)
    | late => rfl

section
variable {settings : Settings} {event : Event} {stamp : Int64} {number : Nat}
  {steps : List (Machine × Move)} {outcome other : Outcome} {answer : Except EventError Unit}

theorem Accounted.asks (accounted : Accounted settings event stamp number steps outcome answer) :
    Asks outcome (footprint steps).asked := by
  cases accounted with
  | refused unencoded done =>
    rw [done]
    exact .refused
  | published encoded stamped done =>
    rw [done]
    exact .published
  | failed encoded other done =>
    rw [done]
    exact .failed other
  | absorbed encoded stamped outage granted free first done =>
    rw [done]
    split
    · exact outage
    · exact outage

/-- A call has only one outcome. -/
theorem Accounted.unique (accounted : Accounted settings event stamp number steps outcome answer)
    (again : Accounted settings event stamp number steps other answer) : other = outcome :=
  accounted.asks.unique again.asks

end

theorem footprint_append_singleton (steps : List (Machine × Move)) (m : Machine) (move : Move) :
    footprint (steps ++ [(m, move)]) = (footprint steps).append (m.footprint move) :=
  List.foldl_append

theorem Footprint.quiet_append (asked more : List (StoreOp × Except EventError Unit))
    (stored : List Record) (growth : Metric → Int) (changes : List (Buffer × Buffer)) :
    (quiet asked).append ⟨more, stored, growth, changes⟩ =
      ⟨asked ++ more, stored, growth, changes⟩ := by
  simp [quiet, append, grows]

variable {m after : Machine} {move : Move}

theorem footprint_eq (made : m.act move = some after) {fresh : List Started} {kept : List Stored}
    (started : after.started = m.started ++ fresh) (stored : after.stored = m.stored ++ kept) :
    m.footprint move =
      { asked := fresh.map fun entry => (entry.op, m.heard entry.op)
        stored := kept.map Stored.record
        growth := fun metric => after.metrics.value metric - m.metrics.value metric
        changes := if after.buffer = m.buffer then [] else [(m.buffer, after.buffer)] } := by
  unfold Machine.footprint
  rw [made]
  dsimp only
  rw [started, stored, List.drop_left, List.drop_left]

theorem footprint_of_quietly (made : m.act move = some after) {fresh : List Started}
    (started : after.started = m.started ++ fresh) (quietly : Quietly m after) :
    m.footprint move = .quiet (fresh.map fun entry => (entry.op, m.heard entry.op)) := by
  obtain ⟨stored, metrics, buffer⟩ := quietly
  have still : (fun metric => m.metrics.value metric - m.metrics.value metric) = grows [] := by
    funext metric
    exact Int.sub_self _
  rw [footprint_eq made started (stored.trans (List.append_nil _).symm), metrics, buffer, still]
  simp [Footprint.quiet]

theorem growth_increase (metrics : Metrics) (metric : Metric) (counter : metric.isCounter = true)
    (other : Metric) :
    (metrics.increase 1 metric).value other - metrics.value other = grows [metric] other := by
  cases metric with
  | pending => cases counter
  | _ =>
    cases other <;> simp only [Metrics.increase, Metrics.value, grows, List.mem_singleton,
      reduceCtorEq, ↓reduceIte, Int.natCast_add] <;> omega

theorem growth_buffered (metrics : Metrics) (metric : Metric) :
    ((metrics.increase 1 .buffered).setPending (metrics.pending + 1)).value metric -
      metrics.value metric = grows [.buffered, .pending] metric := by
  cases metric <;> simp only [Metrics.increase, Metrics.setPending, Metrics.value, grows,
    List.mem_cons, List.not_mem_nil, reduceCtorEq, or_false, or_true, ↓reduceIte,
    Int.natCast_add] <;> omega

variable {settings : Settings} {event : Event} {stamp : Int64} {number : Nat}
  {steps : List (Machine × Move)} {stage next : PublishStage}

/-- A publish call that goes on without a trace. -/
theorem quiet_after (made : m.act move = some after) {asked : List (StoreOp × Except EventError Unit)}
    {fresh : List Started} (before : footprint steps = .quiet asked)
    (started : after.started = m.started ++ fresh) (quietly : Quietly m after) :
    footprint (steps ++ [(m, move)]) =
      .quiet (asked ++ fresh.map fun entry => (entry.op, m.heard entry.op)) := by
  rw [footprint_append_singleton, before, footprint_of_quietly made started quietly]
  exact Footprint.quiet_append ..

/-- A publish call that ends. -/
theorem done_after (made : m.act move = some after)
    {asked : List (StoreOp × Except EventError Unit)} {kept : List Stored} {grown : List Metric}
    (before : footprint steps = .quiet asked) (started : after.started = m.started)
    (stored : after.stored = m.stored ++ kept)
    (growth : ∀ metric, after.metrics.value metric - m.metrics.value metric =
      grows grown metric) :
    footprint (steps ++ [(m, move)]) =
      ⟨asked, kept.map Stored.record, grows grown,
        if after.buffer = m.buffer then [] else [(m.buffer, after.buffer)]⟩ := by
  rw [footprint_append_singleton, before,
    footprint_eq made (started.trans (List.append_nil _).symm) stored, funext growth,
    Footprint.quiet_append, List.map_nil, List.append_nil]

theorem done_after_buffering (made : m.act move = some after)
    {asked : List (StoreOp × Except EventError Unit)} {record : Record}
    (before : footprint steps = .quiet asked) (started : after.started = m.started)
    (stored : after.stored = m.stored) (gauge : m.metrics.pending = m.buffer.size)
    (metrics : after.metrics = (m.metrics.increase 1 .buffered).setPending (m.buffer.size + 1))
    (buffer : after.buffer = { m.buffer with records := m.buffer.records ++ [record] }) :
    footprint (steps ++ [(m, move)]) =
      ⟨asked, [], grows [.buffered, .pending],
        [(m.buffer, { m.buffer with records := m.buffer.records ++ [record] })]⟩ := by
  have growth : ∀ metric, after.metrics.value metric - m.metrics.value metric =
      grows [.buffered, .pending] metric := by
    intro metric
    rw [metrics, ← gauge, growth_buffered]
  -- The list of records gets longer, so this is a change.
  have changed : after.buffer ≠ m.buffer := by
    intro same
    rw [buffer] at same
    have longer := congrArg List.length (congrArg Buffer.records same)
    rw [List.length_append, List.length_singleton] at longer
    omega
  rw [done_after made before started (stored.trans (List.append_nil _).symm) growth,
    if_neg changed, buffer]
  rfl

theorem done_after_counting (made : m.act move = some after)
    {asked : List (StoreOp × Except EventError Unit)} {kept : List Stored} {counter : Metric}
    (counts : counter.isCounter = true) (before : footprint steps = .quiet asked)
    (started : after.started = m.started) (stored : after.stored = m.stored ++ kept)
    (metrics : after.metrics = m.metrics.increase 1 counter) (buffer : after.buffer = m.buffer) :
    footprint (steps ++ [(m, move)]) = ⟨asked, kept.map Stored.record, grows [counter], []⟩ := by
  have growth : ∀ metric, after.metrics.value metric - m.metrics.value metric =
      grows [counter] metric := by
    intro metric
    rw [metrics, growth_increase m.metrics counter counts]
  rw [done_after made before started stored growth, if_pos buffer]

theorem Progress.step (made : m.act move = some after) (same : m.settings = settings)
    (room : HasRoom m) (gauge : m.isDraining = false → m.metrics.pending = m.buffer.size)
    (way : PublishWay m number after move stage next)
    (progress : Progress settings event stamp number steps stage) :
    Progress settings event stamp number (steps ++ [(m, move)]) next := by
  subst same
  cases way with
  | probed answered started quietly =>
    cases progress with
    | probing encoded stamped awaits done =>
      cases awaits.symm.trans answered
      exact .appending encoded stamped (Reply.result_within _ _ _ _)
        (quiet_after made done started quietly)
  | unprobed failed started quietly =>
    cases progress with
    | probing encoded stamped awaits done =>
      cases awaits.symm.trans failed
      exact .queued encoded stamped (.unprobed _)
        (quiet_after made done (started.trans (List.append_nil _).symm) quietly)
  | late failed started quietly =>
    cases progress with
    | appending encoded stamped awaits done =>
      cases awaits.symm.trans failed
      exact .queued encoded stamped (.late _)
        (quiet_after made done (started.trans (List.append_nil _).symm) quietly)
  | fail failed other started quietly =>
    cases progress with
    | appending encoded stamped awaits done =>
      cases awaits.symm.trans failed
      exact .finished (.failed encoded other
        (quiet_after made done (started.trans (List.append_nil _).symm) quietly))
  | store answered started stored metrics buffer =>
    cases progress with
    | appending encoded stamped awaits done =>
      cases awaits.symm.trans answered
      exact .finished (.published encoded stamped
        (done_after_counting made rfl done started stored metrics buffer))
  | buffer free head started stored unclosed fits metrics buffer =>
    cases progress with
    | queued encoded stamped outage done =>
      refine .finished (.absorbed encoded stamped outage
        (List.mem_append_right _ (List.mem_singleton.mpr rfl)) free head ?_)
      rw [room.capacity] at fits
      rw [if_pos ⟨unclosed, fits⟩]
      exact done_after_buffering made done started stored (gauge free) metrics buffer
  | drop free head started stored refused metrics buffer =>
    cases progress with
    | queued encoded stamped outage done =>
      refine .finished (.absorbed encoded stamped outage
        (List.mem_append_right _ (List.mem_singleton.mpr rfl)) free head ?_)
      have barred : ¬(m.buffer.closed = false ∧ m.buffer.size < m.settings.maxPending) := by
        rintro ⟨unclosed, fits⟩
        rw [← room.capacity] at fits
        rcases refused with closed | full
        · cases closed.symm.trans unclosed
        · exact absurd fits (Nat.not_lt_of_le full)
      rw [if_neg barred]
      exact done_after_counting made rfl done started (stored.trans (List.append_nil _).symm)
        metrics buffer

theorem own_append_of_own (turn : m.caller? move = some number) :
    own number (steps ++ [(m, move)]) = own number steps ++ [(m, move)] := by
  rw [own, List.filter_append, own, List.filter_singleton, decide_eq_true turn]
  rfl

theorem own_append_of_other (other : m.caller? move ≠ some number) :
    own number (steps ++ [(m, move)]) = own number steps := by
  rw [own, List.filter_append, own, List.filter_singleton, decide_eq_false other]
  exact List.append_nil _

/-- Only calls that began make moves. -/
theorem Way.caller_lt (way : Way m move after) (queued : Queued m)
    (turn : m.caller? move = some number) : number < after.calls.length := by
  have inside : ∀ {call : Call}, m.calls[number]? = some call → number < after.calls.length := by
    intro call present
    exact Nat.lt_of_lt_of_le (List.getElem?_eq_some_iff.mp present).1 way.calls_length_le
  cases way with
  | refuse | begin | ask | join | overtake =>
    cases turn
    simp
  | offer free head waiting | answer free head waiting =>
    rw [caller?, head] at turn
    cases turn
    exact inside waiting
  | pass free head unwanted unasked idle =>
    cases (queued.wants_head head).symm.trans (wants_of_passed unwanted unasked idle)
  | probed waiting | unprobed waiting | store waiting | late waiting | fail waiting
  | joined waiting | abandoned waiting | closed waiting =>
    cases turn
    exact inside waiting
  | rest free head | probe free head | drain free head | halt free head =>
    rw [caller?, head] at turn
    cases turn
  | _ => cases turn

theorem Trail.own_eq_nil (trail : Trail settings steps m) (ahead : m.calls.length ≤ number) :
    own number steps = [] := by
  induction trail with
  | start valid store host => rfl
  | @move steps before after move trail made ih =>
    have way := way_of_act made
    have turn : before.caller? move ≠ some number := by
      intro turn
      exact absurd (way.caller_lt trail.queued turn) (Nat.not_lt_of_le ahead)
    rw [own_append_of_other turn]
    exact ih (Nat.le_trans way.calls_length_le ahead)

/-- A publish call begins with an error, or with its probe. -/
theorem Trail.begins (trail : Trail settings steps m) {scope : List String}
    (made : m.act (.publish scope event stamp) = some after) :
    ∃ stage, after.calls[m.calls.length]? = some (.publish m.now scope stage) ∧
      Progress settings event stamp m.calls.length
        (own m.calls.length (steps ++ [(m, .publish scope event stamp)])) stage := by
  have same := trail.settings_eq
  subst same
  have new : footprint (own m.calls.length steps) = .quiet [] := by
    rw [trail.own_eq_nil (Nat.le_refl _)]
    rfl
  rw [own_append_of_own rfl]
  cases way_of_publish made with
  | refuse unencoded =>
    refine ⟨_, List.getElem?_concat_length, .finished (.refused unencoded ?_)⟩
    exact quiet_after made new (List.append_nil _).symm ⟨rfl, rfl, rfl⟩
  | begin encoded =>
    refine ⟨_, List.getElem?_concat_length,
      .probing encoded (.recordOf _ _ _) (Reply.result_within _ _ _ _) ?_⟩
    exact quiet_after made new rfl ⟨rfl, rfl, rfl⟩

/-- What is known of every publish call of a run. -/
theorem Trail.progress (trail : Trail settings steps m) {before : Machine} {scope : List String}
    (begun : (before, Move.publish scope event stamp) ∈ steps) :
    ∃ stage, m.calls[before.calls.length]? = some (.publish before.now scope stage) ∧
      Progress settings event stamp before.calls.length (own before.calls.length steps) stage := by
  induction trail with
  | start valid store host => cases begun
  | @move steps last after move trail made ih =>
    rcases List.mem_append.mp begun with earlier | now
    · -- The call moves, or stays where it is while another party moves.
      obtain ⟨stage, present, progress⟩ := ih earlier
      have way := way_of_act made
      by_cases turn : last.caller? move = some before.calls.length
      · obtain ⟨next, there, publish⟩ := way.publish trail.queued present turn
        rw [own_append_of_own turn]
        exact ⟨next, there, progress.step made trail.settings_eq trail.hasRoom
          trail.books.gauge publish⟩
      · rw [own_append_of_other turn]
        exact ⟨stage, way.call_eq present turn, progress⟩
    · cases List.mem_singleton.mp now
      exact trail.begins made

theorem Progress.stamped (progress : Progress settings event stamp number steps stage)
    {began : Nat} {scope : List String} {record : Record}
    (carries : (Call.publish began scope stage).record? = some record) :
    ∃ fields, event.encoding = .ok fields ∧ Stamped settings fields stamp record := by
  cases progress with
  | probing encoded stamped | appending encoded stamped | queued encoded stamped =>
    cases carries
    exact ⟨_, encoded, stamped⟩
  | finished => cases carries

theorem Progress.quiet (progress : Progress settings event stamp number steps stage)
    (unfinished : ∀ answer, stage ≠ .finished answer) :
    ∃ asked, footprint steps = .quiet asked := by
  cases progress with
  | probing _ _ _ done | appending _ _ _ done | queued _ _ _ done => exact ⟨_, done⟩
  | finished => exact absurd rfl (unfinished _)

/-- Every publish call that is over has exactly one outcome, with its answer and what its moves did.
Until then the call carries the stamped record of its event and leaves nothing behind but store
calls. Where time passes only when everybody waits, the schedule brings every call to its end. -/
theorem publish_has_one_outcome (trail : Trail settings steps m) {before : Machine}
    {scope : List String} (begun : (before, Move.publish scope event stamp) ∈ steps) :
    ∃ stage, m.calls[before.calls.length]? = some (.publish before.now scope stage) ∧
      (∀ record, (Call.publish before.now scope stage).record? = some record →
        ∃ fields, event.encoding = .ok fields ∧ Stamped settings fields stamp record) ∧
      (∀ answer, stage = .finished answer →
        ∃! outcome, Accounted settings event stamp before.calls.length
          (own before.calls.length steps) outcome answer) ∧
      ((∀ answer, stage ≠ .finished answer) →
        ∃ asked, footprint (own before.calls.length steps) = .quiet asked) ∧
      (Reachable settings m → ∀ limit,
        before.now + settings.probeTimeout + settings.writeTimeout +
          settings.maxPending * settings.writeTimeout < limit →
        ∃ answer, (m.runUntil limit fun _ => false).calls[before.calls.length]? =
          some (.publish before.now scope (.finished answer))) := by
  obtain ⟨stage, present, progress⟩ := trail.progress begun
  refine ⟨stage, present, fun record carries => progress.stamped carries, ?_, progress.quiet,
    fun reached limit enough => reached.publish_returns present enough⟩
  intro answer ended
  subst ended
  cases progress with
  | finished accounted => exact ⟨_, accounted, fun other again => accounted.unique again⟩

theorem publish_has_one_outcome_outage :
    ∃ m, Trail .standard (unsteady.path outage) m ∧
      ∃! outcome, Accounted .standard ⟨"first", .ok []⟩ 1 0 (own 0 (unsteady.path outage)) outcome
        (.ok ()) := by
  obtain ⟨m, made, finished⟩ : ∃ m, outage.foldlM act unsteady = some m ∧
      m.calls[0]? = some (.publish 0 [] (.finished (.ok ()))) := ⟨_, rfl, rfl⟩
  have trail := (Trail.start _ _ _).follow outage made
  have begun : (unsteady, Move.publish [] ⟨"first", .ok []⟩ 1) ∈ unsteady.path outage :=
    List.mem_cons_self
  obtain ⟨stage, present, _, ended, _⟩ := publish_has_one_outcome trail begun
  cases finished.symm.trans present
  exact ⟨m, trail, ended _ rfl⟩

end ChannelGate.Publisher
