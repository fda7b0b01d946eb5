import ChannelGate.Event.Sink
import ChannelGate.Proofs.Publisher.Resting
import ChannelGate.Proofs.Tracing.Alike

set_option autoImplicit false

namespace ChannelGate.Publisher

def Call.unscoped : Call → Call
  | .publish began _ stage => .publish began [] stage
  | .pending answer => .pending answer
  | .close _ stage => .close [] stage

theorem Call.answer?_unscoped (call : Call) : call.unscoped.answer? = call.answer? := by
  cases call with
  | publish began scope stage => cases stage <;> rfl
  | pending answer => rfl
  | close scope stage => cases stage <;> rfl

theorem Call.isFinished_unscoped (call : Call) : call.unscoped.isFinished = call.isFinished := by
  cases call with
  | publish began scope stage => cases stage <;> rfl
  | pending answer => rfl
  | close scope stage => cases stage <;> rfl

/-- The calls differ in no more than the names of the spans around them. -/
inductive Call.Alike : Call → Call → Prop
  | publish (began : Nat) (scope scope' : List String) (stage : PublishStage) :
    Call.Alike (.publish began scope stage) (.publish began scope' stage)
  | pending (answer : Option Nat) : Call.Alike (.pending answer) (.pending answer)
  | close (scope scope' : List String) (stage : CloseStage) :
    Call.Alike (.close scope stage) (.close scope' stage)

theorem Call.alike_of_unscoped {call call' : Call} (same : call'.unscoped = call.unscoped) :
    call.Alike call' := by
  cases call <;> cases call' <;> cases same
  · exact .publish _ _ _ _
  · exact .pending _
  · exact .close _ _ _

namespace Machine

/-- The machines differ in no more than lines and names of spans. -/
def Alike (m m' : Machine) : Prop :=
  ∃ calls lines, m' = { m with calls := calls, lines := lines } ∧
    calls.map Call.unscoped = m.calls.map Call.unscoped

variable {m m' : Machine}

namespace Alike

theorem refl (m : Machine) : Alike m m := ⟨m.calls, m.lines, rfl, rfl⟩

theorem lines (alike : Alike m m') (own own' : List LogLine) :
    Alike { m with lines := own } { m' with lines := own' } := by
  obtain ⟨calls, lines, rfl, same⟩ := alike
  exact ⟨calls, own', rfl, same⟩

theorem log (alike : Alike m m') (level : Level) (message : String) (fields : Data)
    (scope scope' : List String) :
    Alike (m.log level message fields scope) (m'.log level message fields scope') :=
  alike.lines _ _

theorem setCall (alike : Alike m m') (number : Nat) {call call' : Call}
    (same : call'.unscoped = call.unscoped) :
    Alike (m.setCall number call) (m'.setCall number call') := by
  obtain ⟨calls, lines, rfl, before⟩ := alike
  refine ⟨calls.set number call', lines, rfl, ?_⟩
  change _ = (m.calls.set number call).map Call.unscoped
  rw [List.map_set, List.map_set, before, same]

theorem add (alike : Alike m m') {call call' : Call} (same : call'.unscoped = call.unscoped) :
    Alike { m with calls := m.calls ++ [call] } { m' with calls := m'.calls ++ [call'] } := by
  obtain ⟨calls, lines, rfl, before⟩ := alike
  refine ⟨calls ++ [call'], lines, rfl, ?_⟩
  change _ = (m.calls ++ [call]).map Call.unscoped
  rw [List.map_append, List.map_append, before, List.map_singleton, List.map_singleton, same]

/-- What can be told from unscoped calls is the same. -/
theorem told {β : Type} (alike : Alike m m') (tells : List Call → β)
    (unscoped : ∀ calls : List Call, tells (calls.map Call.unscoped) = tells calls) :
    tells m'.calls = tells m.calls := by
  obtain ⟨calls, lines, rfl, same⟩ := alike
  exact (unscoped calls).symm.trans ((congrArg tells same).trans (unscoped m.calls))

theorem length (alike : Alike m m') : m'.calls.length = m.calls.length :=
  alike.told List.length fun _ => List.length_map _

theorem call (alike : Alike m m') (number : Nat) :
    Option.Rel Call.Alike m.calls[number]? m'.calls[number]? := by
  obtain ⟨calls, lines, rfl, same⟩ := alike
  have there := congrArg (fun calls => calls[number]?) same
  simp only [List.getElem?_map] at there
  change Option.Rel Call.Alike _ calls[number]?
  generalize calls[number]? = theirs, m.calls[number]? = mine at there ⊢
  cases mine with
  | none =>
    rw [Option.map_none, Option.map_eq_none_iff] at there
    rw [there]
    exact .none
  | some call =>
    rw [Option.map_some, Option.map_eq_some_iff] at there
    obtain ⟨call', rfl, same⟩ := there
    exact .some (Call.alike_of_unscoped same)

theorem now (alike : Alike m m') : m'.now = m.now := by
  obtain ⟨calls, lines, rfl, same⟩ := alike
  rfl

theorem buffer (alike : Alike m m') : m'.buffer = m.buffer := by
  obtain ⟨calls, lines, rfl, same⟩ := alike
  rfl

theorem loop (alike : Alike m m') : m'.loop = m.loop := by
  obtain ⟨calls, lines, rfl, same⟩ := alike
  rfl

theorem queue (alike : Alike m m') : m'.queue = m.queue := by
  obtain ⟨calls, lines, rfl, same⟩ := alike
  rfl

theorem settings (alike : Alike m m') : m'.settings = m.settings := by
  obtain ⟨calls, lines, rfl, same⟩ := alike
  rfl

theorem ping (alike : Alike m m') (party : Party) :
    (m'.ping party).1 = (m.ping party).1 ∧ Alike (m.ping party).2 (m'.ping party).2 := by
  obtain ⟨calls, lines, rfl, same⟩ := alike
  exact ⟨rfl, calls, lines, rfl, same⟩

theorem append (alike : Alike m m') (party : Party) :
    (m'.append party).1 = (m.append party).1 ∧ Alike (m.append party).2 (m'.append party).2 := by
  obtain ⟨calls, lines, rfl, same⟩ := alike
  exact ⟨rfl, calls, lines, rfl, same⟩

theorem closeStore (alike : Alike m m') (party : Party) :
    (m'.closeStore party).1 = (m.closeStore party).1 ∧
      Alike (m.closeStore party).2 (m'.closeStore party).2 := by
  obtain ⟨calls, lines, rfl, same⟩ := alike
  exact ⟨rfl, calls, lines, rfl, same⟩

theorem beginPublish (alike : Alike m m') (scope scope' : List String) (event : Event)
    (stamp : Int64) :
    Alike (m.beginPublish scope event stamp) (m'.beginPublish scope' event stamp) := by
  have now := alike.now
  have number := alike.length
  unfold Machine.beginPublish
  cases event.encoding with
  | error e =>
    apply alike.add
    rw [now]
    rfl
  | ok fields =>
    obtain ⟨awaited, started⟩ := alike.ping (.call m.calls.length)
    have record : m'.recordOf fields stamp = m.recordOf fields stamp := by
      unfold recordOf
      rw [alike.settings]
    dsimp only
    rw [number, awaited, record]
    apply started.add
    rw [started.now]
    rfl

theorem beginClose (alike : Alike m m') (scope scope' : List String) :
    Alike (m.beginClose scope) (m'.beginClose scope') := by
  have number := alike.length
  obtain ⟨calls, lines, rfl, same⟩ := alike
  change calls.length = m.calls.length at number
  unfold Machine.beginClose
  by_cases waits : m.awaited = true
  · rw [if_pos waits, if_pos waits]
    have told : Alike { m with cancelled := true }
        { m with calls := calls, lines := lines, cancelled := true } := ⟨calls, lines, rfl, same⟩
    obtain ⟨stage, started⟩ := told.closeStore (.call m.calls.length)
    dsimp only
    rw [number, stage]
    exact started.add rfl
  · rw [if_neg waits, if_neg waits]
    have held : Alike { m with cancelled := true, awaited := true }
        { m with calls := calls, lines := lines, cancelled := true, awaited := true } :=
      ⟨calls, lines, rfl, same⟩
    exact held.add rfl

theorem afterJoin (alike : Alike m m') (number : Nat) (scope scope' : List String) :
    Alike (m.afterJoin number scope) (m'.afterJoin number scope') := by
  obtain ⟨stage, started⟩ := alike.closeStore (.call number)
  unfold Machine.afterJoin
  dsimp only
  rw [stage]
  exact started.setCall number rfl

theorem reportBreakdown (alike : Alike m m') (scope scope' : List String) :
    Alike (m.reportBreakdown scope) (m'.reportBreakdown scope') := by
  have host : m'.host = m.host := by
    obtain ⟨calls, lines, rfl, same⟩ := alike
    rfl
  unfold Machine.reportBreakdown
  rw [host]
  exact alike.log _ _ _ scope scope'

theorem askToBuffer (alike : Alike m m') (number began : Nat) (scope scope' : List String)
    (record : Record) :
    Alike (m.askToBuffer number began scope record)
      (m'.askToBuffer number began scope' record) := by
  have placed := alike.setCall number
    (show Call.unscoped (.publish began scope' (.queued record)) =
      Call.unscoped (.publish began scope (.queued record)) from rfl)
  obtain ⟨calls, lines, whole, same⟩ := placed
  unfold Machine.askToBuffer
  rw [whole]
  exact ⟨calls, lines, rfl, same⟩

theorem afterProbe (alike : Alike m m') (number began : Nat) (scope scope' : List String)
    (record : Record) (result : Except EventError Unit) :
    Alike (m.afterProbe number began scope record result)
      (m'.afterProbe number began scope' record result) := by
  unfold Machine.afterProbe
  cases result with
  | ok accepted =>
    obtain ⟨awaited, started⟩ := alike.append (.call number)
    dsimp only
    rw [awaited]
    exact started.setCall number rfl
  | error error => exact (alike.log _ _ _ scope scope').askToBuffer number began scope scope' record

theorem afterAppend (alike : Alike m m') (number began : Nat) (scope scope' : List String)
    (record : Record) (result : Except EventError Unit) :
    Alike (m.afterAppend number began scope record result)
      (m'.afterAppend number began scope' record result) := by
  unfold Machine.afterAppend
  split
  · obtain ⟨calls, lines, rfl, same⟩ := alike
    have stored : Alike
        { m with
          stored := m.stored ++ [⟨record, .call number, m.now⟩]
          metrics := m.metrics.increase 1 .published }
        { m with
          calls := calls
          lines := lines
          stored := m.stored ++ [⟨record, .call number, m.now⟩]
          metrics := m.metrics.increase 1 .published } := ⟨calls, lines, rfl, same⟩
    exact stored.setCall number rfl
  · exact (alike.log _ _ _ scope scope').askToBuffer number began scope scope' record
  · exact alike.setCall number rfl

theorem offer (alike : Alike m m') (scope scope' : List String) (record : Record) :
    Alike (m.offer scope record) (m'.offer scope' record) := by
  obtain ⟨calls, lines, rfl, same⟩ := alike
  unfold Machine.offer
  dsimp only
  split
  all_goals
    refine log ?_ _ _ _ scope scope'
    exact ⟨calls, lines, rfl, same⟩

theorem serveCall (alike : Alike m m') (number : Nat) :
    Alike (m.serveCall number) (m'.serveCall number) := by
  unfold Machine.serveCall
  have both := alike.call number
  generalize m.calls[number]? = mine, m'.calls[number]? = theirs at both ⊢
  cases both with
  | none => exact alike
  | some same =>
    cases same with
    | publish began scope scope' stage =>
      cases stage with
      | queued record => exact (alike.offer scope scope' record).setCall number rfl
      | _ => exact alike
    | pending answer =>
      cases answer with
      | none =>
        dsimp only
        rw [alike.buffer]
        exact alike.setCall number rfl
      | some size => exact alike
    | close scope scope' stage => exact alike

theorem finishDrain (alike : Alike m m') (due count : Nat) :
    Alike (m.finishDrain due count) (m'.finishDrain due count) := by
  obtain ⟨calls, lines, rfl, same⟩ := alike
  unfold Machine.finishDrain
  dsimp only
  split
  · refine log ?_ _ _ _ _ _
    exact ⟨calls, lines, rfl, same⟩
  · exact ⟨calls, lines, rfl, same⟩

theorem drainNext (alike : Alike m m') (due count : Nat) :
    Alike (m.drainNext due count) (m'.drainNext due count) := by
  unfold Machine.drainNext
  rw [alike.buffer]
  split
  · exact alike.finishDrain due count
  · obtain ⟨calls, lines, rfl, same⟩ := alike
    exact ⟨calls, lines, rfl, same⟩

theorem serveLoop (alike : Alike m m') : Alike m.serveLoop m'.serveLoop := by
  unfold Machine.serveLoop
  rw [alike.loop]
  split
  · rw [alike.buffer]
    split
    · obtain ⟨calls, lines, rfl, same⟩ := alike
      exact ⟨calls, lines, rfl, same⟩
    · obtain ⟨calls, lines, rfl, same⟩ := alike
      exact ⟨calls, lines, rfl, same⟩
  · exact alike.drainNext _ 0
  · obtain ⟨calls, lines, rfl, same⟩ := alike
    refine log ?_ _ _ _ _ _
    exact ⟨calls, lines, rfl, same⟩
  · exact alike

theorem afterLoopProbe (alike : Alike m m') (due : Nat) (result : Except EventError Unit) :
    Alike (m.afterLoopProbe due result) (m'.afterLoopProbe due result) := by
  obtain ⟨calls, lines, rfl, same⟩ := alike
  unfold Machine.afterLoopProbe
  cases result with
  | ok accepted => exact ⟨calls, lines, rfl, same⟩
  | error error =>
    refine log ?_ _ _ _ _ _
    exact ⟨calls, lines, rfl, same⟩

theorem afterLoopAppend (alike : Alike m m') (due : Nat) (record : Record) (count : Nat)
    (result : Except EventError Unit) :
    Alike (m.afterLoopAppend due record count result)
      (m'.afterLoopAppend due record count result) := by
  obtain ⟨calls, lines, rfl, same⟩ := alike
  unfold Machine.afterLoopAppend
  cases result with
  | ok accepted =>
    refine drainNext ?_ due (count + 1)
    exact ⟨calls, lines, rfl, same⟩
  | error error =>
    refine finishDrain (log ?_ _ _ _ _ _) due count
    exact ⟨calls, lines, rfl, same⟩

theorem requeue (alike : Alike m m') (queue : List Party) :
    Alike { m with queue := queue } { m' with queue := queue } := by
  obtain ⟨calls, lines, rfl, same⟩ := alike
  exact ⟨calls, lines, rfl, same⟩

theorem grant (alike : Alike m m') : Option.Rel Alike (m.go .grant) (m'.go .grant) := by
  have free : m'.isDraining = m.isDraining := by rw [isDraining, isDraining, alike.loop]
  unfold Machine.go
  simp only [free, alike.queue]
  split
  · exact .none
  split
  · exact .none
  · exact .some ((alike.requeue _).serveCall _)
  · exact .some (alike.requeue _).serveLoop

theorem probed (alike : Alike m m') (number : Nat) :
    Option.Rel Alike (m.go (.probed number)) (m'.go (.probed number)) := by
  unfold Machine.go
  dsimp only
  have both := alike.call number
  generalize m.calls[number]? = mine, m'.calls[number]? = theirs at both ⊢
  obtain same | _ := both
  · obtain ⟨began, scope, scope', stage⟩ | _ | _ := same
    · cases stage with
      | probing record call =>
        dsimp only
        rw [alike.now, alike.settings]
        split
        · exact .some (alike.afterProbe _ _ _ _ _ _)
        · exact .none
      | _ => exact .none
    · exact .none
    · exact .none
  · exact .none

theorem appended (alike : Alike m m') (number : Nat) :
    Option.Rel Alike (m.go (.appended number)) (m'.go (.appended number)) := by
  unfold Machine.go
  dsimp only
  have both := alike.call number
  generalize m.calls[number]? = mine, m'.calls[number]? = theirs at both ⊢
  obtain same | _ := both
  · obtain ⟨began, scope, scope', stage⟩ | _ | _ := same
    · cases stage with
      | appending record call =>
        dsimp only
        rw [alike.now, alike.settings]
        split
        · exact .some (alike.afterAppend _ _ _ _ _ _)
        · exact .none
      | _ => exact .none
    · exact .none
    · exact .none
  · exact .none

theorem joined (alike : Alike m m') (number : Nat) :
    Option.Rel Alike (m.go (.joined number)) (m'.go (.joined number)) := by
  unfold Machine.go
  simp only [alike.loop]
  have both := alike.call number
  generalize m.calls[number]? = mine, m'.calls[number]? = theirs at both ⊢
  obtain same | _ := both
  · obtain _ | _ | ⟨scope, scope', stage⟩ := same
    · exact .none
    · exact .none
    · cases stage with
      | joining =>
        cases m.loop with
        | stopped => exact .some (alike.afterJoin number scope scope')
        | broken => exact .some ((alike.reportBreakdown scope scope').afterJoin number scope scope')
        | _ => exact .none
      | _ => exact .none
  · exact .none

theorem closed (alike : Alike m m') (number : Nat) :
    Option.Rel Alike (m.go (.closed number)) (m'.go (.closed number)) := by
  unfold Machine.go
  simp only [alike.now]
  have both := alike.call number
  generalize m.calls[number]? = mine, m'.calls[number]? = theirs at both ⊢
  obtain same | _ := both
  · obtain _ | _ | ⟨scope, scope', stage⟩ := same
    · exact .none
    · exact .none
    · rcases stage with _ | ⟨_ | endsAt, answer⟩ | _
      · exact .none
      · exact .none
      · dsimp only
        split
        · exact .some (alike.setCall number rfl)
        · exact .none
      · exact .none
  · exact .none

theorem stop (alike : Alike m m') : Option.Rel Alike (m.go .stop) (m'.go .stop) := by
  obtain ⟨calls, lines, rfl, same⟩ := alike
  unfold Machine.go
  dsimp only
  split
  · split
    · exact .some ⟨calls, lines, rfl, same⟩
    · exact .none
  · exact .none

theorem tick (alike : Alike m m') : Option.Rel Alike (m.go .tick) (m'.go .tick) := by
  obtain ⟨calls, lines, rfl, same⟩ := alike
  unfold Machine.go
  dsimp only
  split
  · split
    · exact .some ⟨calls, lines, rfl, same⟩
    · exact .none
  · exact .none

theorem loopProbed (alike : Alike m m') :
    Option.Rel Alike (m.go .loopProbed) (m'.go .loopProbed) := by
  unfold Machine.go
  simp only [alike.loop, alike.now, alike.settings]
  split
  · split
    · exact .some (alike.afterLoopProbe _ _)
    · exact .none
  · exact .none

theorem loopAppended (alike : Alike m m') :
    Option.Rel Alike (m.go .loopAppended) (m'.go .loopAppended) := by
  unfold Machine.go
  simp only [alike.loop, alike.now, alike.settings]
  split
  · split
    · exact .some (alike.afterLoopAppend _ _ _ _)
    · exact .none
  · exact .none

/-- Both machines can make the move and stay alike, or neither can. -/
theorem go (alike : Alike m m') (move : Move) : Option.Rel Alike (m.go move) (m'.go move) := by
  cases move with
  | grant => exact alike.grant
  | probed number => exact alike.probed number
  | appended number => exact alike.appended number
  | joined number => exact alike.joined number
  | closed number => exact alike.closed number
  | stop => exact alike.stop
  | tick => exact alike.tick
  | loopProbed => exact alike.loopProbed
  | loopAppended => exact alike.loopAppended
  | _ => exact .none

theorem findSome? (alike : Alike m m') (moves : List Move) :
    Option.Rel Alike (moves.findSome? m.go) (moves.findSome? m'.go) := by
  induction moves with
  | nil => exact .none
  | cons move rest ih =>
    rw [List.findSome?_cons, List.findSome?_cons]
    have both := alike.go move
    generalize m.go move = after, m'.go move = after' at both
    cases both with
    | none => exact ih
    | some next => exact .some next

theorem step? (alike : Alike m m') : Option.Rel Alike m.step? m'.step? := by
  have candidates : m'.candidates = m.candidates := by
    rw [Machine.candidates, Machine.candidates, alike.length]
  rw [Machine.step?, Machine.step?, candidates]
  exact alike.findSome? m.candidates

theorem timers (alike : Alike m m') : m'.timers = m.timers := by
  unfold Machine.timers
  rw [alike.loop]
  congr 1
  apply alike.told
  intro calls
  rw [List.filterMap_map]
  apply List.filterMap_congr
  intro call _
  cases call with
  | publish began scope stage => cases stage <;> rfl
  | pending answer => rfl
  | close scope stage => cases stage <;> rfl

/-- A party can go on in both machines or in neither. -/
theorem still (alike : Alike m m') : m'.step? = none ↔ m.step? = none := by
  have both := alike.step?
  generalize m.step? = after, m'.step? = after' at both
  cases both <;> simp

theorem wait (alike : Alike m m') (limit : Nat) :
    Option.Rel Alike (m.fire (.wait (m.nextInstant limit)))
      (m'.fire (.wait (m'.nextInstant limit))) := by
  have still : m'.step?.isNone = m.step?.isNone := by
    rw [Bool.eq_iff_iff, Option.isNone_iff_eq_none, Option.isNone_iff_eq_none, alike.still]
  have instant : m'.nextInstant limit = m.nextInstant limit := by
    rw [nextInstant, nextInstant, alike.timers]
  rw [instant]
  simp only [Machine.fire, still, alike.now, alike.timers]
  split
  · obtain ⟨calls, lines, rfl, same⟩ := alike
    exact .some ⟨calls, lines, rfl, same⟩
  · exact .none

/-- Machines that are alike make the same moves, so they end alike. -/
theorem runUntil (alike : Alike m m') (limit : Nat) (done : Machine → Bool)
    (blind : ∀ {m m' : Machine}, Alike m m' → done m' = done m) :
    Alike (m.runUntil limit done) (m'.runUntil limit done) := by
  induction m using Machine.runUntil.induct limit done generalizing m' with
  | case1 m met => rwa [runUntil_of_done met, runUntil_of_done ((blind alike).trans met)]
  | case2 m going after moved ih =>
    have unmet : done m = false := Bool.not_eq_true _ ▸ going
    have both := alike.step?
    rw [moved] at both
    generalize moved' : m'.step? = after' at both
    obtain along | _ := both
    rw [runUntil_of_step unmet moved, runUntil_of_step ((blind alike).trans unmet) moved']
    exact ih along
  | case3 m going rest after waited ih =>
    have unmet : done m = false := Bool.not_eq_true _ ▸ going
    have both := alike.wait limit
    rw [waited] at both
    generalize waited' : m'.fire (.wait (m'.nextInstant limit)) = after' at both
    obtain along | _ := both
    rw [runUntil_of_wait unmet rest waited,
      runUntil_of_wait ((blind alike).trans unmet) (alike.still.mpr rest) waited']
    exact ih along
  | case4 m going rest stuck =>
    have both := alike.wait limit
    rw [stuck] at both
    generalize stuck' : m'.fire (.wait (m'.nextInstant limit)) = after' at both
    cases both
    rwa [runUntil_of_stuck rest stuck, runUntil_of_stuck (alike.still.mpr rest) stuck']

theorem settle (alike : Alike m m') : Alike m.settle m'.settle := by
  rw [Machine.settle, Machine.settle, alike.now]
  exact alike.runUntil m.now _ fun _ => rfl

theorem finishedFrom (alike : Alike m m') (first : Nat) :
    m'.finishedFrom first = m.finishedFrom first := by
  apply alike.told fun calls => (calls.drop first).all Call.isFinished
  intro calls
  rw [← List.map_drop, List.all_map]
  exact congrArg _ (funext Call.isFinished_unscoped)

theorem answersFrom (alike : Alike m m') (first : Nat) :
    m'.answersFrom first = m.answersFrom first := by
  apply alike.told fun calls => (calls.drop first).map Call.answer?
  intro calls
  rw [← List.map_drop, List.map_map]
  exact congrArg (List.map · _) (funext Call.answer?_unscoped)

theorem horizon (alike : Alike m m') : m'.horizon = m.horizon := by
  have timers := alike.timers
  have length := alike.length
  obtain ⟨calls, lines, rfl, same⟩ := alike
  unfold Machine.horizon
  rw [timers, length]

theorem complete (alike : Alike m m') (first : Nat) :
    Alike (m.complete first) (m'.complete first) := by
  rw [Machine.complete, Machine.complete, alike.horizon]
  exact (alike.runUntil m.horizon _ fun alike => alike.finishedFrom first).settle

theorem publish (alike : Alike m m') (scope scope' : List String) (event : Event)
    (stamp : Int64) :
    (m'.publish scope' event stamp).1 = (m.publish scope event stamp).1 ∧
      Alike (m.publish scope event stamp).2 (m'.publish scope' event stamp).2 := by
  have done := ((alike.beginPublish scope scope' event stamp).settle).complete m.calls.length
  have answers := done.answersFrom m.calls.length
  simp only [Machine.publish, publishAll, List.foldl, alike.length]
  exact ⟨congrArg (fun answers => answers.head?.join) answers, done⟩

theorem closeAll (alike : Alike m m') (scope scope' : List String) :
    (m'.closeAll scope').1 = (m.closeAll scope).1 ∧
      Alike (m.closeAll scope).2 (m'.closeAll scope').2 := by
  have done := (alike.beginClose scope scope').settle.complete m.calls.length
  have answers := done.answersFrom m.calls.length
  simp only [Machine.closeAll, alike.length]
  exact ⟨congrArg (fun answers => answers.head?.join) answers, done⟩

end Alike

end Machine

/-- Publishing an event has nothing to do with spans: the machine remembers their names for its
lines alone. -/
theorem untraced_resilient (stamp : Int64) (event : Event) :
    (resilient stamp event).Untraced Machine.Alike where
  heedless := by
    constructor
    intro span span' before before' _ together
    obtain ⟨answer, along⟩ := Machine.Alike.publish together ((span.map SpanRef.path).getD [])
      ((span'.map SpanRef.path).getD []) event stamp
    exact ⟨congrArg settled answer.symm, along.lines [] []⟩
  spanless _ _ := ⟨rfl, rfl⟩

/-- Closing the publisher has nothing to do with spans, either. -/
theorem untraced_close : close.Untraced Machine.Alike where
  heedless := by
    constructor
    intro span span' before before' _ together
    obtain ⟨answer, along⟩ := Machine.Alike.closeAll together ((span.map SpanRef.path).getD [])
      ((span'.map SpanRef.path).getD [])
    exact ⟨congrArg settled answer.symm, along.lines [] []⟩
  spanless _ _ := ⟨rfl, rfl⟩

end ChannelGate.Publisher
