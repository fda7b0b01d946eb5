import ChannelGate.Proofs.Publisher.Turns
import ChannelGate.Publisher.Schedule

set_option autoImplicit false

namespace ChannelGate.Publisher

open Machine

variable {m after : Machine}

theorem go_eq_none {move : Move} (rest : m.step? = none) (candidate : move ∈ m.candidates) :
    m.go move = none :=
  List.findSome?_eq_none_iff.mp rest move candidate

theorem calls_at_rest (rest : m.step? = none) {number : Nat} (inside : number < m.calls.length) :
    m.go (.probed number) = none ∧ m.go (.appended number) = none ∧
      m.go (.closed number) = none := by
  have own : ∀ move ∈ [Move.probed number, .appended number, .joined number, .closed number],
      m.go move = none := by
    intro move mem
    refine go_eq_none rest (List.mem_append_left _ (List.mem_cons_of_mem _ ?_))
    exact List.mem_flatMap.mpr ⟨number, List.mem_range.mpr inside, mem⟩
  exact ⟨own _ (by simp), own _ (by simp), own _ (by simp)⟩

theorem loop_at_rest (rest : m.step? = none) :
    m.go .tick = none ∧ m.go .loopProbed = none ∧ m.go .loopAppended = none := by
  have own : ∀ move ∈ [Move.stop, .tick, .loopProbed, .loopAppended], m.go move = none := by
    intro move mem
    exact go_eq_none rest (List.mem_append_right _ mem)
  exact ⟨own _ (by simp), own _ (by simp), own _ (by simp)⟩

/-- Nobody wants a lock that is free. -/
theorem queue_of_rest (rest : m.step? = none) (free : m.isDraining = false) : m.queue = [] := by
  have stuck := go_eq_none rest (List.mem_append_left _ List.mem_cons_self)
  unfold go at stuck
  simp only [free, Bool.false_eq_true, ↓reduceIte] at stuck
  split at stuck
  · assumption
  · cases stuck
  · cases stuck

theorem go_grant_ne_none (free : m.isDraining = false) (wanted : m.queue ≠ []) :
    m.go .grant ≠ none := by
  intro stuck
  unfold go at stuck
  simp only [free, Bool.false_eq_true, ↓reduceIte] at stuck
  split at stuck
  · contradiction
  · cases stuck
  · cases stuck

/-- The instant at which a call wants to go on. -/
def Call.timer? : Call → Option Nat
  | .publish _ _ (.probing _ call) => some call.endsAt
  | .publish _ _ (.appending _ call) => some call.endsAt
  | .close _ (.closing endsAt _) => endsAt
  | _ => none

def Loop.timer? : Loop → Option Nat
  | .waiting due => some due
  | .probing _ call => some call.endsAt
  | .draining _ _ _ call => some call.endsAt
  | _ => none

theorem mem_timers {timer : Nat} :
    timer ∈ m.timers ↔
      (∃ number : Nat, ∃ call, m.calls[number]? = some call ∧ call.timer? = some timer) ∨
        m.loop.timer? = some timer := by
  have ofLoop : m.timers = m.calls.filterMap Call.timer? ++ m.loop.timer?.toList := by
    unfold timers Loop.timer?
    cases m.loop <;> rfl
  rw [ofLoop, List.mem_append, List.mem_filterMap, Option.mem_toList]
  apply or_congr_left
  constructor
  · rintro ⟨call, member, timed⟩
    obtain ⟨number, present⟩ := List.getElem?_of_mem member
    exact ⟨number, call, present, timed⟩
  · rintro ⟨number, call, present, timed⟩
    exact ⟨call, List.mem_of_getElem? present, timed⟩

/-- Who waits at rest waits for an instant that is still to come. -/
theorem callTimer_later (rest : m.step? = none) {number timer : Nat} {call : Call}
    (present : m.calls[number]? = some call) (timed : call.timer? = some timer) :
    m.now < timer := by
  obtain ⟨unprobed, unappended, unclosed⟩ :=
    calls_at_rest rest (List.getElem?_eq_some_iff.mp present).1
  apply Nat.lt_of_not_le
  intro come
  unfold Call.timer? at timed
  split at timed
  · cases timed
    unfold go at unprobed
    simp only [present, come, ↓reduceIte] at unprobed
    cases unprobed
  · cases timed
    unfold go at unappended
    simp only [present, come, ↓reduceIte] at unappended
    cases unappended
  · subst timed
    unfold go at unclosed
    simp only [present, come, ↓reduceIte] at unclosed
    cases unclosed
  · cases timed

theorem loopTimer_later (rest : m.step? = none) {timer : Nat}
    (timed : m.loop.timer? = some timer) : m.now < timer := by
  obtain ⟨unticked, unprobed, unappended⟩ := loop_at_rest rest
  apply Nat.lt_of_not_le
  intro come
  unfold Loop.timer? at timed
  split at timed
  · rename_i due loop
    cases timed
    unfold go at unticked
    simp only [loop, come, ↓reduceIte] at unticked
    cases unticked
  · rename_i due call loop
    cases timed
    unfold go at unprobed
    simp only [loop, come, ↓reduceIte] at unprobed
    cases unprobed
  · rename_i due record count call loop
    cases timed
    unfold go at unappended
    simp only [loop, come, ↓reduceIte] at unappended
    cases unappended
  · cases timed

theorem timer_later (rest : m.step? = none) {timer : Nat} (mem : timer ∈ m.timers) :
    m.now < timer := by
  rcases mem_timers.mp mem with ⟨number, call, present, timed⟩ | timed
  · exact callTimer_later rest present timed
  · exact loopTimer_later rest timed

theorem foldl_min_mem (timers : List Nat) (limit : Nat) :
    timers.foldl min limit = limit ∨ timers.foldl min limit ∈ timers := by
  induction timers generalizing limit with
  | nil => exact .inl rfl
  | cons first rest ih =>
    rw [List.foldl_cons]
    rcases ih (min limit first) with least | later
    · rcases Nat.le_total limit first with below | above
      · rw [Nat.min_eq_left below] at least ⊢
        exact .inl least
      · rw [Nat.min_eq_right above] at least ⊢
        rw [least]
        exact .inr List.mem_cons_self
    · exact .inr (List.mem_cons_of_mem _ later)

theorem foldl_min_le_of_mem {timers : List Nat} {timer : Nat} (mem : timer ∈ timers)
    (limit : Nat) : timers.foldl min limit ≤ timer := by
  induction timers generalizing limit with
  | nil => cases mem
  | cons first rest ih =>
    rw [List.foldl_cons]
    cases mem with
    | head =>
      have low := foldl_min_le rest (min limit timer)
      omega
    | tail _ later => exact ih later _

/-- At rest before the limit time can pass. -/
theorem fire_wait_ne_none (rest : m.step? = none) {limit : Nat} (before : m.now < limit) :
    m.fire (.wait (m.nextInstant limit)) ≠ none := by
  have ahead : m.now < m.nextInstant limit := by
    unfold nextInstant
    rcases foldl_min_mem m.timers limit with least | mem
    · rwa [least]
    · exact timer_later rest mem
  have within : m.timers.all (m.nextInstant limit ≤ ·) = true := by
    rw [List.all_eq_true]
    intro timer mem
    exact decide_eq_true (foldl_min_le_of_mem mem limit)
  simp [fire, ahead, rest, within]

theorem runUntil_of_step {limit : Nat} {done : Machine → Bool} (unmet : done m = false)
    (moved : m.step? = some after) : m.runUntil limit done = after.runUntil limit done := by
  rw [runUntil]
  simp only [unmet, Bool.false_eq_true, ↓reduceIte]
  split
  · rename_i next same
    cases moved.symm.trans same
    rfl
  · rename_i stuck
    cases moved.symm.trans stuck

theorem runUntil_of_wait {limit : Nat} {done : Machine → Bool} (unmet : done m = false)
    (rest : m.step? = none) (waited : m.fire (.wait (m.nextInstant limit)) = some after) :
    m.runUntil limit done = after.runUntil limit done := by
  rw [runUntil]
  simp only [unmet, Bool.false_eq_true, ↓reduceIte]
  split
  · rename_i next moved
    cases rest.symm.trans moved
  · split
    · rename_i next same
      cases waited.symm.trans same
      rfl
    · rename_i stuck
      cases waited.symm.trans stuck

theorem runUntil_of_done {limit : Nat} {done : Machine → Bool} (met : done m = true) :
    m.runUntil limit done = m := by
  rw [runUntil]
  simp only [met, ↓reduceIte]

theorem runUntil_of_stuck {limit : Nat} {done : Machine → Bool} (rest : m.step? = none)
    (stuck : m.fire (.wait (m.nextInstant limit)) = none) : m.runUntil limit done = m := by
  rw [runUntil]
  split
  · rfl
  · split
    · rename_i next moved
      cases rest.symm.trans moved
    · split
      · rename_i next waited
        cases stuck.symm.trans waited
      · rfl

/-- The schedule runs up to its limit. -/
theorem limit_le_now_runUntil (limit : Nat) (m : Machine) :
    limit ≤ (m.runUntil limit fun _ => false).now := by
  induction m using runUntil.induct limit (fun _ => false) with
  | case1 m finished => cases finished
  | case2 m unmet after moved ih => rwa [runUntil_of_step rfl moved]
  | case3 m unmet rest after waited ih => rwa [runUntil_of_wait rfl rest waited]
  | case4 m unmet rest stuck =>
    rw [runUntil_of_stuck rest stuck]
    apply Nat.le_of_not_lt
    intro before
    exact fire_wait_ne_none rest before stuck

theorem fire_of_go {move : Move} (made : m.go move = some after) : m.fire move = some after := by
  cases move with
  | publish | pending | close | cancel | restock | wait => cases made
  | _ => exact made

/-- What every move keeps holds after the schedule has run. -/
theorem runUntil_keeps {limit : Nat} {done : Machine → Bool} {property : Machine → Prop}
    (kept : ∀ {before after : Machine} {move : Move}, before.fire move = some after →
      property before → property after) (holds : property m) :
    property (m.runUntil limit done) := by
  induction m using runUntil.induct limit done with
  | case1 m met => rwa [runUntil_of_done met]
  | case2 m unmet after moved ih =>
    rw [runUntil_of_step (Bool.not_eq_true _ ▸ unmet) moved]
    obtain ⟨move, _, made⟩ := List.exists_of_findSome?_eq_some moved
    exact ih (kept (fire_of_go made) holds)
  | case3 m unmet rest after waited ih =>
    rw [runUntil_of_wait (Bool.not_eq_true _ ▸ unmet) rest waited]
    exact ih (kept waited holds)
  | case4 m unmet rest stuck => rwa [runUntil_of_stuck rest stuck]

theorem Machine.Reachable.runUntil {settings : Settings} (reached : Reachable settings m)
    (limit : Nat) (done : Machine → Bool) : Reachable settings (m.runUntil limit done) :=
  runUntil_keeps (fun fired reached => reached.move _ fired) reached

end ChannelGate.Publisher
