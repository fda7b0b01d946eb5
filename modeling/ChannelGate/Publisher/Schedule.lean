import ChannelGate.Publisher.Work

set_option autoImplicit false

namespace ChannelGate.Publisher

def Call.answer? : Call → Option (Except EventError Unit)
  | .publish _ _ (.finished answer) => some answer
  | .close _ (.finished answer) => some answer
  | _ => none

def Call.isFinished : Call → Bool
  | .pending answer => answer.isSome
  | call => call.answer?.isSome

namespace Machine

def nextInstant (m : Machine) (limit : Nat) : Nat := m.timers.foldl min limit

/-- Instants of timers lie no later than the limit. -/
theorem foldl_min_le (timers : List Nat) (limit : Nat) : timers.foldl min limit ≤ limit := by
  induction timers generalizing limit with
  | nil => exact Nat.le_refl _
  | cons first rest ih => exact Nat.le_trans (ih _) (Nat.min_le_left _ _)

/-- Waiting takes the machine to the instant it waits for. -/
theorem now_of_wait (m after : Machine) (till : Nat) (h : m.fire (.wait till) = some after) :
    m.now < till ∧ after.now = till := by
  simp only [fire] at h
  split at h
  · next possible =>
    simp only [Option.some.injEq] at h
    exact ⟨possible.1, by rw [← h]⟩
  · simp at h

/-- Makes moves until the goal is met, or until nobody can go on at the instant `limit`. -/
def runUntil (limit : Nat) (done : Machine → Bool) (m : Machine) : Machine :=
  if done m then m
  else
    match _moved : m.step? with
    | some after => runUntil limit done after
    | none =>
      match _waited : m.fire (.wait (m.nextInstant limit)) with
      | some after => runUntil limit done after
      | none => m
termination_by (limit - m.now, m.overdue, m.work)
decreasing_by
  · have smaller := step_smaller m after _moved
    rw [smaller.now]
    rcases smaller.less with less | ⟨same, less⟩
    · exact Prod.Lex.right _ (Prod.Lex.left _ _ less)
    · rcases Nat.lt_or_eq_of_le same with fewer | equal
      · exact Prod.Lex.right _ (Prod.Lex.left _ _ fewer)
      · rw [equal]
        exact Prod.Lex.right _ (Prod.Lex.right _ less)
  · obtain ⟨before, now⟩ := now_of_wait m after _ _waited
    have bound : m.nextInstant limit ≤ limit := foldl_min_le m.timers limit
    exact Prod.Lex.left _ _ (by omega)

/-- Lets everybody go on at this instant until all wait. -/
def settle (m : Machine) : Machine := m.runUntil m.now fun _ => false

def advance (m : Machine) (duration : Nat) : Machine := m.runUntil (m.now + duration) fun _ => false

def longestReply (replies : List Reply) : Nat :=
  replies.foldl (fun longest reply => max longest (reply.delay.getD 0)) 0

/-- An instant by which calls that wait only for the store and the lock are finished: after all that
was started, two probes and two writes, a write for each record that a drain may hold the lock for,
and the closing of the store. -/
def horizon (m : Machine) : Nat :=
  m.timers.foldl max m.now + 2 * (m.settings.probeTimeout + m.settings.writeTimeout) +
    (m.buffer.size + m.calls.length + 2) * m.settings.writeTimeout + longestReply m.store.closes

def finishedFrom (first : Nat) (m : Machine) : Bool := (m.calls.drop first).all Call.isFinished

/-- Runs until the calls from `first` on are finished, and lets everybody else go on at that
instant. -/
def complete (m : Machine) (first : Nat) : Machine :=
  (m.runUntil m.horizon (finishedFrom first)).settle

/-- Makes the move of a user and lets everybody go on until all wait. -/
def begin (m : Machine) (move : Move) : Machine := ((m.fire move).getD m).settle

def answersFrom (m : Machine) (first : Nat) : List (Option (Except EventError Unit)) :=
  (m.calls.drop first).map Call.answer?

/-- Publishes events together: each call goes on until it waits before the next one begins. -/
def publishAll (m : Machine) (scope : List String) (events : List Event) (stamp : Int64) :
    List (Option (Except EventError Unit)) × Machine :=
  let first := m.calls.length
  let m := (events.foldl (fun m event => m.begin (.publish scope event stamp)) m).complete first
  (m.answersFrom first, m)

def publish (m : Machine) (scope : List String) (event : Event) (stamp : Int64) :
    Option (Except EventError Unit) × Machine :=
  let (answers, m) := m.publishAll scope [event] stamp
  (answers.head?.join, m)

def askPending (m : Machine) : Option Nat × Machine :=
  let number := m.calls.length
  let m := (m.begin .pending).complete number
  (match m.calls[number]? with
    | some (.pending answer) => answer
    | _ => none, m)

/-- Closes the publisher and waits for the answer of the store, which may never come. -/
def closeAll (m : Machine) (scope : List String) : Option (Except EventError Unit) × Machine :=
  let number := m.calls.length
  let m := (m.begin (.close scope)).complete number
  ((m.answersFrom number).head?.join, m)

def cancel (m : Machine) : Machine := m.begin .cancel

def restock (m : Machine) (store : Store) : Machine := m.begin (.restock store)

def buildOn (host : Host) (settings : Settings) (store : Store) : Except EventError Machine :=
  match h : settings.fault? with
  | some reason => .error (.settings reason)
  | none => .ok (Machine.initial settings h store host)

/-- Builds a publisher on a host that was just switched on. -/
def build (settings : Settings) (store : Store) : Except EventError Machine :=
  buildOn .fresh settings store

end Machine

end ChannelGate.Publisher
