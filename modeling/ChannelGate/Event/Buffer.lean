import ChannelGate.Event.Field

set_option autoImplicit false

namespace ChannelGate

inductive PushOutcome where
  | queued
  | full
  | closed
  deriving DecidableEq

/-- Waiting records, the oldest first. -/
structure Buffer where
  records : List Record
  capacity : Nat
  closed : Bool
  deriving DecidableEq

namespace Buffer

def empty (capacity : Nat) : Buffer := ⟨[], capacity, false⟩

def size (buffer : Buffer) : Nat := buffer.records.length

/-- Offers a record for the back: a closed buffer and a full one refuse it. -/
def tryPush (buffer : Buffer) (record : Record) : PushOutcome × Buffer :=
  if buffer.closed then (.closed, buffer)
  else if buffer.capacity ≤ buffer.size then (.full, buffer)
  else (.queued, { buffer with records := buffer.records ++ [record] })

/-- Offering a record adds at most that record. -/
theorem length_tryPush_le (buffer : Buffer) (record : Record) :
    (buffer.tryPush record).2.records.length ≤ buffer.records.length + 1 := by
  unfold tryPush
  split
  · simp
  split <;> simp

/-- Puts a record back in front. -/
def pushFront (buffer : Buffer) (record : Record) : Buffer :=
  { buffer with records := record :: buffer.records }

def popFront (buffer : Buffer) : Option Record × Buffer :=
  match buffer.records with
  | [] => (none, buffer)
  | record :: rest => (some record, { buffer with records := rest })

def close (buffer : Buffer) : Buffer := { buffer with closed := true }

end Buffer

end ChannelGate
