import ChannelGate.Event.Buffer
import Mathlib.Data.List.Induction

set_option autoImplicit false

namespace ChannelGate

inductive BufferCall where
  | tryPush (record : Record)
  | pushFront (record : Record)
  | popFront
  | close

namespace Buffer

def after (buffer : Buffer) : BufferCall → Buffer
  | .tryPush record => (buffer.tryPush record).2
  | .pushFront record => buffer.pushFront record
  | .popFront => buffer.popFront.2
  | .close => buffer.close

/-- A new buffer after these calls. -/
def afterAll (capacity : Nat) (calls : List BufferCall) : Buffer :=
  calls.foldl after (empty capacity)

/-- Every record that is put back was taken by the call before. -/
def PutsBack (capacity : Nat) (calls : List BufferCall) : Prop :=
  ∀ made record, made ++ [.pushFront record] <+: calls →
    ∃ before, made = before ++ [.popFront] ∧ (afterAll capacity before).popFront.1 = some record

section
variable (buffer : Buffer) (record : Record)

@[simp] theorem after_tryPush : buffer.after (.tryPush record) = (buffer.tryPush record).2 := rfl

@[simp] theorem after_pushFront : buffer.after (.pushFront record) = buffer.pushFront record := rfl

@[simp] theorem after_popFront : buffer.after .popFront = buffer.popFront.2 := rfl

@[simp] theorem after_close : buffer.after .close = buffer.close := rfl

@[simp] theorem size_pushFront : (buffer.pushFront record).size = buffer.size + 1 := rfl

@[simp] theorem size_close : buffer.close.size = buffer.size := rfl

theorem size_popFront_le : buffer.popFront.2.size ≤ buffer.size := by
  unfold popFront size
  cases records : buffer.records with
  | nil => simp [records]
  | cons record rest => simp

end

variable {buffer : Buffer} {record : Record} {capacity : Nat} {calls : List BufferCall}

theorem size_tryPush_le (fits : buffer.size ≤ buffer.capacity) :
    (buffer.tryPush record).2.size ≤ buffer.capacity := by
  unfold tryPush
  split
  · exact fits
  · split
    · exact fits
    · rename_i room
      simp only [size, List.length_append, List.length_singleton] at room ⊢
      omega

/-- A record that is put back where it was taken leaves the buffer as it was. -/
theorem pushFront_popFront (taken : buffer.popFront.1 = some record) :
    buffer.popFront.2.pushFront record = buffer := by
  obtain ⟨records, capacity, closed⟩ := buffer
  cases records with
  | nil => simp [popFront] at taken
  | cons first rest =>
    simp only [popFront, Option.some.injEq] at taken
    simp only [popFront, pushFront, taken]

theorem capacity_after (call : BufferCall) : (buffer.after call).capacity = buffer.capacity := by
  cases call with
  | tryPush record =>
    simp only [after_tryPush, tryPush]
    split
    · rfl
    · split <;> rfl
  | pushFront record => rfl
  | popFront =>
    simp only [after_popFront, popFront]
    split <;> rfl
  | close => rfl

/-- Only a record that is put back into a full buffer breaks the bound. -/
theorem size_after_le_iff (call : BufferCall) (fits : buffer.size ≤ buffer.capacity) :
    (buffer.after call).size ≤ buffer.capacity ↔
      ∀ record, call = .pushFront record → buffer.size < buffer.capacity := by
  cases call with
  | tryPush record =>
    have kept : (buffer.tryPush record).2.size ≤ buffer.capacity := size_tryPush_le fits
    simp [kept]
  | pushFront record =>
    simp only [after_pushFront, size_pushFront, BufferCall.pushFront.injEq, forall_eq']
    omega
  | popFront =>
    have kept := Nat.le_trans buffer.size_popFront_le fits
    simp [kept]
  | close => simp [fits]

theorem afterAll_append_singleton (call : BufferCall) :
    afterAll capacity (calls ++ [call]) = (afterAll capacity calls).after call := by
  simp only [afterAll, List.foldl_append, List.foldl_cons, List.foldl_nil]

@[simp] theorem capacity_afterAll : (afterAll capacity calls).capacity = capacity := by
  induction calls using List.reverseRecOn with
  | nil => rfl
  | append_singleton calls call ih => rw [afterAll_append_singleton, capacity_after, ih]

/-- What is put back as it was taken leaves the buffer as it was before both calls. -/
theorem afterAll_put_back (taken : (afterAll capacity calls).popFront.1 = some record) :
    afterAll capacity ((calls ++ [.popFront]) ++ [.pushFront record]) = afterAll capacity calls := by
  rw [afterAll_append_singleton, afterAll_append_singleton, after_popFront, after_pushFront,
    pushFront_popFront taken]

/-- One more call breaks the bound only by putting a record back where there is no room. -/
theorem size_afterAll_append_le_iff (call : BufferCall)
    (fits : (afterAll capacity calls).size ≤ capacity) :
    (afterAll capacity (calls ++ [call])).size ≤ capacity ↔
      ∀ record, call = .pushFront record → (afterAll capacity calls).size < capacity := by
  have within : (afterAll capacity calls).size ≤ (afterAll capacity calls).capacity := by
    rw [capacity_afterAll]
    exact fits
  have kept := size_after_le_iff call within
  rw [capacity_afterAll, ← afterAll_append_singleton] at kept
  exact kept

/-- As long as what is put back finds room, no call breaks the bound. -/
theorem size_afterAll_le
    (room : ∀ made record, made ++ [.pushFront record] <+: calls →
      (afterAll capacity made).size < capacity) : (afterAll capacity calls).size ≤ capacity := by
  induction calls using List.reverseRecOn with
  | nil => exact Nat.zero_le _
  | append_singleton calls call ih =>
    have fits : (afterAll capacity calls).size ≤ capacity := by
      apply ih
      intro made record inside
      exact room made record (inside.trans (List.prefix_append _ _))
    apply (size_afterAll_append_le_iff call fits).mpr
    intro record same
    subst same
    exact room calls record (List.prefix_refl _)

/-- Calls that put records back as they took them keep the bound. -/
theorem PutsBack.size_afterAll_le (putsBack : PutsBack capacity calls) :
    ∀ made, made <+: calls → (afterAll capacity made).size ≤ capacity := by
  induction calls using List.reverseRecOn with
  | nil =>
    intro made inside
    rw [List.prefix_nil.mp inside]
    exact Nat.zero_le _
  | append_singleton calls call ih =>
    have before := ih fun made record inside =>
      putsBack made record (inside.trans (List.prefix_append _ _))
    intro made inside
    rcases List.prefix_concat_iff.mp inside with rfl | earlier
    · cases call with
      | pushFront record =>
        -- The room is what the call before left behind: both together change nothing.
        obtain ⟨front, rfl, taken⟩ := putsBack calls record (List.prefix_refl _)
        rw [afterAll_put_back taken]
        exact before front (List.prefix_append _ _)
      | _ =>
        have fits := before calls (List.prefix_refl _)
        apply (size_afterAll_append_le_iff _ fits).mpr
        intro record other
        cases other
    · exact before made earlier

/-- A buffer that starts empty stays within its capacity for as long as every record that is put
back finds room, and no longer; and so it does for any calls of which each one that puts a record
back follows the one that took it. -/
theorem within_capacity_iff (capacity : Nat) (calls : List BufferCall) :
    ((∀ made, made <+: calls → (afterAll capacity made).size ≤ capacity) ↔
      ∀ made record, made ++ [.pushFront record] <+: calls →
        (afterAll capacity made).size < capacity) ∧
    (PutsBack capacity calls → ∀ made, made <+: calls →
      (afterAll capacity made).size ≤ capacity) := by
  refine ⟨⟨?_, ?_⟩, PutsBack.size_afterAll_le⟩
  · intro kept made record inside
    have size := kept _ inside
    rw [afterAll_append_singleton, after_pushFront, size_pushFront] at size
    exact size
  · intro room made inside
    apply size_afterAll_le
    intro others record within
    exact room others record (within.trans inside)

/-- A record that is put back in front of a full buffer is kept beyond its capacity. -/
theorem full_buffer_takes_one_back :
    let lamp : Record := ⟨"events", 10, [("lamp", .bool true)]⟩
    (afterAll 1 [.tryPush lamp]).size = 1 ∧
      (afterAll 1 [.tryPush lamp, .pushFront lamp]).size = 2 := by
  decide

end Buffer

end ChannelGate
