import ChannelGate.Event.Field
import Mathlib.Data.String.Basic

set_option autoImplicit false

namespace ChannelGate

def Fields.Ascending (fields : Fields) : Prop :=
  fields.Pairwise fun earlier later => earlier.1 < later.1

namespace Fields

theorem lookup_cons_of_ne {key other : String} (apart : other ≠ key) (value : FieldValue)
    (rest : Fields) : List.lookup other ((key, value) :: rest) = rest.lookup other := by
  rw [List.lookup_cons, beq_false_of_ne apart]

theorem lookup_insert_self (fields : Fields) (name : String) (value : FieldValue) :
    (fields.insert name value).lookup name = some value := by
  induction fields with
  | nil => exact List.lookup_cons_self
  | cons entry rest ih =>
    obtain ⟨first, kept⟩ := entry
    unfold insert
    split
    · exact List.lookup_cons_self
    · rename_i apart
      split
      · exact List.lookup_cons_self
      · rw [lookup_cons_of_ne apart, ih]

theorem lookup_insert_of_ne (fields : Fields) {name other : String} (apart : other ≠ name)
    (value : FieldValue) : (fields.insert name value).lookup other = fields.lookup other := by
  induction fields with
  | nil => exact lookup_cons_of_ne apart value []
  | cons entry rest ih =>
    obtain ⟨first, kept⟩ := entry
    unfold insert
    split
    · rename_i same
      subst same
      rw [lookup_cons_of_ne apart, lookup_cons_of_ne apart]
    · split
      · exact lookup_cons_of_ne apart value _
      · by_cases found : other = first
        · rw [found, List.lookup_cons_self, List.lookup_cons_self]
        · rw [lookup_cons_of_ne found, lookup_cons_of_ne found, ih]

theorem mem_insert {fields : Fields} {name : String} {value : FieldValue}
    {entry : String × FieldValue} (mem : entry ∈ fields.insert name value) :
    entry = (name, value) ∨ entry ∈ fields := by
  induction fields with
  | nil => exact .inl (List.mem_singleton.mp mem)
  | cons first rest ih =>
    obtain ⟨other, kept⟩ := first
    unfold insert at mem
    split at mem
    · rcases List.mem_cons.mp mem with new | later
      · exact .inl new
      · exact .inr (List.mem_cons_of_mem _ later)
    · split at mem
      · exact List.mem_cons.mp mem
      · rcases List.mem_cons.mp mem with head | later
        · exact .inr (head ▸ List.mem_cons_self)
        · exact (ih later).imp_right (List.mem_cons_of_mem _)

theorem Ascending.insert {fields : Fields} (ascending : fields.Ascending) (name : String)
    (value : FieldValue) : (fields.insert name value).Ascending := by
  induction fields with
  | nil => exact List.pairwise_singleton _ _
  | cons first rest ih =>
    obtain ⟨other, kept⟩ := first
    obtain ⟨above, later⟩ := List.pairwise_cons.mp ascending
    unfold Fields.insert
    split
    · rename_i same
      subst same
      exact List.pairwise_cons.mpr ⟨above, later⟩
    · rename_i apart
      split
      · rename_i below
        refine List.pairwise_cons.mpr ⟨?_, ascending⟩
        intro entry mem
        rcases List.mem_cons.mp mem with head | mem
        · exact head ▸ below
        · exact lt_trans below (above entry mem)
      · rename_i notBelow
        have beyond : other < name := lt_of_le_of_ne (not_lt.mp notBelow) (Ne.symm apart)
        refine List.pairwise_cons.mpr ⟨?_, ih later⟩
        intro entry mem
        rcases mem_insert mem with new | mem
        · exact new ▸ beyond
        · exact above entry mem

end Fields

end ChannelGate
