import ChannelGate.Proofs.Policy.Directory
import Mathlib.Data.List.Induction

set_option autoImplicit false

namespace ChannelGate

/-- A call that may change a directory. -/
inductive Edit where
  | addThing (id : String) (credential : Credential)
  | grant (thing channel : String) (actions : List Action)

namespace Directory

def apply (directory : Directory) : Edit → Except PolicyError Directory
  | .addThing id credential => directory.addThing id credential
  | .grant thing channel actions => directory.grant thing channel actions

/-- The directory after a call. One that fails leaves it as it was. -/
def edited (directory : Directory) (edit : Edit) : Directory :=
  match directory.apply edit with
  | .ok after => after
  | .error _ => directory

def editedBy (directory : Directory) (edits : List Edit) : Directory :=
  edits.foldl edited directory

/-- One of these calls on a new directory is this one, and it succeeded. -/
def DoneBy (edits : List Edit) (edit : Edit) : Prop :=
  ∃ before later, edits = before ++ edit :: later ∧
    ∃ after, (empty.editedBy before).apply edit = .ok after

def AddedBy (edits : List Edit) (id : String) (credential : Credential) : Prop :=
  ∃ before later, edits = before ++ .addThing id credential :: later ∧
    ∃ after, (empty.editedBy before).addThing id credential = .ok after

variable {directory : Directory} {id : String} {credential : Credential} {edit : Edit}
  {edits : List Edit}

theorem editedBy_append_singleton (directory : Directory) (edits : List Edit) (edit : Edit) :
    directory.editedBy (edits ++ [edit]) = (directory.editedBy edits).edited edit := by
  rw [editedBy, List.foldl_append]
  rfl

theorem Sound.edited (sound : directory.Sound) (edit : Edit) : (directory.edited edit).Sound := by
  unfold Directory.edited
  split
  · rename_i after succeeded
    cases edit with
    | addThing id credential =>
      obtain ⟨admits, rfl⟩ := addThing_eq_ok_iff.mp succeeded
      exact sound.withThing admits
    | grant thing channel actions =>
      obtain ⟨⟨held, filled⟩, rfl⟩ := grant_eq_ok_iff.mp succeeded
      exact sound.withGrant held filled actions
  · exact sound

theorem sound_editedBy (edits : List Edit) : (empty.editedBy edits).Sound := by
  induction edits using List.reverseRecOn with
  | nil => exact Sound.empty
  | append_singleton edits edit ih =>
    rw [editedBy_append_singleton]
    exact ih.edited edit

/-- A call adds the thing that it names, or none. -/
theorem mem_things_edited :
    ⟨id, credential⟩ ∈ (directory.edited edit).things ↔ ⟨id, credential⟩ ∈ directory.things ∨
      (edit = .addThing id credential ∧
        ∃ after, directory.addThing id credential = .ok after) := by
  unfold edited
  split
  · rename_i after succeeded
    cases edit with
    | addThing newId newCredential =>
      obtain ⟨_, rfl⟩ := addThing_eq_ok_iff.mp succeeded
      rw [withThing, List.mem_append, List.mem_singleton]
      apply or_congr_right
      constructor
      · rintro ⟨rfl, rfl⟩
        exact ⟨rfl, _, succeeded⟩
      · rintro ⟨⟨rfl, rfl⟩, _⟩
        rfl
    | grant thing channel actions =>
      obtain ⟨_, rfl⟩ := grant_eq_ok_iff.mp succeeded
      exact ⟨.inl, fun either => either.resolve_right fun added => nomatch added.1⟩
  · rename_i error failed
    refine ⟨.inl, fun either => either.resolve_right ?_⟩
    rintro ⟨rfl, after, succeeded⟩
    exact nomatch succeeded.symm.trans failed

/-- The last call is done if it succeeds, and the calls before it stay done. -/
theorem doneBy_append_singleton {last : Edit} :
    DoneBy (edits ++ [last]) edit ↔ DoneBy edits edit ∨
      (last = edit ∧ ∃ after, (empty.editedBy edits).apply edit = .ok after) := by
  constructor
  · rintro ⟨before, later, whole, succeeded⟩
    rcases List.eq_nil_or_concat later with rfl | ⟨rest, behind, rfl⟩
    · obtain ⟨rfl, same⟩ := List.append_inj' whole rfl
      exact .inr ⟨List.singleton_inj.mp same, succeeded⟩
    · rw [List.concat_eq_append, ← List.cons_append, ← List.append_assoc] at whole
      obtain ⟨rfl, _⟩ := List.append_inj' whole rfl
      exact .inl ⟨before, rest, rfl, succeeded⟩
  · rintro (⟨before, later, rfl, succeeded⟩ | ⟨rfl, succeeded⟩)
    · refine ⟨before, later ++ [last], ?_, succeeded⟩
      rw [List.append_assoc, List.cons_append]
    · exact ⟨edits, [], rfl, succeeded⟩

theorem addedBy_append_singleton :
    AddedBy (edits ++ [edit]) id credential ↔ AddedBy edits id credential ∨
      (edit = .addThing id credential ∧
        ∃ after, (empty.editedBy edits).addThing id credential = .ok after) :=
  doneBy_append_singleton

/-- The things of a directory are those that were added. -/
theorem mem_things_editedBy :
    ⟨id, credential⟩ ∈ (empty.editedBy edits).things ↔ AddedBy edits id credential := by
  induction edits using List.reverseRecOn with
  | nil =>
    constructor
    · exact fun member => nomatch member
    · rintro ⟨before, later, whole, _⟩
      exact absurd whole.symm (by simp)
  | append_singleton edits edit ih =>
    rw [editedBy_append_singleton, mem_things_edited, ih, addedBy_append_singleton]

theorem identify_editedBy :
    (empty.editedBy edits).identify credential = .ok id ↔ AddedBy edits id credential :=
  (identify_eq_ok_iff (sound_editedBy edits)).trans mem_things_editedBy

theorem identify_editedBy_of_not (never : ∀ id, ¬ AddedBy edits id credential) :
    (empty.editedBy edits).identify credential = .error .notFound :=
  identify_eq_notFound fun id member => never id (mem_things_editedBy.mp member)

/-- A thing can be added unless its id or its secret is empty or was added before. -/
theorem admits_editedBy :
    (empty.editedBy edits).Admits id credential ↔ id ≠ "" ∧ credential.secret ≠ "" ∧
      (∀ other, ¬ AddedBy edits id other) ∧ ∀ other, ¬ AddedBy edits other credential := by
  constructor
  · rintro ⟨named, secured, newId, newSecret⟩
    refine ⟨named, secured, ?_, ?_⟩
    · intro other added
      exact newId (List.mem_map.mpr ⟨_, mem_things_editedBy.mpr added, rfl⟩)
    · intro other added
      exact newSecret (List.mem_map.mpr ⟨_, mem_things_editedBy.mpr added, rfl⟩)
  · rintro ⟨named, secured, newId, newSecret⟩
    refine ⟨named, secured, ?_, ?_⟩
    · intro held
      obtain ⟨⟨_, other⟩, member, rfl⟩ := List.mem_map.mp held
      exact newId other (mem_things_editedBy.mp member)
    · intro known
      obtain ⟨⟨other, _⟩, member, rfl⟩ := List.mem_map.mp known
      exact newSecret other (mem_things_editedBy.mp member)

/-- After any calls on a new directory its things have ids and secrets of their own, none of them
empty, and only things are granted anything, on channels with a name. A call that fails changes
nothing; a thing is added unless its id or secret is empty or taken. A secret names the thing that
was added with it, every other secret is not found, and no thing has two. So directories to which
the same things were added, in whatever order, identify alike. -/
theorem identity_is_unambiguous (edits : List Edit) :
    let directory := empty.editedBy edits
    directory.Sound ∧
    (∀ edit error, directory.apply edit = .error error → directory.edited edit = directory) ∧
    (∀ id credential, (∃ after, directory.addThing id credential = .ok after) ↔
      id ≠ "" ∧ credential.secret ≠ "" ∧ (∀ other, ¬ AddedBy edits id other) ∧
        ∀ other, ¬ AddedBy edits other credential) ∧
    (∀ id credential, directory.identify credential = .ok id ↔ AddedBy edits id credential) ∧
    (∀ credential, (∀ id, ¬ AddedBy edits id credential) →
      directory.identify credential = .error .notFound) ∧
    directory.identify ⟨""⟩ = .error .notFound ∧
    (∀ id credential other, directory.identify credential = .ok id →
      directory.identify other = .ok id → credential = other) ∧
    ∀ others, (∀ id credential, AddedBy edits id credential ↔ AddedBy others id credential) →
      ∀ credential, directory.identify credential =
        (empty.editedBy others).identify credential := by
  intro directory
  have sound : directory.Sound := sound_editedBy edits
  refine ⟨sound, ?_, ?_, fun _ _ => identify_editedBy, fun _ => identify_editedBy_of_not, rfl, ?_,
    ?_⟩
  · intro edit error failed
    rw [edited, failed]
  · intro id credential
    rw [← admits_editedBy]
    constructor
    · rintro ⟨after, succeeded⟩
      exact (addThing_eq_ok_iff.mp succeeded).1
    · exact fun admits => ⟨_, addThing_of_admits admits⟩
  · intro id credential other first second
    rw [identify_eq_ok_iff sound] at first second
    have same := List.inj_on_of_nodup_map sound.ids first second rfl
    exact congrArg Thing.credential same
  · intro others same credential
    by_cases added : ∃ id, AddedBy edits id credential
    · obtain ⟨id, added⟩ := added
      rw [identify_editedBy.mpr added, identify_editedBy.mpr ((same id credential).mp added)]
    · have never : ∀ id, ¬ AddedBy edits id credential := not_exists.mp added
      rw [identify_editedBy_of_not never,
        identify_editedBy_of_not fun id other => never id ((same id credential).mpr other)]

end Directory

end ChannelGate
