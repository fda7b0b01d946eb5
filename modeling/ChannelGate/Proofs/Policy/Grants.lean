import ChannelGate.Proofs.Policy.Identity

set_option autoImplicit false

namespace ChannelGate

namespace Edit

/-- The call grants what the request asks for. -/
def Covers (edit : Edit) (request : Request) : Prop :=
  match edit with
  | .addThing _ _ => False
  | .grant thing channel actions =>
    request.subject = thing ∧ request.object = channel ∧ request.action ∈ actions

def IsGrant : Edit → Prop
  | .addThing _ _ => False
  | .grant _ _ _ => True

theorem Covers.isGrant {edit : Edit} {request : Request} (covers : edit.Covers request) :
    edit.IsGrant := by
  cases edit with
  | addThing id credential => exact covers
  | grant thing channel actions => trivial

end Edit

namespace Directory

variable {directory : Directory} {edit : Edit} {edits : List Edit} {request : Request}

def Accepts (directory : Directory) (edit : Edit) : Prop :=
  ∃ after, directory.apply edit = .ok after

theorem mem_granted_withGrant {thing channel : String} {actions : List Action} :
    request ∈ (directory.withGrant thing channel actions).granted ↔
      request ∈ directory.granted ∨ (Edit.grant thing channel actions).Covers request := by
  have listed : (request ∈ actions.map fun action => ⟨thing, channel, action⟩) ↔
      (Edit.grant thing channel actions).Covers request := by
    obtain ⟨subject, object, action⟩ := request
    simp only [List.mem_map, Request.mk.injEq, Edit.Covers]
    constructor
    · intro made
      obtain ⟨_, member, rfl, rfl, rfl⟩ := made
      exact ⟨rfl, rfl, member⟩
    · intro covered
      obtain ⟨rfl, rfl, member⟩ := covered
      exact ⟨action, member, rfl, rfl, rfl⟩
  rw [withGrant, List.mem_append, listed]

/-- A call grants what it covers, if it succeeds, and takes nothing back. -/
theorem mem_granted_edited :
    request ∈ (directory.edited edit).granted ↔
      request ∈ directory.granted ∨ (directory.Accepts edit ∧ edit.Covers request) := by
  unfold edited
  cases outcome : directory.apply edit with
  | error error =>
    have refused : ¬ directory.Accepts edit := by
      intro accepted
      obtain ⟨after, succeeded⟩ := accepted
      cases outcome.symm.trans succeeded
    simp only [refused, false_and, or_false]
  | ok after =>
    have accepted : directory.Accepts edit := ⟨after, outcome⟩
    simp only [accepted, true_and]
    cases edit with
    | addThing id credential =>
      obtain ⟨_, rfl⟩ := addThing_eq_ok_iff.mp outcome
      simp only [withThing, Edit.Covers, or_false]
    | grant thing channel actions =>
      obtain ⟨_, rfl⟩ := grant_eq_ok_iff.mp outcome
      exact mem_granted_withGrant

/-- What was granted is what calls covered that succeeded. -/
theorem mem_granted_editedBy :
    request ∈ (empty.editedBy edits).granted ↔ ∃ edit, DoneBy edits edit ∧ edit.Covers request := by
  induction edits using List.reverseRecOn with
  | nil =>
    have nothing : ∀ edit, ¬ DoneBy [] edit := by
      intro edit done
      obtain ⟨before, later, whole, _⟩ := done
      simp at whole
    simp only [nothing, false_and, exists_false, iff_false]
    exact List.not_mem_nil
  | append_singleton edits last ih =>
    rw [editedBy_append_singleton, mem_granted_edited, ih]
    simp only [doneBy_append_singleton, or_and_right, exists_or]
    apply or_congr_right
    constructor
    · intro now
      exact ⟨last, ⟨rfl, now.1⟩, now.2⟩
    · intro now
      obtain ⟨edit, ⟨rfl, accepted⟩, covers⟩ := now
      exact ⟨accepted, covers⟩

theorem allows_editedBy_iff :
    (empty.editedBy edits).allows request = true ↔
      ∃ actions, DoneBy edits (.grant request.subject request.object actions) ∧
        request.action ∈ actions := by
  rw [allows_iff, mem_granted_editedBy]
  constructor
  · intro granted
    obtain ⟨edit, done, covers⟩ := granted
    cases edit with
    | addThing id credential => exact covers.elim
    | grant thing channel actions =>
      obtain ⟨rfl, rfl, member⟩ := covers
      exact ⟨actions, done, member⟩
  · intro granted
    obtain ⟨actions, done, member⟩ := granted
    exact ⟨_, done, rfl, rfl, member⟩

theorem allows_edited_of_not_covers (other : ¬ edit.Covers request) :
    (directory.edited edit).allows request = directory.allows request := by
  rw [Bool.eq_iff_iff, allows_iff, allows_iff, mem_granted_edited]
  exact or_iff_left fun now => other now.2

theorem mem_granted_of_editedBy (edits : List Edit) (granted : request ∈ directory.granted) :
    request ∈ (directory.editedBy edits).granted := by
  induction edits using List.reverseRecOn with
  | nil => exact granted
  | append_singleton edits last ih =>
    rw [editedBy_append_singleton, mem_granted_edited]
    exact .inl ih

theorem things_edited_of_isGrant (grants : edit.IsGrant) :
    (directory.edited edit).things = directory.things := by
  unfold edited
  cases outcome : directory.apply edit with
  | error error => rfl
  | ok after =>
    cases edit with
    | addThing id credential => exact grants.elim
    | grant thing channel actions =>
      obtain ⟨_, rfl⟩ := grant_eq_ok_iff.mp outcome
      rfl

theorem accepts_grant_iff {thing channel : String} {actions : List Action} :
    directory.Accepts (.grant thing channel actions) ↔
      thing ∈ directory.things.map Thing.id ∧ channel ≠ "" := by
  constructor
  · intro accepted
    obtain ⟨after, succeeded⟩ := accepted
    exact (grant_eq_ok_iff.mp succeeded).1
  · intro free
    exact ⟨_, grant_eq_ok_iff.mpr ⟨free, rfl⟩⟩

/-- Whether a grant succeeds hangs on the things only. -/
theorem accepts_congr {other : Directory} (same : directory.things = other.things)
    (grants : edit.IsGrant) : directory.Accepts edit ↔ other.Accepts edit := by
  cases edit with
  | addThing id credential => exact grants.elim
  | grant thing channel actions => rw [accepts_grant_iff, accepts_grant_iff, same]

theorem things_editedBy_of_isGrant (grants : ∀ edit ∈ edits, edit.IsGrant) :
    (directory.editedBy edits).things = directory.things := by
  induction edits using List.reverseRecOn with
  | nil => rfl
  | append_singleton edits last ih =>
    rw [List.forall_mem_append, List.forall_mem_singleton] at grants
    rw [editedBy_append_singleton, things_edited_of_isGrant grants.2, ih grants.1]

/-- Grants in a row grant what one of them covers that succeeds by itself. -/
theorem mem_granted_editedBy_of_isGrant (grants : ∀ edit ∈ edits, edit.IsGrant) :
    request ∈ (directory.editedBy edits).granted ↔ request ∈ directory.granted ∨
      ∃ edit ∈ edits, directory.Accepts edit ∧ edit.Covers request := by
  induction edits using List.reverseRecOn with
  | nil => simp [editedBy]
  | append_singleton edits last ih =>
    rw [List.forall_mem_append, List.forall_mem_singleton] at grants
    have things : (directory.editedBy edits).things = directory.things :=
      things_editedBy_of_isGrant grants.1
    rw [editedBy_append_singleton, mem_granted_edited, ih grants.1, accepts_congr things grants.2]
    simp only [List.mem_append, List.mem_singleton, or_and_right, exists_or, exists_eq_left,
      or_assoc]

/-- A grant succeeds for a thing that was added, on a channel that has a name. -/
theorem accepts_grant_editedBy {thing channel : String} {actions : List Action} :
    (empty.editedBy edits).Accepts (.grant thing channel actions) ↔
      (∃ credential, AddedBy edits thing credential) ∧ channel ≠ "" := by
  have held : thing ∈ (empty.editedBy edits).things.map Thing.id ↔
      ∃ credential, AddedBy edits thing credential := by
    rw [List.mem_map]
    constructor
    · intro found
      obtain ⟨⟨_, credential⟩, member, rfl⟩ := found
      exact ⟨credential, mem_things_editedBy.mp member⟩
    · intro added
      obtain ⟨credential, added⟩ := added
      exact ⟨⟨thing, credential⟩, mem_things_editedBy.mpr added, rfl⟩
  rw [accepts_grant_iff, held]

/-- Calls of which the same grants succeeded lead to the same answers. -/
theorem allows_editedBy_congr {others : List Edit}
    (same : ∀ edit : Edit, edit.IsGrant → (DoneBy edits edit ↔ DoneBy others edit)) :
    (empty.editedBy edits).allows request = (empty.editedBy others).allows request := by
  rw [Bool.eq_iff_iff, allows_iff, allows_iff, mem_granted_editedBy, mem_granted_editedBy]
  apply exists_congr
  intro edit
  rw [and_congr_left_iff]
  exact fun covers => same edit covers.isGrant

/-- Neither the order of grants in a row counts nor how often they are made. -/
theorem allows_editedBy_of_mem_iff {grants grants' : List Edit}
    (only : ∀ edit ∈ grants, edit.IsGrant) (same : ∀ edit, edit ∈ grants ↔ edit ∈ grants') :
    (directory.editedBy grants).allows request = (directory.editedBy grants').allows request := by
  have only' : ∀ edit ∈ grants', edit.IsGrant := fun edit member =>
    only edit ((same edit).mpr member)
  rw [Bool.eq_iff_iff, allows_iff, allows_iff, mem_granted_editedBy_of_isGrant only,
    mem_granted_editedBy_of_isGrant only']
  simp only [same]

/-- What the answer to a request means. After any calls on a new directory every request is
answered, never with an error, and asking changes nothing; it is allowed exactly if a grant
succeeded that was for its subject, its channel and actions with its own among them. A grant
succeeds exactly if its thing was added before and its channel has a name. Calls take nothing back,
and a call that does not cover a request changes no answer to it. Directories on which the same
grants succeeded answer alike; and on one directory it does not count in which order grants are
made, or how often. -/
theorem grants_are_exact (edits : List Edit) :
    let directory := empty.editedBy edits
    (∀ request span trace, policy.authorize request span (directory, trace) =
      (.ok (directory.allows request), directory, trace)) ∧
    (∀ request, directory.allows request = true ↔
      ∃ actions, DoneBy edits (.grant request.subject request.object actions) ∧
        request.action ∈ actions) ∧
    (∀ thing channel actions, directory.Accepts (.grant thing channel actions) ↔
      (∃ credential, AddedBy edits thing credential) ∧ channel ≠ "") ∧
    (∀ more request, directory.allows request = true →
      (directory.editedBy more).allows request = true) ∧
    (∀ edit request, ¬ edit.Covers request →
      (directory.edited edit).allows request = directory.allows request) ∧
    (∀ others, (∀ edit : Edit, edit.IsGrant → (DoneBy edits edit ↔ DoneBy others edit)) →
      ∀ request, directory.allows request = (empty.editedBy others).allows request) ∧
    ∀ grants grants' : List Edit, (∀ edit ∈ grants, edit.IsGrant) →
      (∀ edit, edit ∈ grants ↔ edit ∈ grants') → ∀ request,
        (directory.editedBy grants).allows request =
          (directory.editedBy grants').allows request := by
  intro directory
  refine ⟨fun _ _ _ => rfl, fun _ => allows_editedBy_iff, fun _ _ _ => accepts_grant_editedBy,
    ?_, ?_, ?_, ?_⟩
  · intro more request allowed
    rw [allows_iff] at allowed ⊢
    exact mem_granted_of_editedBy more allowed
  · exact fun edit request other => allows_edited_of_not_covers other
  · exact fun others same request => allows_editedBy_congr same
  · exact fun grants grants' only same request => allows_editedBy_of_mem_iff only same

end Directory

end ChannelGate
