import ChannelGate.Policy.Directory
import Mathlib.Data.List.Nodup

set_option autoImplicit false

namespace ChannelGate.Directory

variable {directory after : Directory} {found : Thing} {id thing channel : String}
  {credential : Credential} {actions : List Action}

theorem isEmpty_iff : credential.isEmpty = true ↔ credential.secret = "" := by
  rw [Credential.isEmpty, decide_eq_true_eq]

theorem holds_iff : directory.holds id = true ↔ id ∈ directory.things.map Thing.id := by
  rw [holds, List.any_eq_true, List.mem_map]
  exact exists_congr fun _ => and_congr_right fun _ => decide_eq_true_iff

theorem knows_iff :
    directory.knows credential = true ↔ credential ∈ directory.things.map Thing.credential := by
  rw [knows, List.any_eq_true, List.mem_map]
  exact exists_congr fun _ => and_congr_right fun _ => decide_eq_true_iff

def withThing (directory : Directory) (id : String) (credential : Credential) : Directory :=
  { directory with things := directory.things ++ [⟨id, credential⟩] }

def withGrant (directory : Directory) (thing channel : String) (actions : List Action) :
    Directory :=
  { directory with
    granted := directory.granted ++ actions.map fun action => ⟨thing, channel, action⟩ }

/-- A thing that may be added. -/
structure Admits (directory : Directory) (id : String) (credential : Credential) : Prop where
  named : id ≠ ""
  secured : credential.secret ≠ ""
  newId : id ∉ directory.things.map Thing.id
  newSecret : credential ∉ directory.things.map Thing.credential

theorem addThing_of_admits (admits : directory.Admits id credential) :
    directory.addThing id credential = .ok (directory.withThing id credential) := by
  unfold addThing
  rw [if_neg, if_neg, if_neg]
  · rfl
  · exact fun known => admits.newSecret (knows_iff.mp known)
  · exact fun held => admits.newId (holds_iff.mp held)
  · rintro (blank | blank)
    · exact admits.named blank
    · exact admits.secured (isEmpty_iff.mp blank)

theorem addThing_eq_ok_iff :
    directory.addThing id credential = .ok after ↔
      directory.Admits id credential ∧ after = directory.withThing id credential := by
  constructor
  · intro added
    have admits : directory.Admits id credential := by
      unfold addThing at added
      split at added
      · cases added
      rename_i filled
      split at added
      · cases added
      rename_i unheld
      split at added
      · cases added
      rename_i unknown
      exact ⟨fun blank => filled (.inl blank), fun blank => filled (.inr (isEmpty_iff.mpr blank)),
        fun held => unheld (holds_iff.mpr held), fun known => unknown (knows_iff.mpr known)⟩
    rw [addThing_of_admits admits] at added
    exact ⟨admits, (Except.ok.inj added).symm⟩
  · rintro ⟨admits, rfl⟩
    exact addThing_of_admits admits

theorem grant_eq_ok_iff :
    directory.grant thing channel actions = .ok after ↔
      (thing ∈ directory.things.map Thing.id ∧ channel ≠ "") ∧
        after = directory.withGrant thing channel actions := by
  unfold grant
  constructor
  · intro granted
    split at granted
    · cases granted
    rename_i held
    split at granted
    · cases granted
    rename_i filled
    rw [Bool.not_eq_true', Bool.not_eq_false] at held
    exact ⟨⟨holds_iff.mp held, filled⟩, (Except.ok.inj granted).symm⟩
  · rintro ⟨⟨held, filled⟩, rfl⟩
    rw [holds_iff.mpr held, if_neg (by decide), if_neg filled]
    rfl

/-- Things are told apart by their ids and by their secrets, and only they are granted anything. -/
structure Sound (directory : Directory) : Prop where
  named : ∀ thing ∈ directory.things, thing.id ≠ "" ∧ thing.credential.secret ≠ ""
  ids : (directory.things.map Thing.id).Nodup
  secrets : (directory.things.map Thing.credential).Nodup
  granted : ∀ request ∈ directory.granted,
    request.subject ∈ directory.things.map Thing.id ∧ request.object ≠ ""

namespace Sound

theorem empty : Sound .empty :=
  ⟨nofun, List.nodup_nil, List.nodup_nil, nofun⟩

theorem withThing (sound : directory.Sound) (admits : directory.Admits id credential) :
    (directory.withThing id credential).Sound := by
  have grown : ∀ {α : Type} (f : Thing → α),
      (directory.withThing id credential).things.map f =
        directory.things.map f ++ [f ⟨id, credential⟩] := fun _ => List.map_append
  refine ⟨?_, ?_, ?_, ?_⟩
  · intro thing member
    rcases List.mem_append.mp member with old | new
    · exact sound.named thing old
    · rw [List.mem_singleton.mp new]
      exact ⟨admits.named, admits.secured⟩
  · rw [grown, ← List.concat_eq_append]
    exact List.Nodup.concat admits.newId sound.ids
  · rw [grown, ← List.concat_eq_append]
    exact List.Nodup.concat admits.newSecret sound.secrets
  · intro request member
    rw [grown]
    obtain ⟨held, filled⟩ := sound.granted request member
    exact ⟨List.mem_append_left _ held, filled⟩

theorem withGrant (sound : directory.Sound) (held : thing ∈ directory.things.map Thing.id)
    (filled : channel ≠ "") (actions : List Action) :
    (directory.withGrant thing channel actions).Sound := by
  refine ⟨sound.named, sound.ids, sound.secrets, ?_⟩
  intro request member
  rcases List.mem_append.mp member with old | new
  · exact sound.granted request old
  · obtain ⟨action, _, same⟩ := List.mem_map.mp new
    rw [← same]
    exact ⟨held, filled⟩

end Sound

theorem of_find (first : directory.things.find? (·.credential = credential) = some found) :
    found ∈ directory.things ∧ found.credential = credential :=
  ⟨List.mem_of_find?_eq_some first, by simpa using List.find?_some first⟩

theorem identify_eq_ok_iff (sound : directory.Sound) :
    directory.identify credential = .ok id ↔ ⟨id, credential⟩ ∈ directory.things := by
  unfold identify
  constructor
  · intro found
    split at found
    · cases found
    split at found
    · rename_i thing first
      cases found
      obtain ⟨member, same⟩ := of_find first
      rw [← same]
      exact member
    · cases found
  · intro member
    have filled := (sound.named _ member).2
    rw [if_neg fun blank => filled (isEmpty_iff.mp blank)]
    cases first : directory.things.find? (·.credential = credential) with
    | none => exact absurd (decide_eq_true rfl) (List.find?_eq_none.mp first _ member)
    | some thing =>
      -- The first thing with this secret is the only one.
      obtain ⟨found, same⟩ := of_find first
      have only := List.inj_on_of_nodup_map sound.secrets found member same
      rw [only]

/-- A secret that no thing has is not found, and neither is the empty one. -/
theorem identify_eq_notFound (unknown : ∀ id, ⟨id, credential⟩ ∉ directory.things) :
    directory.identify credential = .error .notFound := by
  unfold identify
  split
  · rfl
  split
  · rename_i thing first
    obtain ⟨found, same⟩ := of_find first
    exact absurd (same ▸ found) (unknown thing.id)
  · rfl

theorem allows_iff {request : Request} :
    directory.allows request = true ↔ request ∈ directory.granted := by
  rw [allows, List.contains_iff_mem]

end ChannelGate.Directory
