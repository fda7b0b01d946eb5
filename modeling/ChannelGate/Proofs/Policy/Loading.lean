import ChannelGate.Policy.Definition
import ChannelGate.Proofs.Policy.Identity
import Mathlib.Data.List.Forall2

set_option autoImplicit false

namespace ChannelGate

namespace ThingEntry

def thing (entry : ThingEntry) : Thing := ⟨entry.id, ⟨entry.secret⟩⟩

def requests (entry : ThingEntry) : List Request :=
  entry.channels.flatMap fun channel =>
    channel.2.map fun action => ⟨entry.id, channel.1, action⟩

def Lists (entry : ThingEntry) (channel : String) (action : Action) : Prop :=
  ∃ actions, (channel, actions) ∈ entry.channels ∧ action ∈ actions

/-- The fault of an entry that stands after others, if it has one. -/
def fault? (earlier : List ThingEntry) (entry : ThingEntry) : Option PolicyError :=
  if entry.id = "" ∨ entry.secret = "" then
    some (.invalidDefinition "thing id and secret must not be empty")
  else if entry.id ∈ earlier.map ThingEntry.id then
    some (.invalidDefinition ("duplicate thing id '" ++ entry.id ++ "'"))
  else if entry.secret ∈ earlier.map ThingEntry.secret then
    some (.invalidDefinition ("thing '" ++ entry.id ++ "' reuses another thing's secret"))
  else if "" ∈ entry.channels.map Prod.fst then
    some (.invalidDefinition ("thing '" ++ entry.id ++ "' has a grant with an empty channel id"))
  else none

/-- Ids and secrets are there and not shared, and every channel has a name. -/
structure Loadable (entries : List ThingEntry) : Prop where
  named : ∀ entry ∈ entries, entry.id ≠ ""
  ids : (entries.map ThingEntry.id).Nodup
  secured : ∀ entry ∈ entries, entry.secret ≠ ""
  secrets : (entries.map ThingEntry.secret).Nodup
  channels : ∀ entry ∈ entries, ∀ channel ∈ entry.channels, channel.1 ≠ ""

/-- The same entry with its channels in another order. -/
structure Reordered (entry other : ThingEntry) : Prop where
  id : entry.id = other.id
  secret : entry.secret = other.secret
  channels : entry.channels.Perm other.channels

variable {entry other : ThingEntry} {entries earlier later : List ThingEntry} {request : Request}
  {error : PolicyError}

theorem mem_requests :
    request ∈ entry.requests ↔
      entry.id = request.subject ∧ entry.Lists request.object request.action := by
  rw [requests, List.mem_flatMap]
  constructor
  · rintro ⟨⟨channel, actions⟩, listed, member⟩
    obtain ⟨action, granted, rfl⟩ := List.mem_map.mp member
    exact ⟨rfl, actions, listed, granted⟩
  · rintro ⟨subject, actions, listed, granted⟩
    refine ⟨_, listed, List.mem_map.mpr ⟨_, granted, ?_⟩⟩
    rw [subject]

theorem fault?_eq_none_iff :
    entry.fault? earlier = none ↔ (entry.id ≠ "" ∧ entry.secret ≠ "") ∧
      entry.id ∉ earlier.map ThingEntry.id ∧ entry.secret ∉ earlier.map ThingEntry.secret ∧
      "" ∉ entry.channels.map Prod.fst := by
  unfold fault?
  split
  · rename_i blank
    simp only [reduceCtorEq, false_iff]
    rintro ⟨⟨named, secured⟩, _⟩
    exact blank.elim named secured
  rename_i filled
  split
  · rename_i taken
    simp only [reduceCtorEq, false_iff]
    exact fun free => free.2.1 taken
  rename_i newId
  split
  · rename_i taken
    simp only [reduceCtorEq, false_iff]
    exact fun free => free.2.2.1 taken
  rename_i newSecret
  split
  · rename_i nameless
    simp only [reduceCtorEq, false_iff]
    exact fun free => free.2.2.2 nameless
  rename_i titled
  exact iff_of_true rfl ⟨not_or.mp filled, newId, newSecret, titled⟩

theorem channels_named_iff :
    "" ∉ entry.channels.map Prod.fst ↔ ∀ channel ∈ entry.channels, channel.1 ≠ "" := by
  rw [List.mem_map, not_exists]
  exact forall_congr' fun _ => not_and

theorem loadable_nil : Loadable [] :=
  ⟨nofun, List.nodup_nil, nofun, List.nodup_nil, nofun⟩

/-- Entries are loadable if each of them is without fault after those before it. -/
theorem loadable_append_singleton :
    Loadable (earlier ++ [entry]) ↔ Loadable earlier ∧ entry.fault? earlier = none := by
  rw [fault?_eq_none_iff, channels_named_iff]
  constructor
  · rintro ⟨named, ids, secured, secrets, channels⟩
    rw [List.forall_mem_append, List.forall_mem_singleton] at named secured channels
    rw [List.map_append, List.nodup_append] at ids secrets
    refine ⟨⟨named.1, ids.1, secured.1, secrets.1, channels.1⟩, ⟨named.2, secured.2⟩, ?_, ?_,
      channels.2⟩
    · exact fun taken => ids.2.2 _ taken _ (List.mem_singleton_self _) rfl
    · exact fun taken => secrets.2.2 _ taken _ (List.mem_singleton_self _) rfl
  · rintro ⟨⟨named, ids, secured, secrets, channels⟩, ⟨last, kept⟩, newId, newSecret, titled⟩
    refine ⟨?_, ?_, ?_, ?_, ?_⟩
    · rw [List.forall_mem_append, List.forall_mem_singleton]
      exact ⟨named, last⟩
    · rw [List.map_append, List.map_singleton, ← List.concat_eq_append]
      exact List.Nodup.concat newId ids
    · rw [List.forall_mem_append, List.forall_mem_singleton]
      exact ⟨secured, kept⟩
    · rw [List.map_append, List.map_singleton, ← List.concat_eq_append]
      exact List.Nodup.concat newSecret secrets
    · rw [List.forall_mem_append, List.forall_mem_singleton]
      exact ⟨channels, titled⟩

/-- Entries that are not loadable have a first one at fault. -/
theorem loadable_or_fault (entries : List ThingEntry) :
    Loadable entries ∨ ∃ earlier entry later error, entries = earlier ++ entry :: later ∧
      Loadable earlier ∧ entry.fault? earlier = some error := by
  induction entries using List.reverseRecOn with
  | nil => exact .inl loadable_nil
  | append_singleton entries last ih =>
    rcases ih with loadable | ⟨earlier, entry, later, error, rfl, loadable, fault⟩
    · cases fault : last.fault? entries with
      | none => exact .inl (loadable_append_singleton.mpr ⟨loadable, fault⟩)
      | some error => exact .inr ⟨entries, last, [], error, rfl, loadable, fault⟩
    · refine .inr ⟨earlier, entry, later ++ [last], error, ?_, loadable, fault⟩
      rw [List.append_assoc, List.cons_append]

end ThingEntry

namespace Directory

open ThingEntry

variable {directory after : Directory} {entry other : ThingEntry}
  {entries earlier later : List ThingEntry} {error : PolicyError}

def listing (entries : List ThingEntry) : Directory :=
  ⟨entries.map ThingEntry.thing, entries.flatMap ThingEntry.requests⟩

/-- Granting channel by channel: all of them have a name, or one without a name ends it. -/
theorem grant_channels {thing : String} (channels : List (String × List Action))
    (held : directory.holds thing = true) :
    channels.foldlM (fun directory channel => directory.grant thing channel.1 channel.2)
      directory =
    if "" ∈ channels.map Prod.fst then
      .error (.invalidDefinition ("thing '" ++ thing ++ "' has a grant with an empty channel id"))
    else .ok { directory with
      granted := directory.granted ++ channels.flatMap fun channel =>
        channel.2.map fun action => ⟨thing, channel.1, action⟩ } := by
  induction channels generalizing directory with
  | nil =>
    rw [List.flatMap_nil, List.append_nil]
    rfl
  | cons channel rest ih =>
    rw [List.foldlM_cons, List.flatMap_cons, ← List.append_assoc]
    simp only [List.map_cons, List.mem_cons]
    by_cases nameless : channel.1 = ""
    · rw [grant, held, if_neg (by decide), if_pos nameless, if_pos (.inl nameless.symm)]
      rfl
    · have next : (directory.withGrant thing channel.1 channel.2).holds thing = true := held
      have granted : directory.grant thing channel.1 channel.2 =
          .ok (directory.withGrant thing channel.1 channel.2) :=
        grant_eq_ok_iff.mpr ⟨⟨holds_iff.mp held, nameless⟩, rfl⟩
      rw [granted]
      simp only [Ne.symm nameless, false_or]
      exact ih next

/-- An entry is a thing and its requests, or nothing. -/
theorem addEntry_eq (directory : Directory) (entry : ThingEntry) :
    directory.addEntry entry =
      (directory.addThing entry.id ⟨entry.secret⟩ >>= fun after =>
        if "" ∈ entry.channels.map Prod.fst then
          .error (.invalidDefinition
            ("thing '" ++ entry.id ++ "' has a grant with an empty channel id"))
        else .ok { after with granted := after.granted ++ entry.requests }) := by
  unfold addEntry
  cases added : directory.addThing entry.id ⟨entry.secret⟩ with
  | error error => rfl
  | ok after =>
    obtain ⟨_, rfl⟩ := addThing_eq_ok_iff.mp added
    apply grant_channels
    rw [holds_iff, withThing, List.map_append]
    exact List.mem_append_right _ (List.mem_singleton_self _)

theorem listing_append_singleton :
    listing (earlier ++ [entry]) =
      { (listing earlier).withThing entry.id ⟨entry.secret⟩ with
        granted := (listing earlier).granted ++ entry.requests } := by
  simp only [listing, withThing, List.map_append, List.map_singleton, List.flatMap_append,
    List.flatMap_singleton, ThingEntry.thing]

theorem ids_listing : (listing entries).things.map Thing.id = entries.map ThingEntry.id := by
  rw [listing, List.map_map]
  rfl

theorem knows_listing {secret : String} :
    (listing entries).knows ⟨secret⟩ = true ↔ secret ∈ entries.map ThingEntry.secret := by
  rw [knows_iff, listing, List.map_map, List.mem_map, List.mem_map]
  exact exists_congr fun _ => and_congr_right fun _ => Credential.mk.injEq .. ▸ Iff.rfl

/-- After entries without a fault the next one is listed too, or ends the loading. -/
theorem addEntry_listing (earlier : List ThingEntry) (entry : ThingEntry) :
    (listing earlier).addEntry entry =
      match entry.fault? earlier with
      | some error => .error error
      | none => .ok (listing (earlier ++ [entry])) := by
  rw [addEntry_eq, listing_append_singleton]
  unfold addThing fault?
  by_cases blank : entry.id = "" ∨ entry.secret = ""
  · rw [if_pos (blank.imp_right isEmpty_iff.mpr), if_pos blank]
    rfl
  rw [if_neg fun either => blank (either.imp_right isEmpty_iff.mp), if_neg blank]
  by_cases taken : entry.id ∈ earlier.map ThingEntry.id
  · rw [if_pos (holds_iff.mpr (ids_listing ▸ taken)), if_pos taken]
    rfl
  rw [if_neg fun held => taken (ids_listing ▸ holds_iff.mp held), if_neg taken]
  by_cases reused : entry.secret ∈ earlier.map ThingEntry.secret
  · rw [if_pos (knows_listing.mpr reused), if_pos reused]
    rfl
  rw [if_neg fun known => reused (knows_listing.mp known), if_neg reused]
  by_cases nameless : "" ∈ entry.channels.map Prod.fst
  · rw [if_pos nameless]
    exact if_pos nameless
  · rw [if_neg nameless]
    exact if_neg nameless

theorem ofEntries_append (front back : List ThingEntry) :
    ofEntries (front ++ back) =
      (ofEntries front >>= fun directory => back.foldlM addEntry directory) := by
  rw [ofEntries, List.foldlM_append]
  rfl

theorem ofEntries_of_loadable (loadable : Loadable entries) :
    ofEntries entries = .ok (listing entries) := by
  induction entries using List.reverseRecOn with
  | nil => rfl
  | append_singleton entries entry ih =>
    obtain ⟨before, faultless⟩ := loadable_append_singleton.mp loadable
    rw [ofEntries_append, ih before]
    change [entry].foldlM addEntry (listing entries) = _
    rw [List.foldlM_cons, addEntry_listing, faultless]
    rfl

theorem ofEntries_of_fault (loadable : Loadable earlier) (fault : entry.fault? earlier = some error)
    (later : List ThingEntry) : ofEntries (earlier ++ entry :: later) = .error error := by
  rw [ofEntries_append, ofEntries_of_loadable loadable]
  change (entry :: later).foldlM addEntry (listing earlier) = _
  rw [List.foldlM_cons, addEntry_listing, fault]
  rfl

theorem ofEntries_eq_ok_iff :
    ofEntries entries = .ok directory ↔ Loadable entries ∧ directory = listing entries := by
  constructor
  · intro loaded
    rcases loadable_or_fault entries with loadable | ⟨earlier, entry, later, error, rfl, loadable,
      fault⟩
    · rw [ofEntries_of_loadable loadable] at loaded
      exact ⟨loadable, (Except.ok.inj loaded).symm⟩
    · rw [ofEntries_of_fault loadable fault] at loaded
      cases loaded
  · rintro ⟨loadable, rfl⟩
    exact ofEntries_of_loadable loadable

theorem ofEntries_eq_error_iff :
    ofEntries entries = .error error ↔ ∃ earlier entry later, entries = earlier ++ entry :: later ∧
      Loadable earlier ∧ entry.fault? earlier = some error := by
  constructor
  · intro stopped
    rcases loadable_or_fault entries with loadable | ⟨earlier, entry, later, other, rfl, loadable,
      fault⟩
    · rw [ofEntries_of_loadable loadable] at stopped
      cases stopped
    · rw [ofEntries_of_fault loadable fault] at stopped
      cases stopped
      exact ⟨earlier, entry, later, rfl, loadable, fault⟩
  · rintro ⟨earlier, entry, later, rfl, loadable, fault⟩
    exact ofEntries_of_fault loadable fault later

theorem sound_listing (loadable : Loadable entries) : (listing entries).Sound := by
  refine ⟨?_, ?_, ?_, ?_⟩
  · intro thing member
    obtain ⟨entry, listed, rfl⟩ := List.mem_map.mp member
    exact ⟨loadable.named entry listed, loadable.secured entry listed⟩
  · rw [ids_listing]
    exact loadable.ids
  · have credentials : (listing entries).things.map Thing.credential =
        (entries.map ThingEntry.secret).map Credential.mk := by
      rw [listing, List.map_map, List.map_map]
      rfl
    rw [credentials]
    exact loadable.secrets.map fun _ _ same => Credential.mk.inj same
  · intro request member
    obtain ⟨entry, listed, granted⟩ := List.mem_flatMap.mp member
    obtain ⟨subject, actions, channel, _⟩ := mem_requests.mp granted
    rw [ids_listing, ← subject]
    exact ⟨List.mem_map_of_mem listed, loadable.channels entry listed _ channel⟩

theorem identify_listing (loadable : Loadable entries) {id : String} {credential : Credential} :
    (listing entries).identify credential = .ok id ↔
      ∃ entry ∈ entries, entry.id = id ∧ entry.secret = credential.secret := by
  rw [identify_eq_ok_iff (sound_listing loadable), listing, List.mem_map]
  apply exists_congr
  intro entry
  apply and_congr_right
  intro _
  obtain ⟨secret⟩ := credential
  simp only [ThingEntry.thing, Thing.mk.injEq, Credential.mk.injEq]

theorem allows_listing {request : Request} :
    (listing entries).allows request = true ↔
      ∃ entry ∈ entries, entry.id = request.subject ∧
        entry.Lists request.object request.action := by
  rw [allows_iff, listing, List.mem_flatMap]
  exact exists_congr fun _ => and_congr_right fun _ => mem_requests

/-- The same things, granted the same. -/
structure Agree (first second : Directory) : Prop where
  things : first.things = second.things
  granted : ∀ request, request ∈ first.granted ↔ request ∈ second.granted

/-- The same error, or directories that agree. -/
inductive Alike : Except PolicyError Directory → Except PolicyError Directory → Prop
  | error (error : PolicyError) : Alike (.error error) (.error error)
  | ok {first second : Directory} (agree : Agree first second) : Alike (.ok first) (.ok second)

namespace Agree

variable {first second : Directory}

theorem refl (directory : Directory) : Agree directory directory := ⟨rfl, fun _ => Iff.rfl⟩

theorem identify_eq (agree : Agree first second) (credential : Credential) :
    first.identify credential = second.identify credential := by
  unfold identify
  rw [agree.things]

theorem allows_eq (agree : Agree first second) (request : Request) :
    first.allows request = second.allows request := by
  rw [Bool.eq_iff_iff, allows_iff, allows_iff, agree.granted]

theorem size_eq (agree : Agree first second) : first.size = second.size :=
  congrArg List.length agree.things

theorem more (agree : Agree first second) {requests requests' : List Request}
    (same : ∀ request, request ∈ requests ↔ request ∈ requests') :
    Agree { first with granted := first.granted ++ requests }
      { second with granted := second.granted ++ requests' } := by
  refine ⟨agree.things, ?_⟩
  intro request
  rw [List.mem_append, List.mem_append, agree.granted, same]

theorem addThing (agree : Agree first second) (id : String) (credential : Credential) :
    Alike (first.addThing id credential) (second.addThing id credential) := by
  obtain ⟨things, before⟩ := first
  obtain ⟨_, before'⟩ := second
  obtain ⟨rfl, same⟩ := agree
  unfold Directory.addThing holds knows
  split
  · exact .error _
  split
  · exact .error _
  split
  · exact .error _
  · exact .ok ⟨rfl, same⟩

theorem grant (agree : Agree first second) (thing channel : String) (actions : List Action) :
    Alike (first.grant thing channel actions) (second.grant thing channel actions) := by
  obtain ⟨things, before⟩ := first
  obtain ⟨_, before'⟩ := second
  obtain ⟨rfl, same⟩ := agree
  have agree : Agree ⟨things, before⟩ ⟨things, before'⟩ := ⟨rfl, same⟩
  unfold Directory.grant holds
  split
  · exact .error _
  split
  · exact .error _
  · exact .ok (agree.more fun _ => Iff.rfl)

theorem addEntry (agree : Agree first second) (reordered : Reordered entry other) :
    Alike (first.addEntry entry) (second.addEntry other) := by
  have nameless : "" ∈ other.channels.map Prod.fst ↔ "" ∈ entry.channels.map Prod.fst :=
    (reordered.channels.map Prod.fst).mem_iff.symm
  have requests : ∀ request, request ∈ entry.requests ↔ request ∈ other.requests := by
    intro request
    rw [mem_requests, mem_requests, reordered.id]
    exact and_congr_right fun _ => exists_congr fun _ =>
      and_congr_left fun _ => reordered.channels.mem_iff
  have alike := agree.addThing entry.id ⟨entry.secret⟩
  rw [addEntry_eq, addEntry_eq, ← reordered.id, ← reordered.secret]
  simp only [nameless]
  generalize first.addThing entry.id ⟨entry.secret⟩ = one at alike ⊢
  generalize second.addThing entry.id ⟨entry.secret⟩ = two at alike ⊢
  cases alike with
  | error error => exact .error error
  | ok agree =>
    by_cases blank : "" ∈ entry.channels.map Prod.fst
    · change Alike (ite _ _ _) (ite _ _ _)
      rw [if_pos blank, if_pos blank]
      exact .error _
    · change Alike (ite _ _ _) (ite _ _ _)
      rw [if_neg blank, if_neg blank]
      exact .ok (agree.more requests)

theorem addEntries {others : List ThingEntry} (reordered : List.Forall₂ Reordered entries others)
    (agree : Agree first second) :
    Alike (entries.foldlM Directory.addEntry first) (others.foldlM Directory.addEntry second) := by
  induction reordered generalizing first second with
  | nil => exact .ok agree
  | @cons entry other entries others same _ ih =>
    have alike := agree.addEntry same
    rw [List.foldlM_cons, List.foldlM_cons]
    generalize first.addEntry entry = one at alike ⊢
    generalize second.addEntry other = two at alike ⊢
    cases alike with
    | error error => exact .error error
    | ok agree => exact ih agree

theorem apply (agree : Agree first second) (edit : Edit) :
    Alike (first.apply edit) (second.apply edit) := by
  cases edit with
  | addThing id credential => exact agree.addThing id credential
  | grant thing channel actions => exact agree.grant thing channel actions

theorem edited (agree : Agree first second) (edit : Edit) :
    Agree (first.edited edit) (second.edited edit) := by
  have alike := agree.apply edit
  unfold Directory.edited
  generalize first.apply edit = one at alike ⊢
  generalize second.apply edit = two at alike ⊢
  cases alike with
  | error error => exact agree
  | ok later => exact later

theorem editedBy (agree : Agree first second) (edits : List Edit) :
    Agree (first.editedBy edits) (second.editedBy edits) := by
  induction edits generalizing first second with
  | nil => exact agree
  | cons edit edits ih => exact ih (agree.edited edit)

end Agree

/-- A definition is loaded as a whole, as it stands, or not at all. It is loaded when its ids and
secrets are there and not shared and its channels have names; then the directory has its things, a
secret names the thing that has it in the definition, and a request is allowed when the definition
lists it. Else the error is that of the first entry at fault. With the channels of the entries in
any other order all this is the same: the error, or every answer at once and after further calls. -/
theorem loading_is_exact (entries : List ThingEntry) :
    (∀ text, ThingEntry.read? text = some entries → ofText text = ofEntries entries) ∧
    ((∃ directory, ofEntries entries = .ok directory) ↔ Loadable entries) ∧
    (∀ directory, ofEntries entries = .ok directory →
      directory.size = entries.length ∧
      (∀ id credential, directory.identify credential = .ok id ↔
        ∃ entry ∈ entries, entry.id = id ∧ entry.secret = credential.secret) ∧
      ∀ id channel action, directory.allows ⟨id, channel, action⟩ = true ↔
        ∃ entry ∈ entries, entry.id = id ∧ entry.Lists channel action) ∧
    (∀ error, ofEntries entries = .error error ↔
      ∃ earlier entry later, entries = earlier ++ entry :: later ∧ Loadable earlier ∧
        entry.fault? earlier = some error) ∧
    ∀ others, List.Forall₂ Reordered entries others →
      (∀ error, ofEntries entries = .error error ↔ ofEntries others = .error error) ∧
      ∀ directory, ofEntries entries = .ok directory →
        ∃ other, ofEntries others = .ok other ∧ ∀ edits,
          (directory.editedBy edits).size = (other.editedBy edits).size ∧
          (∀ credential, (directory.editedBy edits).identify credential =
            (other.editedBy edits).identify credential) ∧
          ∀ request, (directory.editedBy edits).allows request =
            (other.editedBy edits).allows request := by
  refine ⟨?_, ?_, ?_, fun _ => ofEntries_eq_error_iff, ?_⟩
  · intro text decoded
    rw [ofText, decoded]
  · constructor
    · rintro ⟨directory, loaded⟩
      exact (ofEntries_eq_ok_iff.mp loaded).1
    · exact fun loadable => ⟨_, ofEntries_of_loadable loadable⟩
  · intro directory loaded
    obtain ⟨loadable, rfl⟩ := ofEntries_eq_ok_iff.mp loaded
    exact ⟨List.length_map _, fun _ _ => identify_listing loadable, fun _ _ _ => allows_listing⟩
  · intro others reordered
    have alike : Alike (ofEntries entries) (ofEntries others) :=
      (Agree.refl .empty).addEntries reordered
    generalize ofEntries entries = one at alike ⊢
    generalize ofEntries others = two at alike ⊢
    cases alike with
    | error error => exact ⟨fun _ => Iff.rfl, nofun⟩
    | @ok first second agree =>
      refine ⟨fun _ => ⟨nofun, nofun⟩, ?_⟩
      rintro _ ⟨⟩
      refine ⟨second, rfl, ?_⟩
      intro edits
      have later := agree.editedBy edits
      exact ⟨later.size_eq, later.identify_eq, later.allows_eq⟩

-- How a text is read to entries: one thing is written line by line and one in braces.
example :
    ThingEntry.read? ("things:\n" ++
      "  - id: lamp\n" ++
      "    secret: pw\n" ++
      "    channels:\n" ++
      "      hall: [read, write]\n" ++
      "  - \x7bid: door, secret: 'key'\x7d\n") =
    some [⟨"lamp", "pw", [("hall", [.read, .write])]⟩, ⟨"door", "key", []⟩] := by
  decide +kernel

end Directory

end ChannelGate
