import ChannelGate.Config.Environment

set_option autoImplicit false

namespace ChannelGate.Disk

/-- Names lead on from what stands at a place, one after the other. -/
inductive Leads (disk : Disk) : DiskEntry → List String → DiskEntry → Prop
  | here (stop : DiskEntry) : Leads disk stop [] stop
  | stay {place rest : List String} {name : String} {stop : DiskEntry}
    (idle : name = "" ∨ name = ".") (leads : Leads disk (.directory place) rest stop) :
    Leads disk (.directory place) (name :: rest) stop
  | up {place rest : List String} {stop : DiskEntry}
    (leads : Leads disk (.directory place.dropLast) rest stop) :
    Leads disk (.directory place) (".." :: rest) stop
  | down {place rest : List String} {name : String} {next stop : DiskEntry}
    (proper : name ∉ ["", ".", ".."]) (stands : disk.entry? place name = some next)
    (leads : Leads disk next rest stop) : Leads disk (.directory place) (name :: rest) stop

/-- What a path leads to: from the root if it begins with a slash, else from the working
directory. -/
inductive Reaches (disk : Disk) (path : String) (entry : DiskEntry) : Prop
  | absolute {rest : List Char} (slash : path.toList = '/' :: rest) (clean : '\x00' ∉ path.toList)
    (leads : disk.Leads (.directory []) (names path) entry)
  | relative {first : Char} {rest : List Char} (spelled : path.toList = first :: rest)
    (inside : first ≠ '/') (clean : '\x00' ∉ path.toList)
    (leads : disk.Leads (.directory disk.home) (names path) entry)

variable {disk : Disk}

theorem follow_eq_some_iff {start stop : DiskEntry} {names : List String} :
    disk.follow start names = some stop ↔ disk.Leads start names stop := by
  constructor
  · intro follows
    induction names generalizing start with
    | nil =>
      rw [follow] at follows
      rw [Option.some.inj follows]
      exact .here stop
    | cons name rest ih =>
      cases start with
      | file file => cases follows
      | directory place =>
        rw [follow] at follows
        split at follows
        · rename_i idle
          exact .stay idle (ih follows)
        split at follows
        · rename_i above
          rw [above]
          exact .up (ih follows)
        split at follows
        · rename_i idle above next stands
          have proper : name ∉ ["", ".", ".."] := by simp_all
          exact .down proper stands (ih follows)
        · cases follows
  · intro leads
    induction leads with
    | here stop => rfl
    | stay idle _ ih => rwa [follow, if_pos idle]
    | up _ ih => exact ih
    | @down place rest name next stop proper stands _ ih =>
      have moves : ¬ (name = "" ∨ name = ".") ∧ name ≠ ".." := by simpa [not_or, and_assoc] using proper
      rwa [follow, if_neg moves.1, if_neg moves.2, stands]

/-- A path that is spelled with no zero leads where its names do. -/
theorem find?_of_spelled {path : String} {first : Char} {rest : List Char}
    (spelled : path.toList = first :: rest) (clean : '\x00' ∉ path.toList) :
    disk.find? path =
      disk.follow (.directory (if first = '/' then [] else disk.home)) (names path) := by
  have usable : ¬ (path = "" ∨ path.toList.contains '\x00' = true) := by
    rintro (rfl | zero)
    · cases spelled
    · exact clean (List.contains_iff_mem.mp zero)
  rw [find?, if_neg usable, origin, spelled]
  simp only [List.head?_cons, Option.some.injEq]

theorem find?_eq_some_iff {path : String} {entry : DiskEntry} :
    disk.find? path = some entry ↔ disk.Reaches path entry := by
  constructor
  · intro found
    have usable : ¬ (path = "" ∨ path.toList.contains '\x00' = true) := by
      intro bad
      rw [find?, if_pos bad] at found
      cases found
    have clean : '\x00' ∉ path.toList := fun zero => usable (.inr (List.contains_iff_mem.mpr zero))
    cases spelled : path.toList with
    | nil => exact absurd (String.toList_eq_nil_iff.mp spelled) fun empty => usable (.inl empty)
    | cons first rest =>
      rw [find?_of_spelled spelled clean, follow_eq_some_iff] at found
      by_cases slash : first = '/'
      · rw [if_pos slash] at found
        exact .absolute (slash ▸ spelled) clean found
      · rw [if_neg slash] at found
        exact .relative spelled slash clean found
  · rintro (⟨slash, clean, leads⟩ | ⟨spelled, inside, clean, leads⟩)
    · rw [find?_of_spelled slash clean, if_pos rfl]
      exact follow_eq_some_iff.mpr leads
    · rw [find?_of_spelled spelled clean, if_neg inside]
      exact follow_eq_some_iff.mpr leads

end ChannelGate.Disk
