import ChannelGate.Proofs.Event.Registration
import ChannelGate.Proofs.Publisher.Closing
import ChannelGate.Proofs.Publisher.Resting
import ChannelGate.Proofs.Startup.Starting

set_option autoImplicit false

namespace ChannelGate

namespace Publisher.Machine

/-- A publisher whose recovery loop waits, and that nobody has used yet, stops at once when it is
told to: it closes its buffer and never calls the store. -/
theorem cancel_unused (m : Machine) (due : Nat) (lines : List LogLine) :
    let unused := { m with loop := .waiting due, calls := [], queue := [], lines := lines }
    unused.cancel = { unused with
      cancelled := true
      loop := .stopped
      buffer := unused.buffer.close
      lines := lines ++ [⟨.debug, "Event recovery loop stopped", [], []⟩] } := by
  intro unused
  let told : Machine := { unused with cancelled := true }
  let closing : Machine := { told with loop := .closing, queue := [.loop] }
  let stopped : Machine := { told with
    loop := .stopped
    buffer := unused.buffer.close
    lines := lines ++ [⟨.debug, "Event recovery loop stopped", [], []⟩] }
  have asks : told.step? = some closing := rfl
  have closes : closing.step? = some stopped := rfl
  have rests : stopped.step? = none := rfl
  have stays : stopped.fire (.wait (stopped.nextInstant m.now)) = none := by
    have past : stopped.nextInstant m.now = m.now := rfl
    rw [past]
    simp [fire, stopped, told, unused]
  change told.runUntil m.now (fun _ => false) = stopped
  rw [runUntil_of_step rfl asks, runUntil_of_step rfl closes, runUntil_of_stuck rests stays]

def IsOver (m : Machine) : Prop := m.loop.isOver = true

/-- A recovery loop that is over stays so when it is told to stop. -/
theorem isOver_cancel {m : Machine} (ended : m.IsOver) : m.cancel.IsOver := by
  have told : { m with cancelled := true }.IsOver := ended
  refine runUntil_keeps ?_ told
  intro before after move fired ended
  have stays : after.loop = before.loop := (way_of_act (act_of_fire fired)).loop.ended ended
  rw [IsOver, stays]
  exact ended

/-- A publisher that was just built has no recovery loop once it is dropped. -/
theorem isOver_cancel_initial {settings : Settings} (valid : settings.fault? = none) (store : Store)
    (host : Host) (lines : List LogLine) :
    { initial settings valid store host with lines := lines }.cancel.IsOver := by
  obtain ⟨_, loop⟩ | ⟨_, loop⟩ := Loop.launched_cases settings host
  · have waiting : { initial settings valid store host with lines := lines } =
        { initial settings valid store host with
          loop := .waiting settings.checkInterval, calls := [], queue := [], lines := lines } := by
      rw [← loop]
      rfl
    rw [waiting, cancel_unused]
    exact rfl
  · apply isOver_cancel
    change (Loop.launched settings host).isOver = true
    rw [loop]
    rfl

end Publisher.Machine

namespace Startup

variable {config : Config} {store : Publisher.Store} {span : Option SpanRef}
  {before : Startup × Trace}

theorem publishers_dropping_last {startup : Startup} {earlier : List Publisher.Machine}
    {last : Publisher.Machine} (listed : startup.publishers = earlier ++ [last]) :
    (startup.dropping earlier.length).publishers =
      earlier ++ [{ last.cancel with lines := [] }] := by
  have stands : startup.publishers[earlier.length]? = some last := by
    rw [listed]
    exact List.getElem?_concat_length
  rw [dropping, stands]
  change startup.publishers.set _ _ = _
  rw [listed, List.set_append_right _ _ (Nat.le_refl _), Nat.sub_self, List.set_cons_zero]

theorem halted_of_dropped {startup : Startup} {earlier : List Publisher.Machine}
    {last : Publisher.Machine} (listed : startup.publishers = earlier ++ [last])
    (ended : last.cancel.IsOver) :
    ∀ machine ∈ (startup.dropping earlier.length).publishers.drop earlier.length,
      machine.IsOver := by
  rw [publishers_dropping_last listed, List.drop_left]
  intro machine member
  rw [List.mem_singleton.mp member]
  exact ended

/-- However a publisher that was just built came into the process, it has no recovery loop once it
is dropped. -/
theorem publishers_adopting {settings : Publisher.Settings} (valid : settings.fault? = none)
    (store : Publisher.Store) (startup : Startup) (host : Publisher.Host) :
    ∃ last, (startup.adopting (.initial settings valid store host)).publishers =
      startup.publishers ++ [last] ∧ last.cancel.IsOver := by
  have ended := Publisher.Machine.isOver_cancel_initial valid store host []
  unfold adopting
  split
  · exact ⟨_, publishers_dropping_last rfl, Publisher.Machine.isOver_cancel ended⟩
  · exact ⟨_, rfl, ended⟩

/-- What the start of a publisher with a registry leaves of the process: a publisher that cannot be
built leaves it as it was, a name that is taken leaves the metrics in front of it and no recovery
loop, and otherwise the publisher is in use and all its metrics are shown. -/
inductive Aftermath (config : Config) (store : Publisher.Store) (before after : Startup) :
    Except StartupError Unit → Prop where
  | unbuilt {reason : String}
    (unbuilt : ∀ machine, buildPublisher config store before.host ≠ .ok machine)
    (same : after = before) :
    Aftermath config store before after (.error (.events (.settings reason)))
  | refused {machine : Publisher.Machine}
    (built : buildPublisher config store before.host = .ok machine)
    {front rest : List Metric} {taken : Metric} (order : Metric.all = front ++ taken :: rest)
    (free : ∀ metric ∈ front, before.registry.holds metric = false)
    (held : before.registry.holds taken = true)
    (shows : after.registry = before.registry.adding before.publishers.length front)
    (halted : ∀ machine ∈ after.publishers.drop before.publishers.length, machine.IsOver) :
    Aftermath config store before after
      (.error (.events (.settings ("Failed to register metrics: " ++ Registry.duplicate))))
  | started {machine : Publisher.Machine}
    (built : buildPublisher config store before.host = .ok machine)
    (free : ∀ metric ∈ Metric.all, before.registry.holds metric = false)
    (shows : after.registry = before.registry.adding before.publishers.length Metric.all)
    (inUse : after.inUse = some before.publishers.length) :
    Aftermath config store before after (.ok ())

theorem aftermath :
    Aftermath config store before.1 (startPublisher config store true span before).2.1
      (startPublisher config store true span before).1 := by
  cases built : buildPublisher config store before.1.host with
  | error error =>
    obtain ⟨reason, rfl⟩ := buildPublisher_eq_error built
    rw [startPublisher_of_unbuilt built]
    refine .unbuilt ?_ rfl
    intro machine good
    cases built.symm.trans good
  | ok machine =>
    rw [startPublisher_of_built true span built]
    obtain ⟨valid, rfl⟩ := machine_of_built built
    have shows := before.1.registry.registered_all before.1.publishers.length
    cases recorded : before.1.registry.register before.1.publishers.length with
    | mk outcome registry =>
      rw [recorded] at shows
      cases shows with
      | whole free =>
        obtain ⟨answer, inUse, shown⟩ := launch_accepted _ span recorded
        rw [answer]
        exact .started built free shown inUse
      | partway order free held =>
        obtain ⟨answer, left⟩ := launch_refused _ span recorded
        rw [answer, left]
        refine .refused built order free held (registry_dropping ..) ?_
        obtain ⟨last, listed, ended⟩ := publishers_adopting valid store before.1 before.1.host
        exact halted_of_dropped listed ended

/-- A start with a registry succeeds if and only if the publisher can be built and all names of its
metrics are free, and then exactly these metrics are added to the registry. A start that fails
leaves no recovery loop behind, but the registry is as it was only if no publisher could be built or
the first name was taken: otherwise all metrics in front of the first name that is taken stay. -/
theorem failed_start_leaves_front (config : Config) (store : Publisher.Store)
    (span : Option SpanRef) (before : Startup × Trace) :
    let number := before.1.publishers.length
    let registry := before.1.registry
    let answer := (startPublisher config store true span before).1
    let after := (startPublisher config store true span before).2.1
    let buildable := StreamStore.NamesStore config.storeUrl ∧ config.publisherSettings.Workable
    (answer = .ok () ↔ buildable ∧ ∀ metric ∈ Metric.all, registry.holds metric = false) ∧
    (answer = .ok () → after.inUse = some number ∧
      after.registry = registry.adding number Metric.all) ∧
    (∀ error, answer = .error error →
      (∀ machine ∈ after.publishers.drop number, machine.IsOver) ∧
      (after.registry = registry ∨
        ∃ front taken rest, Metric.all = front ++ taken :: rest ∧
          (∀ metric ∈ front, registry.holds metric = false) ∧ registry.holds taken = true ∧
          after.registry = registry.adding number front) ∧
      (after.registry = registry ↔ ¬ buildable ∨ registry.holds .published = true)) := by
  intro number registry answer after buildable
  have left : Aftermath config store before.1 after answer := aftermath
  have builds : (∃ machine, buildPublisher config store before.1.host = .ok machine) ↔ buildable :=
    exists_buildPublisher_iff config store _
  clear_value answer after buildable
  cases left with
  | unbuilt unbuilt same =>
    subst same
    have nothing : ¬ buildable := by
      rw [← builds]
      exact fun ⟨machine, built⟩ => unbuilt machine built
    refine ⟨iff_of_false nofun fun ⟨possible, _⟩ => nothing possible, nofun, ?_⟩
    intro error failed
    rw [List.drop_length]
    exact ⟨List.forall_mem_nil _, .inl rfl, iff_of_true rfl (.inl nothing)⟩
  | refused built order free held shows halted =>
    have possible : buildable := builds.mp ⟨_, built⟩
    have crowded : ¬ ∀ metric ∈ Metric.all, registry.holds metric = false := by
      intro all
      rw [order] at all
      cases held.symm.trans (all _ (List.mem_append_right _ List.mem_cons_self))
    refine ⟨iff_of_false nofun fun ⟨_, all⟩ => crowded all, nofun, ?_⟩
    intro error failed
    refine ⟨halted, .inr ⟨_, _, _, order, free, held, shows⟩, ?_⟩
    rw [shows, Registry.adding_eq_self_iff, Registry.front_eq_nil_iff order free held]
    exact (or_iff_right (not_not_intro possible)).symm
  | started built free shows inUse =>
    have possible : buildable := builds.mp ⟨_, built⟩
    exact ⟨iff_of_true rfl ⟨possible, free⟩, fun _ => ⟨inUse, shows⟩, nofun⟩

/-- A process in which another part has taken the name that publishers have for dropped events. -/
def crowdedStartup : Startup :=
  { fresh with registry := { entries := [], foreign := ["events_dropped_total"] } }

theorem failed_start_leaves_front_crowded :
    let before : Startup × Trace := (crowdedStartup, .empty)
    let answer := (startPublisher Config.sample unreachable true none before).1
    let after := (startPublisher Config.sample unreachable true none before).2.1
    answer ≠ .ok () ∧ ∀ error, answer = .error error →
      (∀ machine ∈ after.publishers, machine.IsOver) ∧
        after.registry ≠ crowdedStartup.registry := by
  intro before answer after
  have left := failed_start_leaves_front Config.sample unreachable none before
  refine ⟨?_, ?_⟩
  · intro good
    have free : crowdedStartup.registry.holds .dropped = false :=
      (left.1.mp good).2 .dropped (by decide)
    exact absurd free (by decide)
  · intro error failed
    obtain ⟨halted, _, unchanged⟩ := left.2.2 error failed
    refine ⟨halted, ?_⟩
    intro same
    rcases unchanged.mp same with unbuilt | taken
    · exact unbuilt sample_buildable
    · exact absurd taken (by decide)

/-- The start fails, and two metrics are in the registry that were not there before. -/
theorem crowded_registry_gains_two :
    let before : Startup × Trace := (crowdedStartup, .empty)
    let answer := (startPublisher Config.sample unreachable true none before).1
    let after := (startPublisher Config.sample unreachable true none before).2.1
    answer = .error (.events (.settings
      "Failed to register metrics: Duplicate metrics collector registration attempted")) ∧
    crowdedStartup.registry.entries = [] ∧
    after.registry.entries = [(.published, 0), (.buffered, 0)] := by
  intro before answer after
  have builds : ∃ machine, buildPublisher Config.sample unreachable before.1.host = .ok machine :=
    (exists_buildPublisher_iff Config.sample unreachable _).mpr sample_buildable
  obtain ⟨machine, built⟩ := builds
  have recorded : before.1.registry.register before.1.publishers.length =
      (.error Registry.duplicate, crowdedStartup.registry.adding 0 [.published, .buffered]) := rfl
  obtain ⟨refused, left⟩ := launch_refused machine none recorded
  rw [← startPublisher_of_built true none built] at refused left
  refine ⟨refused, rfl, ?_⟩
  exact congrArg (·.registry.entries) (left.trans rfl)

end Startup

end ChannelGate
