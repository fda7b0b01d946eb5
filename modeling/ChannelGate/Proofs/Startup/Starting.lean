import ChannelGate.Proofs.Config.Validity
import ChannelGate.Proofs.StreamStore.Address
import ChannelGate.Startup

set_option autoImplicit false

namespace ChannelGate

namespace Publisher.Machine

variable {settings : Settings} {store : Store} {host : Host}

theorem exists_buildOn_iff :
    (∃ machine, buildOn host settings store = .ok machine) ↔ settings.Workable := by
  rw [← Settings.fault?_eq_none_iff_workable]
  unfold buildOn
  constructor
  · intro built
    obtain ⟨machine, built⟩ := built
    split at built
    · cases built
    · assumption
  · intro faultless
    split
    · rename_i reason fault
      cases fault.symm.trans faultless
    · exact ⟨_, rfl⟩

theorem buildOn_eq_ok {machine : Machine} (built : buildOn host settings store = .ok machine) :
    ∃ valid, machine = initial settings valid store host := by
  unfold buildOn at built
  split at built
  · cases built
  · exact ⟨_, (Except.ok.inj built).symm⟩

theorem buildOn_eq_error {error : EventError}
    (failed : buildOn host settings store = .error error) : ∃ reason, error = .settings reason := by
  unfold buildOn at failed
  split at failed
  · exact ⟨_, (Except.error.inj failed).symm⟩
  · cases failed

end Publisher.Machine

namespace Startup

variable {config : Config} {store : Publisher.Store} {host : Publisher.Host} {shown : Bool}
  {span : Option SpanRef} {before : Startup × Trace}

theorem exists_buildPublisher_iff (config : Config) (store : Publisher.Store)
    (host : Publisher.Host) :
    (∃ machine, buildPublisher config store host = .ok machine) ↔
      StreamStore.NamesStore config.storeUrl ∧ config.publisherSettings.Workable := by
  simp only [buildPublisher, Result.then_eq_ok_iff, StreamStore.validateUrl_eq_ok_iff,
    exists_and_left, Publisher.Machine.exists_buildOn_iff]

theorem machine_of_built {machine : Publisher.Machine}
    (built : buildPublisher config store host = .ok machine) :
    ∃ valid, machine = Publisher.Machine.initial config.publisherSettings valid store host :=
  Publisher.Machine.buildOn_eq_ok (Result.then_eq_ok_iff.mp built).2

/-- The URL that is used where none is configured names a store. -/
theorem namesStore_standardUrl : StreamStore.NamesStore Config.standardUrl := by
  refine ⟨⟨"redis", [], none, .name "localhost".toList, some 6379, ['/', '0'], none⟩, rfl, .inl ?_⟩
  exact ⟨rfl, nofun, .inr rfl, StreamStore.isEscapedText_nil, nofun, nofun⟩

/-- A publisher can be built from the configuration for tests. -/
theorem sample_buildable : StreamStore.NamesStore Config.sample.storeUrl ∧
    Config.sample.publisherSettings.Workable :=
  ⟨namesStore_standardUrl,
    Config.publisherSettings_workable_iff.mpr ⟨by decide, Config.sample_tuned⟩⟩

theorem buildPublisher_eq_error {error : EventError}
    (failed : buildPublisher config store host = .error error) :
    ∃ reason, error = .settings reason := by
  rcases Result.bind_eq_error_iff.mp failed with refused | ⟨_, _, unbuilt⟩
  · exact StreamStore.validateUrl_eq_error refused
  · exact Publisher.Machine.buildOn_eq_error unbuilt

theorem startPublisher_eq :
    startPublisher config store shown span before =
      (match buildPublisher config store before.1.host with
        | .error e => pure (.error (.events e))
        | .ok machine => launch machine shown :
        Run Startup (Except StartupError Unit)) span before := rfl

/-- A start whose publisher cannot be built changes nothing. -/
theorem startPublisher_of_unbuilt {error : EventError}
    (failed : buildPublisher config store before.1.host = .error error) :
    startPublisher config store shown span before = (.error (.events error), before) := by
  rw [startPublisher_eq, failed]
  rfl

theorem answer_of_unbuilt {error : EventError}
    (failed : buildPublisher config store before.1.host = .error error) :
    (startPublisher config store shown span before).1 = .error (.events error) :=
  congrArg Prod.fst (startPublisher_of_unbuilt failed)

theorem startPublisher_of_built (shown : Bool) (span : Option SpanRef)
    {machine : Publisher.Machine}
    (built : buildPublisher config store before.1.host = .ok machine) :
    startPublisher config store shown span before = launch machine shown span before := by
  rw [startPublisher_eq, built]

/-- The state with a publisher told to stop, and with nothing left that it says. -/
def dropping (startup : Startup) (number : Nat) : Startup :=
  match startup.publishers[number]? with
  | none => startup
  | some machine =>
    { startup with
      publishers := startup.publishers.set number { machine.cancel with lines := [] } }

theorem state_dropPublisher (number : Nat) (span : Option SpanRef) (before : Startup × Trace) :
    (dropPublisher number span before).2.1 = before.1.dropping number := by
  have body : dropPublisher number span before =
      (match before.1.publishers[number]? with
        | none => pure ()
        | some machine =>
          Run.zoom (fun _ => machine)
            (fun machine startup =>
              { startup with publishers := startup.publishers.set number machine })
            (Publisher.withLines fun machine => ((), machine.cancel)) : Run Startup Unit)
        span before := rfl
  rw [body, dropping]
  cases before.1.publishers[number]? <;> rfl

theorem registry_dropping (startup : Startup) (number : Nat) :
    (startup.dropping number).registry = startup.registry := by
  unfold dropping
  split <;> rfl

theorem inUse_dropping (startup : Startup) (number : Nat) :
    (startup.dropping number).inUse = startup.inUse := by
  unfold dropping
  split <;> rfl

def adopting (startup : Startup) (machine : Publisher.Machine) : Startup :=
  let adopted : Startup :=
    { startup with publishers := startup.publishers ++ [{ machine with lines := [] }] }
  if startup.stopping then adopted.dropping startup.publishers.length else adopted

theorem registry_adopting (startup : Startup) (machine : Publisher.Machine) :
    (startup.adopting machine).registry = startup.registry := by
  unfold adopting
  split
  · exact registry_dropping ..
  · rfl

theorem adopt_eq (machine : Publisher.Machine) (span : Option SpanRef)
    (before : Startup × Trace) :
    (adopt machine span before).1 = before.1.publishers.length ∧
      (adopt machine span before).2.1 = before.1.adopting machine := by
  let adopted : Startup :=
    { before.1 with publishers := before.1.publishers ++ [{ machine with lines := [] }] }
  let trace : Trace := { before.2 with lines := before.2.lines ++ machine.lines }
  have run : ∀ stopping : Bool,
      let after := (do
        if stopping then dropPublisher before.1.publishers.length
        return before.1.publishers.length : Run Startup Nat) span (adopted, trace)
      after.1 = before.1.publishers.length ∧
        after.2.1 = if stopping then adopted.dropping before.1.publishers.length else adopted := by
    intro stopping
    cases stopping with
    | true => exact ⟨rfl, state_dropPublisher _ span (adopted, trace)⟩
    | false => exact ⟨rfl, rfl⟩
  exact run before.1.stopping

theorem putInUse_eq (number : Nat) (span : Option SpanRef) (before : Startup × Trace) :
    (putInUse number span before).2.1.inUse = some number ∧
      (putInUse number span before).2.1.registry = before.1.registry := by
  obtain ⟨⟨policy, publishers, inUse, registry, stopping, clockEnd⟩, trace⟩ := before
  cases inUse with
  | none => exact ⟨rfl, rfl⟩
  | some previous =>
    let used : Startup := ⟨policy, publishers, some number, registry, stopping, clockEnd⟩
    have left : (dropPublisher previous span (used, trace)).2.1 = used.dropping previous :=
      state_dropPublisher previous span (used, trace)
    exact ⟨(congrArg Startup.inUse left).trans (inUse_dropping ..),
      (congrArg Startup.registry left).trans (registry_dropping ..)⟩

/-- A publisher whose metrics are not to be shown has nothing left to fail with. -/
theorem answer_of_built {machine : Publisher.Machine}
    (built : buildPublisher config store before.1.host = .ok machine) :
    (startPublisher config store false span before).1 = .ok () := by
  rw [startPublisher_of_built false span built]
  rfl

theorem launch_shown (machine : Publisher.Machine) (span : Option SpanRef)
    (before : Startup × Trace) :
    let number := (adopt machine span before).1
    let adopted := (adopt machine span before).2
    let recorded := adopted.1.registry.register number
    launch machine true span before =
      (match recorded.1.mapError fun reason =>
          StartupError.events (.settings ("Failed to register metrics: " ++ reason)) with
        | .error e => do
          dropPublisher number
          return .error e
        | .ok () => do
          putInUse number
          return .ok () : Run Startup (Except StartupError Unit))
      span ({ adopted.1 with registry := recorded.2 }, adopted.2) := rfl

theorem launch_refused (machine : Publisher.Machine) (span : Option SpanRef) {reason : String}
    {registry : Registry Nat}
    (recorded : before.1.registry.register before.1.publishers.length = (.error reason, registry)) :
    (launch machine true span before).1 =
        .error (.events (.settings ("Failed to register metrics: " ++ reason))) ∧
      (launch machine true span before).2.1 =
        { before.1.adopting machine with registry := registry }.dropping
          before.1.publishers.length := by
  obtain ⟨number, adopted⟩ := adopt_eq machine span before
  rw [← registry_adopting before.1 machine, ← adopted, ← number] at recorded
  rw [launch_shown]
  rw [recorded]
  refine ⟨rfl, ?_⟩
  rw [← adopted, ← number]
  exact state_dropPublisher _ span (_, _)

theorem launch_accepted (machine : Publisher.Machine) (span : Option SpanRef)
    {registry : Registry Nat}
    (recorded : before.1.registry.register before.1.publishers.length = (.ok (), registry)) :
    (launch machine true span before).1 = .ok () ∧
      (launch machine true span before).2.1.inUse = some before.1.publishers.length ∧
      (launch machine true span before).2.1.registry = registry := by
  obtain ⟨number, adopted⟩ := adopt_eq machine span before
  rw [← registry_adopting before.1 machine, ← adopted, ← number] at recorded
  rw [launch_shown]
  rw [recorded]
  obtain ⟨inUse, shows⟩ := putInUse_eq (adopt machine span before).1 span
    ({ (adopt machine span before).2.1 with registry := registry }, (adopt machine span before).2.2)
  rw [← number]
  exact ⟨rfl, inUse, shows⟩

end Startup

end ChannelGate
