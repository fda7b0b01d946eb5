import ChannelGate.Proofs.Startup.Starting

set_option autoImplicit false

namespace ChannelGate.Startup

/-- A configuration that passed its check starts a publisher if and only if its numbers are greater
than zero and its URL names a store; otherwise the settings are named as the reason. If it comes
from an environment, its numbers always are, and only the URL decides. -/
theorem checked_config_starts_iff {config : Config} {disk : Disk}
    (checked : config.validate disk = .ok ()) (store : Publisher.Store) (span : Option SpanRef)
    (before : Startup × Trace) :
    let answer := (startPublisher config store false span before).1
    (config.publisherSettings.validate = .ok () ↔ config.Tuned) ∧
    (answer = .ok () ↔ config.Tuned ∧ StreamStore.NamesStore config.storeUrl) ∧
    (∀ error, answer = .error error → ∃ reason, error = .events (.settings reason)) ∧
    (∀ environment freshId, Config.ofEnvironment environment disk freshId = .ok config →
      config.publisherSettings.validate = .ok () ∧
      (answer = .ok () ↔ StreamStore.NamesStore config.storeUrl)) := by
  intro answer
  have named : config.stream ≠ "" := (Config.validate_eq_ok_iff.mp checked).stream
  have workable : config.publisherSettings.Workable ↔ config.Tuned := by
    rw [Config.publisherSettings_workable_iff, and_iff_right named]
  have settled : config.publisherSettings.validate = .ok () ↔ config.Tuned :=
    Publisher.Settings.validate_eq_ok_iff.trans workable
  have buildable : (∃ machine, buildPublisher config store before.1.host = .ok machine) ↔
      config.Tuned ∧ StreamStore.NamesStore config.storeUrl := by
    rw [exists_buildPublisher_iff, workable, and_comm]
  -- Without a registry the answer is settled by the building of the publisher.
  have starts : answer = .ok () ↔ config.Tuned ∧ StreamStore.NamesStore config.storeUrl := by
    rw [← buildable]
    cases built : buildPublisher config store before.1.host with
    | error reason =>
      have refused : answer = .error (.events reason) := answer_of_unbuilt built
      rw [refused]
      exact ⟨nofun, fun ⟨_, good⟩ => nomatch good⟩
    | ok machine => exact ⟨fun _ => ⟨machine, rfl⟩, fun _ => answer_of_built built⟩
  refine ⟨settled, starts, ?_, ?_⟩
  · intro error failed
    cases built : buildPublisher config store before.1.host with
    | error reason =>
      have refused : answer = .error (.events reason) := answer_of_unbuilt built
      obtain ⟨text, rfl⟩ := buildPublisher_eq_error built
      exact ⟨text, Except.error.inj (failed.symm.trans refused)⟩
    | ok machine =>
      have good : answer = .ok () := answer_of_built built
      cases good.symm.trans failed
  · intro environment freshId loaded
    have tuned : config.Tuned := (Config.checked_of_environment loaded).2
    exact ⟨settled.mpr tuned, starts.trans (and_iff_right tuned)⟩

theorem checked_config_starts_iff_sample :
    let before : Startup × Trace := (.fresh, .empty)
    Config.sample.validate .empty = .ok () ∧ Config.sample.Tuned ∧
      (startPublisher Config.sample unreachable false none before).1 = .ok () := by
  intro before
  have checked : Config.sample.validate .empty = .ok () := rfl
  have starts := checked_config_starts_iff checked unreachable none before
  exact ⟨checked, Config.sample_tuned,
    starts.2.1.mpr ⟨Config.sample_tuned, namesStore_standardUrl⟩⟩

/-- A configuration whose recovery loop would never wait. -/
def restlessConfig : Config := { Config.sample with checkIntervalSecs := 0 }

/-- A configuration with a name and a port for a URL, so that the name is taken for the scheme. -/
def schemelessConfig : Config := { Config.sample with storeUrl := "localhost:6379" }

/-- Both configurations pass their check, but neither of them starts a publisher. -/
theorem checked_configs_without_publisher :
    let before : Startup × Trace := (.fresh, .empty)
    restlessConfig.validate .empty = .ok () ∧
    restlessConfig.publisherSettings.validate = .error (.settings "check_interval must be > 0") ∧
    (startPublisher restlessConfig unreachable false none before).1 =
      .error (.events (.settings "check_interval must be > 0")) ∧
    schemelessConfig.validate .empty = .ok () ∧
    schemelessConfig.publisherSettings.validate = .ok () ∧
    (startPublisher schemelessConfig unreachable false none before).1 =
      .error (.events (.settings "Unsupported event store URL scheme 'localhost'")) := by
  intro before
  have restless : buildPublisher restlessConfig unreachable before.1.host =
      .error (.settings "check_interval must be > 0") := by
    have names : StreamStore.validateUrl restlessConfig.storeUrl = .ok () :=
      StreamStore.validateUrl_eq_ok_iff.mpr namesStore_standardUrl
    rw [buildPublisher, names]
    rfl
  exact ⟨rfl, rfl, answer_of_unbuilt restless, rfl, rfl, rfl⟩

end ChannelGate.Startup
