import ChannelGate.Config.Basic
import ChannelGate.Proofs.Config.Paths
import ChannelGate.Proofs.Results

set_option autoImplicit false

namespace ChannelGate

namespace Publisher.Settings

structure Workable (settings : Settings) : Prop where
  stream : settings.stream ≠ ""
  maxStreamLen : 0 < settings.maxStreamLen
  maxPending : 0 < settings.maxPending
  checkInterval : 0 < settings.checkInterval
  probeTimeout : 0 < settings.probeTimeout
  writeTimeout : 0 < settings.writeTimeout

theorem faultless_iff {faulty : Prop} [Decidable faulty] {reason : String} {later : Option String} :
    (if faulty then some reason else later) = none ↔ ¬ faulty ∧ later = none := by
  by_cases found : faulty
  · simp [found]
  · simp [found]

theorem fault?_eq_none_iff_workable {settings : Settings} :
    settings.fault? = none ↔ settings.Workable := by
  simp only [fault?, faultless_iff, ← Nat.pos_iff_ne_zero]
  constructor
  · intro faultless
    obtain ⟨stream, maxStreamLen, maxPending, checkInterval, probeTimeout, writeTimeout, _⟩ :=
      faultless
    exact ⟨stream, maxStreamLen, maxPending, checkInterval, probeTimeout, writeTimeout⟩
  · intro workable
    exact ⟨workable.stream, workable.maxStreamLen, workable.maxPending, workable.checkInterval,
      workable.probeTimeout, workable.writeTimeout, trivial⟩

theorem validate_eq_ok_iff {settings : Settings} :
    settings.validate = .ok () ↔ settings.Workable := by
  rw [← fault?_eq_none_iff_workable]
  unfold validate
  cases settings.fault? with
  | some reason => exact ⟨nofun, nofun⟩
  | none => exact ⟨fun _ => rfl, fun _ => rfl⟩

end Publisher.Settings

/-- The path leads to a file that can be opened. -/
def Disk.Opens (disk : Disk) (path : String) : Prop :=
  ∃ content, disk.Reaches path (.file (.readable content))

/-- The levels that are parsed are those with a name that may be configured. -/
theorem Level.exists_parse_iff {name : String} :
    (∃ level, Level.parse name = .ok level) ↔ lowercase name ∈ Config.levelNames := by
  have names : Config.levelNames = Level.named.map Prod.fst := rfl
  rw [names, List.mem_map, parse]
  cases found : Level.named.lookup (lowercase name) with
  | none =>
    have absent := List.lookup_eq_none_iff.mp found
    constructor
    · rintro ⟨level, ⟨⟩⟩
    · rintro ⟨entry, member, same⟩
      have differs := absent entry member
      rw [same] at differs
      simp at differs
  | some level =>
    obtain ⟨entry, member, same⟩ := List.lookup_isSome_iff.mp (Option.isSome_of_eq_some found)
    exact ⟨fun _ => ⟨entry, member, (eq_of_beq same).symm⟩, fun _ => ⟨level, rfl⟩⟩

namespace Config

variable {config : Config} {disk : Disk}

/-- The texts of the configuration can be used: neither the gateway nor the stream is without a
name, the store has a URL, the policies are in a file, and log lines have a level and a format. -/
structure Readable (config : Config) (disk : Disk) : Prop where
  instanceId : config.instanceId ≠ ""
  stream : config.stream ≠ ""
  storeUrl : ∃ url, Url.parse config.storeUrl = .ok url
  policiesPath : ∀ path, config.policiesPath = some path → disk.Opens path
  logLevel : ∃ level, Level.parse config.logLevel = .ok level
  logFormat : config.logFormat = "json" ∨ config.logFormat = "text"

/-- The numbers of the configuration that a publisher works with are greater than zero. -/
structure Tuned (config : Config) : Prop where
  checkIntervalSecs : 0 < config.checkIntervalSecs
  probeTimeoutMs : 0 < config.probeTimeoutMs
  writeTimeoutMs : 0 < config.writeTimeoutMs
  maxPending : 0 < config.maxPending
  maxStreamLen : 0 < config.maxStreamLen

theorem require_eq_ok_iff {condition : Bool} {error : ConfigError} :
    require condition error = .ok () ↔ condition = true := by
  cases condition with
  | false => exact ⟨nofun, nofun⟩
  | true => exact ⟨fun _ => rfl, fun _ => rfl⟩

theorem requireUrl_eq_ok_iff {key text : String} :
    requireUrl key text = .ok () ↔ ∃ url, Url.parse text = .ok url := by
  unfold requireUrl
  cases Url.parse text with
  | error error => exact ⟨nofun, nofun⟩
  | ok url => exact ⟨fun _ => ⟨url, rfl⟩, fun _ => rfl⟩

theorem requireFile_eq_ok_iff {path : Option String} :
    requireFile disk path = .ok () ↔ ∀ name, path = some name → disk.Opens name := by
  cases path with
  | none => exact ⟨fun _ => nofun, fun _ => rfl⟩
  | some path =>
    constructor
    · intro found name same
      cases same
      rw [requireFile] at found
      split at found
      · rename_i content stands
        exact ⟨content, Disk.find?_eq_some_iff.mp stands⟩
      · cases found
      · cases found
    · intro opens
      obtain ⟨content, stands⟩ := opens path rfl
      rw [requireFile, Disk.find?_eq_some_iff.mpr stands]

theorem requireLevel_eq_ok_iff {name : String} :
    requireLevel name = .ok () ↔ ∃ level, Level.parse name = .ok level := by
  rw [requireLevel, require_eq_ok_iff, List.contains_iff_mem, Level.exists_parse_iff]

/-- A configuration passes the check if and only if its texts can be used; its numbers play no
part. -/
theorem validate_eq_ok_iff : config.validate disk = .ok () ↔ config.Readable disk := by
  simp only [validate, Result.then_eq_ok_iff, require_eq_ok_iff, requireUrl_eq_ok_iff,
    requireFile_eq_ok_iff, requireLevel_eq_ok_iff, isLogFormat, decide_eq_true_eq,
    Bool.or_eq_true]
  constructor
  · intro checked
    obtain ⟨instanceId, stream, storeUrl, policiesPath, logLevel, logFormat⟩ := checked
    exact ⟨instanceId, stream, storeUrl, policiesPath, logLevel, logFormat⟩
  · intro readable
    exact ⟨readable.instanceId, readable.stream, readable.storeUrl, readable.policiesPath,
      readable.logLevel, readable.logFormat⟩

/-- The settings of a publisher are workable if the stream has a name and the numbers are greater
than zero. -/
theorem publisherSettings_workable_iff :
    config.publisherSettings.Workable ↔ config.stream ≠ "" ∧ config.Tuned := by
  constructor
  · intro workable
    have interval : 0 < 1000 * config.checkIntervalSecs := workable.checkInterval
    have ticks : 0 < config.checkIntervalSecs := by omega
    exact ⟨workable.stream, ticks, workable.probeTimeout, workable.writeTimeout,
      workable.maxPending, workable.maxStreamLen⟩
  · intro usable
    obtain ⟨stream, tuned⟩ := usable
    have ticks := tuned.checkIntervalSecs
    have interval : 0 < 1000 * config.checkIntervalSecs := by omega
    exact ⟨stream, tuned.maxStreamLen, tuned.maxPending, interval, tuned.probeTimeoutMs,
      tuned.writeTimeoutMs⟩

theorem sample_tuned : sample.Tuned := ⟨by decide, by decide, by decide, by decide, by decide⟩

theorem positive_pos {environment : Environment} {key : String} {standard value : Nat}
    (some : 0 < standard) (read : positive environment key standard = .ok value) : 0 < value := by
  unfold positive at read
  split at read
  · exact Except.ok.inj read ▸ some
  · split at read
    · cases read
    · cases read
    · rename_i nonzero _
      have same := Except.ok.inj read
      have apart : value ≠ 0 := fun zero => nonzero (same.trans zero)
      omega

/-- Whatever an environment says, its configuration was checked, and its numbers are greater than
zero. -/
theorem checked_of_environment {environment : Environment} {freshId : String}
    (loaded : ofEnvironment environment disk freshId = .ok config) :
    config.validate disk = .ok () ∧ config.Tuned := by
  simp only [ofEnvironment, ofVariables, Result.bind_eq_ok_iff] at loaded
  obtain ⟨checkInterval, ticks, probeTimeout, probes, writeTimeout, writes, maxPending, buffers,
    maxStreamLen, streams, _, _, _, checked, same⟩ := loaded
  rw [← Except.ok.inj same]
  refine ⟨checked, ?_⟩
  exact ⟨positive_pos (by decide) ticks, positive_pos (by decide) probes,
    positive_pos (by decide) writes, positive_pos (by decide) buffers,
    positive_pos (by decide) streams⟩

end Config

end ChannelGate
