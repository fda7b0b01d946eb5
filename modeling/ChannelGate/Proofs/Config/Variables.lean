import ChannelGate.Proofs.Config.Validity
import ChannelGate.Proofs.Number.Decimal
import ChannelGate.Proofs.Text.Utf8

set_option autoImplicit false

namespace ChannelGate

theorem Environment.value?_set (environment : Environment) (name value key : String) :
    (environment.set name value).value? key =
      if key = name then some value else environment.value? key := by
  unfold Environment.value? set
  rw [List.lookup_cons]
  by_cases same : key = name
  · have text : Utf8.toString? (Utf8.ofString value) = some value := by
      rw [Utf8.toString?, Utf8.ofString, Utf8.decode?_eq_some_iff.mpr rfl, Option.map_some,
        String.ofList_toList]
    rw [beq_iff_eq.mpr same, if_pos same]
    exact text
  · rw [beq_false_of_ne same, if_neg same]

namespace Config

/-- A variable for a number: its name, the number where it is not set, and the part of a
configuration that it is for. -/
structure NumberVariable where
  key : String
  standard : Nat
  part : Config → Nat

def numberVariables : List NumberVariable :=
  [⟨"MQTT_ADAPTER_ES_CHECK_INTERVAL_SECS", 60, checkIntervalSecs⟩,
    ⟨"MQTT_ADAPTER_ES_PING_TIMEOUT_MS", 100, probeTimeoutMs⟩,
    ⟨"MQTT_ADAPTER_ES_WRITE_TIMEOUT_MS", 1000, writeTimeoutMs⟩,
    ⟨"MQTT_ADAPTER_ES_MAX_UNPUBLISHED", 1000000, maxPending⟩,
    ⟨"MQTT_ADAPTER_ES_MAX_STREAM_LEN", 1000000000, maxStreamLen⟩,
    ⟨"MQTT_ADAPTER_AUTH_CACHE_TTL_SECS", 10, cacheTtlSecs⟩]

/-- The number that an environment gives for a variable: what its text says, or the standard one if
it has no text. -/
inductive Gives (environment : Environment) (entry : NumberVariable) (value : Nat) : Prop
  | unset (absent : environment.value? entry.key = none) (same : value = entry.standard)
  | written {text : String} (present : environment.value? entry.key = some text)
    (denotes : Number.Denotes text.toList value) (fits : value < Number.unsignedBound)

variable {environment : Environment} {disk : Disk} {freshId : String} {config : Config}

theorem numberVariables_standard_pos :
    ∀ entry ∈ numberVariables, 0 < entry.standard := by
  simp [numberVariables]

theorem positive_eq_ok_iff {entry : NumberVariable} (member : entry ∈ numberVariables)
    {value : Nat} :
    positive environment entry.key entry.standard = .ok value ↔
      0 < value ∧ Gives environment entry value := by
  have some := numberVariables_standard_pos entry member
  unfold positive
  cases written : environment.value? entry.key with
  | none =>
    constructor
    · intro read
      cases read
      exact ⟨some, .unset written rfl⟩
    · rintro ⟨_, gives⟩
      cases gives with
      | unset _ same => rw [same]
      | written present => cases written.symm.trans present
  | some text =>
    have read : ∀ n, Number.readNat Number.unsignedBound text.toList = .ok n ↔
        Number.Denotes text.toList n ∧ n < Number.unsignedBound :=
      fun _ => Number.readNat_eq_ok_iff (by decide)
    have gives : Gives environment entry value ↔
        Number.Denotes text.toList value ∧ value < Number.unsignedBound := by
      constructor
      · intro given
        cases given with
        | unset absent => cases written.symm.trans absent
        | written present denotes fits =>
          cases written.symm.trans present
          exact ⟨denotes, fits⟩
      · exact fun ⟨denotes, fits⟩ => .written written denotes fits
    rw [gives, ← read]
    dsimp only
    split
    · rename_i failed
      rw [failed]
      exact ⟨nofun, fun good => nomatch good.2⟩
    · rename_i zero
      rw [zero]
      constructor
      · exact nofun
      · rintro ⟨positive, same⟩
        cases same
        cases positive
    · rename_i n nonzero found
      rw [found]
      constructor
      · intro same
        cases same
        exact ⟨Nat.pos_of_ne_zero fun zero => nonzero zero, rfl⟩
      · exact fun good => congrArg _ (Except.ok.inj good.2)

/-- What a configuration was made of: each number was given, the stream is the one that was named,
and the whole was checked. -/
theorem made_of_variables (loaded : ofVariables environment disk freshId = .ok config) :
    (∀ entry ∈ numberVariables, 0 < entry.part config ∧
      Gives environment entry (entry.part config)) ∧
    config.stream =
      (environment.value? "MQTT_ADAPTER_ES_STREAM").getD Publisher.Settings.standard.stream ∧
    config.validate disk = .ok () := by
  simp only [ofVariables, Result.bind_eq_ok_iff] at loaded
  obtain ⟨checkInterval, ticks, probeTimeout, probes, writeTimeout, writes, maxPending, buffers,
    maxStreamLen, streams, cacheTtl, keeps, _, checked, same⟩ := loaded
  rw [← Except.ok.inj same]
  refine ⟨?_, rfl, checked⟩
  intro entry member
  have given : ∀ {value : Nat}, positive environment entry.key entry.standard = .ok value →
      0 < value ∧ Gives environment entry value := (positive_eq_ok_iff member).mp
  simp only [numberVariables, List.mem_cons, List.not_mem_nil, or_false] at member
  rcases member with rfl | rfl | rfl | rfl | rfl | rfl
  · exact given ticks
  · exact given probes
  · exact given writes
  · exact given buffers
  · exact given streams
  · exact given keeps

/-- Every environment that is accepted yields settings that can be used. Each number is at least one
and is what the text of its variable says, or the standard one; the event publisher takes its
settings, which are the configured ones; answers of the policy are kept for some time; the level can
be parsed; and the check passes again. -/
theorem accepted_environment_is_usable
    (loaded : ofEnvironment environment disk freshId = .ok config) :
    let effective := environment.load disk
    (∀ entry ∈ numberVariables, 1 ≤ entry.part config ∧
      Gives effective entry (entry.part config)) ∧
    config.publisherSettings.validate = .ok () ∧
    config.publisherSettings =
      { stream := (effective.value? "MQTT_ADAPTER_ES_STREAM").getD "mainflux.mqtt"
        maxStreamLen := config.maxStreamLen
        maxPending := config.maxPending
        checkInterval := 1000 * config.checkIntervalSecs
        probeTimeout := config.probeTimeoutMs
        writeTimeout := config.writeTimeoutMs } ∧
    0 < config.cacheTtlSecs ∧ (∃ level, Level.parse config.logLevel = .ok level) ∧
    config.validate disk = .ok () := by
  intro effective
  obtain ⟨numbers, stream, checked⟩ := made_of_variables loaded
  have readable : config.Readable disk := validate_eq_ok_iff.mp checked
  have tuned : config.Tuned := (checked_of_environment loaded).2
  have cacheTtl : 0 < config.cacheTtlSecs :=
    (numbers ⟨"MQTT_ADAPTER_AUTH_CACHE_TTL_SECS", 10, cacheTtlSecs⟩ (by simp [numberVariables])).1
  refine ⟨numbers, ?_, ?_, cacheTtl, readable.logLevel, checked⟩
  · rw [Publisher.Settings.validate_eq_ok_iff, publisherSettings_workable_iff]
    exact ⟨readable.stream, tuned⟩
  · rw [publisherSettings, stream]
    rfl

def policiesDisk : Disk := Disk.empty.addFile "policies.yaml" []

/-- A gateway that gives its store a quarter of a second to answer a probe, and has its policies in
a file that it names from the root. -/
def patientEnvironment : Environment :=
  (Environment.set [] "MQTT_ADAPTER_POLICIES_YAML_PATH" "/work/policies.yaml").set
    "MQTT_ADAPTER_ES_PING_TIMEOUT_MS" "+0250"

theorem value?_patientEnvironment (key : String) :
    patientEnvironment.value? key =
      if key = "MQTT_ADAPTER_ES_PING_TIMEOUT_MS" then some "+0250"
      else if key = "MQTT_ADAPTER_POLICIES_YAML_PATH" then some "/work/policies.yaml" else none := by
  rw [patientEnvironment, Environment.value?_set, Environment.value?_set]
  rfl

theorem patientEnvironment_accepted :
    ∃ config, ofEnvironment patientEnvironment policiesDisk "gate" = .ok config ∧
      config.policiesPath = some "/work/policies.yaml" ∧ config.probeTimeoutMs = 250 := by
  have unfiled : patientEnvironment.load policiesDisk = patientEnvironment := rfl
  simp only [ofEnvironment, unfiled, ofVariables, positive, filled?, value?_patientEnvironment]
  exact ⟨_, rfl, rfl, rfl⟩

theorem accepted_environment_is_usable_patient :
    ∃ config, ofEnvironment patientEnvironment policiesDisk "gate" = .ok config ∧
      config.policiesPath = some "/work/policies.yaml" ∧ config.probeTimeoutMs = 250 ∧
      Number.Denotes "+0250".toList config.probeTimeoutMs ∧
      config.publisherSettings.validate = .ok () ∧
      ∃ level, Level.parse config.logLevel = .ok level := by
  obtain ⟨config, loaded, policiesPath, probeTimeout⟩ := patientEnvironment_accepted
  obtain ⟨numbers, built, _, _, level, _⟩ := accepted_environment_is_usable loaded
  obtain ⟨_, given⟩ := numbers ⟨"MQTT_ADAPTER_ES_PING_TIMEOUT_MS", 100, probeTimeoutMs⟩
    (by simp [numberVariables])
  have present : patientEnvironment.value? "MQTT_ADAPTER_ES_PING_TIMEOUT_MS" = some "+0250" :=
    value?_patientEnvironment _
  cases given with
  | unset absent => cases present.symm.trans absent
  | written written denotes =>
    cases present.symm.trans written
    exact ⟨config, loaded, policiesPath, probeTimeout, denotes, built, level⟩

end Config

end ChannelGate
