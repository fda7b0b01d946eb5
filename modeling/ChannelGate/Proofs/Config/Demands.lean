import ChannelGate.Proofs.Config.Variables

set_option autoImplicit false

namespace ChannelGate.Config

/-- What the value of a variable has to be, if there is one, and how another value is reported. -/
structure Demand where
  key : String
  good : String → Prop
  complaint : String → ConfigError → Prop

/-- The variable has no value, or a good one. -/
def Demand.Met (demand : Demand) (environment : Environment) : Prop :=
  ∀ text, environment.value? demand.key = some text → demand.good text

/-- A number in range that is greater than zero. Zero is reported as such. -/
def numberDemand (key : String) : Demand where
  key := key
  good text := ∃ n, Number.Denotes text.toList n ∧ 0 < n ∧ n < Number.unsignedBound
  complaint text error := ∃ reason, error = .invalidValue key text reason ∧
    (reason = "must be greater than 0" ↔ Number.Denotes text.toList 0)

def streamDemand : Demand where
  key := "MQTT_ADAPTER_ES_STREAM"
  good text := text ≠ ""
  complaint _ error := error = .invalid "MQTT_ADAPTER_ES_STREAM must not be empty"

def urlDemand : Demand where
  key := "MQTT_ADAPTER_ES_URL"
  good text := ∃ url, Url.parse text = .ok url
  complaint text error := ∃ fault, Url.parse text = .error fault ∧
    error = .invalidValue "MQTT_ADAPTER_ES_URL" text fault.message

/-- The path of a file that can be opened, or an empty text. -/
def policiesDemand (disk : Disk) : Demand where
  key := "MQTT_ADAPTER_POLICIES_YAML_PATH"
  good text := text = "" ∨ disk.Opens text
  complaint text error :=
    (∃ reason, disk.Reaches text (.file (.unreadable reason)) ∧ error =
      .invalid ("Cannot read Policies YAML file at " ++ Quoted.quote text ++ ": " ++ reason)) ∨
    ((∀ file, ¬ disk.Reaches text (.file file)) ∧
      error = .invalid ("Policies YAML file not found at " ++ Quoted.quote text))

def levelDemand : Demand where
  key := "LOG_LEVEL"
  good text := lowercase text ∈ ["trace", "debug", "info", "warn", "error"]
  complaint text error :=
    error = .invalidValue "LOG_LEVEL" text "must be one of trace, debug, info, warn, error"

def formatDemand : Demand where
  key := "LOG_FORMAT"
  good text := text = "json" ∨ text = "text"
  complaint text error := error = .invalidValue "LOG_FORMAT" text "must be 'json' or 'text'"

/-- All demands, in the order in which they are looked at. -/
def demands (disk : Disk) : List Demand :=
  numberVariables.map (fun entry => numberDemand entry.key) ++
    [streamDemand, urlDemand, policiesDemand disk, levelDemand, formatDemand]

/-- The error is about the first demand that is not met. -/
def Reports (environment : Environment) (demands : List Demand) (error : ConfigError) : Prop :=
  ∃ before demand behind text, demands = before ++ demand :: behind ∧
    (∀ other ∈ before, other.Met environment) ∧ environment.value? demand.key = some text ∧
    ¬ demand.good text ∧ demand.complaint text error

variable {α β : Type} {environment : Environment} {disk : Disk} {demand : Demand}
  {more : List Demand}

theorem Reports.not_met {error : ConfigError} (reports : Reports environment more error) :
    ¬ ∀ demand ∈ more, demand.Met environment := by
  obtain ⟨before, demand, behind, text, rfl, _, present, bad, _⟩ := reports
  intro all
  exact bad (all demand (List.mem_append_right _ List.mem_cons_self) text present)

/-- A step looks at one demand: it succeeds if this is met, and else complains. -/
structure Checks (environment : Environment) (demand : Demand) (result : Except ConfigError α) :
    Prop where
  ok {value : α} (good : result = .ok value) : demand.Met environment
  error {error : ConfigError} (failed : result = .error error) :
    ∃ text, environment.value? demand.key = some text ∧ ¬ demand.good text ∧
      demand.complaint text error

/-- Steps answer for their demands: they succeed if all are met, and else report the first that is
not. -/
structure Answers (environment : Environment) (demands : List Demand)
    (result : Except ConfigError α) : Prop where
  ok {value : α} (good : result = .ok value) : ∀ demand ∈ demands, demand.Met environment
  error {error : ConfigError} (failed : result = .error error) : Reports environment demands error

theorem Answers.exists_ok_iff {result : Except ConfigError α}
    (answers : Answers environment more result) :
    (∃ value, result = .ok value) ↔ ∀ demand ∈ more, demand.Met environment := by
  cases result with
  | ok value => exact ⟨fun _ => answers.ok rfl, fun _ => ⟨value, rfl⟩⟩
  | error error => exact ⟨nofun, fun all => absurd all (answers.error rfl).not_met⟩

theorem Answers.single {result : Except ConfigError α} (checks : Checks environment demand result) :
    Answers environment [demand] result where
  ok good := by
    rw [List.forall_mem_singleton]
    exact checks.ok good
  error failed := by
    obtain ⟨text, present, bad, complaint⟩ := checks.error failed
    exact ⟨[], demand, [], text, rfl, List.forall_mem_nil _, present, bad, complaint⟩

/-- What comes behind a step is only looked at if the step succeeds. -/
theorem Answers.after {first : Except ConfigError α} {next : α → Except ConfigError β}
    (checks : Checks environment demand first)
    (goes : ∀ value, Answers environment more (next value)) :
    Answers environment (demand :: more) (first >>= next) where
  ok good := by
    obtain ⟨middle, early, late⟩ := Result.bind_eq_ok_iff.mp good
    exact List.forall_mem_cons.mpr ⟨checks.ok early, (goes middle).ok late⟩
  error failed := by
    rcases Result.bind_eq_error_iff.mp failed with early | ⟨middle, good, late⟩
    · obtain ⟨text, present, bad, complaint⟩ := checks.error early
      exact ⟨[], demand, more, text, rfl, List.forall_mem_nil _, present, bad, complaint⟩
    · obtain ⟨before, other, behind, text, rfl, met, rest⟩ := (goes middle).error late
      exact ⟨demand :: before, other, behind, text, rfl,
        List.forall_mem_cons.mpr ⟨checks.ok good, met⟩, rest⟩

/-- A last step that cannot fail. -/
theorem Answers.then_pure {first : Except ConfigError α} (answers : Answers environment more first)
    (value : β) : Answers environment more (first >>= fun _ => .ok value) where
  ok good := by
    obtain ⟨middle, early, _⟩ := Result.bind_eq_ok_iff.mp good
    exact answers.ok early
  error failed := by
    rcases Result.bind_eq_error_iff.mp failed with early | ⟨_, _, late⟩
    · exact answers.error early
    · cases late

structure Demand.CheckedBy (demand : Demand) (check : String → Except ConfigError Unit) : Prop where
  ok {text : String} (passed : check text = .ok ()) : demand.good text
  error {text : String} {error : ConfigError} (failed : check text = .error error) :
    ¬ demand.good text ∧ demand.complaint text error

/-- Where the variable has no value a good text stands in for it. -/
theorem Demand.CheckedBy.checks {check : String → Except ConfigError Unit}
    (checked : demand.CheckedBy check) {standard : String} (passes : check standard = .ok ()) :
    Checks environment demand (check ((environment.value? demand.key).getD standard)) where
  ok passed := by
    intro text present
    rw [present] at passed
    exact checked.ok passed
  error failed := by
    cases present : environment.value? demand.key with
    | none =>
      rw [present] at failed
      cases passes.symm.trans failed
    | some text =>
      rw [present] at failed
      exact ⟨text, rfl, checked.error failed⟩

/-- A condition on a text. -/
theorem checkedBy_require {condition : String → Bool} {error : String → ConfigError}
    (good : ∀ text, condition text = true ↔ demand.good text)
    (complaint : ∀ text, demand.complaint text (error text)) :
    demand.CheckedBy fun text => require (condition text) (error text) where
  ok passed := (good _).mp (require_eq_ok_iff.mp passed)
  error {text _} failed := by
    dsimp only [require] at failed
    split at failed
    · cases failed
    · rename_i bad
      cases failed
      exact ⟨fun fine => bad ((good text).mpr fine), complaint text⟩

theorem checkedBy_requireUrl : urlDemand.CheckedBy (requireUrl urlDemand.key) where
  ok passed := requireUrl_eq_ok_iff.mp passed
  error {text _} failed := by
    refine ⟨fun good => ?_, ?_⟩
    · cases failed.symm.trans (requireUrl_eq_ok_iff.mpr good)
    · rw [requireUrl] at failed
      split at failed
      · cases failed
      · rename_i fault unparsed
        cases failed
        exact ⟨fault, unparsed, rfl⟩

theorem digitsError_message_ne (fault : Number.DigitsError) :
    fault.message ≠ "must be greater than 0" := by
  cases fault <;> decide

/-- The error is about the text of the variable, and asks for more than zero only where that is
zero. -/
theorem complaint_of_positive {key text : String} {standard : Nat} {error : ConfigError}
    (present : environment.value? key = some text)
    (failed : positive environment key standard = .error error) :
    (numberDemand key).complaint text error := by
  have zero : Number.readNat Number.unsignedBound text.toList = .ok 0 ↔
      Number.Denotes text.toList 0 := by
    rw [Number.readNat_eq_ok_iff (by decide)]
    exact and_iff_left (by decide)
  rw [positive, present] at failed
  dsimp only at failed
  split at failed
  · rename_i fault unread
    cases failed
    refine ⟨_, rfl, ?_⟩
    rw [← zero, unread]
    refine iff_of_false (digitsError_message_ne fault) fun same => ?_
    cases same
  · rename_i read
    cases failed
    exact ⟨_, rfl, iff_of_true rfl (zero.mp read)⟩
  · cases failed

theorem checks_positive {entry : NumberVariable} (member : entry ∈ numberVariables) :
    Checks environment (numberDemand entry.key)
      (positive environment entry.key entry.standard) where
  ok {value} good := by
    obtain ⟨some, gives⟩ := (positive_eq_ok_iff member).mp good
    intro text present
    cases gives with
    | unset absent => cases present.symm.trans absent
    | written written denotes fits =>
      cases present.symm.trans written
      exact ⟨value, denotes, some, fits⟩
  error {error} failed := by
    cases present : environment.value? entry.key with
    | none =>
      rw [positive, present] at failed
      cases failed
    | some text =>
      refine ⟨text, present, fun number => ?_, complaint_of_positive present failed⟩
      obtain ⟨n, denotes, some, fits⟩ := number
      have good := (positive_eq_ok_iff member).mpr ⟨some, .written present denotes fits⟩
      cases failed.symm.trans good

theorem complaint_of_requireFile {text : String} {error : ConfigError}
    (failed : requireFile disk (some text) = .error error) :
    (policiesDemand disk).complaint text error := by
  have missing : (∀ file, disk.find? text ≠ some (.file file)) →
      ∀ file, ¬ disk.Reaches text (.file file) :=
    fun absent file reaches => absent file (Disk.find?_eq_some_iff.mpr reaches)
  rw [requireFile] at failed
  split at failed
  · cases failed
  · rename_i reason stands
    exact .inl ⟨reason, Disk.find?_eq_some_iff.mp stands, (Except.error.inj failed).symm⟩
  · rename_i unopened unread
    refine .inr ⟨missing ?_, (Except.error.inj failed).symm⟩
    intro file stands
    cases file with
    | readable content => exact unopened content stands
    | unreadable reason => exact unread reason stands

theorem checks_requireFile :
    Checks environment (policiesDemand disk)
      (requireFile disk (filled? environment (policiesDemand disk).key)) where
  ok passed := by
    intro text present
    by_cases empty : text = ""
    · exact .inl empty
    · have path : filled? environment (policiesDemand disk).key = some text := by
        rw [filled?, present, Option.filter_some, if_pos (decide_eq_true empty)]
      exact .inr (requireFile_eq_ok_iff.mp passed text path)
  error {error} failed := by
    cases path : filled? environment (policiesDemand disk).key with
    | none =>
      rw [path] at failed
      cases failed
    | some text =>
      obtain ⟨present, filled⟩ := Option.filter_eq_some_iff.mp path
      refine ⟨text, present, ?_, ?_⟩
      · rintro (empty | opens)
        · exact of_decide_eq_true filled empty
        · have good : requireFile disk (some text) = .ok () := by
            rw [requireFile_eq_ok_iff]
            rintro name ⟨⟩
            exact opens
          rw [path] at failed
          cases failed.symm.trans good
      · rw [path] at failed
        exact complaint_of_requireFile failed

theorem checkedBy_stream :
    streamDemand.CheckedBy fun text =>
      require (text ≠ "") (.invalid "MQTT_ADAPTER_ES_STREAM must not be empty") :=
  checkedBy_require (fun _ => decide_eq_true_iff) fun _ => rfl

theorem checkedBy_requireLevel : levelDemand.CheckedBy requireLevel :=
  checkedBy_require (fun _ => List.contains_iff_mem) fun _ => rfl

theorem checkedBy_format :
    formatDemand.CheckedBy fun text =>
      require (isLogFormat text) (.invalidValue "LOG_FORMAT" text "must be 'json' or 'text'") :=
  checkedBy_require (fun text => by simp [isLogFormat, formatDemand]) fun _ => rfl

/-- The checks of a configuration whose gateway has a name. -/
theorem validate_of_named {config : Config} (named : config.instanceId ≠ "") :
    config.validate disk = (do
      require (config.stream ≠ "") (.invalid "MQTT_ADAPTER_ES_STREAM must not be empty")
      requireUrl "MQTT_ADAPTER_ES_URL" config.storeUrl
      requireFile disk config.policiesPath
      requireLevel config.logLevel
      require (isLogFormat config.logFormat)
        (.invalidValue "LOG_FORMAT" config.logFormat "must be 'json' or 'text'")) := by
  unfold validate
  rw [require_eq_ok_iff.mpr (decide_eq_true named)]
  rfl

theorem requireUrl_standardUrl : requireUrl "MQTT_ADAPTER_ES_URL" standardUrl = .ok () := rfl

/-- A gateway without a name of its own gets one, so only the other texts are looked at. -/
theorem answers_ofVariables {freshId : String} (fresh : freshId ≠ "") :
    Answers environment (demands disk) (ofVariables environment disk freshId) := by
  have named : (filled? environment "MQTT_ADAPTER_INSTANCE_ID").getD freshId ≠ "" := by
    cases id : filled? environment "MQTT_ADAPTER_INSTANCE_ID" with
    | none => exact fresh
    | some name => exact of_decide_eq_true (Option.filter_eq_some_iff.mp id).2
  have numbers : ∀ entry ∈ numberVariables, Checks environment (numberDemand entry.key)
      (positive environment entry.key entry.standard) := fun _ member => checks_positive member
  simp only [numberVariables, List.forall_mem_cons] at numbers
  obtain ⟨checkInterval, probeTimeout, writeTimeout, maxPending, maxStreamLen, cacheTtl, _⟩ :=
    numbers
  refine .after checkInterval fun _ => .after probeTimeout fun _ => .after writeTimeout fun _ =>
    .after maxPending fun _ => .after maxStreamLen fun _ => .after cacheTtl fun _ => .then_pure ?_ _
  rw [validate_of_named named]
  exact .after (checkedBy_stream.checks rfl) fun _ =>
    .after (checkedBy_requireUrl.checks requireUrl_standardUrl) fun _ =>
    .after checks_requireFile fun _ =>
    .after (checkedBy_requireLevel.checks rfl) fun _ => .single (checkedBy_format.checks rfl)

theorem names_of_complaint (member : demand ∈ demands disk) {text key value reason : String}
    (complaint : demand.complaint text (.invalidValue key value reason)) :
    key = demand.key ∧ value = text := by
  rcases List.mem_append.mp member with number | other
  · obtain ⟨entry, _, rfl⟩ := List.mem_map.mp number
    obtain ⟨_, same, _⟩ := complaint
    cases same
    exact ⟨rfl, rfl⟩
  · simp only [List.mem_cons, List.not_mem_nil, or_false] at other
    rcases other with rfl | rfl | rfl | rfl | rfl
    · cases complaint
    · obtain ⟨_, _, same⟩ := complaint
      cases same
      exact ⟨rfl, rfl⟩
    · rcases complaint with ⟨_, _, same⟩ | ⟨_, same⟩ <;> cases same
    · cases complaint
      exact ⟨rfl, rfl⟩
    · cases complaint
      exact ⟨rfl, rfl⟩

/-- An environment is accepted if and only if it meets all demands. Otherwise the error is about the
first demand that is not met, and where it names a value it names the variable of this demand and
exactly its text. -/
theorem environment_is_accepted_iff {freshId : String} (fresh : freshId ≠ "")
    (environment : Environment) (disk : Disk) :
    let effective := environment.load disk
    ((∃ config, ofEnvironment environment disk freshId = .ok config) ↔
      ∀ demand ∈ demands disk, demand.Met effective) ∧
    ∀ error, ofEnvironment environment disk freshId = .error error →
      ∃ before demand behind text, demands disk = before ++ demand :: behind ∧
        (∀ other ∈ before, other.Met effective) ∧
        effective.value? demand.key = some text ∧ ¬ demand.good text ∧
        demand.complaint text error ∧
        ∀ key value reason, error = .invalidValue key value reason →
          key = demand.key ∧ value = text := by
  intro effective
  have answers : Answers effective (demands disk) (ofEnvironment environment disk freshId) :=
    answers_ofVariables fresh
  refine ⟨answers.exists_ok_iff, fun error failed => ?_⟩
  obtain ⟨before, demand, behind, text, whole, met, present, bad, complaint⟩ :=
    answers.error failed
  refine ⟨before, demand, behind, text, whole, met, present, bad, complaint, ?_⟩
  rintro key value reason rfl
  have member : demand ∈ demands disk := by
    rw [whole]
    exact List.mem_append_right _ List.mem_cons_self
  exact names_of_complaint member complaint

/-- The file that can be opened, and one that cannot in a directory beside it. -/
def guardedDisk : Disk :=
  policiesDisk.put "keys/policies.yaml" fun _ =>
    .file (.unreadable "Permission denied (os error 13)")

/-- An environment that says where the policies are, and a format that does not exist. -/
def filedEnvironment (path format : String) : Environment :=
  (Environment.set [] "LOG_FORMAT" format).set "MQTT_ADAPTER_POLICIES_YAML_PATH" path

theorem value?_filedEnvironment (path format key : String) :
    (filedEnvironment path format).value? key =
      if key = "MQTT_ADAPTER_POLICIES_YAML_PATH" then some path
      else if key = "LOG_FORMAT" then some format else none := by
  rw [filedEnvironment, Environment.value?_set, Environment.value?_set]
  rfl

theorem load_guardedDisk (environment : Environment) :
    environment.load guardedDisk = environment := rfl

/-- Policies in a file that can be opened are accepted, from the root and by way of a directory. A
file that cannot be opened and one that is missing are reported, in front of the format. -/
theorem environment_is_accepted_iff_filed :
    (∀ demand ∈ demands guardedDisk,
      demand.Met (filedEnvironment "/work/keys/../policies.yaml" "text")) ∧
    ∀ path reason, (path, reason) ∈
        [("keys/policies.yaml", "Cannot read Policies YAML file at " ++
            Quoted.quote "keys/policies.yaml" ++ ": " ++ "Permission denied (os error 13)"),
          ("../policies.yaml", "Policies YAML file not found at " ++
            Quoted.quote "../policies.yaml")] →
      ofEnvironment (filedEnvironment path "xml") guardedDisk "gate" = .error (.invalid reason) ∧
      ∃ before demand behind text, demands guardedDisk = before ++ demand :: behind ∧
        (∀ other ∈ before, other.Met (filedEnvironment path "xml")) ∧
        (filedEnvironment path "xml").value? demand.key = some text ∧ ¬ demand.good text ∧
        demand.complaint text (.invalid reason) := by
  have named : "gate" ≠ "" := by decide
  constructor
  · have accepted := environment_is_accepted_iff named
      (filedEnvironment "/work/keys/../policies.yaml" "text") guardedDisk
    rw [load_guardedDisk] at accepted
    refine accepted.1.mp ?_
    simp only [ofEnvironment, load_guardedDisk, ofVariables, positive, filled?,
      value?_filedEnvironment]
    exact ⟨_, rfl⟩
  · intro path reason member
    have failed : ofEnvironment (filedEnvironment path "xml") guardedDisk "gate" =
        .error (.invalid reason) := by
      simp only [List.mem_cons, List.not_mem_nil, or_false, Prod.mk.injEq] at member
      simp only [ofEnvironment, load_guardedDisk, ofVariables, positive, filled?,
        value?_filedEnvironment]
      rcases member with ⟨rfl, rfl⟩ | ⟨rfl, rfl⟩ <;> rfl
    have refused := environment_is_accepted_iff named (filedEnvironment path "xml") guardedDisk
    rw [load_guardedDisk] at refused
    obtain ⟨before, demand, behind, text, whole, met, present, bad, complaint, _⟩ :=
      refused.2 _ failed
    exact ⟨failed, before, demand, behind, text, whole, met, present, bad, complaint⟩

end ChannelGate.Config
