import ChannelGate.Proofs.Results
import ChannelGate.StreamStore.Address

set_option autoImplicit false

namespace ChannelGate.StreamStore

def KnowsVersion (url : Url) : Prop :=
  ∀ written, url.queryValue? "protocol" = some written → written ∈ ["2", "resp2", "3", "resp3"]

/-- The URL names a host and maybe a database there, and the parts of its user are texts. -/
structure NamesHost (url : Url) : Prop where
  scheme : url.scheme = "redis"
  host : url.host ≠ .missing
  database : trimSlashes url.path = [] ∨ isDatabase (trimSlashes url.path) = true
  username : isEscapedText url.username = true
  password : ∀ password, url.password = some password → isEscapedText password = true
  version : KnowsVersion url

/-- The URL names a socket file on this machine and maybe a database behind it. -/
structure NamesSocket (url : Url) : Prop where
  scheme : url.scheme = "redis+unix"
  path : url.path.head? = some '/'
  here : isLocal url = true
  database : ∀ text, url.queryValue? "db" = some text → isDatabase text.toList = true
  version : KnowsVersion url

def NamesStore (text : String) : Prop :=
  ∃ url, Url.parse text = .ok url ∧ (NamesHost url ∨ NamesSocket url)

theorem isEscapedText_nil : isEscapedText [] = true := by
  change (Utf8.decode? []).isSome = true
  rw [Utf8.decode?]
  rfl

theorem require_eq_ok_iff {condition : Bool} {fault : AddressFault} :
    require condition fault = .ok () ↔ condition = true := by
  cases condition with
  | false => exact ⟨nofun, nofun⟩
  | true => exact ⟨fun _ => rfl, fun _ => rfl⟩

theorem checkVersion_eq_ok_iff {url : Url} : checkVersion url = .ok () ↔ KnowsVersion url := by
  unfold checkVersion KnowsVersion
  cases url.queryValue? "protocol" with
  | none => exact ⟨fun _ => nofun, fun _ => rfl⟩
  | some written =>
    dsimp only
    rw [require_eq_ok_iff, List.contains_iff_mem]
    constructor
    · intro known other same
      exact Option.some.inj same ▸ known
    · exact fun known => known written rfl

theorem checkHost_eq_ok_iff {url : Url} (scheme : url.scheme ≠ "redis+unix")
    (known : url.scheme ∈ schemes) : checkHost url = .ok () ↔ NamesHost url := by
  have plain : url.scheme ≠ "rediss" ↔ url.scheme = "redis" := by
    simp only [schemes, List.mem_cons, List.not_mem_nil, or_false] at known
    constructor
    · intro unsecured
      rcases known with redis | rediss | socket
      · exact redis
      · exact absurd rediss unsecured
      · exact absurd socket scheme
    · intro redis
      rw [redis]
      decide
  simp only [checkHost, Result.then_eq_ok_iff, require_eq_ok_iff, checkVersion_eq_ok_iff,
    Bool.or_eq_true, decide_eq_true_eq, List.isEmpty_iff, Option.all_eq_true, plain]
  constructor
  · intro checked
    obtain ⟨host, redis, database, username, password, version⟩ := checked
    exact ⟨redis, host, database, username, password, version⟩
  · intro names
    exact ⟨names.host, names.scheme, names.database, names.username, names.password,
      names.version⟩

theorem checkSocket_eq_ok_iff {url : Url} (scheme : url.scheme = "redis+unix") :
    checkSocket url = .ok () ↔ NamesSocket url := by
  simp only [checkSocket, Result.then_eq_ok_iff, require_eq_ok_iff, checkVersion_eq_ok_iff,
    Bool.and_eq_true, decide_eq_true_eq, Option.all_eq_true]
  constructor
  · intro checked
    obtain ⟨⟨path, here⟩, database, version⟩ := checked
    exact ⟨scheme, path, here, database, version⟩
  · intro names
    exact ⟨⟨names.path, names.here⟩, names.database, names.version⟩

theorem checkAddress_eq_ok_iff {url : Url} (known : url.scheme ∈ schemes) :
    checkAddress url = .ok () ↔ NamesHost url ∨ NamesSocket url := by
  unfold checkAddress
  split
  · rename_i scheme
    rw [checkSocket_eq_ok_iff scheme]
    constructor
    · exact .inr
    · intro names
      rcases names with host | socket
      · exact absurd (host.scheme.symm.trans scheme) (by decide)
      · exact socket
  · rename_i scheme
    rw [checkHost_eq_ok_iff scheme known]
    constructor
    · exact .inl
    · intro names
      rcases names with host | socket
      · exact host
      · exact absurd socket.scheme scheme

/-- A text passes the check of a store URL if and only if it names a store. -/
theorem validateUrl_eq_ok_iff {text : String} : validateUrl text = .ok () ↔ NamesStore text := by
  unfold validateUrl NamesStore
  cases Url.parse text with
  | error error =>
    constructor
    · exact nofun
    · intro names
      obtain ⟨url, parsed, _⟩ := names
      cases parsed
  | ok url =>
    have named : (∃ other, (Except.ok url : Except UrlError Url) = .ok other ∧
        (NamesHost other ∨ NamesSocket other)) ↔ NamesHost url ∨ NamesSocket url :=
      ⟨fun ⟨_, same, names⟩ => Except.ok.inj same ▸ names, fun names => ⟨url, rfl, names⟩⟩
    rw [named]
    by_cases known : url.scheme ∈ schemes
    · have supported : schemes.contains url.scheme = true := List.contains_iff_mem.mpr known
      rw [← checkAddress_eq_ok_iff known]
      simp only [supported, Bool.not_true, Bool.false_eq_true, if_false]
      cases checkAddress url with
      | error fault => exact ⟨nofun, nofun⟩
      | ok => exact ⟨fun _ => rfl, fun _ => rfl⟩
    · have unsupported : schemes.contains url.scheme = false :=
        Bool.eq_false_iff.mpr fun found => known (List.contains_iff_mem.mp found)
      simp only [unsupported, Bool.not_false, if_true]
      constructor
      · exact nofun
      · intro names
        rcases names with host | socket
        · exact absurd (by rw [host.scheme]; decide) known
        · exact absurd (by rw [socket.scheme]; decide) known

/-- A text that names no store is refused for its settings. -/
theorem validateUrl_eq_error {text : String} {error : EventError}
    (refused : validateUrl text = .error error) : ∃ reason, error = .settings reason := by
  unfold validateUrl at refused
  split at refused
  · exact ⟨_, (Except.error.inj refused).symm⟩
  · split at refused
    · exact ⟨_, (Except.error.inj refused).symm⟩
    · split at refused
      · exact ⟨_, (Except.error.inj refused).symm⟩
      · cases refused

end ChannelGate.StreamStore
