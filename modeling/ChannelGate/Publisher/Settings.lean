import ChannelGate.Error

set_option autoImplicit false

namespace ChannelGate.Publisher

/-- The stream events go to, the limits of the stream and of the buffer, the period of the recovery
loop and the time limits of store calls. -/
structure Settings where
  stream : String
  maxStreamLen : Nat
  maxPending : Nat
  checkInterval : Nat
  probeTimeout : Nat
  writeTimeout : Nat
  deriving DecidableEq

namespace Settings

def standard : Settings :=
  ⟨"mainflux.mqtt", 1000000000, 1000000, 60000, 100, 1000⟩

/-- The first setting that no publisher can work with. -/
def fault? (settings : Settings) : Option String :=
  if settings.stream = "" then some "stream name must not be empty"
  else if settings.maxStreamLen = 0 then some "max_stream_len must be > 0"
  else if settings.maxPending = 0 then some "max_pending must be > 0"
  else if settings.checkInterval = 0 then some "check_interval must be > 0"
  else if settings.probeTimeout = 0 then some "probe_timeout must be > 0"
  else if settings.writeTimeout = 0 then some "write_timeout must be > 0"
  else none

def validate (settings : Settings) : Except EventError Unit :=
  match settings.fault? with
  | some reason => .error (.settings reason)
  | none => .ok ()

end Settings

theorem standard_valid : Settings.standard.fault? = none := by decide

end ChannelGate.Publisher
