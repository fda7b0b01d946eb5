import ChannelGate.Config.Basic
import ChannelGate.Event.Sink
import ChannelGate.Policy.Cache
import ChannelGate.Policy.Definition
import ChannelGate.StreamStore.Address

set_option autoImplicit false

namespace ChannelGate

/-- What was started so far: the policy, all publishers in the order in which they were started, the
one in use, the registry that shows their metrics, and whether everything is to stop. The clock ends
at `clockEnd`, counted from the start of a publisher. -/
structure Startup where
  policy : Option (Cache × Directory)
  publishers : List Publisher.Machine
  inUse : Option Nat
  registry : Registry Nat
  stopping : Bool
  clockEnd : Nat

namespace Startup

def fresh : Startup := ⟨none, [], none, .empty, false, Publisher.Host.fresh.clockEnd⟩

/-- A store that cannot be reached: every call fails at once, but it can be closed. -/
def unreachable : Publisher.Store :=
  let refused : Publisher.Reply :=
    ⟨some 0, .error (.store "Failed to connect to Redis: No such file or directory (os error 2)")⟩
  ⟨[refused], [refused], [.ready]⟩

def loadPolicy (config : Config) (disk : Disk) : Run Startup (Except StartupError Unit) := do
  let loaded ← match config.policiesPath with
    | some path => pure (Directory.ofFile disk path)
    | none =>
      Run.log .warn "No policies file configured, every credential will be rejected" []
      pure (.ok .empty)
  match loaded with
  | .error e => return .error (.policy e)
  | .ok directory =>
    Run.log .info "Policy client loaded" [("things", .number directory.size)]
    Run.onState fun startup =>
      (.ok (), { startup with policy := some (.empty, directory) })

def onPublisher {α : Type} (number : Nat) (absent : α) (body : Run Publisher.Machine α) :
    Run Startup α := do
  let startup ← Run.onState fun startup => (startup, startup)
  match startup.publishers[number]? with
  | none => return absent
  | some machine =>
    Run.zoom (fun _ => machine)
      (fun machine startup =>
        { startup with publishers := startup.publishers.set number machine })
      body

def onInUse {α : Type} (absent : α) (body : Run Publisher.Machine α) : Run Startup α := do
  let startup ← Run.onState fun startup => (startup, startup)
  match startup.inUse with
  | none => return absent
  | some number => onPublisher number absent body

/-- Drops a publisher, which tells its recovery loop to stop. -/
def dropPublisher (number : Nat) : Run Startup Unit :=
  onPublisher number () (Publisher.withLines fun machine => ((), machine.cancel))

def host (startup : Startup) : Publisher.Host :=
  ⟨startup.clockEnd, startup.publishers.length + 1⟩

def buildPublisher (config : Config) (store : Publisher.Store) (host : Publisher.Host) :
    Except EventError Publisher.Machine := do
  StreamStore.validateUrl config.storeUrl
  Publisher.Machine.buildOn host config.publisherSettings store

/-- Takes a publisher that was built into the process. If everything is to stop, so is its recovery
loop. -/
def adopt (machine : Publisher.Machine) : Run Startup Nat := do
  Run.relay machine.lines
  let (number, stopping) ← Run.onState fun startup =>
    ((startup.publishers.length, startup.stopping),
      { startup with publishers := startup.publishers ++ [{ machine with lines := [] }] })
  if stopping then dropPublisher number
  return number

def showMetrics (number : Nat) : Run Startup (Except StartupError Unit) :=
  Run.onState fun startup =>
    let (outcome, registry) := startup.registry.register number
    (outcome.mapError fun reason => .events (.settings ("Failed to register metrics: " ++ reason)),
      { startup with registry := registry })

/-- Puts a publisher into use, and drops the one that was in use. -/
def putInUse (number : Nat) : Run Startup Unit := do
  let previous ← Run.onState fun startup => (startup.inUse, { startup with inUse := some number })
  match previous with
  | none => return ()
  | some previous => dropPublisher previous

/-- Puts a publisher that was built into use, its metrics `shown` in the registry or not. If they
cannot be shown, the publisher is dropped, and the one in use goes on. -/
def launch (machine : Publisher.Machine) (shown : Bool) :
    Run Startup (Except StartupError Unit) := do
  let number ← adopt machine
  match ← (if shown then showMetrics number else return .ok ()) with
  | .error e =>
    dropPublisher number
    return .error e
  | .ok () =>
    putInUse number
    return .ok ()

def startPublisher (config : Config) (store : Publisher.Store) (shown : Bool) :
    Run Startup (Except StartupError Unit) := do
  let host ← Run.onState fun startup => (startup.host, startup)
  match buildPublisher config store host with
  | .error e => return .error (.events e)
  | .ok machine => launch machine shown

def metricsOf (startup : Startup) (number : Nat) : Metrics :=
  match startup.publishers[number]? with
  | some machine => machine.metrics
  | none => .zero

def gather (startup : Startup) : List Sample := startup.registry.gather startup.metricsOf

def publish (stamp : Int64) : EventSink Startup := EventSink.traced fun event =>
  onInUse (.error .closed) (Publisher.resilient stamp event)

def closePublisher : Run Startup (Except EventError Unit) := onInUse (.ok ()) Publisher.close

/-- Stops all publishers, also those to come. -/
def stop : Run Startup Unit := do
  let count ← Run.onState fun startup =>
    (startup.publishers.length, { startup with stopping := true })
  (List.range count).forM dropPublisher

/-- Asks the policy that was loaded, whose answers are kept if the configuration says so. Without a
policy nothing is found. -/
def ask {α : Type} (config : Config)
    (question : Policy (Cache × Directory) → Run (Cache × Directory) (Except PolicyError α)) :
    Run Startup (Except PolicyError α) := do
  let startup ← Run.onState fun startup => (startup, startup)
  match startup.policy with
  | none => return .error .notFound
  | some loaded =>
    Run.zoom (fun _ => loaded) (fun loaded startup => { startup with policy := some loaded })
      (question (Directory.policy.behindCache (Cache.outlives config.cacheTtlSecs)))

end Startup

/-- Log lines are set up once per process; where that was done already, only the level is
checked. -/
def Config.setUpLogging (config : Config) : Except ConfigError Unit := do
  let _ ← Level.parse config.logLevel
  throw (.invalid "Failed to install tracing subscriber")

end ChannelGate
