import ChannelGate.Number.Binary64

set_option autoImplicit false

namespace ChannelGate

inductive Metric where
  | published
  | buffered
  | dropped
  | drained
  | pending
  deriving DecidableEq

namespace Metric

/-- The order in which the metrics of a publisher are registered. -/
def all : List Metric := [.published, .buffered, .dropped, .drained, .pending]

def name : Metric → String
  | .published => "events_published_total"
  | .buffered => "events_buffered_total"
  | .dropped => "events_dropped_total"
  | .drained => "events_drained_total"
  | .pending => "events_pending"

def help : Metric → String
  | .published => "Total number of events written directly to the event store"
  | .buffered => "Total number of events buffered while the event store was unreachable"
  | .dropped => "Total number of events dropped because the buffer was full or closed"
  | .drained => "Total number of buffered events flushed by the recovery loop"
  | .pending => "Number of events currently buffered"

def isCounter : Metric → Bool
  | .pending => false
  | _ => true

end Metric

structure Metrics where
  published : Nat
  buffered : Nat
  dropped : Nat
  drained : Nat
  pending : Int
  deriving DecidableEq

namespace Metrics

def zero : Metrics := ⟨0, 0, 0, 0, 0⟩

def value (metrics : Metrics) : Metric → Int
  | .published => metrics.published
  | .buffered => metrics.buffered
  | .dropped => metrics.dropped
  | .drained => metrics.drained
  | .pending => metrics.pending

/-- Adds to a counter; the gauge stays as it is. -/
def increase (metrics : Metrics) (n : Nat) : Metric → Metrics
  | .published => { metrics with published := metrics.published + n }
  | .buffered => { metrics with buffered := metrics.buffered + n }
  | .dropped => { metrics with dropped := metrics.dropped + n }
  | .drained => { metrics with drained := metrics.drained + n }
  | .pending => metrics

def setPending (metrics : Metrics) (n : Int) : Metrics := { metrics with pending := n }

/-- The reading of a metric: a counter has 64 bits and starts again at zero. -/
def reading (metrics : Metrics) (metric : Metric) : Int :=
  if metric.isCounter then metrics.value metric % 0x10000000000000000 else metrics.value metric

end Metrics

/-- Metrics on display, in the order of registration: which metric of which owner. Other names may
be taken by metrics of other parts of the process. -/
structure Registry (ι : Type) where
  entries : List (Metric × ι)
  foreign : List String
  deriving DecidableEq

/-- A number between the bounds of signed numbers of 64 bits: one beyond them gives the bound. -/
def clampSigned (n : Int) : Int := max (-0x8000000000000000) (min n 0x7FFFFFFFFFFFFFFF)

/-- A number as it is exported: the nearest floating point number, between the bounds of signed
numbers. -/
def exported (n : Int) : Int :=
  match Number.Binary64.ofRatio (n < 0) n.natAbs 1 with
  | .finite negative significand exponent =>
    let size : Nat := significand * Nat.pow 2 exponent.toNat / Nat.pow 2 (-exponent).toNat
    clampSigned (if negative then -(size : Int) else size)
  | _ => 0

structure Sample where
  metric : Metric
  value : Int
  deriving DecidableEq

namespace Registry

variable {ι : Type}

def empty : Registry ι := ⟨[], []⟩

def duplicate : String := "Duplicate metrics collector registration attempted"

/-- The name of the metric is taken. -/
def holds (registry : Registry ι) (metric : Metric) : Bool :=
  (registry.entries.any fun entry => entry.1.name = metric.name) ||
    registry.foreign.contains metric.name

/-- Registers metrics one by one, up to the first whose name is taken. -/
def registerEach (registry : Registry ι) (owner : ι) : List Metric → Except String Unit × Registry ι
  | [] => (.ok (), registry)
  | metric :: rest =>
    if registry.holds metric then (.error duplicate, registry)
    else registerEach { registry with entries := registry.entries ++ [(metric, owner)] } owner rest

def register (registry : Registry ι) (owner : ι) : Except String Unit × Registry ι :=
  registry.registerEach owner Metric.all

def sample (values : ι → Metrics) (metric : Metric) (owner : ι) : Sample :=
  ⟨metric, exported ((values owner).reading metric)⟩

/-- The registered metrics of the owners with their present values, in the order of their names. -/
def gather (registry : Registry ι) (values : ι → Metrics) : List Sample :=
  (registry.entries.map fun (metric, owner) => sample values metric owner).mergeSort
    fun a b => decide (a.metric.name ≤ b.metric.name)

end Registry

end ChannelGate
