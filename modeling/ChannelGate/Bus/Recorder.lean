import ChannelGate.Bus.Traced

set_option autoImplicit false

namespace ChannelGate

/-- A handler that records under its label. -/
structure Recorder (ι : Type) where
  label : ι
  handleFailure : Option BusError
  cancelFailure : Option BusError

structure Recording (ι : Type) where
  handled : List (ι × RoutedMessage)
  cancelled : List ι

namespace Recorder

variable {ι : Type}

def blank : Recording ι := ⟨[], []⟩

/-- The answer that a recorder gives after recording. -/
def answer (failure : Option BusError) : Except BusError Unit :=
  match failure with
  | some e => .error e
  | none => .ok ()

def handling : Handling (Recording ι) (Recorder ι) where
  handle recorder message := Run.onState fun recording =>
    (answer recorder.handleFailure,
      { recording with handled := recording.handled ++ [(recorder.label, message)] })
  cancel recorder := Run.onState fun recording =>
    (answer recorder.cancelFailure,
      { recording with cancelled := recording.cancelled ++ [recorder.label] })

/-- A bus of recorders, with spans or without. -/
def bus (traced : Bool) : PubSub (Bus (Watched (Recorder ι)) × Recording ι) (Recorder ι) :=
  let inner := Bus.pubSub (Handling.watched handling)
  if traced then inner.traced else inner.bare

end Recorder

end ChannelGate
