import ChannelGate.Publisher.Schedule

set_option autoImplicit false

namespace ChannelGate

/-- Takes an event and says whether it was accepted. -/
abbrev EventSink (σ : Type) := Event → Run σ (Except EventError Unit)

def Event.spanFields (event : Event) : Data := [("operation", .text event.operation)]

def EventSink.traced {σ : Type} (sink : EventSink σ) : EventSink σ := fun event =>
  Run.inSpan "publish_event" event.spanFields EventError.message fun _ => sink event

namespace Publisher

/-- Does something with a publisher and passes on the lines it wrote. -/
def withLines {α : Type} (step : Machine → α × Machine) : Run Machine α := do
  let (answer, lines) ← Run.onState fun m =>
    let (answer, m) := step m
    ((answer, m.lines), { m with lines := [] })
  Run.relay lines
  return answer

/-- A call that never had an answer found the publisher gone. -/
def settled (answer : Option (Except EventError Unit)) : Except EventError Unit :=
  answer.getD (.error .closed)

/-- The publisher as a sink of events, each stamped with `stamp`. -/
def resilient (stamp : Int64) : EventSink Machine := fun event => do
  let scope ← Run.scope
  return settled (← withLines fun m => m.publish scope event stamp)

def publishTogether (stamp : Int64) (events : List Event) :
    Run Machine (List (Except EventError Unit)) := do
  let scope ← Run.scope
  return (← withLines fun m => m.publishAll scope events stamp).map settled

/-- Publishes events together, each in a span of its own. -/
def publishTogetherTraced (stamp : Int64) (events : List Event) :
    Run Machine (List (Except EventError Unit)) := do
  let parent ← read
  let refs ← events.mapM fun _ => Run.openSpan parent "publish_event"
  let answers ← withReader (fun _ => refs.head? <|> parent) (publishTogether stamp events)
  for (event, ref, answer) in events.zip (refs.zip answers) do
    Run.closeSpan ⟨ref, parent, event.spanFields ++ Run.failureField (match answer with
      | .error e => some e.message
      | .ok _ => none)⟩
  return answers

def close : Run Machine (Except EventError Unit) := do
  let scope ← Run.scope
  return settled (← withLines fun m => m.closeAll scope)

end Publisher

end ChannelGate
