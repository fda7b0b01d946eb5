import ChannelGate.Proofs.Gateway.Parts

set_option autoImplicit false

namespace ChannelGate.Gateway

variable {σ : Type}

/-- A call of a sink: the state and trace that it found and left, what it answered, and the lines
that the fan-out wrote after it. -/
structure SinkCall (σ : Type) where
  found : σ × Trace
  answer : Except BusError Unit
  left : σ × Trace
  noted : List LogLine

def SinkCall.behind (call : SinkCall σ) : σ × Trace :=
  (call.left.1, { call.left.2 with lines := call.left.2.lines ++ call.noted })

def failures (calls : List (SinkCall σ)) : List BusError :=
  calls.filterMap fun call => sinkError? call.answer

/-- The line about a sink that fails after another one has failed. -/
def furtherFailure (message : RoutedMessage) (span : Option SpanRef) (error : BusError) : LogLine :=
  ⟨.warn, "Additional bus publisher failed",
    [("client_id", .text message.publisher), ("channel", .text message.channel),
      ("error", .text error.message)],
    (span.map SpanRef.path).getD []⟩

/-- The lines after a sink has answered: none as long as no sink has failed before. -/
def notedAfter (message : RoutedMessage) (span : Option SpanRef) (before : List BusError)
    (answer : Except BusError Unit) : List LogLine :=
  if before = [] then [] else (sinkError? answer).toList.map (furtherFailure message span)

variable {message : RoutedMessage} {span : Option SpanRef} {first? : Option BusError}
  {sink : MessageSink σ} {sinks : List (MessageSink σ)} {start : σ × Trace}

theorem SinkCall.behind_of_silent {call : SinkCall σ} (silent : call.noted = []) :
    call.behind = call.left := by
  rw [behind, silent, List.append_nil]

theorem fanOut_nil (first? : Option BusError) :
    fanOut message first? [] span start = (published first?, start) := by
  cases first? with
  | none => rfl
  | some error => rfl

/-- One sink is called, and the fan-out goes on with the others whatever it answers. -/
theorem fanOut_cons {answer : Except BusError Unit} {left : σ × Trace}
    (asked : sink message span start = (answer, left)) :
    fanOut message first? (sink :: sinks) span start =
      fanOut message (first?.or (sinkError? answer)) sinks span
        (SinkCall.behind ⟨start, answer, left, notedAfter message span first?.toList answer⟩) := by
  have goes : ∀ next : Except BusError Unit → HookPart σ Unit,
      ((liftM (sink message) : HookPart σ (Except BusError Unit)) >>= next) span start =
        next answer span left := by
    intro next
    show next (sink message span start).1 span (sink message span start).2 = _
    rw [asked]
  rw [fanOut, goes]
  cases answer with
  | ok accepted =>
    rw [SinkCall.behind_of_silent (by cases first? <;> rfl)]
    cases first? <;> rfl
  | error error =>
    cases first? with
    | none =>
      rw [SinkCall.behind_of_silent rfl]
      rfl
    | some first => rfl

/-- What a fan-out does after sinks whose first error is `first?`. -/
structure FannedOut (message : RoutedMessage) (span : Option SpanRef) (first? : Option BusError)
    (sinks : List (MessageSink σ)) (start : σ × Trace) (calls : List (SinkCall σ))
    (answer : Except GatewayError Unit) (finish : σ × Trace) : Prop where
  /-- Each sink is called once, in order, with the message. -/
  asked : List.Forall₂ (fun sink call => sink message span call.found = (call.answer, call.left))
    sinks calls
  /-- Each call finds what the one before it and the lines after that one have left. -/
  chained : start :: calls.map SinkCall.behind = calls.map (·.found) ++ [finish]
  /-- A call is noted if it fails and another one has failed before. -/
  noted : ∀ {earlier call later}, calls = earlier ++ call :: later →
    call.noted = notedAfter message span (first?.toList ++ failures earlier) call.answer
  /-- The lines are about all errors but the first, in order. -/
  lines : calls.flatMap (·.noted) =
    (first?.toList ++ failures calls).tail.map (furtherFailure message span)
  answer : answer = published (first?.toList ++ failures calls).head?

theorem FannedOut.nil (first? : Option BusError) :
    FannedOut message span first? ([] : List (MessageSink σ)) start [] (published first?)
      start where
  asked := .nil
  chained := rfl
  noted := by simp
  lines := by cases first? <;> rfl
  answer := by cases first? <;> rfl

theorem failures_cons (call : SinkCall σ) (calls : List (SinkCall σ)) :
    failures (call :: calls) = (sinkError? call.answer).toList ++ failures calls := by
  unfold failures
  rw [List.filterMap_cons]
  cases sinkError? call.answer <;> rfl

/-- Whether a sink has failed before does not depend on which error is kept. -/
theorem notedAfter_or (error? : Option BusError) (others : List BusError)
    (answer : Except BusError Unit) :
    notedAfter message span ((first?.or error?).toList ++ others) answer =
      notedAfter message span (first?.toList ++ (error?.toList ++ others)) answer := by
  cases first? with
  | none => rfl
  | some first => rfl

theorem FannedOut.cons {answer : Except BusError Unit} {left finish : σ × Trace}
    {calls : List (SinkCall σ)} {whole : Except GatewayError Unit}
    (asked : sink message span start = (answer, left))
    (rest : FannedOut message span (first?.or (sinkError? answer)) sinks
      (SinkCall.behind ⟨start, answer, left, notedAfter message span first?.toList answer⟩) calls
      whole finish) :
    FannedOut message span first? (sink :: sinks) start
      (⟨start, answer, left, notedAfter message span first?.toList answer⟩ :: calls) whole
      finish where
  asked := .cons asked rest.asked
  chained := by
    rw [List.map_cons, List.map_cons, List.cons_append, ← rest.chained]
  noted := by
    intro earlier call later split
    cases earlier with
    | nil =>
      obtain ⟨rfl, _⟩ := List.cons.inj split
      rw [failures, List.filterMap_nil, List.append_nil]
    | cons first earlier =>
      obtain ⟨rfl, behind⟩ := List.cons.inj split
      rw [rest.noted behind, failures_cons, notedAfter_or]
  lines := by
    rw [List.flatMap_cons, rest.lines, failures_cons]
    cases first? with
    | none =>
      cases answer with
      | ok accepted => rfl
      | error error => rfl
    | some first =>
      cases answer with
      | ok accepted => rfl
      | error error => rfl
  answer := by
    rw [rest.answer, failures_cons]
    cases first? with
    | none => rfl
    | some first => rfl

theorem exists_fannedOut (message : RoutedMessage) (span : Option SpanRef)
    (first? : Option BusError) (sinks : List (MessageSink σ)) (start : σ × Trace) :
    ∃ calls, FannedOut message span first? sinks start calls
      (fanOut message first? sinks span start).1 (fanOut message first? sinks span start).2 := by
  induction sinks generalizing first? start with
  | nil =>
    rw [fanOut_nil]
    exact ⟨[], .nil first?⟩
  | cons sink sinks ih =>
    rw [fanOut_cons rfl]
    obtain ⟨calls, rest⟩ := ih _ _
    exact ⟨_, rest.cons rfl⟩

theorem failures_eq_nil {calls : List (SinkCall σ)} :
    failures calls = [] ↔ ∀ call ∈ calls, call.answer = .ok () := by
  rw [failures, List.filterMap_eq_nil_iff]
  refine forall₂_congr fun call _ => ?_
  cases call.answer with
  | ok accepted => exact ⟨fun _ => rfl, fun _ => rfl⟩
  | error error => exact ⟨nofun, nofun⟩

theorem failures_head? {earlier later : List (SinkCall σ)} {call : SinkCall σ} {error : BusError}
    (accepted : ∀ other ∈ earlier, other.answer = .ok ()) (failed : call.answer = .error error) :
    (failures (earlier ++ call :: later)).head? = some error := by
  have before : failures earlier = [] := failures_eq_nil.mpr accepted
  rw [failures, List.filterMap_append, ← failures, ← failures, before, failures_cons, failed]
  rfl

/-- A fan-out calls every sink once, in order and with the same message, whatever the sinks before
it have answered. It succeeds when all of them do, and else fails with the error of the first that
failed. After every further sink that fails it writes one line with that sink's error, and apart
from these lines it changes nothing that the sinks leave. -/
theorem fan_out_attempts_every_sink (message : RoutedMessage) (span : Option SpanRef)
    (sinks : List (MessageSink σ)) (start : σ × Trace) :
    let outcome := (fanOut message none sinks).run span start
    ∃ calls, FannedOut message span none sinks start calls outcome.1 outcome.2 ∧
      (outcome.1 = .ok () ↔ ∀ call ∈ calls, call.answer = .ok ()) ∧
      ∀ earlier call later error, calls = earlier ++ call :: later →
        (∀ other ∈ earlier, other.answer = .ok ()) → call.answer = .error error →
        outcome.1 = .error (.failed .publish (.broker error)) := by
  intro outcome
  obtain ⟨calls, spread⟩ := exists_fannedOut message span none sinks start
  refine ⟨calls, spread, ?_, ?_⟩
  · rw [← failures_eq_nil]
    have answer : outcome.1 = published (failures calls).head? := spread.answer
    rw [answer]
    cases failures calls with
    | nil => exact ⟨fun _ => rfl, fun _ => rfl⟩
    | cons error others => exact ⟨nofun, nofun⟩
  · rintro earlier call later error rfl accepted failed
    have answer : outcome.1 = published (failures (earlier ++ call :: later)).head? :=
      spread.answer
    rw [answer, failures_head? accepted failed]
    rfl

example (message : RoutedMessage) :
    fanOut message none
        [fun _ => return .error .closed, fun _ => return .ok (),
          fun _ => return .error (.publish "full")] none ((), .empty) =
      (.error (.failed .publish (.broker .closed)),
        ((), { Trace.empty with lines := [furtherFailure message none (.publish "full")] })) :=
  rfl

end ChannelGate.Gateway
