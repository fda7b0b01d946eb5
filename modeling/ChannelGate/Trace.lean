set_option autoImplicit false

namespace ChannelGate

inductive Level where
  | trace
  | debug
  | info
  | warn
  | error
  deriving DecidableEq

def Level.name : Level → String
  | .trace => "TRACE"
  | .debug => "DEBUG"
  | .info => "INFO"
  | .warn => "WARN"
  | .error => "ERROR"

inductive Datum where
  | text (value : String)
  | number (value : Nat)
  deriving DecidableEq

abbrev Data := List (String × Datum)

/-- A span that was opened: a number of its own, and the names of the spans around it with its own
name last. -/
structure SpanRef where
  id : Nat
  path : List String
  deriving DecidableEq

def SpanRef.name (span : SpanRef) : String := span.path.getLastD ""

/-- A finished span with its fields, and the span it is a child of. -/
structure Span where
  ref : SpanRef
  parent : Option SpanRef
  fields : Data
  deriving DecidableEq

/-- A log line, with the names of the spans around it, the outermost first. -/
structure LogLine where
  level : Level
  message : String
  fields : Data
  scope : List String
  deriving DecidableEq

/-- The lines and spans of a run, in the order in which they were written and finished, and the
number of spans that were opened. -/
structure Trace where
  lines : List LogLine
  spans : List Span
  opened : Nat
  deriving DecidableEq

def Trace.empty : Trace := ⟨[], [], 0⟩

/-- The trace without what was seen so far; numbers of spans go on. -/
def Trace.clear (trace : Trace) : Trace := { trace with lines := [], spans := [] }

/-- A computation over a state `σ` that happens in a span, or in none, and leaves a trace. -/
abbrev Run (σ : Type) := ReaderT (Option SpanRef) (StateM (σ × Trace))

namespace Run

variable {σ α ε : Type}

/-- The names of the spans around this point. -/
def scope : Run σ (List String) := do
  return ((← read).map SpanRef.path).getD []

def onState (step : σ → α × σ) : Run σ α :=
  modifyGet fun (state, trace) =>
    let (answer, state) := step state
    (answer, state, trace)

/-- Runs a computation over one part of the state. -/
def zoom {τ : Type} (get : σ → τ) (set : τ → σ → σ) (body : Run τ α) : Run σ α :=
  fun span => fun (state, trace) =>
    let (answer, part, trace) := body span (get state, trace)
    (answer, set part state, trace)

def relay (lines : List LogLine) : Run σ Unit :=
  modify fun (state, trace) => (state, { trace with lines := trace.lines ++ lines })

def log (level : Level) (message : String) (fields : Data) : Run σ Unit := do
  relay [⟨level, message, fields, ← scope⟩]

def openSpan (parent : Option SpanRef) (name : String) : Run σ SpanRef :=
  modifyGet fun (state, trace) =>
    (⟨trace.opened, (parent.map SpanRef.path).getD [] ++ [name]⟩, state,
      { trace with opened := trace.opened + 1 })

def closeSpan (span : Span) : Run σ Unit :=
  modify fun (state, trace) => (state, { trace with spans := trace.spans ++ [span] })

/-- The field that tells how a call failed; a call that succeeded has none. -/
def failureField (error? : Option String) : Data :=
  match error? with
  | some text => [("error", .text text)]
  | none => []

/-- Runs `body` in a new span under `parent`, and adds to the span's fields how it failed. -/
def inSpanUnder (parent : Option SpanRef) (name : String) (fields : Data)
    (wording : ε → String) (body : SpanRef → Run σ (Except ε α)) : Run σ (Except ε α) := do
  let ref ← openSpan parent name
  let answer ← withReader (fun _ => some ref) (body ref)
  let error? := match answer with
    | .error e => some (wording e)
    | .ok _ => none
  closeSpan ⟨ref, parent, fields ++ failureField error?⟩
  return answer

/-- Runs `body` in a new child of the span around this point. -/
def inSpan (name : String) (fields : Data) (wording : ε → String)
    (body : SpanRef → Run σ (Except ε α)) : Run σ (Except ε α) := do
  inSpanUnder (← read) name fields wording body

end Run

end ChannelGate
