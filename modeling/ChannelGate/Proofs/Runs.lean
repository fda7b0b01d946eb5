import ChannelGate.Trace
import Mathlib.Data.List.Forall2

set_option autoImplicit false

namespace ChannelGate

namespace Run

variable {σ α β ρ ε : Type}

theorem bind_apply (first : Run σ α) (next : α → Run σ β) (span : Option SpanRef)
    (before : σ × Trace) :
    (first >>= next) span before = next (first span before).1 span (first span before).2 := rfl

def failure? (wording : ε → String) : Except ε α → Option String
  | .error error => some (wording error)
  | .ok _ => none

/-- A part of a run in a new span: a number is taken, the part runs in the span, and the span is
finished. -/
theorem inSpanUnder_apply (parent : Option SpanRef) (name : String) (fields : Data)
    (wording : ε → String) (body : SpanRef → Run σ (Except ε α)) (span : Option SpanRef)
    (before : σ × Trace) :
    let ref : SpanRef := ⟨before.2.opened, (parent.map SpanRef.path).getD [] ++ [name]⟩
    let after := body ref (some ref) (before.1, { before.2 with opened := before.2.opened + 1 })
    inSpanUnder parent name fields wording body span before =
      (after.1, after.2.1, { after.2.2 with
        spans := after.2.2.spans ++
          [⟨ref, parent, fields ++ failureField (failure? wording after.1)⟩] }) :=
  rfl

theorem inSpan_apply (name : String) (fields : Data) (wording : ε → String)
    (body : SpanRef → Run σ (Except ε α)) (span : Option SpanRef) (before : σ × Trace) :
    inSpan name fields wording body span before =
      inSpanUnder span name fields wording body span before :=
  rfl

/-- Does something to the state beside a record, and adds an entry about its answer. -/
def recorded (entry : α → ρ) (body : Run σ α) : Run (σ × List ρ) α :=
  fun span => fun ((state, record), trace) =>
    let (answer, state, trace) := body span (state, trace)
    (answer, (state, record ++ [entry answer]), trace)

def inTurn (step : α → Run σ β) : List α → Run σ (List β)
  | [] => return []
  | first :: rest => do
    let answer ← step first
    let answers ← inTurn step rest
    return answer :: answers

theorem inTurn_cons (step : α → Run σ β) (first : α) (rest : List α) (span : Option SpanRef)
    (before : σ × Trace) :
    inTurn step (first :: rest) span before =
      ((step first span before).1 :: (inTurn step rest span (step first span before).2).1,
        (inTurn step rest span (step first span before).2).2) := rfl

theorem inTurn_append_singleton (step : α → Run σ β) (past : List α) (last : α)
    (span : Option SpanRef) (before : σ × Trace) :
    inTurn step (past ++ [last]) span before =
      ((inTurn step past span before).1 ++ [(step last span (inTurn step past span before).2).1],
        (step last span (inTurn step past span before).2).2) := by
  induction past generalizing before with
  | nil => rfl
  | cons first rest ih =>
    rw [List.cons_append, inTurn_cons, ih, inTurn_cons]
    rfl

end Run

/-- Which spans and which states of two runs belong together. Lines keep them together. -/
structure Coupling (σ τ : Type) where
  spans : Option SpanRef → Option SpanRef → Prop
  states : σ × Trace → τ × Trace → Prop
  log : ∀ {span span' : Option SpanRef} {before : σ × Trace} {before' : τ × Trace}
    (level : Level) (message : String) (fields : Data), spans span span' → states before before' →
    states (Run.log level message fields span before).2
      (Run.log level message fields span' before').2

namespace Coupling

variable {σ τ α β : Type} {coupling : Coupling σ τ}

/-- From what belongs together both come to the same answer, and to what belongs together. -/
structure Couples (coupling : Coupling σ τ) (left : Run σ α) (right : Run τ α) : Prop where
  run : ∀ {span span' : Option SpanRef} {before : σ × Trace} {before' : τ × Trace},
    coupling.spans span span' → coupling.states before before' →
    (left span before).1 = (right span' before').1 ∧
      coupling.states (left span before).2 (right span' before').2

theorem couples_pure (coupling : Coupling σ τ) (answer : α) :
    coupling.Couples (pure answer) (pure answer) :=
  ⟨fun _ together => ⟨rfl, together⟩⟩

theorem couples_log (coupling : Coupling σ τ) (level : Level) (message : String) (fields : Data) :
    coupling.Couples (Run.log level message fields) (Run.log level message fields) :=
  ⟨fun inside together => ⟨rfl, coupling.log level message fields inside together⟩⟩

theorem Couples.bind {first : Run σ α} {first' : Run τ α} {next : α → Run σ β}
    {next' : α → Run τ β} (begins : coupling.Couples first first')
    (follows : ∀ answer, coupling.Couples (next answer) (next' answer)) :
    coupling.Couples (first >>= next) (first' >>= next') := by
  constructor
  intro span span' before before' inside together
  obtain ⟨same, still⟩ := begins.run inside together
  rw [Run.bind_apply, Run.bind_apply, same]
  exact (follows _).run inside still

theorem Couples.ite {condition : Prop} [Decidable condition] {first second : Run σ α}
    {first' second' : Run τ α} (holds : condition → coupling.Couples first first')
    (fails : ¬condition → coupling.Couples second second') :
    coupling.Couples (if condition then first else second)
      (if condition then first' else second') := by
  split
  · next known => exact holds known
  · next known => exact fails known

/-- Doing what belongs together, one after the other. -/
theorem couples_inTurn_forall₂ {ι κ : Type} {related : ι → κ → Prop} {step : ι → Run σ β}
    {step' : κ → Run τ β}
    (each : ∀ {one one'}, related one one' → coupling.Couples (step one) (step' one'))
    {all : List ι} {all' : List κ} (pairs : List.Forall₂ related all all') :
    coupling.Couples (Run.inTurn step all) (Run.inTurn step' all') := by
  induction pairs with
  | nil => exact coupling.couples_pure []
  | cons together rest ih =>
    apply (each together).bind
    intro answer
    exact ih.bind fun answers => coupling.couples_pure (answer :: answers)

theorem couples_inTurn {ι : Type} {step : ι → Run σ β} {step' : ι → Run τ β}
    (each : ∀ one, coupling.Couples (step one) (step' one)) (all : List ι) :
    coupling.Couples (Run.inTurn step all) (Run.inTurn step' all) := by
  have pairs : List.Forall₂ Eq all all := List.forall₂_same.mpr fun _ _ => rfl
  apply couples_inTurn_forall₂ _ pairs
  rintro one _ rfl
  exact each one

end Coupling

/-- The same run beside a record: same spans, same state and trace. -/
def Coupling.beside (σ ρ : Type) : Coupling σ (σ × List ρ) where
  spans := Eq
  states before before' := before'.1.1 = before.1 ∧ before'.2 = before.2
  log := by
    rintro span _ ⟨state, trace⟩ ⟨⟨_, record⟩, _⟩ level message fields rfl ⟨rfl, rfl⟩
    exact ⟨rfl, rfl⟩

/-- Recording changes nothing. -/
theorem Coupling.beside_recorded {σ ρ α : Type} (entry : α → ρ) (body : Run σ α) :
    (Coupling.beside σ ρ).Couples body (Run.recorded entry body) := by
  constructor
  rintro span _ ⟨state, trace⟩ ⟨⟨_, record⟩, _⟩ rfl ⟨rfl, rfl⟩
  exact ⟨rfl, rfl, rfl⟩

/-- A span around both sides. -/
theorem Coupling.beside_inSpanUnder {σ ρ α ε : Type} {body : SpanRef → Run σ (Except ε α)}
    {body' : SpanRef → Run (σ × List ρ) (Except ε α)}
    (inside : ∀ ref, (Coupling.beside σ ρ).Couples (body ref) (body' ref))
    (parent : Option SpanRef) (name : String) (fields : Data) (wording : ε → String) :
    (Coupling.beside σ ρ).Couples (Run.inSpanUnder parent name fields wording body)
      (Run.inSpanUnder parent name fields wording body') := by
  constructor
  rintro span _ ⟨state, trace⟩ ⟨⟨state', record⟩, trace'⟩ rfl ⟨same, traced⟩
  obtain rfl : state' = state := same
  obtain rfl : trace' = trace := traced
  have opened : (Coupling.beside σ ρ).states (state', { trace' with opened := trace'.opened + 1 })
      ((state', record), { trace' with opened := trace'.opened + 1 }) := ⟨rfl, rfl⟩
  obtain ⟨answers, states, traces⟩ := (inside _).run
    (Eq.refl (some ⟨trace'.opened, (parent.map SpanRef.path).getD [] ++ [name]⟩)) opened
  rw [Run.inSpanUnder_apply, Run.inSpanUnder_apply]
  refine ⟨answers, states, ?_⟩
  dsimp only
  rw [answers, traces]

/-- What belongs together is in the same span, and a span around both sides keeps it so. -/
structure Coupling.Encloses {σ τ : Type} (coupling : Coupling σ τ) : Prop where
  spans : ∀ {span span' : Option SpanRef}, coupling.spans span span' → span = span'
  under : ∀ {α ε : Type} {body : SpanRef → Run σ (Except ε α)}
    {body' : SpanRef → Run τ (Except ε α)}, (∀ ref, coupling.Couples (body ref) (body' ref)) →
    ∀ (parent : Option SpanRef) (name : String) (fields : Data) (wording : ε → String),
      coupling.Couples (Run.inSpanUnder parent name fields wording body)
        (Run.inSpanUnder parent name fields wording body')

theorem Coupling.Encloses.inSpan {σ τ α ε : Type} {coupling : Coupling σ τ}
    (encloses : coupling.Encloses) {body : SpanRef → Run σ (Except ε α)}
    {body' : SpanRef → Run τ (Except ε α)}
    (inside : ∀ ref, coupling.Couples (body ref) (body' ref)) (name : String) (fields : Data)
    (wording : ε → String) :
    coupling.Couples (Run.inSpan name fields wording body)
      (Run.inSpan name fields wording body') := by
  constructor
  intro span span' before before' same together
  obtain rfl : span = span' := encloses.spans same
  exact (encloses.under inside span name fields wording).run same together

theorem Coupling.beside_encloses (σ ρ : Type) : (Coupling.beside σ ρ).Encloses :=
  ⟨id, Coupling.beside_inSpanUnder⟩

/-- Runs that heed neither spans nor what was traced: only their states belong together. -/
def Coupling.heedless {σ τ : Type} (alike : σ → τ → Prop) : Coupling σ τ where
  spans _ _ := True
  states before before' := alike before.1 before'.1
  log _ _ _ _ together := together

theorem Coupling.Couples.heedless_run {σ τ α : Type} {alike : σ → τ → Prop} {left : Run σ α}
    {right : Run τ α} (couples : (Coupling.heedless alike).Couples left right)
    (span span' : Option SpanRef) {before : σ × Trace} {before' : τ × Trace}
    (together : alike before.1 before'.1) :
    (left span before).1 = (right span' before').1 ∧
      alike (left span before).2.1 (right span' before').2.1 :=
  couples.run trivial together

/-- A span around the left side only. -/
theorem Coupling.heedless_inSpanUnder {σ τ α ε : Type} {alike : σ → τ → Prop}
    {body : SpanRef → Run σ (Except ε α)} {body' : Run τ (Except ε α)}
    (inside : ∀ ref, (Coupling.heedless alike).Couples (body ref) body')
    (parent : Option SpanRef) (name : String) (fields : Data) (wording : ε → String) :
    (Coupling.heedless alike).Couples (Run.inSpanUnder parent name fields wording body) body' :=
  ⟨fun _ together => (inside _).run trivial together⟩

theorem Coupling.heedless_inSpan {σ τ α ε : Type} {alike : σ → τ → Prop}
    {body : SpanRef → Run σ (Except ε α)} {body' : Run τ (Except ε α)}
    (inside : ∀ ref, (Coupling.heedless alike).Couples (body ref) body') (name : String)
    (fields : Data) (wording : ε → String) :
    (Coupling.heedless alike).Couples (Run.inSpan name fields wording body) body' :=
  ⟨fun _ together => (inside _).run trivial together⟩

end ChannelGate
