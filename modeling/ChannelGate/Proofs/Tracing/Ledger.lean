import ChannelGate.Proofs.Gateway.Bond
import ChannelGate.Proofs.Tracing.Alike
import ChannelGate.Proofs.Tracing.Spans

set_option autoImplicit false

namespace ChannelGate

variable {σ η α β : Type}

/-- The registry is what the calls on record lead to, and every subscribe was made in a span. -/
structure Stage.Sound (stage : Stage (Watched η) σ η) : Prop where
  faithful : stage.1.1.Faithful (watchedCalls stage.2)
  placed : ∀ place id topic handler, (place, .subscribe id topic handler) ∈ callsOf stage.2 →
    ∃ ref, place = some ref

/-- From a sound stage to a sound one, with spans that fit what was put on record. -/
def Advances (before after : Stage (Watched η) σ η × Trace) : Prop :=
  before.1.Sound → after.1.Sound ∧ ∃ left, before.2.Grows after.2 left ∧
    ∀ spans, Chronicle before.1.2 spans → Chronicle after.1.2 (spans ++ left)

namespace Advances

variable {before middle after : Stage (Watched η) σ η × Trace}

/-- Nothing but the state of the parties, and lines. -/
theorem still (registry : after.1.1.1 = before.1.1.1) (record : after.1.2 = before.1.2)
    (spans : after.2.spans = before.2.spans) (opened : after.2.opened = before.2.opened) :
    Advances before after := by
  intro sound
  refine ⟨?_, [], Trace.Grows.of_eq spans opened, ?_⟩
  · refine ⟨?_, ?_⟩
    · rw [registry, record]
      exact sound.faithful
    · rw [record]
      exact sound.placed
  · intro spans chronicle
    rw [record, List.append_nil]
    exact chronicle

theorem trans (first : Advances before middle) (second : Advances middle after) :
    Advances before after := by
  intro sound
  obtain ⟨sound', left, grows, fits⟩ := first sound
  obtain ⟨sound'', left', grows', fits'⟩ := second sound'
  refine ⟨sound'', left ++ left', grows.trans grows', ?_⟩
  intro spans chronicle
  rw [← List.append_assoc]
  exact fits' _ (fits _ chronicle)

end Advances

/-- What is put on record besides calls does not make a stage unsound. -/
theorem Stage.Sound.noted {stage : Stage (Watched η) σ η} (sound : stage.Sound) {entry : Entry η}
    (other : entry.call? = none) : Stage.Sound (stage.1, stage.2 ++ [entry]) := by
  refine ⟨?_, ?_⟩
  · rw [watchedCalls, callsOf_append_none other]
    exact sound.faithful
  · rw [callsOf_append_none other]
    exact sound.placed

namespace Advances

variable {before : Stage (Watched η) σ η × Trace} {stage stage' : Stage (Watched η) σ η}
  {trace trace' : Trace}

/-- Something without a span is put on record. -/
theorem noted (first : Advances before (stage, trace)) (entry : Entry η)
    (other : entry.call? = none) (leaves : entry.Leaves stage.2 []) :
    Advances before ((stage.1, stage.2 ++ [entry]), trace) := by
  intro sound
  obtain ⟨sound', left, grows, fits⟩ := first sound
  refine ⟨sound'.noted other, left, grows, ?_⟩
  intro spans chronicle
  have whole := (fits spans chronicle).snoc leaves
  rw [List.append_nil] at whole
  exact whole

/-- Something is put on record, in a span or right after it. -/
theorem enclosed {span : Span}
    (inside : Advances (stage, { trace with opened := trace.opened + 1 }) (stage', trace'))
    (entry : Entry η) (other : entry.call? = none) (number : span.ref.id = trace.opened)
    (leaves : entry.Leaves stage'.2 [span]) :
    Advances (stage, trace)
      ((stage'.1, stage'.2 ++ [entry]), { trace' with spans := trace'.spans ++ [span] }) := by
  intro sound
  obtain ⟨sound', left, grows, fits⟩ := inside sound
  refine ⟨sound'.noted other, left ++ [span], grows.enclosed number, ?_⟩
  intro spans chronicle
  rw [← List.append_assoc]
  exact (fits spans chronicle).snoc leaves

end Advances

def Keeps (body : Run (Stage (Watched η) σ η) α) : Prop :=
  ∀ span before, Advances before (body span before).2

namespace Keeps

theorem of_pure (answer : α) : Keeps (σ := σ) (η := η) (pure answer) :=
  fun _ _ => .still rfl rfl rfl rfl

theorem of_log (level : Level) (message : String) (fields : Data) :
    Keeps (σ := σ) (η := η) (Run.log level message fields) :=
  fun _ _ => .still rfl rfl rfl rfl

theorem bind {first : Run (Stage (Watched η) σ η) α} {next : α → Run (Stage (Watched η) σ η) β}
    (begins : Keeps first) (follows : ∀ answer, Keeps (next answer)) : Keeps (first >>= next) := by
  intro span before
  rw [Run.bind_apply]
  exact (begins span before).trans (follows _ span _)

theorem inTurn {ι : Type} {step : ι → Run (Stage (Watched η) σ η) α}
    (each : ∀ one, Keeps (step one)) (all : List ι) : Keeps (Run.inTurn step all) := by
  induction all with
  | nil => exact of_pure []
  | cons first rest ih => exact (each first).bind fun answer => ih.bind fun answers => of_pure _

def bond (σ η : Type) :
    Gateway.Bond (Stage (Watched η) σ η) (Stage (Watched η) σ η) where
  Joins left _ := Keeps left.run
  answer outcome := of_pure outcome
  note level message fields := (of_log level message fields).bind fun _ => of_pure _
  bind := by
    intro α β first first' next next' begins follows span before
    rw [Gateway.run_bind]
    have advances := begins span before
    generalize first.run span before = outcome at advances ⊢
    obtain ⟨answer, after⟩ := outcome
    cases answer with
    | error error => exact advances
    | ok value => exact advances.trans (follows value span after)

theorem lift {body body' : Run (Stage (Watched η) σ η) α} (keeps : Keeps body) :
    (bond σ η).Joins (liftM body : HookPart (Stage (Watched η) σ η) α) (liftM body') :=
  keeps.bind fun _ => of_pure _

theorem party {alike : σ → σ → Prop} {body : Run σ α} (untraced : body.Untraced alike) :
    Keeps (η := η) (Stage.party body) := by
  intro span before
  obtain ⟨spans, opened⟩ := untraced.spanless span (before.1.1.2, before.2)
  exact .still rfl rfl spans opened

theorem noted {body : Run (Stage (Watched η) σ η) α} (keeps : Keeps body) (deed : α → Deed η)
    (other : ∀ place answer, Entry.call? ⟨place, deed answer⟩ = none)
    (leaves : ∀ past place answer, Entry.Leaves past ⟨place, deed answer⟩ []) :
    Keeps (Stage.noted deed body) :=
  fun span before => (keeps span before).noted _ (other _ _) (leaves _ _ _)

/-- Something is put on record in a span of its own. -/
theorem inSpan_noted {ε : Type} {body : Run (Stage (Watched η) σ η) (Except ε α)}
    (keeps : Keeps body) (deed : Except ε α → Deed η) (name : String) (fields : Data)
    (wording : ε → String)
    (plain : "error" ∉ fields.map Prod.fst)
    (other : ∀ place answer, Entry.call? ⟨place, deed answer⟩ = none)
    (leaves : ∀ past place left answer, Encloses place left name fields wording answer →
      Entry.Leaves past ⟨place, deed answer⟩ left) :
    Keeps (Run.inSpan name fields wording fun _ => Stage.noted deed body) := by
  rintro span ⟨stage, trace⟩
  rw [Run.inSpan_apply, Run.inSpanUnder_apply]
  refine (keeps _ _).enclosed _ (other _ _) rfl (leaves _ _ _ _ ?_)
  exact ⟨_, rfl, rfl, Span.reports _ _ _ _ _ _ plain⟩

end Keeps

end ChannelGate
