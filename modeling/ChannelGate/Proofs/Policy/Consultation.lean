import ChannelGate.Policy.Script
import ChannelGate.Proofs.Runs
import Mathlib.Data.List.Induction

set_option autoImplicit false

namespace ChannelGate

abbrev Question.Answer : Question → Type
  | .identify _ => String
  | .authorize _ => Bool

structure Consultation where
  question : Question
  answer : Except PolicyError question.Answer

section answered

variable {consultation : Consultation} {heard : List Consultation} {question : Question}

/-- The answer, if it is one to this question and no error. -/
def Consultation.toward? (consultation : Consultation) (question : Question) :
    Option question.Answer :=
  if same : consultation.question = question then
    let answer : Except PolicyError question.Answer := same ▸ consultation.answer
    answer.toOption
  else none

/-- The first answer to a question that is no error. -/
def answered? (heard : List Consultation) (question : Question) : Option question.Answer :=
  heard.findSome? fun consultation => consultation.toward? question

theorem toOption_eq_some_iff {ε α : Type} {outcome : Except ε α} {answer : α} :
    outcome.toOption = some answer ↔ outcome = .ok answer := by
  cases outcome <;> simp [Except.toOption]

theorem Consultation.toward?_self (question : Question)
    (answer : Except PolicyError question.Answer) :
    toward? ⟨question, answer⟩ question = answer.toOption :=
  dif_pos rfl

theorem Consultation.toward?_of_ne (differs : consultation.question ≠ question) :
    consultation.toward? question = none :=
  dif_neg differs

theorem Consultation.toward?_eq_some_iff {answer : question.Answer} :
    consultation.toward? question = some answer ↔ consultation = ⟨question, .ok answer⟩ := by
  constructor
  · intro found
    obtain ⟨asked, came⟩ := consultation
    by_cases same : asked = question
    · subst same
      rw [toward?_self, toOption_eq_some_iff] at found
      rw [found]
    · rw [toward?_of_ne same] at found
      exact nomatch found
  · rintro rfl
    exact toward?_self question (.ok answer)

theorem answered?_eq_none_iff :
    answered? heard question = none ↔ ∀ answer, ⟨question, .ok answer⟩ ∉ heard := by
  rw [answered?, List.findSome?_eq_none_iff]
  constructor
  · intro nothing answer member
    have here := nothing _ member
    rw [Consultation.toward?_self] at here
    exact nomatch here
  · intro never consultation member
    rw [Option.eq_none_iff_forall_ne_some]
    intro answer found
    rw [Consultation.toward?_eq_some_iff] at found
    exact never answer (found ▸ member)

theorem answered?_append_singleton (heard : List Consultation) (consultation : Consultation) :
    answered? (heard ++ [consultation]) question =
      (answered? heard question).or (consultation.toward? question) := by
  rw [answered?, List.findSome?_append, List.findSome?_singleton]
  rfl

end answered

namespace Policy

variable {σ : Type}

def ask (policy : Policy σ) : (question : Question) → Run σ (Except PolicyError question.Answer)
  | .identify credential => policy.identify credential
  | .authorize request => policy.authorize request

def askAll (policy : Policy σ) (questions : List Question) : Run σ (List Consultation) :=
  Run.inTurn (fun question => do return ⟨question, ← policy.ask question⟩) questions

/-- The policy beside a record of what it was asked and how it answered. -/
def recorded (policy : Policy σ) : Policy (σ × List Consultation) where
  identify credential :=
    Run.recorded (fun answer => ⟨.identify credential, answer⟩) (policy.identify credential)
  authorize request :=
    Run.recorded (fun answer => ⟨.authorize request, answer⟩) (policy.authorize request)

/-- From every state that `holds` the policy gives the fixed answers, and the next state `holds`
too. -/
def Steady (policy : Policy σ) (questions : List Question) (holds : σ → Prop)
    (fixed : (question : Question) → Except PolicyError question.Answer) : Prop :=
  ∀ question ∈ questions, ∀ span before, holds before.1 →
    (policy.ask question span before).1 = fixed question ∧
      holds (policy.ask question span before).2.1

variable {policy : Policy σ} {questions : List Question} {holds : σ → Prop}
  {fixed : (question : Question) → Except PolicyError question.Answer}

theorem ask_recorded (policy : Policy σ) (question : Question) :
    policy.recorded.ask question =
      Run.recorded (fun answer => ⟨question, answer⟩) (policy.ask question) := by
  cases question <;> rfl

/-- A record changes nothing. -/
theorem couples_recorded (policy : Policy σ) (question : Question) :
    (Coupling.beside σ Consultation).Couples (policy.ask question)
      (policy.recorded.ask question) := by
  rw [ask_recorded]
  exact Coupling.beside_recorded _ _

theorem couples_askAll {τ : Type} {coupling : Coupling σ τ} {policy' : Policy τ}
    (each : ∀ question, coupling.Couples (policy.ask question) (policy'.ask question))
    (questions : List Question) :
    coupling.Couples (policy.askAll questions) (policy'.askAll questions) := by
  apply Coupling.couples_inTurn
  intro question
  exact (each question).bind fun answer => coupling.couples_pure _

theorem askAll_append_singleton (policy : Policy σ) (past : List Question) (question : Question)
    (span : Option SpanRef) (before : σ × Trace) :
    policy.askAll (past ++ [question]) span before =
      ((policy.askAll past span before).1 ++
          [⟨question, (policy.ask question span (policy.askAll past span before).2).1⟩],
        (policy.ask question span (policy.askAll past span before).2).2) :=
  Run.inTurn_append_singleton _ past question span before

theorem Steady.askAll (steady : policy.Steady questions holds fixed) (span : Option SpanRef)
    {before : σ × Trace} (start : holds before.1) :
    (policy.askAll questions span before).1 = questions.map fun question =>
      ⟨question, fixed question⟩ := by
  induction questions generalizing before with
  | nil => rfl
  | cons first rest ih =>
    obtain ⟨answers, after⟩ := steady first List.mem_cons_self span before start
    have later : policy.Steady rest holds fixed := fun question asked =>
      steady question (List.mem_cons_of_mem first asked)
    rw [List.map_cons, ← ih later after, ← answers]
    rfl

end Policy

namespace Directory

def answer (directory : Directory) :
    (question : Question) → Except PolicyError question.Answer
  | .identify credential => directory.identify credential
  | .authorize request => .ok (directory.allows request)

theorem policy_steady (directory : Directory) (questions : List Question) :
    policy.Steady questions (· = directory) directory.answer := by
  rintro question _ span ⟨_, trace⟩ rfl
  cases question <;> exact ⟨rfl, rfl⟩

end Directory

end ChannelGate
