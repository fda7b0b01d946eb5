import ChannelGate.Policy.Cache
import ChannelGate.Proofs.Policy.Consultation

set_option autoImplicit false

namespace ChannelGate

/-- Different secrets among the questions have different fingerprints. -/
def FingerprintsApart (questions : List Question) : Prop :=
  ∀ first second, .identify first ∈ questions → .identify second ∈ questions →
    first.fingerprint = second.fingerprint → first = second

namespace Cache

def kept? (cache : Cache) : (question : Question) → Option question.Answer
  | .identify credential => cache.identities.lookup credential.fingerprint
  | .authorize request => cache.decisions.lookup request

def learn (cache : Cache) : (question : Question) → Except PolicyError question.Answer → Cache
  | _, .error _ => cache
  | .identify credential, .ok id =>
    { cache with identities := (credential.fingerprint, id) :: cache.identities }
  | .authorize request, .ok allowed =>
    { cache with decisions := (request, allowed) :: cache.decisions }

/-- The answers that are kept for the questions are those that were heard. -/
def Reflects (cache : Cache) (questions : List Question) (heard : List Consultation) : Prop :=
  ∀ question ∈ questions, cache.kept? question = answered? heard question

variable {cache : Cache} {questions : List Question} {question other : Question}

theorem kept?_empty (question : Question) : empty.kept? question = none := by
  cases question <;> rfl

theorem kept?_learn_self (unknown : cache.kept? question = none)
    (answer : Except PolicyError question.Answer) :
    (cache.learn question answer).kept? question = answer.toOption := by
  cases answer with
  | error error => exact unknown
  | ok value =>
    cases question with
    | identify credential => exact List.lookup_cons_self
    | authorize request => exact List.lookup_cons_self

/-- What is learned about a question says nothing about others. -/
theorem kept?_learn_of_ne (apart : FingerprintsApart questions) (asked : question ∈ questions)
    (askedToo : other ∈ questions) (differs : question ≠ other)
    (answer : Except PolicyError question.Answer) :
    (cache.learn question answer).kept? other = cache.kept? other := by
  cases answer with
  | error error => rfl
  | ok value =>
    cases question with
    | identify credential =>
      cases other with
      | authorize request => rfl
      | identify another =>
        -- Ids are kept under fingerprints, so only here two questions could share a key.
        have prints : another.fingerprint ≠ credential.fingerprint := by
          intro same
          exact differs (congrArg _ (apart _ _ askedToo asked same)).symm
        simp only [kept?, learn, List.lookup_cons, beq_eq_false_iff_ne.mpr prints]
    | authorize request =>
      cases other with
      | identify credential => rfl
      | authorize another =>
        have requests : another ≠ request := fun same => differs (congrArg _ same.symm)
        simp only [kept?, learn, List.lookup_cons, beq_eq_false_iff_ne.mpr requests]

theorem Reflects.learn {heard : List Consultation} (reflects : cache.Reflects questions heard)
    (apart : FingerprintsApart questions) (asked : question ∈ questions)
    (unknown : cache.kept? question = none) (answer : Except PolicyError question.Answer) :
    (cache.learn question answer).Reflects questions (heard ++ [⟨question, answer⟩]) := by
  intro other askedToo
  rw [answered?_append_singleton, ← reflects other askedToo]
  by_cases same : question = other
  · subst same
    rw [kept?_learn_self unknown, unknown, Consultation.toward?_self]
    rfl
  · rw [kept?_learn_of_ne apart asked askedToo same, Consultation.toward?_of_ne same,
      Option.or_none]

theorem through_apply {σ κ α : Type} [BEq κ] (get : Cache → List (κ × α))
    (set : List (κ × α) → Cache → Cache) (key : κ) (ask : Run σ (Except PolicyError α))
    (span : Option SpanRef) (cache : Cache) (state : σ) (trace : Trace) :
    through get set key ask span ((cache, state), trace) =
      match (get cache).lookup key with
      | some answer => (.ok answer, (cache, state), trace)
      | none =>
        let outcome := ask span (state, trace)
        (outcome.1,
          (match outcome.1 with
            | .ok value => set ((key, value) :: get cache) cache
            | .error _ => cache, outcome.2.1),
          outcome.2.2) := by
  rw [through, Run.bind_apply]
  change (match (get cache).lookup key with
    | some answer => pure (.ok answer)
    | none => _ : Run (Cache × σ) (Except PolicyError α)) span ((cache, state), trace) = _
  cases (get cache).lookup key with
  | some answer => rfl
  | none =>
    dsimp only
    rw [Run.bind_apply]
    change (match (ask span (state, trace)).1 with
      | .ok value => _
      | .error error => _ : Run (Cache × σ) (Except PolicyError α)) span _ = _
    cases (ask span (state, trace)).1 <;> rfl

end Cache

def Coupling.behindCaches {σ τ : Type} (coupling : Coupling σ τ) :
    Coupling (Cache × σ) (Cache × τ) where
  spans := coupling.spans
  states before before' := before.1.1 = before'.1.1 ∧
    coupling.states (before.1.2, before.2) (before'.1.2, before'.2)
  log level message fields inside together :=
    ⟨together.1, coupling.log level message fields inside together.2⟩

namespace Policy

variable {σ τ : Type} {inner : Policy σ} {questions past : List Question} {question : Question}
  {span : Option SpanRef}

theorem ask_cached (inner : Policy σ) (question : Question) (span : Option SpanRef) (cache : Cache)
    (state : σ) (trace : Trace) :
    inner.cached.ask question span ((cache, state), trace) =
      match cache.kept? question with
      | some answer => (.ok answer, (cache, state), trace)
      | none =>
        let outcome := inner.ask question span (state, trace)
        (outcome.1, (cache.learn question outcome.1, outcome.2.1), outcome.2.2) := by
  cases question with
  | identify credential =>
    simp only [ask, cached, Cache.through_apply, Cache.kept?]
    cases cache.identities.lookup credential.fingerprint with
    | some id => rfl
    | none => cases (inner.identify credential span (state, trace)).1 <;> rfl
  | authorize request =>
    simp only [ask, cached, Cache.through_apply, Cache.kept?]
    cases cache.decisions.lookup request with
    | some allowed => rfl
    | none => cases (inner.authorize request span (state, trace)).1 <;> rfl

theorem behindCache_true (inner : Policy σ) : inner.behindCache true = inner.cached := rfl

theorem ask_uncached (inner : Policy σ) (question : Question) (span : Option SpanRef)
    (cache : Cache) (state : σ) (trace : Trace) :
    (inner.behindCache false).ask question span ((cache, state), trace) =
      let outcome := inner.ask question span (state, trace)
      (outcome.1, (cache, outcome.2.1), outcome.2.2) := by
  cases question <;> rfl

theorem couples_behindCaches {coupling : Coupling σ τ} {policy : Policy σ} {policy' : Policy τ}
    (each : ∀ question, coupling.Couples (policy.ask question) (policy'.ask question))
    (kept : Bool) (question : Question) :
    coupling.behindCaches.Couples ((policy.behindCache kept).ask question)
      ((policy'.behindCache kept).ask question) := by
  constructor
  rintro span span' ⟨⟨cache, state⟩, trace⟩ ⟨⟨cache', state'⟩, trace'⟩ inside ⟨same, together⟩
  obtain rfl : cache = cache' := same
  obtain ⟨answers, still⟩ := (each question).run inside together
  cases kept with
  | false =>
    rw [ask_uncached, ask_uncached]
    exact ⟨answers, rfl, still⟩
  | true =>
    rw [behindCache_true, behindCache_true, ask_cached, ask_cached]
    cases cache.kept? question with
    | some answer => exact ⟨rfl, rfl, together⟩
    | none => exact ⟨answers, congrArg (cache.learn question) answers, still⟩

/-- A cache, the state of the policy behind it, what the policy was asked, and the trace. -/
abbrev Scene (σ : Type) := (Cache × σ × List Consultation) × Trace

abbrev Scene.heard (scene : Scene σ) : List Consultation := scene.1.2.2

def Scene.unrecorded (scene : Scene σ) : (Cache × σ) × Trace :=
  ((scene.1.1, scene.1.2.1), scene.2)

/-- Recording what reaches a policy behind a cache changes nothing. -/
theorem askAll_recorded (inner : Policy σ) (kept : Bool) (questions : List Question)
    (span : Option SpanRef) (before : Scene σ) :
    (inner.behindCache kept).askAll questions span before.unrecorded =
      Prod.map id Scene.unrecorded
        ((inner.recorded.behindCache kept).askAll questions span before) := by
  have couples := couples_askAll (couples_behindCaches (couples_recorded inner) kept) questions
  have together : (Coupling.beside σ Consultation).behindCaches.states before.unrecorded before :=
    ⟨rfl, rfl, rfl⟩
  obtain ⟨answers, caches, states, traces⟩ := couples.run (Eq.refl span) together
  exact Prod.ext answers (Prod.ext (Prod.ext caches states.symm) traces.symm)

/-- The question reached the policy: its answer is passed on, and its state and its trace are those
after it was asked. -/
structure Forwarded (inner : Policy σ) (question : Question) (span : Option SpanRef)
    (before : Scene σ) (outcome : Except PolicyError question.Answer × Scene σ) : Prop where
  answer : outcome.1 = (inner.ask question span (before.1.2.1, before.2)).1
  state : outcome.2.1.2.1 = (inner.ask question span (before.1.2.1, before.2)).2.1
  trace : outcome.2.2 = (inner.ask question span (before.1.2.1, before.2)).2.2
  heard : outcome.2.heard = before.heard ++ [⟨question, outcome.1⟩]

variable {before : Scene σ}

theorem ask_of_answered (reflects : before.1.1.Reflects questions before.heard)
    (asked : question ∈ questions) {answer : question.Answer}
    (known : answered? before.heard question = some answer) :
    inner.recorded.cached.ask question span before = (.ok answer, before) := by
  obtain ⟨⟨cache, state, heard⟩, trace⟩ := before
  rw [ask_cached, reflects question asked, known]

theorem ask_of_unanswered (reflects : before.1.1.Reflects questions before.heard)
    (asked : question ∈ questions) (unknown : answered? before.heard question = none) :
    inner.recorded.cached.ask question span before =
      let outcome := inner.ask question span (before.1.2.1, before.2)
      (outcome.1, (before.1.1.learn question outcome.1, outcome.2.1,
        before.heard ++ [⟨question, outcome.1⟩]), outcome.2.2) := by
  obtain ⟨⟨cache, state, heard⟩, trace⟩ := before
  rw [ask_cached, reflects question asked, unknown, ask_recorded]
  rfl

theorem reflects_ask (apart : FingerprintsApart questions)
    (reflects : before.1.1.Reflects questions before.heard) (asked : question ∈ questions) :
    let after : Scene σ := (inner.recorded.cached.ask question span before).2
    after.1.1.Reflects questions after.heard := by
  cases known : answered? before.heard question with
  | some answer =>
    rw [ask_of_answered reflects asked known]
    exact reflects
  | none =>
    rw [ask_of_unanswered reflects asked known]
    exact reflects.learn apart asked ((reflects question asked).trans known) _

theorem reflects_askAll (apart : FingerprintsApart questions) (within : past ⊆ questions)
    (state : σ) (trace : Trace) :
    let after : Scene σ := (inner.recorded.cached.askAll past span ((.empty, state, []), trace)).2
    after.1.1.Reflects questions after.heard := by
  -- The cache reflects what was heard of all questions of the run, also of those to come.
  induction past using List.reverseRecOn with
  | nil => exact fun question _ => Cache.kept?_empty question
  | append_singleton past last ih =>
    rw [askAll_append_singleton]
    exact reflects_ask apart (ih (List.append_subset.mp within).1)
      (within (List.mem_append_right past List.mem_cons_self))

/-- Behind a cache a question reaches the policy if it was not answered before. -/
theorem forwarded_iff_unanswered (reflects : before.1.1.Reflects questions before.heard)
    (asked : question ∈ questions) :
    Forwarded inner question span before (inner.recorded.cached.ask question span before) ↔
      answered? before.heard question = none := by
  constructor
  · intro forwarded
    rw [Option.eq_none_iff_forall_ne_some]
    intro answer known
    have longer := forwarded.heard
    rw [ask_of_answered reflects asked known, List.self_eq_append_right] at longer
    exact nomatch longer
  · intro unknown
    rw [ask_of_unanswered reflects asked unknown]
    exact ⟨rfl, rfl, rfl, rfl⟩

/-- Without a cache every question reaches the policy. -/
theorem forwarded_uncached (inner : Policy σ) (question : Question) (span : Option SpanRef)
    (before : Scene σ) :
    Forwarded inner question span before
      ((inner.recorded.behindCache false).ask question span before) := by
  obtain ⟨⟨cache, state, heard⟩, trace⟩ := before
  rw [ask_uncached, ask_recorded]
  exact ⟨rfl, rfl, rfl, rfl⟩

/-- After any questions, behind a cache or not: the next one reaches the policy unless it was
answered before, and if it was, nothing but its first answer comes of it. -/
theorem forwarded_iff (inner : Policy σ) (kept : Bool)
    (apart : kept → FingerprintsApart questions) (within : past ⊆ questions)
    (asked : question ∈ questions) (span : Option SpanRef) (state : σ) (trace : Trace) :
    let observed := inner.recorded.behindCache kept
    let before : Scene σ := (observed.askAll past span ((.empty, state, []), trace)).2
    let outcome := observed.ask question span before
    (Forwarded inner question span before outcome ↔
      kept = false ∨ ∀ answer, ⟨question, .ok answer⟩ ∉ before.heard) ∧
    ∀ answer, kept → answered? before.heard question = some answer →
      outcome = (.ok answer, before) := by
  intro observed before outcome
  cases kept with
  | false =>
    have forwarded := forwarded_uncached inner question span before
    exact ⟨⟨fun _ => .inl rfl, fun _ => forwarded⟩, fun _ impossible => nomatch impossible⟩
  | true =>
    have reflects : before.1.1.Reflects questions before.heard :=
      reflects_askAll (apart rfl) within state trace
    constructor
    · rw [← answered?_eq_none_iff, or_iff_right (by decide)]
      exact forwarded_iff_unanswered reflects asked
    · intro answer _ known
      exact ask_of_answered reflects asked known

variable {holds : σ → Prop} {fixed : (question : Question) → Except PolicyError question.Answer}

theorem Steady.cached (steady : inner.Steady questions holds fixed)
    (apart : FingerprintsApart questions) :
    inner.cached.Steady questions
      (fun (cache, state) => holds state ∧
        ∀ question ∈ questions, ∀ answer, cache.kept? question = some answer →
          fixed question = .ok answer)
      fixed := by
  rintro question asked span ⟨⟨cache, state⟩, trace⟩ ⟨start, right⟩
  rw [ask_cached]
  cases known : cache.kept? question with
  | some answer => exact ⟨(right question asked answer known).symm, start, right⟩
  | none =>
    obtain ⟨answers, after⟩ := steady question asked span (state, trace) start
    refine ⟨answers, after, ?_⟩
    -- What is kept now is what was kept before, or the fixed answer that just came.
    intro other askedToo answer found
    by_cases same : question = other
    · subst same
      rw [Cache.kept?_learn_self known, answers] at found
      exact toOption_eq_some_iff.mp found
    · rw [Cache.kept?_learn_of_ne apart asked askedToo same] at found
      exact right other askedToo answer found

theorem Steady.uncached (steady : inner.Steady questions holds fixed) :
    (inner.behindCache false).Steady questions (fun (_, state) => holds state) fixed := by
  rintro question asked span ⟨⟨cache, state⟩, trace⟩ start
  rw [ask_uncached]
  exact steady question asked span (state, trace) start

theorem Steady.askAll_behindCache (steady : inner.Steady questions holds fixed) (kept : Bool)
    (apart : kept → FingerprintsApart questions) (span : Option SpanRef) {state : σ}
    (start : holds state) (trace : Trace) :
    ((inner.behindCache kept).askAll questions span ((.empty, state), trace)).1 =
      (inner.askAll questions span (state, trace)).1 := by
  rw [steady.askAll span start]
  cases kept with
  | false => exact steady.uncached.askAll span start
  | true =>
    apply (steady.cached (apart rfl)).askAll span
    refine ⟨start, ?_⟩
    intro question _ answer known
    rw [Cache.kept?_empty] at known
    exact nomatch known

/-- Whatever the policy behind it answers, and however it changes its mind, a client that keeps
answers asks it each question until it answers without an error, and from then on gives this first
answer again; nothing else it was asked, and no error, makes a difference. So a policy that never
changes its mind is answered for as if there were no cache, as is a directory. Without a time to
live every question reaches the policy. The fingerprints of the secrets must not collide. -/
theorem serves_first_answers {σ : Type} (inner : Policy σ) (ttl : Nat)
    (questions : List Question) (apart : 0 < ttl → FingerprintsApart questions)
    (span : Option SpanRef) (state : σ) (trace : Trace) :
    let client := inner.behindCache (Cache.outlives ttl)
    let observed := inner.recorded.behindCache (Cache.outlives ttl)
    let start : Scene σ := ((.empty, state, []), trace)
    client.askAll questions span start.unrecorded =
      Prod.map id Scene.unrecorded (observed.askAll questions span start) ∧
    (∀ past question rest, questions = past ++ question :: rest →
      let before : Scene σ := (observed.askAll past span start).2
      let outcome := observed.ask question span before
      (Forwarded inner question span before outcome ↔
        ttl = 0 ∨ ∀ answer, ⟨question, .ok answer⟩ ∉ before.heard) ∧
      ∀ answer, 0 < ttl → answered? before.heard question = some answer →
        outcome = (.ok answer, before)) ∧
    (∀ holds fixed, inner.Steady questions holds fixed → holds state →
      (client.askAll questions span start.unrecorded).1 =
        (inner.askAll questions span (state, trace)).1) ∧
    ∀ directory : Directory,
      ((Directory.policy.behindCache (Cache.outlives ttl)).askAll questions span
          ((.empty, directory), trace)).1 =
        (Directory.policy.askAll questions span (directory, trace)).1 := by
  intro client observed start
  have keeps : Cache.outlives ttl → FingerprintsApart questions := fun kept =>
    apart (of_decide_eq_true kept)
  refine ⟨askAll_recorded inner _ questions span start, ?_, ?_, ?_⟩
  · intro past question rest whole before outcome
    have asked : question ∈ questions := by
      rw [whole]
      exact List.mem_append_right past List.mem_cons_self
    have within : past ⊆ questions := by
      rw [whole]
      exact List.subset_append_left past _
    obtain ⟨forwards, serves⟩ := forwarded_iff inner _ keeps within asked span state trace
    have never : Cache.outlives ttl = false ↔ ttl = 0 := by simp [Cache.outlives]
    rw [never] at forwards
    exact ⟨forwards, fun answer positive => serves answer (decide_eq_true positive)⟩
  · intro holds fixed steady held
    exact steady.askAll_behindCache _ keeps span held trace
  · intro directory
    exact (directory.policy_steady questions).askAll_behindCache _ keeps span rfl trace

/-- A policy that is down at first, and then changes its mind. -/
def wavering : Policy Nat where
  identify _ := Run.onState fun
    | 0 => (.error (.unavailable "down"), 1)
    | 1 => (.ok "thing", 2)
    | asked + 2 => (.ok "other", asked + 3)
  authorize _ := Run.onState fun asked => (.ok (asked % 2 = 0), asked + 1)

theorem serves_first_answers_wavering :
    let question : Question := .identify ⟨"pw"⟩
    let past : List Question :=
      [question, question, .identify ⟨"key"⟩, .authorize ⟨"thing", "channel", .read⟩]
    let observed := wavering.recorded.behindCache (Cache.outlives 60)
    let before : Scene Nat := (observed.askAll past none ((.empty, 0, []), .empty)).2
    (0 < 60 → FingerprintsApart (past ++ [question])) ∧
      observed.ask question none before = (.ok "thing", before) := by
  intro question past observed before
  have differs : (Credential.mk "pw").fingerprint ≠ (Credential.mk "key").fingerprint := by
    decide +kernel
  have secrets : ∀ credential, .identify credential ∈ past ++ [question] →
      credential = ⟨"pw"⟩ ∨ credential = ⟨"key"⟩ := by
    simp [past, question]
  have apart : FingerprintsApart (past ++ [question]) := by
    intro first second asked askedToo same
    rcases secrets first asked with rfl | rfl <;> rcases secrets second askedToo with rfl | rfl
    · rfl
    · exact absurd same differs
    · exact absurd same.symm differs
    · rfl
  have law := serves_first_answers wavering 60 (past ++ [question]) (fun _ => apart) none 0 .empty
  have serves := (law.2.1 past question [] rfl).2 "thing" (by decide)
  exact ⟨fun _ => apart, serves (by decide +kernel)⟩

end Policy

end ChannelGate
