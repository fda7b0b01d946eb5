import ChannelGate.Proofs.Tracing.Discreet

set_option autoImplicit false

namespace ChannelGate

variable {σ η : Type} {mine theirs : Credential} {alike : σ → σ → Prop}

namespace Parties

variable {parties : Parties σ η}

/-- The parts of the stack with spans keep twins together. -/
theorem Discreet.staged (discreet : parties.Discreet mine theirs alike) :
    Parts.Coupled (Coupling.twinStages (Watched η) η mine theirs alike) id
      (parties.staged parties.handling.sighted.watched Watched.handler)
      (parties.staged parties.handling.sighted.watched Watched.handler) where
  instanceId := rfl
  identify credential := twins_noted (twins_party (discreet.identify credential))
    fun answer => .same (.exchange (.identify credential answer))
  authorize request := twins_noted (twins_party (discreet.authorize request))
    fun answer => .same (.exchange (.authorize request answer))
  sinks := by
    intro publish publish' same
    apply forall₂_map_same
    rintro ⟨outlet, number⟩ member message
    refine twins_noted ?_ fun _ => .same _
    cases outlet with
    | sink sink =>
      have among := List.fst_mem_of_mem_zipIdx member
      exact twins_party (discreet.sinks sink among message)
    | bus => exact same message
  publish event := twins_noted (twins_party (discreet.publish event))
    fun answer => .same (.exchange (.announce event answer))
  close := twins_noted (twins_party discreet.close) fun _ => .same _
  call call := by
    have watched := Coupling.Handlings.watched (Coupling.twins_encloses _ _ _)
      (twins_sighted discreet.handlings)
    have coupled := twins_called (Coupling.couples_call watched call) (call.map Watched.handler)
    rw [Call.map_id] at coupled ⊢
    change Coupling.Couples _ ((Stage.pubSub _ _).call call) ((Stage.pubSub _ _).call call)
    rw [Stage.pubSub_call]
    exact coupled

abbrev recordedGateway (parties : Parties σ η) : Gateway (Stage (Watched η) σ η) :=
  (parties.staged parties.handling.sighted.watched Watched.handler).gateway .traced

theorem twins_traced :
    Dress.Coupled (Coupling.twinStages (Watched η) η mine theirs alike) id
      (Dress.traced : Dress _ (Watched η) η) (Dress.traced : Dress _ (Watched η) η) :=
  Dress.traced_coupled (Coupling.twins_encloses _ _ _) η

/-- A hook of a session that presents the one secret or the other. -/
theorem Discreet.visit (discreet : parties.Discreet mine theirs alike) (created : Int64)
    (hook : Hook) :
    (Coupling.twinStages (Watched η) η mine theirs alike).Couples
      (parties.tracedOnRecord.hook created (hook.presenting mine))
      (parties.tracedOnRecord.hook created (hook.presenting theirs)) := by
  have asked := discreet.staged.parties twins_traced
  have confuses : (Coupling.twinStages (Watched η) η mine theirs alike).bond.Confuses mine theirs
      parties.recordedGateway parties.recordedGateway :=
    Coupling.twins_confuse (twins_noted (twins_party discreet.secret) .identify)
  refine twins_noted ?_ (.visit created hook)
  change Coupling.Couples _
    (Run.inSpan (hook.presenting mine).spanName (hook.presenting mine).spanFields _ _)
    (Run.inSpan (hook.presenting theirs).spanName (hook.presenting theirs).spanFields _ _)
  -- Only what is inside of the spans differs.
  simp only [Hook.presenting_spanName, Hook.presenting_spanFields]
  apply (Coupling.twins_encloses _ _ _).inSpan
  exact fun _ => asked.joins_steps_presenting confuses created hook

/-- What is done with the stack is the same, or a session presents the one secret or the other. -/
theorem Discreet.act (discreet : parties.Discreet mine theirs alike) {act act' : Act η}
    (twins : act.Twins mine theirs act') :
    (Coupling.twinStages (Watched η) η mine theirs alike).Couples (parties.tracedOnRecord.act act)
      (parties.tracedOnRecord.act act') := by
  cases twins with
  | same act =>
    have coupled := discreet.staged.stack twins_traced
    have noted : Stack.Coupled (Coupling.twinStages (Watched η) η mine theirs alike)
        parties.tracedOnRecord parties.tracedOnRecord :=
      { coupled with
        hook := fun created hook => twins_noted (coupled.hook created hook) fun _ => .same _ }
    exact noted.act act
  | secret created hook =>
    exact (discreet.visit created hook).bind fun _ => Coupling.couples_pure _ _

/-- A hook whose question whose secret it is fails leaves one line about it, in its span. -/
theorem traced_unidentified (parties : Parties σ η) {hook : Hook} {session : Session}
    (presents : hook.Presents session) (created : Int64) (span : Option SpanRef)
    (bus : Bus (Watched η)) {state : σ} {trace : Trace} {error : PolicyError} {after : σ × Trace} :
    let path := (span.map SpanRef.path).getD [] ++ [hook.spanName]
    parties.policy.identify session.credential (some ⟨trace.opened, path⟩)
        (state, { trace with opened := trace.opened + 1 }) = (.error error, after) →
      (parties.traced.hook created hook span ((bus, state), trace)).2.2.lines =
        after.2.lines ++ [.unidentified session.credential session.id error.message path] := by
  intro path fails
  have asked : ((parties.parts parties.handling.watched).gateway .traced).policy.identify
      session.credential (some ⟨trace.opened, path⟩)
      ((bus, state), { trace with opened := trace.opened + 1 }) =
        (.error error, (bus, after.1), after.2) := by
    change ((parties.policy.identify _ _ _).1, (bus, (parties.policy.identify _ _ _).2.1),
      (parties.policy.identify _ _ _).2.2) = _
    rw [fails]
  have performed := Gateway.perform_unidentified presents created asked
  change (Run.inSpan hook.spanName hook.spanFields GatewayError.message
    (fun _ => Gateway.perform _ created hook) span ((bus, state), trace)).2.2.lines = _
  rw [Run.inSpan_apply, Run.inSpanUnder_apply]
  dsimp only
  rw [performed]
  rfl

/-- Secrets never show. Take parties that keep secrets, and whose policy answers the same about both
of two. Whatever is done with a stack with spans around everything, and whichever of the two a
session presents at any of the hooks, the answers are the same, and so are the registry, what
becomes of the parties and the spans that were opened and finished. On record, which changes
nothing, the policy was asked for the same permissions, the sinks were handed the same messages, the
same events were announced and the same handlers spoken to, all in the same order, in the same spans
and with the same answers; only the policy was asked whose the one secret is or the other. The lines
are the same too, but for those about a secret that could not be identified, where the first eight
digits of its digest stand; each hook that asks whose secret it is and gets an error ends with such a
line. And sessions that differ in their secrets are shown alike. -/
theorem secrets_never_show (parties : Parties σ η) (mine theirs : Credential)
    (alike : σ → σ → Prop) (discreet : parties.Discreet mine theirs alike)
    {acts acts' : List (Act η)}
    (twins : List.Forall₂ (Act.Twins mine theirs) acts acts') (span : Option SpanRef)
    (bus : Bus (Watched η)) {state state' : σ} (together : alike state state') (trace : Trace) :
    let run := Run.inTurn parties.traced.act acts span ((bus, state), trace)
    let run' := Run.inTurn parties.traced.act acts' span ((bus, state'), trace)
    (∃ record record' : List (Entry η),
      Run.inTurn parties.tracedOnRecord.act acts span (((bus, state), []), trace) =
        (run.1, (run.2.1, record), run.2.2) ∧
      Run.inTurn parties.tracedOnRecord.act acts' span (((bus, state'), []), trace) =
        (run'.1, (run'.2.1, record'), run'.2.2) ∧
      List.Forall₂ (Entry.Twins mine theirs) record record') ∧
    run.1 = run'.1 ∧ run.2.1.1 = run'.2.1.1 ∧ alike run.2.1.2 run'.2.1.2 ∧
    run.2.2.Twins mine theirs run'.2.2 ∧
    (∀ created hook (session : Session) error after, hook.Presents session →
      let path := (span.map SpanRef.path).getD [] ++ [hook.spanName]
      parties.policy.identify session.credential (some ⟨trace.opened, path⟩)
          (state, { trace with opened := trace.opened + 1 }) = (.error error, after) →
        (parties.traced.hook created hook span ((bus, state), trace)).2.2.lines =
          after.2.lines ++ [.unidentified session.credential session.id error.message path]) ∧
    ∀ session session' : Session, session.id = session'.id →
      session.principal = session'.principal → session.inspect = session'.inspect := by
  intro run run'
  have recorded := parties.traced_on_record.run_on_record acts span (bus, state) trace
  have recorded' := parties.traced_on_record.run_on_record acts' span (bus, state') trace
  have start : (Coupling.twinStages (Watched η) η mine theirs alike).states
      ((((bus, state), []) : Stage (Watched η) σ η), trace)
      ((((bus, state'), []) : Stage (Watched η) σ η), trace) :=
    ⟨⟨rfl, together, .nil⟩, .refl mine theirs trace⟩
  obtain ⟨answers, stages, traces⟩ :=
    (Coupling.couples_inTurn_forall₂ (fun pair => discreet.act pair) twins).run (Eq.refl span) start
  rw [recorded, recorded'] at answers stages traces
  exact ⟨⟨_, _, recorded, recorded', stages.record⟩, answers, stages.bus, stages.parties, traces,
    fun created _ _ _ _ presents => parties.traced_unidentified presents created span bus,
    fun _ _ => Session.inspect_eq⟩

def lampKeeper : Company where
  desk := ⟨⟨[⟨"lamp", ⟨"key"⟩⟩], []⟩, none, []⟩
  recording := Recorder.blank
  machine := .initial .standard Publisher.standard_valid .ready .fresh

/-- Every hook once, of a session that claims to be the lamp. -/
def lampHooks : List Hook :=
  let session : Option Session := some ⟨"session", "lamp", ⟨"key"⟩⟩
  [.authConnect session, .connect session, .authPublish session (some "channels/1/messages") [1],
    .publish session "channels/1/messages" [1],
    .authSubscribe session (some ["channels/1/messages"]),
    .subscribe session ["channels/1/messages"], .unsubscribe session ["channels/1/messages"],
    .disconnect session]

def claimLamp (credential : Credential) : List (Act (Recorder String)) :=
  lampHooks.map fun hook => .visit 0 (hook.presenting credential)

theorem secrets_never_show_strangers :
    let parties := Company.parties "gate" 1
    let run := Run.inTurn parties.traced.act (claimLamp ⟨"guess"⟩) none
      ((Bus.empty, lampKeeper), .empty)
    let run' := Run.inTurn parties.traced.act (claimLamp ⟨"other guess"⟩) none
      ((Bus.empty, lampKeeper), .empty)
    parties.Discreet ⟨"guess"⟩ ⟨"other guess"⟩ (Company.Confused ⟨"guess"⟩ ⟨"other guess"⟩) ∧
      Company.Confused ⟨"guess"⟩ ⟨"other guess"⟩ lampKeeper lampKeeper ∧
      run.1 = run'.1 ∧ run.2.2.Twins ⟨"guess"⟩ ⟨"other guess"⟩ run'.2.2 := by
  have discreet : (Company.parties "gate" 1).Discreet ⟨"guess"⟩ ⟨"other guess"⟩
      (Company.Confused ⟨"guess"⟩ ⟨"other guess"⟩) := Company.parties_discreet "gate" 1
  have strangers : Company.Confused ⟨"guess"⟩ ⟨"other guess"⟩ lampKeeper lampKeeper :=
    ⟨⟨rfl, rfl, by decide⟩, rfl, rfl⟩
  have twins : List.Forall₂ (Act.Twins ⟨"guess"⟩ ⟨"other guess"⟩) (claimLamp ⟨"guess"⟩)
      (claimLamp ⟨"other guess"⟩) :=
    forall₂_map_same fun hook _ => .secret 0 hook
  obtain ⟨_, answers, _, _, traces, _, _⟩ := secrets_never_show (Company.parties "gate" 1) ⟨"guess"⟩
    ⟨"other guess"⟩ (Company.Confused ⟨"guess"⟩ ⟨"other guess"⟩) discreet twins none Bus.empty
    strangers .empty
  exact ⟨discreet, strangers, answers, traces⟩

end Parties

end ChannelGate
