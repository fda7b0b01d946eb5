import ChannelGate.Proofs.Gateway.Conduct
import ChannelGate.Proofs.Gateway.Routing

set_option autoImplicit false

namespace ChannelGate

/-- The policy never names the one who presents the credential: it fails, or the name is empty. -/
def Policy.Ignores {σ : Type} (policy : Policy σ) (credential : Credential) : Prop :=
  ∀ span before subject, (policy.identify credential span before).1 = .ok subject → subject = ""

def Hook.Vets (session : Session) : Hook → Prop
  | .authConnect presented => presented = some session
  | .authPublish presented _ _ => presented = some session
  | .authSubscribe presented _ => presented = some session
  | _ => False

namespace Gateway

variable {σ : Type}

/-- The answer is an error, and at most it was asked who presents the credential. -/
def Refused (credential : Credential) : Manner := fun answer said =>
  (∃ error, answer = .error error) ∧
    (said = [] ∨ ∃ identity, said = [.identify credential identity])

theorem Silent.refused {credential : Credential} {error : GatewayError}
    {answer : Except GatewayError Unit} {said : List Exchange}
    (silent : Silent (.error error) answer said) : Refused credential answer said :=
  ⟨⟨error, silent.1⟩, .inl silent.2⟩

theorem Given.refused {α : Type} {credential : Credential} {check : Except GatewayError α}
    {next : α → Manner} {answer : Except GatewayError Unit} {said : List Exchange}
    (given : Given check next answer said)
    (follows : ∀ value, check = .ok value → next value answer said →
      Refused credential answer said) : Refused credential answer said := by
  cases check with
  | error error => exact Silent.refused given
  | ok value => exact follows value rfl given

theorem Identified.refused {credential : Credential} {next : String → Manner}
    {answer : Except GatewayError Unit} {said : List Exchange}
    (asked : Identified credential next answer said)
    (unknown : ∀ subject, .identify credential (.ok subject) ∈ said → subject = "") :
    Refused credential answer said := by
  obtain ⟨identity, rest, rfl, given⟩ := asked
  have fails : resolved identity = .error .authentication := by
    cases identity with
    | error error => rfl
    | ok subject =>
      have empty : subject = "" := unknown subject List.mem_cons_self
      rw [empty]
      rfl
  rw [fails] at given
  obtain ⟨same, silent⟩ := given
  rw [silent]
  exact ⟨⟨_, same⟩, .inr ⟨identity, rfl⟩⟩

/-- Whatever the session wants, it is refused unless it subscribes to no topics. -/
theorem refused_of_conduct {gateway : Gateway σ} {created : Int64} {session : Session}
    {hook : Hook} (vets : hook.Vets session)
    (asks : hook ≠ .authSubscribe (some session) (some []))
    {answer : Except GatewayError Unit} {said : List Exchange}
    (behaves : Conduct gateway created hook answer said)
    (unknown : ∀ subject, .identify session.credential (.ok subject) ∈ said → subject = "") :
    Refused session.credential answer said := by
  have own : ∀ {presented : Option Session} {other : Session}, presented = some session →
      authSession presented = .ok other → other = session := by
    intro presented other same checked
    exact Option.some.inj ((authSession_eq_ok.mp checked).1.symm.trans same)
  cases hook with
  | authConnect presented =>
    apply Given.refused behaves
    intro other checked asked
    rw [own vets checked] at asked
    exact asked.refused unknown
  | authPublish presented topic payload =>
    apply Given.refused behaves
    intro other checked routed
    rw [own vets checked] at routed
    apply Given.refused routed
    intro route parsed asked
    exact asked.refused unknown
  | authSubscribe presented topics =>
    apply Given.refused behaves
    intro other checked batched
    rw [own vets checked] at batched
    match topics with
    | none => exact Silent.refused batched
    | some [] => exact absurd (by rw [show presented = some session from vets]) asks
    | some (topic :: rest) =>
      apply Given.refused batched
      intro route parsed asked
      exact asked.refused unknown
  | connect presented => exact vets.elim
  | publish presented topic payload => exact vets.elim
  | subscribe presented topics => exact vets.elim
  | unsubscribe presented topics => exact vets.elim
  | disconnect presented => exact vets.elim

/-- A session without topics is asked nothing, and let in if it has an id. -/
theorem conduct_authSubscribe_nil {gateway : Gateway σ} {created : Int64} {session : Session}
    {answer : Except GatewayError Unit} {said : List Exchange}
    (behaves : Conduct gateway created (.authSubscribe (some session) (some [])) answer said) :
    (answer = .ok () ↔ session.id ≠ "") ∧ said = [] := by
  cases checked : authSession (some session) with
  | error error =>
    rw [Conduct, checked] at behaves
    obtain ⟨rfl, silent⟩ := behaves
    refine ⟨?_, silent⟩
    simp only [reduceCtorEq, false_iff]
    intro named
    have opened : authSession (some session) = .ok session := authSession_eq_ok.mpr ⟨rfl, named⟩
    rw [checked] at opened
    cases opened
  | ok other =>
    rw [Conduct, checked] at behaves
    obtain ⟨rfl, silent⟩ := behaves
    obtain ⟨same, named⟩ := authSession_eq_ok.mp checked
    rw [← Option.some.inj same] at named
    exact ⟨⟨fun _ => named, fun _ => rfl⟩, silent⟩

/-- A session whose credential the policy does not know passes no check, and at most one question
is asked for it: nothing is authorized, and nobody is told. The exception is a subscription to no
topics. It passes if the session has an id, since who it is is asked at the first topic only. -/
theorem unknown_credential_is_refused (gateway : Gateway σ) (created : Int64) {session : Session}
    (unknown : gateway.policy.Ignores session.credential) {hook : Hook}
    (vets : hook.Vets session) (moment : Moment σ) :
    (gateway.answer created hook moment = .ok () ↔
      hook = .authSubscribe (some session) (some []) ∧ session.id ≠ "") ∧
    (gateway.exchanges created hook moment = [] ∨
      ∃ identity, gateway.exchanges created hook moment =
        [.identify session.credential identity]) := by
  have behaves := conduct gateway created hook moment
  have unnamed : ∀ subject, .identify session.credential (.ok subject) ∈
      gateway.exchanges created hook moment → subject = "" := by
    intro subject said
    obtain ⟨span, before, answered⟩ := genuine_of_mem_exchanges said
    exact unknown span before subject answered
  by_cases asks : hook = .authSubscribe (some session) (some [])
  · subst asks
    obtain ⟨passes, silent⟩ := conduct_authSubscribe_nil behaves
    refine ⟨?_, .inl silent⟩
    rw [passes]
    exact ⟨fun named => ⟨rfl, named⟩, And.right⟩
  · obtain ⟨⟨error, refused⟩, said⟩ := refused_of_conduct vets asks behaves unnamed
    refine ⟨?_, said⟩
    rw [refused]
    simp only [reduceCtorEq, asks, false_and]

def strangerSession : Session := ⟨"meter", "sensor", ⟨"guess"⟩⟩

theorem alarmGateway_ignores_stranger :
    alarmGateway.policy.Ignores strangerSession.credential := by
  intro span before subject named
  cases named

theorem unknown_credential_is_refused_stranger :
    let hook := Hook.authSubscribe (some strangerSession) (some ["channels/alarms/messages"])
    let start : Moment Unit := ⟨none, (), .empty⟩
    alarmGateway.policy.Ignores strangerSession.credential ∧ hook.Vets strangerSession ∧
      (alarmGateway.answer 5 hook start = .ok () ↔
        hook = .authSubscribe (some strangerSession) (some []) ∧ strangerSession.id ≠ "") ∧
      (alarmGateway.exchanges 5 hook start = [] ∨
        ∃ identity, alarmGateway.exchanges 5 hook start =
          [.identify strangerSession.credential identity]) := by
  intro hook start
  have vets : hook.Vets strangerSession := rfl
  exact ⟨alarmGateway_ignores_stranger, vets,
    unknown_credential_is_refused alarmGateway 5 alarmGateway_ignores_stranger vets start⟩

/-- Not every check refuses a stranger: a subscription to no topics passes. -/
theorem stranger_may_subscribe_to_nothing :
    alarmGateway.policy.Ignores strangerSession.credential ∧
      alarmGateway.answer 5 (.authSubscribe (some strangerSession) (some []))
        ⟨none, (), .empty⟩ = .ok () :=
  ⟨alarmGateway_ignores_stranger, rfl⟩

end Gateway

end ChannelGate
