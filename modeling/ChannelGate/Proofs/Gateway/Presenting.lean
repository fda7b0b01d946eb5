import ChannelGate.Gateway.Traced

set_option autoImplicit false

namespace ChannelGate

def Session.presenting (credential : Credential) (session : Session) : Session :=
  { session with credential := credential }

namespace Session

variable (credential : Credential) (session : Session)

@[simp] theorem presenting_id : (session.presenting credential).id = session.id := rfl

@[simp] theorem presenting_principal :
    (session.presenting credential).principal = session.principal := rfl

/-- What is shown of a session does not hang on its secret. -/
theorem inspect_eq {session session' : Session} (ids : session.id = session'.id)
    (principals : session.principal = session'.principal) :
    session.inspect = session'.inspect := by
  obtain ⟨id, principal, credential⟩ := session
  obtain ⟨_, _, credential'⟩ := session'
  cases ids
  cases principals
  rfl

end Session

namespace Hook

/-- The hook of a session that presents this secret in place of its own. -/
def presenting (credential : Credential) : Hook → Hook
  | .authConnect session => .authConnect (session.map (Session.presenting credential))
  | .authPublish session topic payload =>
    .authPublish (session.map (Session.presenting credential)) topic payload
  | .authSubscribe session topics =>
    .authSubscribe (session.map (Session.presenting credential)) topics
  | .connect session => .connect (session.map (Session.presenting credential))
  | .publish session topic payload =>
    .publish (session.map (Session.presenting credential)) topic payload
  | .subscribe session topics => .subscribe (session.map (Session.presenting credential)) topics
  | .unsubscribe session topics =>
    .unsubscribe (session.map (Session.presenting credential)) topics
  | .disconnect session => .disconnect (session.map (Session.presenting credential))

/-- A session presents its own secret. -/
theorem exists_presenting (hook : Hook) : ∃ credential, hook.presenting credential = hook := by
  obtain ⟨credential, same⟩ : ∃ credential,
      hook.session?.map (Session.presenting credential) = hook.session? := by
    cases hook.session? with
    | none => exact ⟨⟨""⟩, rfl⟩
    | some session => exact ⟨session.credential, rfl⟩
  refine ⟨credential, ?_⟩
  cases hook <;> simp only [session?] at same <;> simp only [presenting, same]

theorem presenting_spanName (credential : Credential) (hook : Hook) :
    (hook.presenting credential).spanName = hook.spanName := by
  cases hook <;> rfl

theorem clientField_presenting (credential : Credential) (session : Option Session) :
    clientField (session.map (Session.presenting credential)) = clientField session := by
  cases session <;> rfl

theorem presenting_spanFields (credential : Credential) (hook : Hook) :
    (hook.presenting credential).spanFields = hook.spanFields := by
  cases hook <;> simp only [presenting, spanFields, clientField_presenting]

end Hook

namespace Gateway

variable {σ : Type}

theorem authSession_presenting (credential : Credential) (session : Option Session) :
    authSession (session.map (Session.presenting credential)) =
      (authSession session).map (Session.presenting credential) := by
  cases session with
  | none => rfl
  | some session =>
    simp only [authSession, Option.map_some, Session.presenting_id]
    by_cases empty : session.id = ""
    · simp only [empty, ↓reduceIte]
      rfl
    · simp only [empty, ↓reduceIte]
      rfl

theorem hookSession_presenting (op : Operation) (credential : Credential)
    (session : Option Session) :
    hookSession op (session.map (Session.presenting credential)) =
      (hookSession op session).map (Session.presenting credential) := by
  cases session <;> rfl

/-- Whether a request is allowed does not hang on the secret. -/
theorem authorize_presenting (gateway : Gateway σ) (credential : Credential) (session : Session)
    (request : Request) :
    gateway.authorize (session.presenting credential) request = gateway.authorize session request :=
  rfl

end Gateway

end ChannelGate
