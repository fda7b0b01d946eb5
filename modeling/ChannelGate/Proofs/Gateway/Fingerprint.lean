import ChannelGate.Gateway.Traced
import ChannelGate.Proofs.Gateway.Exchange

set_option autoImplicit false

namespace ChannelGate

/-- The line about a secret that could not be identified. Of the secret it has the first eight
digits of its SHA-256 digest, and nothing else. -/
def LogLine.unidentified (credential : Credential) (id error : String) (scope : List String) :
    LogLine where
  level := .warn
  message := "Failed to identify client"
  fields :=
    [("client_id", .text id),
      ("credential", .text (String.ofList
        ((Sha256.hexDigest (Utf8.ofString credential.secret)).toList.take 8))),
      ("error", .text error)]
  scope := scope

theorem LogLine.unidentified_eq (credential : Credential) (id error : String)
    (scope : List String) :
    LogLine.unidentified credential id error scope = ⟨.warn, "Failed to identify client",
      [("client_id", .text id), ("credential", .text credential.shortFingerprint),
        ("error", .text error)], scope⟩ := by
  simp only [unidentified, Credential.shortFingerprint, Credential.fingerprint]

def Trace.withLine (trace : Trace) (line : LogLine) : Trace :=
  { trace with lines := trace.lines ++ [line] }

/-- The hook comes to ask whose secret the session presents. -/
inductive Hook.Presents (session : Session) : Hook → Prop where
  | connect (named : session.id ≠ "") : Hook.Presents session (.authConnect (some session))
  | publish {topic : String} {payload : List UInt8} {route : Topic.Route} (named : session.id ≠ "")
    (routes : Topic.parse topic = .ok route) :
    Hook.Presents session (.authPublish (some session) (some topic) payload)
  | subscribe {topic : String} {others : List String} {route : Topic.Route}
    (named : session.id ≠ "") (routes : Topic.parse topic = .ok route) :
    Hook.Presents session (.authSubscribe (some session) (some (topic :: others)))

namespace Gateway

variable {σ α : Type} {gateway : Gateway σ} {session : Session} {error : PolicyError}
  {span : Option SpanRef} {before after : σ × Trace}

theorem run_given {check : Except GatewayError α} {next : α → HookPart σ Unit} {value : α}
    (passed : check = .ok value) : (liftM check >>= next : HookPart σ Unit).run = (next value).run := by
  subst passed
  rfl

/-- The policy fails to say whose secret it is, and whatever was to follow does not. -/
theorem run_identify_failed {next : String → HookPart σ Unit}
    (fails : gateway.policy.identify session.credential span before = (.error error, after)) :
    (gateway.identify session >>= next).run span before =
      (.error .authentication, after.1, after.2.withLine
        (.unidentified session.credential session.id error.message
          ((span.map SpanRef.path).getD []))) := by
  have heard : (liftM (gateway.policy.identify session.credential) : HookPart σ _).run span before =
      (.ok (.error error), after) := by
    change (Except.ok (gateway.policy.identify session.credential span before).1,
      (gateway.policy.identify session.credential span before).2) = _
    rw [fails]
  rw [run_bind, identify, run_bind, heard, LogLine.unidentified_eq]
  rfl

/-- A hook whose question fails ends with the line about it. -/
theorem perform_unidentified {hook : Hook} (presents : hook.Presents session) (created : Int64)
    (fails : gateway.policy.identify session.credential span before = (.error error, after)) :
    gateway.perform created hook span before =
      (.error .authentication, after.1, after.2.withLine
        (.unidentified session.credential session.id error.message
          ((span.map SpanRef.path).getD []))) := by
  cases presents with
  | connect named =>
    have known : authSession (some session) = .ok session := if_neg named
    change ((liftM (authSession (some session)) >>= _ : HookPart σ Unit)).run span before = _
    rw [run_given known]
    exact run_identify_failed fails
  | publish named routes =>
    have known : authSession (some session) = .ok session := if_neg named
    change ((liftM (authSession (some session)) >>= _ : HookPart σ Unit)).run span before = _
    rw [run_given known]
    change ((liftM (Topic.parse _) >>= _ : HookPart σ Unit)).run span before = _
    rw [run_given routes]
    exact run_identify_failed fails
  | subscribe named routes =>
    have known : authSession (some session) = .ok session := if_neg named
    change ((liftM (authSession (some session)) >>= _ : HookPart σ Unit)).run span before = _
    rw [run_given known]
    change ((liftM (Topic.parse _) >>= _ : HookPart σ Unit)).run span before = _
    rw [run_given routes]
    exact run_identify_failed fails

end Gateway

end ChannelGate
