import ChannelGate.Proofs.Gateway.Parts
import ChannelGate.Proofs.Topic.Grammar

set_option autoImplicit false

namespace ChannelGate.Gateway

variable {σ : Type}

/-- A gateway that knows one secret. Its first sink refuses every message. -/
def alarmGateway : Gateway Unit where
  instanceId := "gate"
  policy.identify credential :=
    return if credential.secret = "s3cret" then .ok "sensor" else .error .notFound
  policy.authorize request := return .ok (request.object = "alarms")
  sinks := [fun _ => return .error .closed, fun _ => return .ok ()]
  events _ := return .ok ()

theorem parse_alarm :
    Topic.parse "/channels/alarms/messages/a%2Fb?x" = .ok ⟨"alarms", "a.b"⟩ := by
  refine Topic.parse_eq_ok_iff_routes.mpr ⟨"/", "/a%2Fb", "a%2Fb", "?x", ?_⟩
  have spelled : Percent.Escaped "a%2Fb".toList ("a/b".toList.flatMap String.utf8EncodeChar) :=
    .plain (by decide) (.escape (x := 2) (y := 15) (by decide) (by decide)
      (.plain (by decide) .nil))
  have cut : Topic.Cut "a/b".toList (Topic.pieces "a/b".toList) := Topic.cut_pieces _
  refine ⟨rfl, .inr rfl, by decide, ?_, .inr (.inl rfl), by decide, .inr ⟨"x", rfl⟩,
    .pieces spelled cut ?_⟩
  · intro c member
    have all : "alarms".toList.all Topic.isChannelChar = true := by decide
    exact Topic.isChannelChar_iff.mp (List.all_eq_true.mp all c member)
  · intro piece member
    have all : (Topic.pieces "a/b".toList).all Topic.isPiece = true := by decide
    exact Topic.isPiece_iff.mp (List.all_eq_true.mp all piece member)

end ChannelGate.Gateway
