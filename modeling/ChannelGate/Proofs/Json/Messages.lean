import ChannelGate.Message
import ChannelGate.Proofs.Json.Reading

set_option autoImplicit false

namespace ChannelGate.RoutedMessage

open Json

theorem plain_toJson (message : RoutedMessage) : Plain message.toJson := by
  refine .object _ fun member isMember => ?_
  simp only [List.mem_cons, List.not_mem_nil, or_false] at isMember
  rcases isMember with rfl | rfl | rfl | rfl | rfl | rfl
  · exact .string _
  · exact .string _
  · exact .string _
  · exact .string _
  · refine .array _ fun item isItem => ?_
    obtain ⟨byte, -, rfl⟩ := List.mem_map.mp isItem
    exact .integer _
  · exact .integer _

theorem asByte?_integer (byte : UInt8) : asByte? (.integer byte.toNat) = some byte := by
  have below := byte.toNat_lt
  have range : (0 : Int) ≤ byte.toNat ∧ (byte.toNat : Int) < 256 := by omega
  rw [asByte?, if_pos range, Int.toNat_natCast, UInt8.ofNat_toNat]

theorem asBytes?_array (payload : List UInt8) :
    asBytes? (.array (payload.map fun byte => .integer byte.toNat)) = some payload := by
  have kept : asByte? ∘ (fun byte : UInt8 => Json.integer byte.toNat) = pure := by
    funext byte
    rw [Function.comp_apply, asByte?_integer]
    rfl
  rw [asBytes?, List.mapM_map, kept, List.mapM_pure]
  simp

theorem asTime?_integer (created : Int64) : asTime? (.integer created.toInt) = some created := by
  have low := Int64.le_toInt created
  have high := Int64.toInt_lt created
  have range : -0x8000000000000000 ≤ created.toInt ∧ created.toInt < 0x8000000000000000 := by
    omega
  rw [asTime?, if_pos range, Int64.ofInt_toInt]

theorem ofJson?_toJson (message : RoutedMessage) : ofJson? message.toJson = some message := by
  have values : ofValues? (.string message.channel) (.string message.subtopic)
      (.string message.publisher) (.string message.protocol)
      (.array (message.payload.map fun byte => .integer byte.toNat))
      (.integer message.created.toInt) = some message := by
    unfold ofValues?
    rw [asBytes?_array, asTime?_integer]
    rfl
  exact values

theorem decode?_encode (message : RoutedMessage) : decode? message.encode = some message := by
  unfold decode? encode
  rw [read?_text message.plain_toJson, Option.bind_some, ofJson?_toJson]

/-- Every message is read back from its text, so no two messages have the same text. -/
theorem encoding_is_faithful :
    (∀ message, decode? (encode message) = some message) ∧ Function.Injective encode := by
  refine ⟨decode?_encode, fun message other same => ?_⟩
  have read : some message = some other := by
    rw [← decode?_encode message, ← decode?_encode other, same]
  exact Option.some.inj read

end ChannelGate.RoutedMessage
