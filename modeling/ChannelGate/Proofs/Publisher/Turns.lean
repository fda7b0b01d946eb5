import ChannelGate.Proofs.Publisher.Trail
import ChannelGate.Publisher.Work

set_option autoImplicit false

namespace ChannelGate.Publisher

open Machine

def Machine.caller? (m : Machine) : Move → Option Nat
  | .publish .. | .pending | .close _ => some m.calls.length
  | .grant =>
    match m.queue with
    | .call number :: _ => some number
    | _ => none
  | .probed number | .appended number | .joined number | .closed number => some number
  | _ => none

variable {m after : Machine} {move : Move}

/-- A move changes no call, or it begins one, or its own call goes on. -/
theorem Way.calls_cases (way : Way m move after) :
    after.calls = m.calls ∨
    (∃ call, after.calls = m.calls ++ [call] ∧ m.caller? move = some m.calls.length) ∨
    (∃ number call, after.calls = m.calls.set number call ∧ m.caller? move = some number) := by
  cases way with
  | refuse | begin | ask | join | overtake => exact .inr (.inl ⟨_, rfl, rfl⟩)
  | @offer number began rest scope record free head waiting =>
    have calls := (offer_calls { m with queue := rest } scope record).1
    refine .inr (.inr ⟨number, .publish began scope (.finished (.ok ())), ?_, by rw [caller?, head]⟩)
    show (Machine.offer _ scope record).calls.set number _ = _
    rw [calls]
  | answer free head waiting =>
    exact .inr (.inr ⟨_, _, rfl, by rw [caller?, head]⟩)
  | probed | unprobed | store | late | fail | joined | abandoned | closed =>
    exact .inr (.inr ⟨_, _, rfl, rfl⟩)
  | drain | loopStored => exact .inl (drainNext_calls ..)
  | loopFailed => exact .inl (finishDrain_calls ..)
  | _ => exact .inl rfl

theorem Way.calls_length_le (way : Way m move after) : m.calls.length ≤ after.calls.length := by
  rcases way.calls_cases with same | ⟨call, begun, _⟩ | ⟨number, call, gone, _⟩
  · exact Nat.le_of_eq (congrArg List.length same.symm)
  · rw [begun, List.length_append]
    exact Nat.le_add_right _ _
  · exact Nat.le_of_eq (by rw [gone, List.length_set])

/-- A call stays where it is while others move. -/
theorem Way.call_eq (way : Way m move after) {number : Nat} {call : Call}
    (present : m.calls[number]? = some call) (other : m.caller? move ≠ some number) :
    after.calls[number]? = some call := by
  rcases way.calls_cases with same | ⟨call, begun, _⟩ | ⟨moved, call, gone, turn⟩
  · rwa [same]
  · rw [begun, List.getElem?_append_left (List.getElem?_eq_some_iff.mp present).1]
    exact present
  · have apart : moved ≠ number := by
      intro same
      rw [turn, same] at other
      exact other rfl
    rwa [gone, List.getElem?_set_ne apart]

/-- A call that was not moved was where it is. -/
theorem Way.call_of_eq (way : Way m move after) {number : Nat} {call : Call}
    (present : after.calls[number]? = some call) (other : m.caller? move ≠ some number) :
    m.calls[number]? = some call := by
  rcases way.calls_cases with same | ⟨begun, appended, turn⟩ | ⟨moved, new, gone, turn⟩
  · rwa [← same]
  · have apart : number ≠ m.calls.length := by
      intro same
      rw [turn, same] at other
      exact other rfl
    have inside := (List.getElem?_eq_some_iff.mp present).1
    rw [appended, List.length_append, List.length_singleton] at inside
    rwa [appended, List.getElem?_append_left (by omega)] at present
  · have apart : moved ≠ number := by
      intro same
      rw [turn, same] at other
      exact other rfl
    rwa [gone, List.getElem?_set_ne apart] at present

/-- Only waiting takes time. -/
theorem Way.now_eq (way : Way m move after) (awake : ∀ till, move ≠ .wait till) :
    after.now = m.now := by
  cases way with
  | wait => exact absurd rfl (awake _)
  | offer => exact (offer_untouched ..).now
  | drain | loopStored => exact (drainNext_untouched ..).now
  | loopFailed => exact (finishDrain_untouched ..).now
  | _ => rfl

end ChannelGate.Publisher
