import ChannelGate.Proofs.Text.Utf8
import Mathlib.Data.String.Basic

set_option autoImplicit false

namespace ChannelGate.Utf8

theorem lt_of_first {m n : Nat} (below : m < n) (small : n < 256) (s t : List UInt8) :
    UInt8.ofNat m :: s < UInt8.ofNat n :: t := by
  rw [List.cons_lt_cons_iff, UInt8.lt_iff_toNat_lt, uint8_toNat small, uint8_toNat (by omega)]
  exact .inl below

theorem lt_of_rest {m n : Nat} (same : m = n) {s t : List UInt8} (rest : s < t) :
    UInt8.ofNat m :: s < UInt8.ofNat n :: t := by
  rw [List.cons_lt_cons_iff]
  exact .inr ⟨congrArg UInt8.ofNat same, rest⟩

/-- The bytes of a character are below those of every later one, whatever follows them. -/
theorem encodeChar_append_lt {c d : Char} (below : c < d) (s t : List UInt8) :
    encodeChar c ++ s < encodeChar d ++ t := by
  have less : c.toNat < d.toNat := below
  have valid := valid_toNat d
  unfold Nat.isValidChar at valid
  unfold encodeChar
  generalize c.toNat = v at less
  generalize d.toNat = w at less valid
  simp only
  by_cases one : w < 0x80
  · rw [if_pos (by omega), if_pos one]
    exact lt_of_first less (by omega) _ _
  by_cases two : w < 0x800
  · rw [if_neg one, if_pos two]
    split
    · exact lt_of_first (by omega) (by omega) _ _
    rw [if_pos (by omega)]
    rcases (by omega : v / 0x40 < w / 0x40 ∨ v / 0x40 = w / 0x40 ∧ v % 0x40 < w % 0x40)
      with first | ⟨first, second⟩
    · exact lt_of_first (by omega) (by omega) _ _
    · exact lt_of_rest (by omega) (lt_of_first (by omega) (by omega) _ _)
  by_cases three : w < 0x10000
  · rw [if_neg one, if_neg two, if_pos three]
    split
    · exact lt_of_first (by omega) (by omega) _ _
    split
    · exact lt_of_first (by omega) (by omega) _ _
    rw [if_pos (by omega)]
    rcases (by omega : v / 0x1000 < w / 0x1000 ∨ v / 0x1000 = w / 0x1000 ∧
        (v / 0x40 % 0x40 < w / 0x40 % 0x40 ∨
          v / 0x40 % 0x40 = w / 0x40 % 0x40 ∧ v % 0x40 < w % 0x40))
      with first | ⟨first, second | ⟨second, third⟩⟩
    · exact lt_of_first (by omega) (by omega) _ _
    · exact lt_of_rest (by omega) (lt_of_first (by omega) (by omega) _ _)
    · exact lt_of_rest (by omega) (lt_of_rest (by omega) (lt_of_first (by omega) (by omega) _ _))
  · rw [if_neg one, if_neg two, if_neg three]
    split
    · exact lt_of_first (by omega) (by omega) _ _
    split
    · exact lt_of_first (by omega) (by omega) _ _
    split
    · exact lt_of_first (by omega) (by omega) _ _
    rcases (by omega : v / 0x40000 < w / 0x40000 ∨ v / 0x40000 = w / 0x40000 ∧
        (v / 0x1000 % 0x40 < w / 0x1000 % 0x40 ∨ v / 0x1000 % 0x40 = w / 0x1000 % 0x40 ∧
          (v / 0x40 % 0x40 < w / 0x40 % 0x40 ∨
            v / 0x40 % 0x40 = w / 0x40 % 0x40 ∧ v % 0x40 < w % 0x40)))
      with first | ⟨first, second | ⟨second, third | ⟨third, fourth⟩⟩⟩
    · exact lt_of_first (by omega) (by omega) _ _
    · exact lt_of_rest (by omega) (lt_of_first (by omega) (by omega) _ _)
    · exact lt_of_rest (by omega) (lt_of_rest (by omega) (lt_of_first (by omega) (by omega) _ _))
    · exact lt_of_rest (by omega) (lt_of_rest (by omega)
        (lt_of_rest (by omega) (lt_of_first (by omega) (by omega) _ _)))

theorem encode_lt {text other : List Char} (below : text < other) :
    encode text < encode other := by
  induction text generalizing other with
  | nil =>
    cases other with
    | nil => cases below
    | cons d other =>
      rw [encode_cons]
      cases written : encodeChar d with
      | nil => exact absurd written (encodeChar_ne_nil d)
      | cons b bytes => exact List.nil_lt_cons b _
  | cons c text ih =>
    cases other with
    | nil => cases below
    | cons d other =>
      rw [encode_cons, encode_cons]
      rcases List.cons_lt_cons_iff.mp below with first | ⟨rfl, rest⟩
      · exact encodeChar_append_lt first _ _
      · exact List.append_left_lt (ih rest)

/-- The order of strings is the order of their bytes. -/
theorem ofString_lt {text other : String} (below : text < other) :
    ofString text < ofString other :=
  encode_lt (String.lt_iff_toList_lt.mp below)

theorem ofString_injective : Function.Injective ofString := by
  intro text other same
  have read : decode? (ofString text) = decode? (ofString other) := by rw [same]
  unfold ofString at read
  rw [decode?_encode, decode?_encode] at read
  exact String.toList_inj.mp (Option.some.inj read)

end ChannelGate.Utf8
