import ChannelGate.Number.Digits
import Mathlib.Data.Nat.Digits.Defs

set_option autoImplicit false

namespace ChannelGate.Number

def IsDigit (c : Char) : Prop := '0' ≤ c ∧ c ≤ '9'

instance (c : Char) : Decidable (IsDigit c) := inferInstanceAs (Decidable (_ ∧ _))

/-- The value of decimal digits, the last of which counts ones. -/
def decimal (digits : List Char) : Nat :=
  Nat.ofDigits 10 (digits.reverse.map fun c => c.toNat - '0'.toNat)

/-- The text is an optional plus and at least one digit, and these digits have the value. -/
def Denotes (text : List Char) (value : Nat) : Prop :=
  ∃ digits, (text = digits ∨ text = '+' :: digits) ∧ digits ≠ [] ∧ (∀ c ∈ digits, IsDigit c) ∧
    value = decimal digits

theorem digit?_eq_some_iff {c : Char} {d : Nat} :
    digit? c = some d ↔ IsDigit c ∧ d = c.toNat - '0'.toNat := by
  unfold digit? IsDigit
  split
  · rename_i digit
    rw [Option.some.injEq]
    exact ⟨fun same => ⟨digit, same.symm⟩, fun same => same.2.symm⟩
  · rename_i other
    exact ⟨nofun, fun same => absurd same.1 other⟩

theorem not_isDigit_plus : ¬ IsDigit '+' := by decide

theorem decimal_cons (c : Char) (digits : List Char) :
    decimal (c :: digits) = (c.toNat - '0'.toNat) * 10 ^ digits.length + decimal digits := by
  unfold decimal
  rw [List.reverse_cons, List.map_append, Nat.ofDigits_append, List.map_singleton,
    Nat.ofDigits_singleton, List.length_map, List.length_reverse, Nat.add_comm, Nat.mul_comm]

/-- Reading goes on from the value of the digits before. -/
theorem readDigits_eq_ok_iff {bound value : Nat} {text : List Char} {n : Nat}
    (small : value < bound) :
    readDigits bound value text = .ok n ↔
      (∀ c ∈ text, IsDigit c) ∧ n = value * 10 ^ text.length + decimal text ∧ n < bound := by
  induction text generalizing value with
  | nil =>
    have whole : value * 10 ^ ([] : List Char).length + decimal [] = value := by
      simp [decimal]
    rw [readDigits, Except.ok.injEq, whole]
    exact ⟨fun same => ⟨nofun, same.symm, same ▸ small⟩, fun read => read.2.1.symm⟩
  | cons c rest ih =>
    rw [readDigits, List.forall_mem_cons]
    cases digit : digit? c with
    | none =>
      have other : ¬ IsDigit c := by
        intro isDigit
        cases digit.symm.trans (digit?_eq_some_iff.mpr ⟨isDigit, rfl⟩)
      exact ⟨nofun, fun read => absurd read.1.1 other⟩
    | some d =>
      obtain ⟨isDigit, rfl⟩ := digit?_eq_some_iff.mp digit
      have whole : value * 10 ^ (c :: rest).length + decimal (c :: rest) =
          (value * 10 + (c.toNat - '0'.toNat)) * 10 ^ rest.length + decimal rest := by
        rw [decimal_cons, List.length_cons, pow_succ']
        ring
      rw [whole, and_iff_right isDigit]
      dsimp only
      split
      · rename_i inside
        exact ih inside
      · rename_i beyond
        constructor
        · exact nofun
        · rintro ⟨_, rfl, below⟩
          have power : 1 ≤ 10 ^ rest.length := Nat.one_le_pow _ _ (by decide)
          have more := Nat.le_mul_of_pos_right (value * 10 + (c.toNat - '0'.toNat)) power
          omega

theorem denotes_plus_iff {rest : List Char} {n : Nat} :
    Denotes ('+' :: rest) n ↔ rest ≠ [] ∧ (∀ c ∈ rest, IsDigit c) ∧ n = decimal rest := by
  constructor
  · rintro ⟨digits, written | written, some, all, same⟩
    · exact absurd (all '+' (written ▸ List.mem_cons_self)) not_isDigit_plus
    · obtain ⟨_, rfl⟩ := List.cons.inj written
      exact ⟨some, all, same⟩
  · intro read
    exact ⟨rest, .inr rfl, read⟩

theorem denotes_iff {text : List Char} (unsigned : text.head? ≠ some '+') {n : Nat} :
    Denotes text n ↔ text ≠ [] ∧ (∀ c ∈ text, IsDigit c) ∧ n = decimal text := by
  constructor
  · rintro ⟨digits, rfl | rfl, read⟩
    · exact read
    · exact absurd rfl unsigned
  · intro read
    exact ⟨text, .inl rfl, read⟩

/-- Reading finds what the text says, if that lies below the bound. -/
theorem readNat_eq_ok_iff {bound : Nat} (some : 0 < bound) {text : List Char} {n : Nat} :
    readNat bound text = .ok n ↔ Denotes text n ∧ n < bound := by
  have whole : ∀ digits, 0 * 10 ^ digits.length + decimal digits = decimal digits := by simp
  unfold readNat
  split
  · rw [denotes_iff (by simp)]
    exact ⟨nofun, fun read => absurd rfl read.1.1⟩
  · rw [denotes_plus_iff]
    exact ⟨nofun, fun read => absurd rfl read.1.1⟩
  · rename_i rest present
    have present : rest ≠ [] := present
    rw [readDigits_eq_ok_iff some, denotes_plus_iff, whole, and_iff_right present, and_assoc]
  · rename_i present _ unsigned
    have first : text.head? ≠ Option.some '+' := by
      intro plus
      obtain ⟨rest, same⟩ := List.head?_eq_some_iff.mp plus
      exact unsigned rest same
    rw [readDigits_eq_ok_iff some, denotes_iff first, whole, and_iff_right present, and_assoc]

example : decimal "007".toList = 7 := by decide

end ChannelGate.Number
