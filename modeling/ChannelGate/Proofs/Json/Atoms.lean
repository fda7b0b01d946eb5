import ChannelGate.Json.Reader
import Mathlib.Data.List.Basic

set_option autoImplicit false

namespace ChannelGate.Json

/-- What may stand behind a value: nothing, or a mark that ends it or goes on after it. -/
def Follows (rest : List Char) : Prop :=
  ∀ c tail, rest = c :: tail → c = ',' ∨ c = ']' ∨ c = '\x7d'

theorem follows_nil : Follows [] := nofun

theorem follows_cons {c : Char} (mark : c = ',' ∨ c = ']' ∨ c = '\x7d') (tail : List Char) :
    Follows (c :: tail) := by
  intro other rest same
  cases same
  exact mark

theorem Follows.not_digit {rest : List Char} (follows : Follows rest) {c : Char}
    {tail : List Char} (front : rest = c :: tail) : c.isDigit = false := by
  rcases follows c tail front with rfl | rfl | rfl <;> rfl

theorem spanDigits_append {digits rest : List Char} (all : ∀ c ∈ digits, c.isDigit = true)
    (follows : Follows rest) : spanDigits (digits ++ rest) = (digits, rest) := by
  unfold spanDigits
  rw [List.takeWhile_append_of_pos all, List.dropWhile_append_of_pos all]
  cases rest with
  | nil => simp
  | cons c tail =>
    have stops : c.isDigit = false := follows.not_digit rfl
    simp [stops]

theorem fraction?_of_follows {rest : List Char} (follows : Follows rest) :
    fraction? rest = some ([], rest) := by
  unfold fraction?
  split
  · rcases follows _ _ rfl with same | same | same <;> cases same
  · rfl

theorem exponent?_of_follows {rest : List Char} (follows : Follows rest) :
    exponent? rest = some ([], rest) := by
  unfold exponent?
  cases rest with
  | nil => rfl
  | cons c tail =>
    rcases follows c tail rfl with rfl | rfl | rfl <;> rfl

theorem digitsValue_toDigits (n : Nat) : digitsValue (Nat.toDigits 10 n) = n := by
  have value := Nat.ofDigitChars_ten_toDigits (n := n)
  rw [Nat.ofDigitChars_eq_foldl] at value
  unfold digitsValue
  simpa only [Nat.mul_comm, show '0'.toNat = 48 from rfl] using value

/-- No zero stands in front of other digits. -/
theorem head?_toDigits (n : Nat) :
    (Nat.toDigits 10 n).head? = some '0' → (Nat.toDigits 10 n).length = 1 := by
  induction n using Nat.strongRecOn with
  | ind n ih =>
    by_cases small : n < 10
    · rw [Nat.toDigits_of_lt_base small]
      intro
      rfl
    · rw [Nat.toDigits_of_base_le (by decide) (Nat.le_of_not_lt small)]
      intro zero
      rw [List.head?_append_of_ne_nil _ Nat.toDigits_ne_nil] at zero
      have one := ih (n / 10) (by omega) zero
      -- The digits before the last are a zero alone, but their value is not zero.
      have value := digitsValue_toDigits (n / 10)
      obtain ⟨digit, only⟩ := List.length_eq_one_iff.mp one
      rw [only] at zero value
      cases zero
      have none : n / 10 = 0 := value.symm
      omega

theorem all_isDigit_toDigits (n : Nat) : ∀ c ∈ Nat.toDigits 10 n, c.isDigit = true :=
  fun _ member => Nat.isDigit_of_mem_toDigits (by decide) (by decide) member

theorem wellFormed_toDigits (n : Nat) : ¬((Nat.toDigits 10 n).isEmpty = true ∨
    ((Nat.toDigits 10 n).head? = some '0' ∧ (Nat.toDigits 10 n).length ≠ 1)) := by
  rintro (empty | ⟨zero, more⟩)
  · exact Nat.toDigits_ne_nil (List.isEmpty_iff.mp empty)
  · exact more (head?_toDigits n zero)

/-- A minus is no digit. -/
theorem toDigits_append_ne_minus (n : Nat) (rest tail : List Char) :
    Nat.toDigits 10 n ++ rest ≠ '-' :: tail := by
  intro same
  have first : '-' ∈ Nat.toDigits 10 n := by
    cases digits : Nat.toDigits 10 n with
    | nil => exact absurd digits Nat.toDigits_ne_nil
    | cons c more =>
      rw [digits, List.cons_append, List.cons.injEq] at same
      rw [same.1]
      exact List.mem_cons_self
  cases all_isDigit_toDigits n '-' first

/-- Digits without a zero in front are read as the number that they write. -/
theorem number?_digits (n : Nat) {rest : List Char} (follows : Follows rest) :
    number? (Nat.toDigits 10 n ++ rest) = some (.integer n, rest) := by
  have span := spanDigits_append (all_isDigit_toDigits n) follows
  have wellFormed := wellFormed_toDigits n
  -- The match on the sign needs that the digits do not begin with one.
  have unsigned : ∀ tail, Nat.toDigits 10 n ++ rest = '-' :: tail → False :=
    toDigits_append_ne_minus n rest
  unfold number?
  simp only [span, wellFormed, ↓reduceIte, fraction?_of_follows follows,
    exponent?_of_follows follows, digitsValue_toDigits, Bool.false_eq_true, false_and,
    not_false_eq_true, List.isEmpty_nil, and_self, Option.bind_eq_bind, Option.bind_some]
  rfl

theorem number?_minus (n : Nat) {rest : List Char} (follows : Follows rest) :
    number? ('-' :: Nat.toDigits 10 (n + 1) ++ rest) = some (.integer (.negSucc n), rest) := by
  have span := spanDigits_append (all_isDigit_toDigits (n + 1)) follows
  have wellFormed := wellFormed_toDigits (n + 1)
  unfold number?
  simp only [List.cons_append, span, wellFormed, ↓reduceIte, fraction?_of_follows follows,
    exponent?_of_follows follows, digitsValue_toDigits, Nat.add_one_ne_zero, and_false,
    not_false_eq_true, List.isEmpty_nil, and_self, Option.bind_eq_bind, Option.bind_some]
  rfl

/-- The text of a whole number begins with a digit or a minus. -/
theorem integerText_front (value : Int) :
    ∃ c tail, integerText value = c :: tail ∧ (c.isDigit = true ∨ c = '-') := by
  cases value with
  | ofNat n =>
    cases digits : Nat.toDigits 10 n with
    | nil => exact absurd digits Nat.toDigits_ne_nil
    | cons c tail =>
      refine ⟨c, tail, digits, .inl (all_isDigit_toDigits n c ?_)⟩
      rw [digits]
      exact List.mem_cons_self
  | negSucc n => exact ⟨'-', _, rfl, .inr rfl⟩

theorem number?_integerText (value : Int) {rest : List Char} (follows : Follows rest) :
    number? (integerText value ++ rest) = some (.integer value, rest) := by
  cases value with
  | ofNat n => exact number?_digits n follows
  | negSucc n => exact number?_minus n follows

/-- A digit or a minus is no blank. -/
theorem isBlank_of_numeric {c : Char} (numeric : c.isDigit = true ∨ c = '-') :
    isBlank c = false := by
  rcases numeric with digit | rfl
  · cases blank : isBlank c with
    | false => rfl
    | true =>
      simp only [isBlank, Bool.or_eq_true, decide_eq_true_eq] at blank
      rcases blank with ((rfl | rfl) | rfl) | rfl <;> cases digit
  · rfl

/-- How a character of a text comes back from its literal: some control characters as a number. -/
def pieceOf (c : Char) : Piece :=
  if (escape c).length = 6 then .unit c.toNat else .char c

theorem hexValue?_hexDigit (n : Nat) : hexValue? (hexDigit n) = some (n % 16) := by
  have digits : ∀ d < 16, hexValue? (Nat.digitChar d) = some d := by decide
  exact digits (n % 16) (Nat.mod_lt n (by decide))

/-- The four digits of an escaped control character are its number. -/
theorem hexFour?_control {c : Char} (control : c.toNat < 0x20) :
    hexFour? '0' '0' (hexDigit (c.toNat / 16)) (hexDigit c.toNat) = some c.toNat := by
  have zero : hexValue? '0' = some 0 := rfl
  unfold hexFour?
  rw [zero, hexValue?_hexDigit, hexValue?_hexDigit]
  simp only [Option.bind_eq_bind, Option.bind_some, Option.pure_def, Option.some.injEq]
  omega

/-- The ways in which a character stands in a literal, with what is read there. -/
inductive Spelled (c : Char) : List Char → Piece → Prop
  | plain (unquoted : c ≠ '"') (straight : c ≠ '\\') (visible : ¬c.toNat < 0x20) :
    Spelled c [c] (.char c)
  | letter {e : Char} (back : unescape? e = some c) : Spelled c ['\\', e] (.char c)
  | number (control : c.toNat < 0x20) :
    Spelled c ['\\', 'u', '0', '0', hexDigit (c.toNat / 16), hexDigit c.toNat] (.unit c.toNat)

/-- A character with an escape of its own, in front of whatever holds of the others. -/
theorem spelled_ite {c own letter : Char} {other : List Char} (back : unescape? letter = some own)
    (single : pieceOf own = .char own) (others : c ≠ own → Spelled c other (pieceOf c)) :
    Spelled c (if c = own then ['\\', letter] else other) (pieceOf c) := by
  split
  · rename_i same
    subst same
    rw [single]
    exact .letter back
  · rename_i different
    exact others different

theorem spelled_escape (c : Char) : Spelled c (escape c) (pieceOf c) := by
  unfold escape
  refine spelled_ite rfl rfl fun quote => ?_
  refine spelled_ite rfl rfl fun backslash => ?_
  refine spelled_ite rfl rfl fun backspace => ?_
  refine spelled_ite rfl rfl fun page => ?_
  refine spelled_ite rfl rfl fun line => ?_
  refine spelled_ite rfl rfl fun carriage => ?_
  refine spelled_ite rfl rfl fun tab => ?_
  have piece : pieceOf c = if c.toNat < 0x20 then .unit c.toNat else .char c := by
    unfold pieceOf escape
    simp only [quote, backslash, backspace, page, line, carriage, tab, ↓reduceIte]
    split <;> rfl
  rw [piece]
  split
  · rename_i control
    exact .number control
  · rename_i visible
    exact .plain quote backslash visible

/-- What stands for one character is read as its piece. -/
theorem stringTail?_escape (c : Char) (tail : List Char) :
    stringTail? (escape c ++ tail) =
      (stringTail? tail).map fun found => (pieceOf c :: found.1, found.2) := by
  have spelled := spelled_escape c
  generalize escape c = written at spelled
  generalize pieceOf c = piece at spelled
  cases spelled with
  | plain unquoted straight visible =>
    rw [List.singleton_append, stringTail?.eq_def]
    split
    · contradiction
    · rename_i same
      cases same
      exact absurd rfl unquoted
    · rename_i same
      cases same
      exact absurd rfl straight
    · rename_i same
      cases same
      exact absurd rfl straight
    · rename_i same
      cases same
      simp only [straight, visible, or_self, ↓reduceIte]
      cases stringTail? tail <;> rfl
  | @letter e back =>
    have notUnit : e ≠ 'u' := by
      rintro rfl
      cases back
    rw [List.cons_append, List.singleton_append, stringTail?.eq_def]
    split
    · contradiction
    · rename_i same
      cases same
    · rename_i same
      cases same
      exact absurd rfl notUnit
    · rename_i same
      cases same
      simp only [back, Option.bind_eq_bind, Option.bind_some]
      cases stringTail? tail <;> rfl
    · rename_i other same
      cases same
      exact (other e tail rfl rfl).elim
  | number control =>
    simp only [List.cons_append, List.nil_append, stringTail?, hexFour?_control control]
    cases stringTail? tail <;> rfl

theorem stringTail?_literal (text : List Char) (rest : List Char) :
    stringTail? (text.flatMap escape ++ '"' :: rest) = some (text.map pieceOf, rest) := by
  induction text with
  | nil => rfl
  | cons c text ih =>
    rw [List.flatMap_cons, List.append_assoc, stringTail?_escape, ih]
    rfl

theorem join?_unit {value : Nat} (control : value < 0x20) (rest : List Piece) :
    join? (.unit value :: rest) = (join? rest).map (Char.ofNat value :: ·) := by
  have notHigh : isHigh value = false := by
    simp only [isHigh, Bool.and_eq_false_imp, decide_eq_true_eq]
    omega
  have notLow : isLow value = false := by
    simp only [isLow, Bool.and_eq_false_imp, decide_eq_true_eq]
    omega
  rw [join?.eq_def]
  split
  · contradiction
  · rename_i same
    cases same
  · rename_i same
    cases same
    simp only [notHigh, notLow, Bool.false_eq_true, ↓reduceIte]
  · rename_i same
    cases same
    simp only [notHigh, notLow, Bool.or_self, Bool.false_eq_true, ↓reduceIte]

/-- The pieces of a literal come together to its text. -/
theorem join?_map_pieceOf (text : List Char) : join? (text.map pieceOf) = some text := by
  induction text with
  | nil => rfl
  | cons c text ih =>
    have spelled := spelled_escape c
    generalize escape c = written at spelled
    rw [List.map_cons]
    generalize pieceOf c = piece at spelled ⊢
    cases spelled with
    | plain | letter =>
      rw [join?, ih]
      rfl
    | number control =>
      rw [join?_unit control, ih, Char.ofNat_toNat]
      rfl

/-- A literal is read as its text. -/
theorem stringTail?_literal_append (text : String) (rest : List Char) :
    ∃ tail, literal text ++ rest = '"' :: tail ∧
      stringTail? tail = some (text.toList.map pieceOf, rest) := by
  refine ⟨text.toList.flatMap escape ++ '"' :: rest, ?_, stringTail?_literal _ _⟩
  unfold literal
  simp only [List.cons_append, List.append_assoc, List.nil_append]

theorem ofPieces_map_pieceOf (text : String) :
    ofPieces (text.toList.map pieceOf) = .string text := by
  unfold ofPieces
  rw [join?_map_pieceOf]
  simp only [String.ofList_toList]

theorem skipBlank_cons {c : Char} (visible : isBlank c = false) (tail : List Char) :
    skipBlank (c :: tail) = c :: tail := by
  unfold skipBlank
  simp [visible]

theorem key?_literal (key : String) (rest : List Char) :
    key? (literal key ++ ':' :: rest) = some (key.toList.map pieceOf, rest) := by
  obtain ⟨tail, front, read⟩ := stringTail?_literal_append key (':' :: rest)
  unfold key?
  rw [front, skipBlank_cons rfl]
  simp only [read, Option.bind_eq_bind, Option.bind_some, skipBlank_cons (c := ':') rfl]
  rfl

end ChannelGate.Json
