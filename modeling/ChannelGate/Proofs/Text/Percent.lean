import ChannelGate.Proofs.Text.Utf8
import ChannelGate.Text.Percent

set_option autoImplicit false

namespace ChannelGate.Percent

def HexDigit (c : Char) (value : Nat) : Prop :=
  value < 16 ∧ (c = value.digitChar ∨ c = value.digitChar.toUpper)

instance (c : Char) (value : Nat) : Decidable (HexDigit c value) :=
  inferInstanceAs (Decidable (_ ∧ _))

/-- The bytes that a text with escapes stands for. -/
inductive Escaped : List Char → List UInt8 → Prop
  | nil : Escaped [] []
  | plain {c : Char} {text : List Char} {bytes : List UInt8} (other : c ≠ '%')
    (rest : Escaped text bytes) : Escaped (c :: text) (String.utf8EncodeChar c ++ bytes)
  | escape {high low : Char} {x y : Nat} {text : List Char} {bytes : List UInt8}
    (first : HexDigit high x) (second : HexDigit low y) (rest : Escaped text bytes) :
    Escaped ('%' :: high :: low :: text) (.ofNat (16 * x + y) :: bytes)

def BeginsWithDigits (text : List Char) : Prop :=
  ∃ high low rest x y, text = high :: low :: rest ∧ HexDigit high x ∧ HexDigit low y

/-- Somewhere stands a `%` with fewer than two hexadecimal digits behind it. -/
def HasBrokenEscape (text : List Char) : Prop :=
  ∃ front back, text = front ++ '%' :: back ∧ ¬ BeginsWithDigits back

/-- Replaces every escape by its byte; fails on a `%` without two hexadecimal digits. -/
def decode? : List UInt8 → Option (List UInt8)
  | [] => some []
  | b :: rest =>
    if b = 0x25 then
      match rest with
      | high :: low :: rest => do
        let byte ← escaped? high low
        let decoded ← decode? rest
        return byte :: decoded
      | _ => none
    else (decode? rest).map (b :: ·)

/-- A decoder that puts the byte of every escape in its place, from left to right. What it makes of
a `%` that starts no escape is left open. -/
structure ReplacesEscapes (decoder : List UInt8 → List UInt8) : Prop where
  nil : decoder [] = []
  plain : ∀ {b : UInt8} {rest : List UInt8}, b ≠ 0x25 → decoder (b :: rest) = b :: decoder rest
  escape : ∀ {high low b : UInt8} {rest : List UInt8}, escaped? high low = some b →
    decoder (0x25 :: high :: low :: rest) = b :: decoder rest

theorem decodeLenient_replacesEscapes : ReplacesEscapes decodeLenient where
  nil := rfl
  plain other := by
    rw [decodeLenient.eq_def]
    simp only [other, ↓reduceIte]
  escape named := by
    rw [decodeLenient.eq_def]
    simp only [↓reduceIte, named]

/-- The check passes over exactly the escapes that a decoder replaces. -/
theorem decode?_eq {decoder : List UInt8 → List UInt8} (replaces : ReplacesEscapes decoder)
    (bytes : List UInt8) :
    decode? bytes = if isWellEscaped bytes then some (decoder bytes) else none := by
  fun_induction decode? bytes with
  | case1 => rw [replaces.nil, isWellEscaped, if_pos rfl]
  | case2 high low rest ih =>
    rw [isWellEscaped, ih]
    simp only [↓reduceIte, isHexDigit]
    cases first : hexValue? high with
    | none => simp [escaped?, first]
    | some x =>
      cases second : hexValue? low with
      | none => simp [escaped?, first, second]
      | some y =>
        have named : escaped? high low = some (.ofNat (16 * x + y)) := by
          simp [escaped?, first, second]
        rw [replaces.escape named, named]
        cases isWellEscaped rest <;> rfl
  | case3 rest short =>
    rcases rest with _ | ⟨high, _ | ⟨low, rest⟩⟩
    · rfl
    · rfl
    · exact (short high low rest rfl).elim
  | case4 b rest other ih =>
    rw [isWellEscaped.eq_def, replaces.plain other, ih]
    simp only [other, ↓reduceIte]
    cases isWellEscaped rest <;> rfl

/-- The check, a decoder and the reader of the decoded bytes, one after the other. -/
theorem bind_decode?_eq {decoder : List UInt8 → List UInt8} (replaces : ReplacesEscapes decoder)
    (bytes : List UInt8) :
    (decode? bytes).bind Utf8.decode? =
      if isWellEscaped bytes then Utf8.decode? (decoder bytes) else none := by
  rw [decode?_eq replaces]
  split
  · rfl
  · rfl

/-- Checked and decoded in one pass, then read as a text. -/
theorem decodeText?_eq (text : List Char) :
    decodeText? text = (decode? (Utf8.encode text)).bind Utf8.decode? :=
  (bind_decode?_eq decodeLenient_replacesEscapes _).symm

theorem decode?_cons_of_ne {b : UInt8} (other : b ≠ 0x25) (rest : List UInt8) :
    decode? (b :: rest) = (decode? rest).map (b :: ·) := by
  rw [decode?.eq_def]
  simp only [other, ↓reduceIte]

theorem decode?_append_of_ne {first : List UInt8} (other : ∀ b ∈ first, b ≠ 0x25)
    (rest : List UInt8) : decode? (first ++ rest) = (decode? rest).map (first ++ ·) := by
  induction first with
  | nil => exact Option.map_id'.symm
  | cons b first ih =>
    have tail := ih (fun x member => other x (List.mem_cons_of_mem _ member))
    rw [List.cons_append, decode?_cons_of_ne (other b List.mem_cons_self), tail, Option.map_map]
    rfl

/-- Where a `%` stands, two digits follow. -/
theorem decode?_escape {bytes decoded : List UInt8} :
    decode? (0x25 :: bytes) = some decoded ↔
      ∃ high low rest x y tail, bytes = high :: low :: rest ∧ hexValue? high = some x ∧
        hexValue? low = some y ∧ decode? rest = some tail ∧
        decoded = .ofNat (16 * x + y) :: tail := by
  constructor
  · intro read
    rw [decode?.eq_def] at read
    simp only [↓reduceIte] at read
    split at read
    · rename_i high low rest
      simp only [escaped?, Option.bind_eq_bind, Option.bind_eq_some_iff] at read
      obtain ⟨byte, ⟨x, first, y, second, same⟩, tail, found, whole⟩ := read
      cases same
      cases whole
      exact ⟨high, low, rest, x, y, tail, rfl, first, second, found, rfl⟩
    · cases read
  · intro given
    obtain ⟨high, low, rest, x, y, tail, rfl, first, second, found, rfl⟩ := given
    rw [decode?.eq_def]
    simp only [↓reduceIte, escaped?, first, second, found]
    rfl

/-- No escape reaches over a byte that is no digit. -/
theorem decode?_append {front back : List UInt8} {b : UInt8} (apart : hexValue? b = none) :
    decode? (front ++ b :: back) =
      (decode? front).bind fun before => (decode? (b :: back)).map (before ++ ·) := by
  fun_induction decode? front with
  | case1 => exact Option.map_id'.symm
  | case2 high low rest ih =>
    rw [List.cons_append, List.cons_append, List.cons_append, decode?.eq_def]
    simp only [↓reduceIte, ih]
    cases escaped? high low with
    | none => rfl
    | some byte =>
      cases decode? rest with
      | none => rfl
      | some before => cases decode? (b :: back) <;> rfl
  | case3 rest short =>
    rw [Option.bind_none, Option.eq_none_iff_forall_ne_some]
    intro bytes read
    obtain ⟨high, low, tail, x, y, _, written, first, second, _⟩ := decode?_escape.mp read
    rcases rest with _ | ⟨c, _ | ⟨d, rest⟩⟩
    · rw [(List.cons_eq_cons.mp written).1, first] at apart
      cases apart
    · obtain ⟨_, written⟩ := List.cons_eq_cons.mp written
      rw [(List.cons_eq_cons.mp written).1, second] at apart
      cases apart
    · exact short c d rest rfl
  | case4 c rest other ih =>
    rw [List.cons_append, decode?_cons_of_ne other, ih]
    cases decode? rest with
    | none => rfl
    | some before => cases decode? (b :: back) <;> rfl

/-- Only one-byte characters are written with a byte below 0x80. -/
theorem high_of_mem_encodeChar {c : Char} (wide : 0x80 ≤ c.toNat) {b : UInt8}
    (member : b ∈ Utf8.encodeChar c) : 0x80 ≤ b.toNat := by
  have valid := Utf8.valid_toNat c
  unfold Nat.isValidChar at valid
  have narrow : ¬ c.toNat < 0x80 := by omega
  unfold Utf8.encodeChar at member
  simp only [narrow, ↓reduceIte] at member
  split at member
  · simp only [List.mem_cons, List.not_mem_nil, or_false] at member
    rcases member with same | same
    all_goals
      rw [same, Utf8.uint8_toNat (by omega)]
      omega
  split at member
  · simp only [List.mem_cons, List.not_mem_nil, or_false] at member
    rcases member with same | same | same
    all_goals
      rw [same, Utf8.uint8_toNat (by omega)]
      omega
  · simp only [List.mem_cons, List.not_mem_nil, or_false] at member
    rcases member with same | same | same | same
    all_goals
      rw [same, Utf8.uint8_toNat (by omega)]
      omega

/-- A byte below 0x80 is the whole of its character. -/
theorem toNat_of_mem_encodeChar {c : Char} {b : UInt8} (low : b.toNat < 0x80)
    (member : b ∈ Utf8.encodeChar c) : c.toNat = b.toNat := by
  by_cases ascii : c.toNat < 0x80
  · rw [Utf8.encodeChar_of_ascii ascii, List.mem_singleton] at member
    exact (Utf8.ofNat_eq_iff (by omega) _).mp member.symm
  · have high := high_of_mem_encodeChar (by omega) member
    omega

theorem ne_percent_of_mem_encodeChar {c : Char} (other : c ≠ '%') {b : UInt8}
    (member : b ∈ Utf8.encodeChar c) : b ≠ 0x25 := by
  intro same
  subst same
  have value := toNat_of_mem_encodeChar (by decide) member
  exact other (Char.toNat_inj.mp value)

theorem HexDigit.ascii {c : Char} {x : Nat} (digit : HexDigit c x) : c.toNat < 0x80 := by
  obtain ⟨bound, rfl | rfl⟩ := digit
  · have table : ∀ n < 16, n.digitChar.toNat < 0x80 := by decide
    exact table x bound
  · have table : ∀ n < 16, n.digitChar.toUpper.toNat < 0x80 := by decide
    exact table x bound

/-- The bytes with a value are the digits, and each has its own. -/
theorem hexValue?_eq_some_iff {b : UInt8} {x : Nat} :
    hexValue? b = some x ↔ ∃ c, HexDigit c x ∧ b = c.toUInt8 := by
  constructor
  · intro found
    have table : ∀ n < 256, ∀ y ∈ hexValue? (.ofNat n),
        HexDigit (.ofNat n) y ∧ UInt8.ofNat n = (Char.ofNat n).toUInt8 := by decide +kernel
    have entry := table b.toNat b.toNat_lt x
    rw [UInt8.ofNat_toNat] at entry
    exact ⟨_, entry found⟩
  · intro given
    obtain ⟨c, ⟨bound, written⟩, rfl⟩ := given
    have table : ∀ n < 16, hexValue? n.digitChar.toUInt8 = some n ∧
        hexValue? n.digitChar.toUpper.toUInt8 = some n := by decide
    rcases written with rfl | rfl
    · exact (table x bound).1
    · exact (table x bound).2

/-- A digit is written as one byte with its value. -/
theorem encodeChar_of_hexDigit {c : Char} {x : Nat} (digit : HexDigit c x) :
    ∃ b, Utf8.encodeChar c = [b] ∧ hexValue? b = some x :=
  ⟨_, Utf8.encodeChar_of_ascii digit.ascii, hexValue?_eq_some_iff.mpr ⟨c, digit, rfl⟩⟩

/-- A byte with a value is the whole of a digit. -/
theorem hexDigit_of_encodeChar {c : Char} {x : Nat} {b : UInt8} {more : List UInt8}
    (written : Utf8.encodeChar c = b :: more) (found : hexValue? b = some x) :
    more = [] ∧ HexDigit c x := by
  obtain ⟨d, digit, named⟩ := hexValue?_eq_some_iff.mp found
  have ascii := digit.ascii
  have value : b.toNat = d.toNat := by
    rw [named]
    exact Utf8.uint8_toNat (show d.toNat < 256 by omega)
  have whole : c.toNat = d.toNat := by
    rw [← value]
    exact toNat_of_mem_encodeChar (by omega) (by simp [written])
  cases Char.toNat_inj.mp whole
  rw [Utf8.encodeChar_of_ascii ascii] at written
  exact ⟨(List.cons_eq_cons.mp written).2.symm, digit⟩

/-- The first character of a text that starts with a digit's byte. -/
theorem digit_in_front {text : List Char} {b : UInt8} {rest : List UInt8} {x : Nat}
    (written : Utf8.encode text = b :: rest) (found : hexValue? b = some x) :
    ∃ c tail, text = c :: tail ∧ HexDigit c x ∧ Utf8.encode tail = rest := by
  cases text with
  | nil => cases written
  | cons c tail =>
    rw [Utf8.encode_cons] at written
    cases shape : Utf8.encodeChar c with
    | nil => exact absurd shape (Utf8.encodeChar_ne_nil c)
    | cons first more =>
      rw [shape, List.cons_append] at written
      obtain ⟨same, behind⟩ := List.cons_eq_cons.mp written
      rw [same] at shape
      obtain ⟨none, digit⟩ := hexDigit_of_encodeChar shape found
      rw [none, List.nil_append] at behind
      exact ⟨c, tail, rfl, digit, behind⟩

theorem decode?_of_escaped {text : List Char} {bytes : List UInt8} (reads : Escaped text bytes) :
    decode? (Utf8.encode text) = some bytes := by
  induction reads with
  | nil => rfl
  | plain other rest ih =>
    rename_i c text bytes
    rw [Utf8.encode_cons, decode?_append_of_ne (fun b => ne_percent_of_mem_encodeChar other), ih,
      Utf8.encodeChar_eq]
    rfl
  | escape first second rest ih =>
    obtain ⟨high, written, highValue⟩ := encodeChar_of_hexDigit first
    obtain ⟨low, written', lowValue⟩ := encodeChar_of_hexDigit second
    rw [Utf8.encode_cons, Utf8.encode_cons, Utf8.encode_cons, written, written']
    exact decode?_escape.mpr ⟨high, low, _, _, _, _, rfl, highValue, lowValue, ih, rfl⟩

theorem HasBrokenEscape.append {text : List Char} (broken : HasBrokenEscape text)
    (front : List Char) : HasBrokenEscape (front ++ text) := by
  obtain ⟨before, back, rfl, short⟩ := broken
  exact ⟨front ++ before, back, (List.append_assoc ..).symm, short⟩

/-- A text stands for some bytes or has a broken escape. -/
theorem escaped_or_broken (text : List Char) :
    (∃ bytes, Escaped text bytes) ∨ HasBrokenEscape text := by
  -- An escape takes three characters at once, so the induction is on the length.
  induction size : text.length using Nat.strongRecOn generalizing text with
  | ind size ih =>
    cases text with
    | nil => exact .inl ⟨[], .nil⟩
    | cons c text =>
      simp only [List.length_cons] at size
      by_cases percent : c = '%'
      · subst percent
        by_cases digits : BeginsWithDigits text
        · obtain ⟨high, low, rest, x, y, rfl, first, second⟩ := digits
          simp only [List.length_cons] at size
          rcases ih rest.length (by omega) rest rfl with ⟨bytes, reads⟩ | broken
          · exact .inl ⟨_, .escape first second reads⟩
          · exact .inr (broken.append ['%', high, low])
        · exact .inr ⟨[], text, rfl, digits⟩
      · rcases ih text.length (by omega) text rfl with ⟨bytes, reads⟩ | broken
        · exact .inl ⟨_, .plain percent reads⟩
        · exact .inr (broken.append [c])

theorem decode?_of_broken {text : List Char} (broken : HasBrokenEscape text) :
    decode? (Utf8.encode text) = none := by
  obtain ⟨front, back, rfl, short⟩ := broken
  have percent : Utf8.encode ('%' :: back) = 0x25 :: Utf8.encode back := rfl
  rw [Option.eq_none_iff_forall_ne_some, Utf8.encode_append, percent, decode?_append (by decide)]
  intro bytes read
  obtain ⟨before, _, read⟩ := Option.bind_eq_some_iff.mp read
  obtain ⟨behind, read, _⟩ := Option.map_eq_some_iff.mp read
  obtain ⟨_, _, _, x, y, _, written, first, second, _⟩ := decode?_escape.mp read
  obtain ⟨high, text, rfl, digit, written⟩ := digit_in_front written first
  obtain ⟨low, rest, rfl, digit', _⟩ := digit_in_front written second
  exact short ⟨high, low, rest, x, y, rfl, digit, digit'⟩

/-- Decoding answers the bytes that the text stands for, and answers nothing for a text with a
broken escape. -/
theorem decode?_encode_eq_some_iff {text : List Char} {bytes : List UInt8} :
    decode? (Utf8.encode text) = some bytes ↔ Escaped text bytes := by
  constructor
  · intro read
    rcases escaped_or_broken text with ⟨other, reads⟩ | broken
    · rw [decode?_of_escaped reads] at read
      cases read
      exact reads
    · rw [decode?_of_broken broken] at read
      cases read
  · exact decode?_of_escaped

theorem decode?_encode_eq_none_iff {text : List Char} :
    decode? (Utf8.encode text) = none ↔ HasBrokenEscape text := by
  constructor
  · intro stopped
    rcases escaped_or_broken text with ⟨bytes, reads⟩ | broken
    · rw [decode?_of_escaped reads] at stopped
      cases stopped
    · exact broken
  · exact decode?_of_broken

/-- The bytes that the text stands for have to be the UTF-8 form of what it decodes to. -/
theorem decodeText?_eq_some_iff_decode? {text decoded : List Char} :
    decodeText? text = some decoded ↔
      decode? (Utf8.encode text) = some (Utf8.encode decoded) := by
  rw [decodeText?_eq, Option.bind_eq_some_iff]
  constructor
  · intro given
    obtain ⟨bytes, read, same⟩ := given
    rw [read, Utf8.decode?_eq_some_iff.mp same]
  · intro read
    exact ⟨_, read, Utf8.decode?_encode decoded⟩

/-- A text with escapes stands for the text whose UTF-8 form its bytes are. -/
theorem decodeText?_eq_some_iff {text decoded : List Char} :
    decodeText? text = some decoded ↔
      Escaped text (decoded.flatMap String.utf8EncodeChar) := by
  rw [decodeText?_eq_some_iff_decode?, decode?_encode_eq_some_iff, Utf8.encode_eq]

theorem not_hexDigit_slash {x : Nat} : ¬ HexDigit '/' x := by
  intro digit
  have table : ∀ n < 16, ¬ HexDigit '/' n := by decide
  exact table x digit.1 digit

/-- No escape ends in a slash, so a slash at the end stands for itself. -/
theorem Escaped.bytes_end_slash {text : List Char} {bytes : List UInt8} (reads : Escaped text bytes)
    (last : text.getLast? = some '/') : bytes.getLast? = some 0x2F := by
  induction reads with
  | nil => cases last
  | @plain c text bytes other rest ih =>
    cases text with
    | nil =>
      cases rest
      cases last
      decide
    | cons d text =>
      rw [List.getLast?_cons_cons] at last
      rw [List.getLast?_append, ih last]
      rfl
  | @escape high low x y text bytes first second rest ih =>
    cases text with
    | nil =>
      cases last
      exact absurd second not_hexDigit_slash
    | cons d text =>
      simp only [List.getLast?_cons_cons] at last
      rw [List.getLast?_cons, ih last]
      rfl

theorem Escaped.text_end_slash {text decoded : List Char}
    (reads : Escaped text (decoded.flatMap String.utf8EncodeChar))
    (last : text.getLast? = some '/') : decoded.getLast? = some '/' := by
  have final := reads.bytes_end_slash last
  rcases List.eq_nil_or_concat decoded with rfl | ⟨front, c, rfl⟩
  · cases final
  · have member : (0x2F : UInt8) ∈ Utf8.encodeChar c := by
      rw [List.concat_eq_append, List.flatMap_append, List.flatMap_singleton, List.getLast?_append,
        ← Utf8.encodeChar_eq] at final
      cases lastByte : (Utf8.encodeChar c).getLast? with
      | none => exact absurd (List.getLast?_eq_none_iff.mp lastByte) (Utf8.encodeChar_ne_nil c)
      | some b =>
        rw [lastByte] at final
        cases final
        exact List.mem_of_getLast? lastByte
    have value := toNat_of_mem_encodeChar (by decide) member
    rw [List.concat_eq_append, List.getLast?_concat, Char.toNat_inj.mp (show c.toNat = '/'.toNat from value)]

end ChannelGate.Percent
