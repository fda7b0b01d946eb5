import ChannelGate.Proofs.Text.Percent

set_option autoImplicit false

namespace ChannelGate.Percent

/-- Another spelling of the same bytes: every byte stands for itself or is written as a `%` and the
two hexadecimal digits that name it, and no `%` stands for itself. -/
inductive Respelled : List UInt8 → List UInt8 → Prop
  | nil : Respelled [] []
  | kept {b : UInt8} {bytes written : List UInt8} (other : b ≠ '%'.toUInt8)
    (rest : Respelled bytes written) : Respelled (b :: bytes) (b :: written)
  | replaced {b : UInt8} {high low : Char} {bytes written : List UInt8}
    (first : HexDigit high (b.toNat / 16)) (second : HexDigit low (b.toNat % 16))
    (rest : Respelled bytes written) :
    Respelled (b :: bytes) ('%'.toUInt8 :: high.toUInt8 :: low.toUInt8 :: written)

/-- Two digits name the byte whose halves they are. -/
theorem escaped?_eq_some_iff {high low b : UInt8} :
    escaped? high low = some b ↔ ∃ c d, HexDigit c (b.toNat / 16) ∧ HexDigit d (b.toNat % 16) ∧
      high = c.toUInt8 ∧ low = d.toUInt8 := by
  simp only [escaped?, Option.bind_eq_bind, Option.bind_eq_some_iff]
  constructor
  · intro given
    obtain ⟨x, first, y, second, named⟩ := given
    cases named
    obtain ⟨c, digit, rfl⟩ := hexValue?_eq_some_iff.mp first
    obtain ⟨d, digit', rfl⟩ := hexValue?_eq_some_iff.mp second
    have upper : x < 16 := digit.1
    have lower : y < 16 := digit'.1
    have value := Utf8.uint8_toNat (show 16 * x + y < 256 by omega)
    have quotient : (16 * x + y) / 16 = x := by omega
    have remainder : (16 * x + y) % 16 = y := by omega
    rw [value, quotient, remainder]
    exact ⟨c, d, digit, digit', rfl, rfl⟩
  · intro given
    obtain ⟨c, d, first, second, rfl, rfl⟩ := given
    refine ⟨_, hexValue?_eq_some_iff.mpr ⟨c, first, rfl⟩, _,
      hexValue?_eq_some_iff.mpr ⟨d, second, rfl⟩, ?_⟩
    rw [Nat.div_add_mod, UInt8.ofNat_toNat]
    rfl

/-- Decoding undoes every respelling of bytes, and nothing else is decoded. -/
theorem decode?_eq_some_iff {bytes written : List UInt8} :
    decode? written = some bytes ↔ Respelled bytes written := by
  constructor
  · intro read
    fun_induction decode? written generalizing bytes with
    | case1 =>
      cases read
      exact .nil
    | case2 high low rest ih =>
      simp only [Option.bind_eq_bind, Option.bind_eq_some_iff, escaped?_eq_some_iff] at read
      obtain ⟨b, ⟨c, d, first, second, rfl, rfl⟩, tail, found, whole⟩ := read
      cases whole
      exact .replaced first second (ih found)
    | case3 => cases read
    | case4 b rest other ih =>
      obtain ⟨tail, found, rfl⟩ := Option.map_eq_some_iff.mp read
      exact .kept other (ih found)
  · intro spelled
    induction spelled with
    | nil => rfl
    | kept other rest ih =>
      rw [decode?_cons_of_ne other, ih]
      rfl
    | @replaced b high low bytes written first second rest ih =>
      have named := escaped?_eq_some_iff.mpr ⟨high, low, first, second, rfl, rfl⟩
      have percent : '%'.toUInt8 = 0x25 := rfl
      rw [decode?.eq_def]
      simp only [percent, ↓reduceIte, named, ih]
      rfl

/-- A mark that is not in front of a list stands in the rest of it. -/
theorem cut_behind {α : Type} {mark : α} {front rest before behind : List α} (clean : mark ∉ front)
    (whole : front ++ rest = before ++ mark :: behind) :
    ∃ more, before = front ++ more ∧ rest = more ++ mark :: behind := by
  rcases List.append_eq_append_iff.mp whole with ⟨more, split, rest⟩ | ⟨more, split, rest⟩
  · exact ⟨more, split, rest⟩
  · cases more with
    | nil =>
      rw [List.append_nil] at split
      exact ⟨[], by rw [split, List.append_nil], rest.symm⟩
    | cons first more =>
      have same := (List.cons_eq_cons.mp rest).1
      have member : mark ∈ front := by simp [split, same]
      exact absurd member clean

/-- In the UTF-8 form of a text a byte below 0x80 is a character of the text. -/
theorem cut_utf8 {mark : Char} (ascii : mark.toNat < 0x80) {text : List Char}
    {before behind : List UInt8}
    (written : Utf8.encode text = before ++ .ofNat mark.toNat :: behind) :
    ∃ front back, text = front ++ mark :: back ∧ Utf8.encode front = before ∧
      Utf8.encode back = behind := by
  have value : (UInt8.ofNat mark.toNat).toNat = mark.toNat := Utf8.uint8_toNat (by omega)
  induction text generalizing before with
  | nil => simp [Utf8.encode] at written
  | cons c text ih =>
    rw [Utf8.encode_cons] at written
    by_cases same : c = mark
    · subst same
      rw [Utf8.encodeChar_of_ascii ascii, List.singleton_append] at written
      cases before with
      | nil => exact ⟨[], text, rfl, rfl, (List.cons_eq_cons.mp written).2⟩
      | cons first before =>
        obtain ⟨same, rest⟩ := List.cons_eq_cons.mp written
        obtain ⟨front, back, whole, left, right⟩ := ih rest
        refine ⟨c :: front, back, ?_, ?_, right⟩
        · rw [whole, List.cons_append]
        · rw [Utf8.encode_cons, Utf8.encodeChar_of_ascii ascii, left, ← same,
            List.singleton_append]
    · have clean : UInt8.ofNat mark.toNat ∉ Utf8.encodeChar c := by
        intro member
        have number := toNat_of_mem_encodeChar (by omega) member
        exact same (Char.toNat_inj.mp (number.trans value))
      obtain ⟨more, split, rest⟩ := cut_behind clean written
      obtain ⟨front, back, whole, left, right⟩ := ih rest
      refine ⟨c :: front, back, ?_, ?_, right⟩
      · rw [whole, List.cons_append]
      · rw [Utf8.encode_cons, left, split]

/-- A spelling of one ASCII character that does not begin with a digit parts the text: what stands
in front of it and behind it is decoded on its own. -/
theorem decodeText?_append (mark : Char) (spelled : List Char) (ascii : mark.toNat < 0x80)
    {first : UInt8} {more : List UInt8} (form : Utf8.encode spelled = first :: more)
    (apart : hexValue? first = none)
    (reads : ∀ rest, decode? (Utf8.encode spelled ++ rest) =
      (decode? rest).map (.ofNat mark.toNat :: ·)) (front back : List Char) :
    decodeText? (front ++ (spelled ++ back)) =
      (decodeText? front).bind fun before =>
        (decodeText? back).map fun behind => before ++ mark :: behind := by
  have bytes : decode? (Utf8.encode (front ++ (spelled ++ back))) =
      (decode? (Utf8.encode front)).bind fun before =>
        (decode? (Utf8.encode back)).map fun behind =>
          before ++ .ofNat mark.toNat :: behind := by
    rw [Utf8.encode_append, Utf8.encode_append, form, List.cons_append, decode?_append apart,
      ← List.cons_append, ← form, reads]
    simp only [Option.map_map]
    rfl
  apply Option.ext
  intro decoded
  rw [decodeText?_eq_some_iff_decode?, bytes]
  simp only [Option.bind_eq_some_iff, Option.map_eq_some_iff, decodeText?_eq_some_iff_decode?]
  constructor
  · intro given
    obtain ⟨before, left, behind, right, whole⟩ := given
    obtain ⟨before, behind, rfl, rfl, rfl⟩ := cut_utf8 ascii whole.symm
    exact ⟨before, left, behind, right, rfl⟩
  · intro given
    obtain ⟨before, left, behind, right, rfl⟩ := given
    refine ⟨_, left, _, right, ?_⟩
    rw [Utf8.encode_append, Utf8.encode_cons, Utf8.encodeChar_of_ascii ascii,
      List.singleton_append]

/-- An escaped `%` is a `%` in the decoded text, whatever stands behind it. -/
theorem decodeText?_append_percent (front back : List Char) :
    decodeText? (front ++ '%' :: '2' :: '5' :: back) =
      (decodeText? front).bind fun before =>
        (decodeText? back).map fun behind => before ++ '%' :: behind := by
  have reads (rest : List UInt8) :
      decode? (Utf8.encode ['%', '2', '5'] ++ rest) = (decode? rest).map (0x25 :: ·) := by
    have written : Utf8.encode ['%', '2', '5'] ++ rest = 0x25 :: 0x32 :: 0x35 :: rest := rfl
    have named : escaped? 0x32 0x35 = some 0x25 := by decide
    rw [written, decode?.eq_def]
    simp only [↓reduceIte, named]
    cases decode? rest <;> rfl
  exact decodeText?_append '%' ['%', '2', '5'] (by decide) rfl (by decide) reads front back

/-- Decoding is exact and takes one pass. Any decoder that replaces escapes from left to right does,
whatever it makes of other `%`, for the check lets no broken escape through. A text decodes to
`decoded` iff its bytes respell those of `decoded`; an escaped `%` gives a `%` that is not read
again, so that what stands around it is decoded on its own; and a text decodes to nothing iff it has
a broken escape, or respells bytes that are not the UTF-8 form of any text. -/
theorem decoding_undoes_respelling :
    (∀ decoder, ReplacesEscapes decoder → ∀ text : List Char, decodeText? text =
      if isWellEscaped (Utf8.encode text) then Utf8.decode? (decoder (Utf8.encode text))
      else none) ∧
    (∀ text decoded : List Char, decodeText? text = some decoded ↔
      Respelled (decoded.flatMap String.utf8EncodeChar) (text.flatMap String.utf8EncodeChar)) ∧
    (∀ front back : List Char, decodeText? (front ++ '%' :: '2' :: '5' :: back) =
      (decodeText? front).bind fun before =>
        (decodeText? back).map fun behind => before ++ '%' :: behind) ∧
    ∀ text : List Char, decodeText? text = none ↔
      HasBrokenEscape text ∨
        ∃ bytes, Respelled bytes (text.flatMap String.utf8EncodeChar) ∧
          ∀ decoded : List Char, bytes ≠ decoded.flatMap String.utf8EncodeChar := by
  simp only [← Utf8.encode_eq, ← decode?_eq_some_iff]
  refine ⟨fun decoder replaces text => ?_, fun text decoded => decodeText?_eq_some_iff_decode?,
    decodeText?_append_percent, fun text => ?_⟩
  · rw [decodeText?_eq, bind_decode?_eq replaces]
  · rw [← decode?_encode_eq_none_iff, decodeText?_eq]
    cases read : decode? (Utf8.encode text) with
    | none => simp only [Option.bind_none, true_or]
    | some bytes =>
      simp only [Option.bind_some, Utf8.decode?_eq_none_iff, reduceCtorEq, false_or,
        Option.some.injEq, exists_eq_left']

/-- An escaped `%` in front of two digits starts no further escape. -/
theorem decoding_undoes_respelling_once :
    let text := "%2541".toList
    let decoded := "%41".toList
    ReplacesEscapes decodeLenient ∧
      Respelled (decoded.flatMap String.utf8EncodeChar) (text.flatMap String.utf8EncodeChar) ∧
      decodeText? text = some decoded ∧
      (if isWellEscaped (Utf8.encode text) then Utf8.decode? (decodeLenient (Utf8.encode text))
        else none) = some decoded := by
  intro text decoded
  obtain ⟨decoders, spellings, _, _⟩ := decoding_undoes_respelling
  have spelled : Respelled (decoded.flatMap String.utf8EncodeChar)
      (text.flatMap String.utf8EncodeChar) :=
    @Respelled.replaced 0x25 '2' '5' _ _ (by decide) (by decide)
      (.kept (by decide) (.kept (by decide) .nil))
  have read := (spellings text decoded).mpr spelled
  exact ⟨decodeLenient_replacesEscapes, spelled, read,
    (decoders _ decodeLenient_replacesEscapes text).symm.trans read⟩

example : decodeText? "%e2%82%AC%25%34%31".toList = some "€%41".toList := by decide +kernel

end ChannelGate.Percent
