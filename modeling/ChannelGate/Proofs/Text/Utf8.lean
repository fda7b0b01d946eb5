import ChannelGate.Text.Utf8

set_option autoImplicit false

namespace ChannelGate.Utf8

theorem toNat_ofNat {n : Nat} (valid : n.isValidChar) : (Char.ofNat n).toNat = n := by
  unfold Char.ofNat
  rw [dif_pos valid]
  rfl

theorem valid_toNat (c : Char) : c.toNat.isValidChar := c.valid

theorem uint8_toNat {n : Nat} (small : n < 256) : (UInt8.ofNat n).toNat = n := by
  rw [UInt8.toNat_ofNat', Nat.mod_eq_of_lt small]

theorem tail?_cons {low high : Nat} {b : UInt8} {rest : List UInt8} (above : low ≤ b.toNat)
    (below : b.toNat ≤ high) : tail? low high (b :: rest) = some (b.toNat - 0x80, rest) := by
  simp only [tail?, above, below, and_self, ↓reduceIte]

theorem tail?_eq_some {low high x : Nat} {bytes rest : List UInt8}
    (found : tail? low high bytes = some (x, rest)) :
    ∃ b, bytes = b :: rest ∧ low ≤ b.toNat ∧ b.toNat ≤ high ∧ x = b.toNat - 0x80 := by
  cases bytes with
  | nil => cases found
  | cons b bytes =>
    simp only [tail?] at found
    split at found
    · rename_i inside
      simp only [Option.some.injEq, Prod.mk.injEq] at found
      exact ⟨b, by rw [found.2], inside.1, inside.2, found.1.symm⟩
    · cases found

/-- The bounds of a second byte are within those of every following byte, and narrower after four
lead bytes. -/
theorem secondBounds_spec (lead : Nat) :
    0x80 ≤ (secondBounds lead).1 ∧ (secondBounds lead).2 ≤ 0xBF ∧
      (lead = 0xE0 → 0xA0 ≤ (secondBounds lead).1) ∧
      (lead = 0xED → (secondBounds lead).2 ≤ 0x9F) ∧
      (lead = 0xF0 → 0x90 ≤ (secondBounds lead).1) ∧
      (lead = 0xF4 → (secondBounds lead).2 ≤ 0x8F) := by
  unfold secondBounds
  repeat' split
  all_goals omega

theorem front_one {v : Nat} (small : v < 0x80) (rest : List UInt8) :
    front (.ofNat v :: rest) = .char (.ofNat v) rest := by
  have byte := uint8_toNat (show v < 256 by omega)
  simp only [front, byte, small, ↓reduceIte]

theorem front_two {v : Nat} (low : 0x80 ≤ v) (high : v < 0x800) (rest : List UInt8) :
    front (.ofNat (0xC0 + v / 0x40) :: .ofNat (0x80 + v % 0x40) :: rest) =
      .char (.ofNat v) rest := by
  have lead := uint8_toNat (show 0xC0 + v / 0x40 < 256 by omega)
  have next := uint8_toNat (show 0x80 + v % 0x40 < 256 by omega)
  have first : ¬ 0xC0 + v / 0x40 < 0x80 := by omega
  have second : ¬ 0xC0 + v / 0x40 < 0xC2 := by omega
  have third : 0xC0 + v / 0x40 < 0xE0 := by omega
  simp only [front, lead, first, second, third, ↓reduceIte, two]
  rw [tail?_cons (by omega) (by omega), next]
  have whole : (0xC0 + v / 0x40 - 0xC0) * 0x40 + (0x80 + v % 0x40 - 0x80) = v := by omega
  simp only [whole]

theorem front_three {v : Nat} (low : 0x800 ≤ v) (high : v < 0x10000) (valid : v.isValidChar)
    (rest : List UInt8) :
    front (.ofNat (0xE0 + v / 0x1000) :: .ofNat (0x80 + v / 0x40 % 0x40) ::
      .ofNat (0x80 + v % 0x40) :: rest) = .char (.ofNat v) rest := by
  have lead := uint8_toNat (show 0xE0 + v / 0x1000 < 256 by omega)
  have next := uint8_toNat (show 0x80 + v / 0x40 % 0x40 < 256 by omega)
  have last := uint8_toNat (show 0x80 + v % 0x40 < 256 by omega)
  have first : ¬ 0xE0 + v / 0x1000 < 0x80 := by omega
  have second : ¬ 0xE0 + v / 0x1000 < 0xC2 := by omega
  have third : ¬ 0xE0 + v / 0x1000 < 0xE0 := by omega
  have fourth : 0xE0 + v / 0x1000 < 0xF0 := by omega
  have bounds : (secondBounds (0xE0 + v / 0x1000)).1 ≤ 0x80 + v / 0x40 % 0x40 ∧
      0x80 + v / 0x40 % 0x40 ≤ (secondBounds (0xE0 + v / 0x1000)).2 := by
    unfold Nat.isValidChar at valid
    unfold secondBounds
    repeat' split
    all_goals omega
  simp only [front, lead, first, second, third, fourth, ↓reduceIte, three]
  rw [tail?_cons (by rw [next]; exact bounds.1) (by rw [next]; exact bounds.2)]
  simp only
  rw [tail?_cons (by omega) (by omega), next, last]
  have whole : (0xE0 + v / 0x1000 - 0xE0) * 0x1000 + (0x80 + v / 0x40 % 0x40 - 0x80) * 0x40 +
      (0x80 + v % 0x40 - 0x80) = v := by omega
  simp only [whole]

theorem front_four {v : Nat} (low : 0x10000 ≤ v) (valid : v.isValidChar) (rest : List UInt8) :
    front (.ofNat (0xF0 + v / 0x40000) :: .ofNat (0x80 + v / 0x1000 % 0x40) ::
      .ofNat (0x80 + v / 0x40 % 0x40) :: .ofNat (0x80 + v % 0x40) :: rest) =
      .char (.ofNat v) rest := by
  unfold Nat.isValidChar at valid
  have lead := uint8_toNat (show 0xF0 + v / 0x40000 < 256 by omega)
  have next := uint8_toNat (show 0x80 + v / 0x1000 % 0x40 < 256 by omega)
  have other := uint8_toNat (show 0x80 + v / 0x40 % 0x40 < 256 by omega)
  have last := uint8_toNat (show 0x80 + v % 0x40 < 256 by omega)
  have first : ¬ 0xF0 + v / 0x40000 < 0x80 := by omega
  have second : ¬ 0xF0 + v / 0x40000 < 0xC2 := by omega
  have third : ¬ 0xF0 + v / 0x40000 < 0xE0 := by omega
  have fourth : ¬ 0xF0 + v / 0x40000 < 0xF0 := by omega
  have fifth : 0xF0 + v / 0x40000 < 0xF5 := by omega
  have bounds : (secondBounds (0xF0 + v / 0x40000)).1 ≤ 0x80 + v / 0x1000 % 0x40 ∧
      0x80 + v / 0x1000 % 0x40 ≤ (secondBounds (0xF0 + v / 0x40000)).2 := by
    unfold secondBounds
    repeat' split
    all_goals omega
  simp only [front, lead, first, second, third, fourth, fifth, ↓reduceIte, four]
  rw [tail?_cons (by rw [next]; exact bounds.1) (by rw [next]; exact bounds.2)]
  simp only
  rw [tail?_cons (by omega) (by omega)]
  simp only
  rw [tail?_cons (by omega) (by omega), next, other, last]
  have whole : (0xF0 + v / 0x40000 - 0xF0) * 0x40000 + (0x80 + v / 0x1000 % 0x40 - 0x80) * 0x1000 +
      (0x80 + v / 0x40 % 0x40 - 0x80) * 0x40 + (0x80 + v % 0x40 - 0x80) = v := by omega
  simp only [whole]

/-- A written character is read back. -/
theorem front_encodeChar (c : Char) (rest : List UInt8) :
    front (encodeChar c ++ rest) = .char c rest := by
  have valid := valid_toNat c
  have same : Front.char c rest = .char (.ofNat c.toNat) rest := by rw [Char.ofNat_toNat]
  rw [same]
  unfold encodeChar
  simp only
  split
  · rename_i small
    exact front_one small rest
  split
  · rename_i low high
    exact front_two (by omega) high rest
  split
  · rename_i low high
    exact front_three (by omega) high valid rest
  · rename_i low
    exact front_four (by omega) valid rest

theorem ofNat_eq_iff {n : Nat} (small : n < 256) (b : UInt8) : UInt8.ofNat n = b ↔ n = b.toNat := by
  rw [← UInt8.toNat_inj, uint8_toNat small]

theorem encodeChar_two {x y : UInt8} (low : 0xC2 ≤ x.toNat) (high : x.toNat < 0xE0)
    (above : 0x80 ≤ y.toNat) (below : y.toNat ≤ 0xBF) :
    encodeChar (.ofNat ((x.toNat - 0xC0) * 0x40 + (y.toNat - 0x80))) = [x, y] := by
  have valid : ((x.toNat - 0xC0) * 0x40 + (y.toNat - 0x80)).isValidChar := by
    unfold Nat.isValidChar
    omega
  unfold encodeChar
  simp only [toNat_ofNat valid]
  rw [if_neg (by omega), if_pos (by omega)]
  refine List.cons_eq_cons.mpr ⟨?_, List.cons_eq_cons.mpr ⟨?_, rfl⟩⟩
  · rw [ofNat_eq_iff (by omega)]
    omega
  · rw [ofNat_eq_iff (by omega)]
    omega

theorem encodeChar_three {x y z : UInt8} (low : 0xE0 ≤ x.toNat) (high : x.toNat < 0xF0)
    (above : (secondBounds x.toNat).1 ≤ y.toNat) (below : y.toNat ≤ (secondBounds x.toNat).2)
    (past : 0x80 ≤ z.toNat) (under : z.toNat ≤ 0xBF) :
    encodeChar (.ofNat ((x.toNat - 0xE0) * 0x1000 + (y.toNat - 0x80) * 0x40 +
      (z.toNat - 0x80))) = [x, y, z] := by
  obtain ⟨least, most, long, short, _, _⟩ := secondBounds_spec x.toNat
  have valid : ((x.toNat - 0xE0) * 0x1000 + (y.toNat - 0x80) * 0x40 +
      (z.toNat - 0x80)).isValidChar := by
    unfold Nat.isValidChar
    omega
  unfold encodeChar
  simp only [toNat_ofNat valid]
  rw [if_neg (by omega), if_neg (by omega), if_pos (by omega)]
  refine List.cons_eq_cons.mpr ⟨?_, List.cons_eq_cons.mpr ⟨?_, List.cons_eq_cons.mpr ⟨?_, rfl⟩⟩⟩
  all_goals
    rw [ofNat_eq_iff (by omega)]
    omega

theorem encodeChar_four {x y z w : UInt8} (low : 0xF0 ≤ x.toNat) (high : x.toNat < 0xF5)
    (above : (secondBounds x.toNat).1 ≤ y.toNat) (below : y.toNat ≤ (secondBounds x.toNat).2)
    (past : 0x80 ≤ z.toNat) (under : z.toNat ≤ 0xBF) (more : 0x80 ≤ w.toNat)
    (less : w.toNat ≤ 0xBF) :
    encodeChar (.ofNat ((x.toNat - 0xF0) * 0x40000 + (y.toNat - 0x80) * 0x1000 +
      (z.toNat - 0x80) * 0x40 + (w.toNat - 0x80))) = [x, y, z, w] := by
  obtain ⟨least, most, _, _, long, short⟩ := secondBounds_spec x.toNat
  have valid : ((x.toNat - 0xF0) * 0x40000 + (y.toNat - 0x80) * 0x1000 +
      (z.toNat - 0x80) * 0x40 + (w.toNat - 0x80)).isValidChar := by
    unfold Nat.isValidChar
    omega
  unfold encodeChar
  simp only [toNat_ofNat valid]
  rw [if_neg (by omega), if_neg (by omega), if_neg (by omega)]
  refine List.cons_eq_cons.mpr ⟨?_, List.cons_eq_cons.mpr ⟨?_, List.cons_eq_cons.mpr ⟨?_,
    List.cons_eq_cons.mpr ⟨?_, rfl⟩⟩⟩⟩
  all_goals
    rw [ofNat_eq_iff (by omega)]
    omega

theorem encodeChar_of_two {x : UInt8} {bytes rest : List UInt8} {c : Char}
    (low : 0xC2 ≤ x.toNat) (high : x.toNat < 0xE0) (read : two x.toNat bytes = .char c rest) :
    x :: bytes = encodeChar c ++ rest := by
  unfold two at read
  split at read
  · cases read
  · rename_i found
    obtain ⟨y, same, above, below, value⟩ := tail?_eq_some found
    subst same
    rw [value] at read
    simp only [Front.char.injEq] at read
    obtain ⟨rfl, rfl⟩ := read
    rw [encodeChar_two low high above below]
    rfl

theorem encodeChar_of_three {x : UInt8} {bytes rest : List UInt8} {c : Char}
    (low : 0xE0 ≤ x.toNat) (high : x.toNat < 0xF0) (read : three x.toNat bytes = .char c rest) :
    x :: bytes = encodeChar c ++ rest := by
  unfold three at read
  split at read
  · cases read
  · rename_i found
    obtain ⟨y, same, above, below, value⟩ := tail?_eq_some found
    subst same
    rw [value] at read
    split at read
    · cases read
    · rename_i found
      obtain ⟨z, same, past, under, value⟩ := tail?_eq_some found
      subst same
      rw [value] at read
      simp only [Front.char.injEq] at read
      obtain ⟨rfl, rfl⟩ := read
      rw [encodeChar_three low high above below past under]
      rfl

theorem encodeChar_of_four {x : UInt8} {bytes rest : List UInt8} {c : Char}
    (low : 0xF0 ≤ x.toNat) (high : x.toNat < 0xF5) (read : four x.toNat bytes = .char c rest) :
    x :: bytes = encodeChar c ++ rest := by
  unfold four at read
  split at read
  · cases read
  · rename_i found
    obtain ⟨y, same, above, below, value⟩ := tail?_eq_some found
    subst same
    rw [value] at read
    split at read
    · cases read
    · rename_i found
      obtain ⟨z, same, past, under, value⟩ := tail?_eq_some found
      subst same
      rw [value] at read
      split at read
      · cases read
      · rename_i found
        obtain ⟨w, same, more, less, value⟩ := tail?_eq_some found
        subst same
        rw [value] at read
        simp only [Front.char.injEq] at read
        obtain ⟨rfl, rfl⟩ := read
        rw [encodeChar_four low high above below past under more less]
        rfl

theorem encodeChar_of_ascii {c : Char} (ascii : c.toNat < 0x80) :
    encodeChar c = [.ofNat c.toNat] := by
  unfold encodeChar
  simp only [ascii, ↓reduceIte]

theorem encodeChar_ne_nil (c : Char) : encodeChar c ≠ [] := by
  unfold encodeChar
  simp only
  repeat' split
  all_goals exact List.cons_ne_nil _ _

theorem encodeChar_one {x : UInt8} (small : x.toNat < 0x80) :
    encodeChar (.ofNat x.toNat) = [x] := by
  have valid : x.toNat.isValidChar := by
    unfold Nat.isValidChar
    omega
  unfold encodeChar
  simp only [toNat_ofNat valid, small, ↓reduceIte, UInt8.ofNat_toNat]

/-- A character is read only from the bytes that it is written as. -/
theorem eq_encodeChar_of_front {bytes rest : List UInt8} {c : Char}
    (read : front bytes = .char c rest) : bytes = encodeChar c ++ rest := by
  cases bytes with
  | nil => cases read
  | cons x bytes =>
    simp only [front] at read
    split at read
    · rename_i small
      cases read
      rw [encodeChar_one small]
      rfl
    split at read
    · cases read
    split at read
    · rename_i low high
      exact encodeChar_of_two (by omega) high read
    split at read
    · rename_i low high
      exact encodeChar_of_three (by omega) high read
    split at read
    · rename_i low high
      exact encodeChar_of_four (by omega) high read
    · cases read

theorem front_eq_done {bytes : List UInt8} : front bytes = .done ↔ bytes = [] := by
  constructor
  · intro read
    cases bytes with
    | nil => rfl
    | cons x bytes =>
      simp only [front, two, three, four] at read
      repeat' split at read
      all_goals cases read
  · intro same
    subst same
    rfl

@[simp] theorem encode_cons (c : Char) (text : List Char) :
    encode (c :: text) = encodeChar c ++ encode text := rfl

theorem decode?_encode (text : List Char) : decode? (encode text) = some text := by
  induction text with
  | nil =>
    rw [decode?]
    split
    · rfl
    · rename_i read
      cases read
    · rename_i read
      cases read
  | cons c text ih =>
    have read := front_encodeChar c (encode text)
    rw [encode_cons, decode?]
    split
    · rename_i other
      rw [read] at other
      cases other
    · rename_i other
      rw [read] at other
      cases other
    · rename_i other
      rw [read] at other
      cases other
      rw [ih]
      rfl

theorem eq_encode_of_decode? (bytes : List UInt8) :
    ∀ text, decode? bytes = some text → bytes = encode text := by
  fun_induction decode? bytes with
  | case1 bytes read =>
    intro text same
    cases same
    exact front_eq_done.mp read
  | case2 =>
    intro text same
    cases same
  | case3 bytes c rest read ih =>
    intro text same
    obtain ⟨tail, decoded, rfl⟩ := Option.map_eq_some_iff.mp same
    rw [eq_encodeChar_of_front read, encode_cons, ← ih tail decoded]

/-- Exactly the UTF-8 form of a text is read as the text. -/
theorem decode?_eq_some_iff {bytes : List UInt8} {text : List Char} :
    decode? bytes = some text ↔ bytes = encode text := by
  constructor
  · exact eq_encode_of_decode? bytes text
  · intro same
    subst same
    exact decode?_encode text

theorem decode?_eq_none_iff {bytes : List UInt8} :
    decode? bytes = none ↔ ∀ text, bytes ≠ encode text := by
  simp only [Option.eq_none_iff_forall_ne_some, ne_eq, decode?_eq_some_iff]

/-- The bytes of a character are those of the standard library. -/
theorem encodeChar_eq (c : Char) : encodeChar c = String.utf8EncodeChar c := by
  have valid := valid_toNat c
  unfold Nat.isValidChar at valid
  have value : c.val.toNat = c.toNat := rfl
  unfold encodeChar String.utf8EncodeChar
  simp only [value]
  by_cases one : c.toNat < 0x80
  · have other : c.toNat ≤ 0x7F := by omega
    simp only [one, other, ↓reduceIte]
  by_cases two : c.toNat < 0x800
  · have first : ¬ c.toNat ≤ 0x7F := by omega
    have other : c.toNat ≤ 0x7FF := by omega
    simp only [one, two, first, other, ↓reduceIte]
    rw [Nat.mod_eq_of_lt (by omega : c.toNat / 64 < 0x20), Nat.add_comm 0xC0, Nat.add_comm 0x80]
  have first : ¬ c.toNat ≤ 0x7F := by omega
  have second : ¬ c.toNat ≤ 0x7FF := by omega
  by_cases three : c.toNat < 0x10000
  · have other : c.toNat ≤ 0xFFFF := by omega
    simp only [one, two, three, first, second, other, ↓reduceIte]
    rw [Nat.mod_eq_of_lt (by omega : c.toNat / 4096 < 0x10), Nat.add_comm 0xE0,
      Nat.add_comm 0x80, Nat.add_comm 0x80]
  · have third : ¬ c.toNat ≤ 0xFFFF := by omega
    simp only [one, two, three, first, second, third, ↓reduceIte]
    rw [Nat.mod_eq_of_lt (by omega : c.toNat / 262144 < 0x08), Nat.add_comm 0xF0,
      Nat.add_comm 0x80, Nat.add_comm 0x80, Nat.add_comm 0x80]

theorem encode_eq (text : List Char) : encode text = text.flatMap String.utf8EncodeChar := by
  unfold encode
  rw [funext encodeChar_eq]

theorem encode_append (front back : List Char) :
    encode (front ++ back) = encode front ++ encode back := List.flatMap_append

end ChannelGate.Utf8
