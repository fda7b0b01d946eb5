set_option autoImplicit false

namespace ChannelGate.Utf8

def encodeChar (c : Char) : List UInt8 :=
  let v := c.toNat
  if v < 0x80 then [.ofNat v]
  else if v < 0x800 then [.ofNat (0xC0 + v / 0x40), .ofNat (0x80 + v % 0x40)]
  else if v < 0x10000 then
    [.ofNat (0xE0 + v / 0x1000), .ofNat (0x80 + v / 0x40 % 0x40), .ofNat (0x80 + v % 0x40)]
  else
    [.ofNat (0xF0 + v / 0x40000), .ofNat (0x80 + v / 0x1000 % 0x40),
      .ofNat (0x80 + v / 0x40 % 0x40), .ofNat (0x80 + v % 0x40)]

def encode (text : List Char) : List UInt8 := text.flatMap encodeChar

def ofString (text : String) : List UInt8 := encode text.toList

/-- What stands at the front of a byte sequence: nothing, a character, or bytes that belong to no
character. -/
inductive Front where
  | done
  | char (c : Char) (rest : List UInt8)
  | broken (rest : List UInt8)

/-- The six bits of a byte between `low` and `high`, if one stands in front. -/
def tail? (low high : Nat) : List UInt8 → Option (Nat × List UInt8)
  | [] => none
  | b :: rest => if low ≤ b.toNat ∧ b.toNat ≤ high then some (b.toNat - 0x80, rest) else none

/-- The bounds of the byte after `lead`: overlong forms, surrogates and numbers past the last
character are refused here. -/
def secondBounds (lead : Nat) : Nat × Nat :=
  if lead = 0xE0 then (0xA0, 0xBF)
  else if lead = 0xED then (0x80, 0x9F)
  else if lead = 0xF0 then (0x90, 0xBF)
  else if lead = 0xF4 then (0x80, 0x8F)
  else (0x80, 0xBF)

def two (lead : Nat) (rest : List UInt8) : Front :=
  match tail? 0x80 0xBF rest with
  | none => .broken rest
  | some (x, rest) => .char (.ofNat ((lead - 0xC0) * 0x40 + x)) rest

def three (lead : Nat) (rest : List UInt8) : Front :=
  match tail? (secondBounds lead).1 (secondBounds lead).2 rest with
  | none => .broken rest
  | some (x, rest) =>
    match tail? 0x80 0xBF rest with
    | none => .broken rest
    | some (y, rest) => .char (.ofNat ((lead - 0xE0) * 0x1000 + x * 0x40 + y)) rest

def four (lead : Nat) (rest : List UInt8) : Front :=
  match tail? (secondBounds lead).1 (secondBounds lead).2 rest with
  | none => .broken rest
  | some (x, rest) =>
    match tail? 0x80 0xBF rest with
    | none => .broken rest
    | some (y, rest) =>
      match tail? 0x80 0xBF rest with
      | none => .broken rest
      | some (z, rest) => .char (.ofNat ((lead - 0xF0) * 0x40000 + x * 0x1000 + y * 0x40 + z)) rest

/-- Reads the front of a byte sequence. A broken run ends where the first byte stands that cannot
continue it, so it is never longer than three bytes. -/
def front : List UInt8 → Front
  | [] => .done
  | b :: rest =>
    let v := b.toNat
    if v < 0x80 then .char (.ofNat v) rest
    else if v < 0xC2 then .broken rest
    else if v < 0xE0 then two v rest
    else if v < 0xF0 then three v rest
    else if v < 0xF5 then four v rest
    else .broken rest

/-- Reading a following byte leaves one byte less. -/
theorem length_of_tail? {low high x : Nat} {bytes rest : List UInt8}
    (h : tail? low high bytes = some (x, rest)) : bytes.length = rest.length + 1 := by
  cases bytes with
  | nil => simp [tail?] at h
  | cons b bs =>
    simp only [tail?] at h
    split at h
    · simp only [Option.some.injEq, Prod.mk.injEq] at h
      simp [h.2]
    · simp at h

def Front.rest? : Front → Option (List UInt8)
  | .done => none
  | .char _ rest => some rest
  | .broken rest => some rest

/-- The rest after a character of two bytes is no longer than what followed its first byte. -/
theorem two_rest_le (lead : Nat) (bytes rest : List UInt8)
    (h : (two lead bytes).rest? = some rest) : rest.length ≤ bytes.length := by
  unfold two at h
  split at h
  · simp_all [Front.rest?]
  · next e =>
    have := length_of_tail? e
    simp only [Front.rest?, Option.some.injEq] at h
    subst h
    omega

/-- The rest after a character of three bytes is no longer than what followed its first byte. -/
theorem three_rest_le (lead : Nat) (bytes rest : List UInt8)
    (h : (three lead bytes).rest? = some rest) : rest.length ≤ bytes.length := by
  unfold three at h
  split at h
  · simp_all [Front.rest?]
  · next e =>
    have := length_of_tail? e
    split at h
    · simp only [Front.rest?, Option.some.injEq] at h; subst h; omega
    · next e' =>
      have := length_of_tail? e'
      simp only [Front.rest?, Option.some.injEq] at h; subst h; omega

/-- The rest after a character of four bytes is no longer than what followed its first byte. -/
theorem four_rest_le (lead : Nat) (bytes rest : List UInt8)
    (h : (four lead bytes).rest? = some rest) : rest.length ≤ bytes.length := by
  unfold four at h
  split at h
  · simp_all [Front.rest?]
  · next e =>
    have := length_of_tail? e
    split at h
    · simp only [Front.rest?, Option.some.injEq] at h; subst h; omega
    · next e' =>
      have := length_of_tail? e'
      split at h
      · simp only [Front.rest?, Option.some.injEq] at h; subst h; omega
      · next e'' =>
        have := length_of_tail? e''
        simp only [Front.rest?, Option.some.injEq] at h; subst h; omega

/-- Reading the front takes at least one byte. -/
theorem front_rest_lt {bytes rest : List UInt8} (h : (front bytes).rest? = some rest) :
    rest.length < bytes.length := by
  cases bytes with
  | nil => simp [front, Front.rest?] at h
  | cons b bs =>
    simp only [front] at h
    simp only [List.length_cons]
    split at h
    · simp only [Front.rest?, Option.some.injEq] at h; subst h; omega
    split at h
    · simp only [Front.rest?, Option.some.injEq] at h; subst h; omega
    split at h
    · have := two_rest_le _ _ _ h; omega
    split at h
    · have := three_rest_le _ _ _ h; omega
    split at h
    · have := four_rest_le _ _ _ h; omega
    · simp only [Front.rest?, Option.some.injEq] at h; subst h; omega

def decode? (bytes : List UInt8) : Option (List Char) :=
  match _h : front bytes with
  | .done => some []
  | .broken _ => none
  | .char c rest => (decode? rest).map (c :: ·)
termination_by bytes.length
decreasing_by exact front_rest_lt (by rw [_h]; rfl)

/-- The text of these bytes, with U+FFFD for each run that belongs to no character. -/
def decodeLossy (bytes : List UInt8) : List Char :=
  match _h : front bytes with
  | .done => []
  | .broken rest => '\uFFFD' :: decodeLossy rest
  | .char c rest => c :: decodeLossy rest
termination_by bytes.length
decreasing_by all_goals exact front_rest_lt (by rw [_h]; rfl)

def toString? (bytes : List UInt8) : Option String := (decode? bytes).map String.ofList

def toStringLossy (bytes : List UInt8) : String := String.ofList (decodeLossy bytes)

end ChannelGate.Utf8
