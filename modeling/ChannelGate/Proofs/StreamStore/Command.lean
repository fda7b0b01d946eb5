import ChannelGate.Proofs.Event.Fields
import ChannelGate.Proofs.Text.ByteOrder
import ChannelGate.StreamStore.Resp

set_option autoImplicit false

namespace ChannelGate.Resp

def isDigit (b : UInt8) : Bool := 0x30 ≤ b && b ≤ 0x39

def value (digits : List UInt8) : Nat :=
  digits.foldl (fun value b => 10 * value + (b.toNat - 0x30)) 0

def lineEnd? : List UInt8 → Option (List UInt8)
  | 13 :: 10 :: rest => some rest
  | _ => none

/-- Reads a line that holds a mark and a number. -/
def size? (mark : UInt8) : List UInt8 → Option (Nat × List UInt8)
  | [] => none
  | first :: rest =>
    if first = mark then
      (lineEnd? (rest.dropWhile isDigit)).map fun after => (value (rest.takeWhile isDigit), after)
    else none

/-- Reads a byte string: its length, then as many bytes, whatever they are. -/
def item? (input : List UInt8) : Option (List UInt8 × List UInt8) := do
  let (length, rest) ← size? 0x24 input
  let after ← lineEnd? (rest.drop length)
  return (rest.take length, after)

def items? : Nat → List UInt8 → Option (List (List UInt8) × List UInt8)
  | 0, input => some ([], input)
  | count + 1, input => do
    let (item, rest) ← item? input
    let (more, rest) ← items? count rest
    return (item :: more, rest)

/-- Reads a command: how many byte strings it has, then each of them. -/
def unpack? (input : List UInt8) : Option (List (List UInt8) × List UInt8) := do
  let (count, rest) ← size? 0x2A input
  items? count rest

theorem bounds_of_isDigit {c : Char} (digit : c.isDigit = true) :
    0x30 ≤ c.toNat ∧ c.toNat ≤ 0x39 := by
  simp only [Char.isDigit, Bool.and_eq_true, decide_eq_true_eq, UInt32.le_iff_toNat_le] at digit
  exact digit

/-- The byte of a digit. -/
theorem digit_byte {c : Char} (digit : c.isDigit = true) :
    Utf8.encodeChar c = [.ofNat c.toNat] ∧ (UInt8.ofNat c.toNat).toNat = c.toNat ∧
      isDigit (.ofNat c.toNat) = true := by
  obtain ⟨low, high⟩ := bounds_of_isDigit digit
  have value := Utf8.uint8_toNat (show c.toNat < 256 by omega)
  refine ⟨Utf8.encodeChar_of_ascii (by omega), value, ?_⟩
  unfold isDigit
  simp only [Bool.and_eq_true, decide_eq_true_eq, UInt8.le_iff_toNat_le, value]
  exact ⟨low, high⟩

/-- A number is written with one byte for each digit. -/
theorem number_eq (n : Nat) :
    number n = (Nat.toDigits 10 n).map fun c => UInt8.ofNat c.toNat := by
  have each : ∀ c ∈ Nat.toDigits 10 n, Utf8.encodeChar c = [UInt8.ofNat c.toNat] :=
    fun c member => (digit_byte (Nat.isDigit_of_mem_toDigits (by decide) (by decide) member)).1
  unfold number bytes Utf8.ofString Utf8.encode
  rw [Nat.toString_eq_ofList_toDigits, String.toList_ofList, List.flatMap_congr each,
    List.map_eq_flatMap]

theorem isDigit_of_mem_number {n : Nat} {b : UInt8} (member : b ∈ number n) :
    isDigit b = true := by
  rw [number_eq] at member
  obtain ⟨c, digit, rfl⟩ := List.mem_map.mp member
  exact (digit_byte (Nat.isDigit_of_mem_toDigits (by decide) (by decide) digit)).2.2

theorem value_map {digits : List Char} (all : ∀ c ∈ digits, c.isDigit = true) (start : Nat) :
    (digits.map fun c => UInt8.ofNat c.toNat).foldl
        (fun value b => 10 * value + (b.toNat - 0x30)) start =
      digits.foldl (fun value c => 10 * value + (c.toNat - '0'.toNat)) start := by
  induction digits generalizing start with
  | nil => rfl
  | cons c digits ih =>
    rw [List.map_cons, List.foldl_cons, List.foldl_cons,
      (digit_byte (all c List.mem_cons_self)).2.1,
      ih fun other member => all other (List.mem_cons_of_mem _ member)]
    rfl

theorem value_number (n : Nat) : value (number n) = n := by
  have written := Nat.ofDigitChars_ten_toDigits (n := n)
  rw [Nat.ofDigitChars_eq_foldl] at written
  rw [number_eq, value,
    value_map fun c => Nat.isDigit_of_mem_toDigits (by decide) (by decide), written]

theorem number_injective : Function.Injective number := by
  intro m n same
  rw [← value_number m, same, value_number]

/-- A line with a mark and a number is read as the number. -/
theorem size?_line (mark : UInt8) (n : Nat) (rest : List UInt8) :
    size? mark (mark :: number n ++ lineEnd ++ rest) = some (n, rest) := by
  have digits : ∀ b ∈ number n, isDigit b = true := fun b => isDigit_of_mem_number
  have before : (number n ++ (lineEnd ++ rest)).takeWhile isDigit = number n := by
    rw [List.takeWhile_append_of_pos digits]
    exact List.append_nil _
  have after : (number n ++ (lineEnd ++ rest)).dropWhile isDigit = lineEnd ++ rest := by
    rw [List.dropWhile_append_of_pos digits]
    rfl
  rw [List.cons_append, List.cons_append, List.append_assoc, size?, if_pos rfl, before, after,
    value_number]
  rfl

theorem item?_packItem (item rest : List UInt8) :
    item? (packItem item ++ rest) = some (item, rest) := by
  have line : packItem item ++ rest =
      0x24 :: number item.length ++ lineEnd ++ (item ++ (lineEnd ++ rest)) := by
    unfold packItem
    simp only [List.append_assoc]
    rfl
  unfold item?
  rw [line, size?_line]
  simp only [Option.bind_eq_bind, Option.bind_some, List.drop_left, List.take_left]
  rfl

theorem items?_flatMap (arguments : List (List UInt8)) (rest : List UInt8) :
    items? arguments.length (arguments.flatMap packItem ++ rest) = some (arguments, rest) := by
  induction arguments with
  | nil => rfl
  | cons item more ih =>
    rw [List.flatMap_cons, List.append_assoc, List.length_cons, items?, item?_packItem]
    simp only [Option.bind_eq_bind, Option.bind_some, ih]
    rfl

/-- The lengths alone give the arguments back, and show where the command ends. -/
theorem unpack?_pack (arguments : List (List UInt8)) (rest : List UInt8) :
    unpack? (pack arguments ++ rest) = some (arguments, rest) := by
  have line : pack arguments ++ rest =
      0x2A :: number arguments.length ++ lineEnd ++ (arguments.flatMap packItem ++ rest) := by
    unfold pack
    simp only [List.append_assoc]
    rfl
  unfold unpack?
  rw [line, size?_line]
  exact items?_flatMap arguments rest

theorem packCommand_injective : Function.Injective packCommand := by
  intro command other same
  unfold packCommand at same
  have read := unpack?_pack (command.map bytes) []
  rw [same, unpack?_pack] at read
  simp only [Option.some.injEq, Prod.mk.injEq, and_true] at read
  exact List.map_injective_iff.mpr Utf8.ofString_injective read.symm

/-- Names and values in turn are told apart, since each field gives one of both. -/
theorem pairs_injective (fields other : List (String × String))
    (same : fields.flatMap (fun field => [field.1, field.2]) =
      other.flatMap fun field => [field.1, field.2]) : fields = other := by
  induction fields generalizing other with
  | nil =>
    cases other with
    | nil => rfl
    | cons first rest => cases same
  | cons first rest ih =>
    cases other with
    | nil => cases same
    | cons second others =>
      simp only [List.flatMap_cons, List.cons_append, List.nil_append, List.cons.injEq] at same
      obtain ⟨name, text, later⟩ := same
      rw [ih others later, Prod.ext name text]

theorem argument_of_not_float {value : FieldValue} (whole : ∀ number, value ≠ .float number) :
    value.argument = value.display := by
  cases value with
  | float number => exact absurd rfl (whole number)
  | text | int | uint | bool => rfl

/-- The command of a record is read back from its lengths alone: the stream, its greatest length,
and for each field in the order of the bytes of the names its name and one text. So records with
the same bytes agree in all of these. -/
theorem append_command_is_unambiguous (record : Record) (ascending : record.fields.Ascending) :
    unpack? (packCommand (appendCommand record)) =
        some ([bytes "XADD", bytes record.stream, bytes "MAXLEN", bytes "~",
          bytes (toString record.maxLen), bytes "*"] ++
            record.fields.flatMap (fun field => [bytes field.1, bytes field.2.argument]), []) ∧
      (record.fields.map fun field => bytes field.1).Pairwise (· < ·) ∧
      (∀ field ∈ record.fields, (∀ number, field.2 ≠ .float number) →
        field.2.argument = field.2.display) ∧
      ∀ other : Record, packCommand (appendCommand other) = packCommand (appendCommand record) →
        other.stream = record.stream ∧ other.maxLen = record.maxLen ∧
          other.fields.map (fun field => (field.1, field.2.argument)) =
            record.fields.map fun field => (field.1, field.2.argument) := by
  refine ⟨?_, ?_, fun field _ => argument_of_not_float, fun other same => ?_⟩
  · have read := unpack?_pack ((appendCommand record).map bytes) []
    rw [List.append_nil] at read
    unfold packCommand
    rw [read, appendCommand, List.map_append, List.map_flatMap]
    rfl
  · exact List.pairwise_map.mpr (ascending.imp Utf8.ofString_lt)
  · have commands := packCommand_injective same
    unfold appendCommand at commands
    simp only [List.cons_append, List.nil_append, List.cons.injEq, true_and] at commands
    obtain ⟨stream, maxLen, fields⟩ := commands
    refine ⟨stream, number_injective (congrArg bytes maxLen), pairs_injective _ _ ?_⟩
    rw [List.flatMap_map, List.flatMap_map]
    exact fields

theorem append_command_is_unambiguous_line_ends :
    let record : Record := ⟨"events\r\n", 1000, [("a", .text "$3\r\n*1"), ("b", .int (-1))]⟩
    record.fields.Ascending ∧
      unpack? (packCommand (appendCommand record)) =
        some (["XADD", "events\r\n", "MAXLEN", "~", "1000", "*", "a", "$3\r\n*1", "b",
          "-1"].map bytes, []) := by
  have ascending : Fields.Ascending [("a", .text "$3\r\n*1"), ("b", .int (-1))] := by
    unfold Fields.Ascending
    decide
  exact ⟨ascending, (append_command_is_unambiguous ⟨_, 1000, _⟩ ascending).1⟩

end ChannelGate.Resp
