set_option autoImplicit false

namespace ChannelGate.Spelling

/-- The value of a hexadecimal digit with capital letters. -/
def digitValue (c : Char) : Nat := if c ≤ '9' then c.toNat - '0'.toNat else c.toNat - 'A'.toNat + 10

def readChar (digits : List Char) : Char :=
  Char.ofNat (digits.foldl (fun value c => 16 * value + digitValue c) 0)

/-- A spelling: characters with a plus sign between them, or a minus sign for none at all. -/
def readSpelling? (word : List Char) : Option (List Char) :=
  if word = ['-'] then none else some ((word.splitOn '+').map readChar)

def readLine (first : Nat) (line : String) : List (Char × List Char) :=
  ((line.toList.splitOn ' ').mapIdx fun place word =>
    (readSpelling? word).map fun spelling => (Char.ofNat (first + place), spelling)).filterMap id

def readTable (lines : List (Nat × String)) : List (Char × List Char) :=
  lines.flatMap fun line => readLine line.1 line.2

end ChannelGate.Spelling
