import ChannelGate.Text.Utf8
import ChannelGate.Trace

set_option autoImplicit false

namespace ChannelGate

/-- The bytes that were written since the tape was last wiped. -/
structure LogTape where
  bytes : List UInt8
  deriving DecidableEq

namespace LogTape

def empty : LogTape := ⟨[]⟩

def write (tape : LogTape) (bytes : List UInt8) : Nat × LogTape :=
  (bytes.length, ⟨tape.bytes ++ bytes⟩)

/-- The tape as text, with a replacement character for bytes that are none. -/
def contents (tape : LogTape) : String := Utf8.toStringLossy tape.bytes

/-- A character of a message as it is written in a line. Control characters that a terminal obeys
are spelled out: escape, bell, backspace, form feed and delete with two digits, those after delete
between braces. Tabs, line ends and all other characters stay as they are. -/
def lineChar (c : Char) : List Char :=
  if c = '\x1b' ∨ c = '\x07' ∨ c = '\x08' ∨ c = '\x0c' ∨ c = '\x7f' then
    ['\\', 'x', (c.toNat / 16).digitChar, (c.toNat % 16).digitChar]
  else if 0x80 ≤ c.toNat ∧ c.toNat ≤ 0x9F then
    ['\\', 'u', '\x7b'] ++ Nat.toDigits 16 c.toNat ++ ['\x7d']
  else [c]

def lineText (level : Level) (message : String) : String :=
  level.name ++ " " ++ String.ofList (message.toList.flatMap lineChar) ++ "\n"

def emit (tape : LogTape) (level : Level) (message : String) : LogTape :=
  (tape.write (Utf8.ofString (lineText level message))).2

/-- One list of characters lies within the other. -/
def isWithin (part : List Char) : List Char → Bool
  | [] => part.isEmpty
  | c :: rest => part.isPrefixOf (c :: rest) || isWithin part rest

def shows (tape : LogTape) (text : String) : Bool := isWithin text.toList tape.contents.toList

end LogTape

end ChannelGate
