import ChannelGate.Domain.Direction
import ChannelGate.Domain.Joining
import ChannelGate.Domain.Punycode
import ChannelGate.Text.Composition

set_option autoImplicit false

namespace ChannelGate.Domain

def isForbidden (c : Char) : Bool :=
  c.toNat ≤ 0x20 || c = '\x7f' || "%#/:<>?@[\\]^|".toList.contains c

/-- What stands in front of a label that is written in ASCII only. -/
def encodedMark : List Char := "xn--".toList

def maxEncoded : Nat := 2000

def maxLabel : Nat := 1000

/-- The label that a text stands for, which has to be unified and composed already. -/
def decodeLabel? (text : List Char) : Option (List Char) := do
  if maxEncoded < text.length || text.getLast?.all (· = '-') then none
  let label ← Punycode.decode? text
  let stays := label.all fun c => fateOf c = .kept && !isForbidden c && c ≠ '.'
  if stays && Composition.compose label = label then some label else none

def readLabel? (text : List Char) : Option (List Char) :=
  if encodedMark.isPrefixOf text then decodeLabel? (text.drop encodedMark.length) else some text

/-- A label does not begin with a mark, joins only what can be joined, and is not too long. -/
def isSound (label : List Char) : Bool :=
  !label.head?.any (fun c => Category.isMark c || Recent.isMark c) && joinersFit [] label &&
    (label.all (·.toNat < 128) || label.length ≤ maxLabel)

def labels? (text : List Char) : Option (List (List Char)) := do
  let unified := Composition.compose (← unify? text)
  if unified.any isForbidden then none
  let labels ← (unified.splitOn '.').mapM readLabel?
  if labels.all isSound && Direction.agree labels then some labels else none

/-- The domain in its own letters. It is unified and composed before it is split, so other dots and
capital letters do not matter. -/
def plain? (text : List Char) : Option (List Char) := (labels? text).map (List.intercalate ['.'])

end ChannelGate.Domain
