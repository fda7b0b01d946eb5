set_option autoImplicit false

namespace ChannelGate.Bus

/-- What a topic ends in that stands for everything below a subject. -/
def belowMark : List Char := ['.', '>']

/-- The subject that a topic stands for everything below of. -/
def above? (topic : List Char) : Option (List Char) :=
  if belowMark.isSuffixOf topic then some (topic.take (topic.length - belowMark.length)) else none

/-- The subject goes on after `top` with a dot and more. -/
def isBelow (top subject : List Char) : Bool :=
  top.isPrefixOf subject &&
    match subject.drop top.length with
    | '.' :: _ :: _ => true
    | _ => false

def takesIn (topic subject : List Char) : Bool :=
  match above? topic with
  | some top => isBelow top subject
  | none => topic = subject

def topicMatches (topic subject : String) : Bool := takesIn topic.toList subject.toList

end ChannelGate.Bus
