import ChannelGate.Error
import ChannelGate.Text.Percent

set_option autoImplicit false

namespace ChannelGate.Topic

/-- A topic with its trailer as written. -/
structure Parts where
  channel : String
  trailer : String
  deriving DecidableEq

structure Route where
  channel : String
  subtopic : String
  deriving DecidableEq

def isChannelChar (c : Char) : Bool := c.isAlphanum || c = '_' || c = '-'

def isWildcard (c : Char) : Bool := c = '*' || c = '+' || c = '#' || c = '>'

def isSeparator (c : Char) : Bool := c = '/' || c = '.'

def channelsMark : List Char := "channels/".toList

def messagesMark : List Char := "messages".toList

/-- The part of a topic before its query. -/
def path (topic : List Char) : List Char := topic.takeWhile (· ≠ '?')

def dropSlash : List Char → List Char
  | '/' :: rest => rest
  | text => text

/-- What follows `mark` at the start of a text. -/
def after? (mark text : List Char) : Option (List Char) :=
  if mark.isPrefixOf text then some (text.drop mark.length) else none

def trailer? (text : List Char) : Option (List Char) :=
  match after? messagesMark text with
  | some [] => some []
  | some ('/' :: trailer) => some trailer
  | _ => none

/-- The channel and the trailer of what follows `channels/`. -/
def channelAndTrailer? (text : List Char) : Option (List Char × List Char) :=
  let channel := text.takeWhile (· ≠ '/')
  match text.dropWhile (· ≠ '/') with
  | [] => none
  | _ :: rest =>
    if channel ≠ [] ∧ channel.all isChannelChar then (trailer? rest).map (channel, ·) else none

def splitText? (topic : List Char) : Option (List Char × List Char) :=
  (after? channelsMark (dropSlash (path topic))).bind channelAndTrailer?

/-- Finds the channel and the trailer of `channels/<channel>/messages`, where a slash may stand in
front, a trailer after it and a query behind. -/
def split (topic : String) : Except GatewayError Parts :=
  match splitText? topic.toList with
  | some (channel, trailer) => .ok ⟨String.ofList channel, String.ofList trailer⟩
  | none => .error .malformedTopic

def dropLastSlash (text : List Char) : List Char :=
  if text.getLast? = some '/' then text.dropLast else text

/-- The pieces of a text between separators; there is always at least one. -/
def pieces : List Char → List (List Char)
  | [] => [[]]
  | c :: rest =>
    if isSeparator c then [] :: pieces rest
    else
      match pieces rest with
      | [] => [[c]]
      | piece :: more => (c :: piece) :: more

def isPiece (piece : List Char) : Bool := piece ≠ [] && !piece.any isWildcard

/-- The subtopic pieces of a trailer: none if nothing is left without its last slash, else those of
the decoded text, all of which must be good. -/
def subtopicPieces? (trailer : List Char) : Option (List (List Char)) :=
  let text := dropLastSlash trailer
  if text = [] then some []
  else do
    let decoded ← Percent.decodeText? text
    if (pieces decoded).all isPiece then some (pieces decoded) else none

/-- The subtopic of a trailer: its pieces joined by dots. -/
def subtopic (trailer : String) : Except GatewayError String :=
  match subtopicPieces? trailer.toList with
  | some pieces => .ok (String.ofList (List.intercalate ['.'] pieces))
  | none => .error .malformedSubtopic

/-- The channel and the subtopic of a topic; whatever is wrong, the topic is malformed. -/
def parse (topic : String) : Except GatewayError Route := do
  let parts ← split topic
  match subtopic parts.trailer with
  | .ok subtopic => return ⟨parts.channel, subtopic⟩
  | .error _ => throw .malformedTopic

end ChannelGate.Topic
