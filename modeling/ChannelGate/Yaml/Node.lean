import ChannelGate.Yaml.Token

set_option autoImplicit false

namespace ChannelGate.Yaml

inductive Node where
  | scalar (quoted : Bool) (text : String)
  | sequence (items : List Node)
  | mapping (entries : List (Node × Node))

namespace Node

/-- The node that stands where nothing is written. -/
def empty : Node := .scalar false ""

/-- Which node may come: one in a flow collection, one in a block, or one in a block mapping, where
a sequence needs no indentation. -/
inductive Place where
  | flow
  | block
  | blockValue
  deriving DecidableEq

mutual

def node? : Nat → Place → List Token → Option (Node × List Token)
  | 0, _, _ => none
  | fuel + 1, place, tokens =>
    match tokens with
    | .scalar quoted text :: rest => some (.scalar quoted text, rest)
    | .flowSequence :: rest => (flowItems? fuel true rest).map (.map .sequence id)
    | .flowMapping :: rest => (flowEntries? fuel true rest).map (.map .mapping id)
    | .blockSequence :: rest =>
      if place = .flow then none else (blockItems? fuel rest).map (.map .sequence id)
    | .blockMapping :: rest =>
      if place = .flow then none else (blockEntries? fuel rest).map (.map .mapping id)
    | .blockEntry :: rest =>
      if place = .blockValue then
        (looseItems? fuel (.blockEntry :: rest)).map (.map .sequence id)
      else none
    | _ => none

/-- Reads a node, or the empty one if one of the tokens `ends` comes first. -/
def optional? : Nat → Place → List Token → List Token → Option (Node × List Token)
  | 0, _, _, _ => none
  | fuel + 1, place, ends, tokens =>
    if tokens.head?.any ends.contains then some (.empty, tokens) else node? fuel place tokens

def blockItems? : Nat → List Token → Option (List Node × List Token)
  | 0, _ => none
  | fuel + 1, tokens =>
    match tokens with
    | .blockEnd :: rest => some ([], rest)
    | .blockEntry :: rest => do
      let (item, rest) ← optional? fuel .block [.blockEntry, .blockEnd] rest
      let (items, rest) ← blockItems? fuel rest
      return (item :: items, rest)
    | _ => none

/-- Reads the items of a sequence without indentation of its own. -/
def looseItems? : Nat → List Token → Option (List Node × List Token)
  | 0, _ => none
  | fuel + 1, tokens =>
    match tokens with
    | .blockEntry :: rest => do
      let (item, rest) ← optional? fuel .block [.blockEntry, .key, .value, .blockEnd] rest
      let (items, rest) ← looseItems? fuel rest
      return (item :: items, rest)
    | _ => some ([], tokens)

def blockEntries? : Nat → List Token → Option (List (Node × Node) × List Token)
  | 0, _ => none
  | fuel + 1, tokens =>
    match tokens with
    | .blockEnd :: rest => some ([], rest)
    | .key :: rest => do
      let (key, rest) ← optional? fuel .blockValue [.key, .value, .blockEnd] rest
      let (value, rest) ← match rest with
        | .value :: rest => optional? fuel .blockValue [.key, .value, .blockEnd] rest
        | rest => some (.empty, rest)
      let (entries, rest) ← blockEntries? fuel rest
      return ((key, value) :: entries, rest)
    | _ => none

/-- Reads the items of a flow sequence; an item with a key is a mapping of one entry. A key mark
without a key takes the token after it along, whatever it is. -/
def flowItems? : Nat → Bool → List Token → Option (List Node × List Token)
  | 0, _, _ => none
  | fuel + 1, first, tokens =>
    match tokens with
    | .flowSequenceEnd :: rest => some ([], rest)
    | tokens => do
      let tokens ← if first then some tokens else
        match tokens with
        | .flowEntry :: rest => some rest
        | _ => none
      match tokens with
      | .flowSequenceEnd :: rest => return ([], rest)
      | .key :: rest =>
        let ends : List Token := [.value, .flowEntry, .flowSequenceEnd]
        let (key, left) ← optional? fuel .flow ends rest
        let left := if rest.head?.any ends.contains then left.drop 1 else left
        let (value, rest) ← match left with
          | .value :: rest => optional? fuel .flow [.flowEntry, .flowSequenceEnd] rest
          | rest => some (.empty, rest)
        let (items, rest) ← flowItems? fuel false rest
        return (.mapping [(key, value)] :: items, rest)
      | tokens =>
        let (item, rest) ← node? fuel .flow tokens
        let (items, rest) ← flowItems? fuel false rest
        return (item :: items, rest)

/-- Reads the entries of a flow mapping; an item without a key mark is a key without a value. -/
def flowEntries? : Nat → Bool → List Token → Option (List (Node × Node) × List Token)
  | 0, _, _ => none
  | fuel + 1, first, tokens =>
    match tokens with
    | .flowMappingEnd :: rest => some ([], rest)
    | tokens => do
      let tokens ← if first then some tokens else
        match tokens with
        | .flowEntry :: rest => some rest
        | _ => none
      match tokens with
      | .flowMappingEnd :: rest => return ([], rest)
      | .key :: rest =>
        let (key, rest) ← optional? fuel .flow [.value, .flowEntry, .flowMappingEnd] rest
        let (value, rest) ← match rest with
          | .value :: rest => optional? fuel .flow [.flowEntry, .flowMappingEnd] rest
          | rest => some (.empty, rest)
        let (entries, rest) ← flowEntries? fuel false rest
        return ((key, value) :: entries, rest)
      | tokens =>
        let (key, rest) ← node? fuel .flow tokens
        let (entries, rest) ← flowEntries? fuel false rest
        return ((key, .empty) :: entries, rest)

end

/-- Reads the content of a document; before a document mark it is empty. -/
def content? (fuel : Nat) (tokens : List Token) : Option (Node × List Token) :=
  match tokens with
  | [] => some (.empty, [])
  | .documentStart :: _ => some (.empty, tokens)
  | .documentEnd :: _ => some (.empty, tokens)
  | tokens => node? fuel .block tokens

/-- The document of these tokens, if they have one and no more. -/
def ofTokens? (tokens : List Token) : Option (Option Node) := do
  let fuel := 3 * tokens.length + 3
  let (node, rest) ← match tokens with
    | [] => return none
    | .documentStart :: rest => content? fuel rest
    | tokens => node? fuel .block tokens
  if rest.all (· = .documentEnd) then return some node else none

def read? (text : String) : Option (Option Node) := (Token.scan? text.toList).bind ofTokens?

end Node

end ChannelGate.Yaml
