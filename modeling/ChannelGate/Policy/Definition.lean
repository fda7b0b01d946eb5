import ChannelGate.Disk
import ChannelGate.Policy.Directory
import ChannelGate.Text.Quoted
import ChannelGate.Text.Utf8
import ChannelGate.Yaml.Node

set_option autoImplicit false

namespace ChannelGate

structure ThingEntry where
  id : String
  secret : String
  channels : List (String × List Action)
  deriving DecidableEq

namespace ThingEntry

def text? : Yaml.Node → Option String
  | .scalar _ text => some text
  | _ => none

/-- The items of a sequence; nothing at all is an empty one. -/
def items? : Yaml.Node → Option (List Yaml.Node)
  | .sequence items => some items
  | .scalar false "" => some []
  | _ => none

/-- The entries of a mapping with texts for keys; nothing at all is an empty one. -/
def members? : Yaml.Node → Option (List (String × Yaml.Node))
  | .mapping entries => entries.mapM fun entry => (text? entry.1).map (·, entry.2)
  | .scalar false "" => some []
  | _ => none

/-- The value of a key that may occur once at most. -/
def field? (members : List (String × Yaml.Node)) (key : String) : Option (Option Yaml.Node) :=
  match members.filter fun member => member.1 = key with
  | [] => some none
  | [member] => some (some member.2)
  | _ => none

def required? (members : List (String × Yaml.Node)) (key : String) : Option Yaml.Node :=
  (field? members key).join

def action? (node : Yaml.Node) : Option Action := (text? node).bind Action.ofName?

def put (channels : List (String × List Action)) (key : String) (actions : List Action) :
    List (String × List Action) :=
  match channels with
  | [] => [(key, actions)]
  | (other, kept) :: rest =>
    if other = key then (key, actions) :: rest else (other, kept) :: put rest key actions

/-- The channels of a thing with their actions; of a channel that occurs again the last actions
count. -/
def channels? (node : Yaml.Node) : Option (List (String × List Action)) := do
  (← members? node).foldlM (fun channels member => do
    return put channels member.1 (← (← items? member.2).mapM action?)) []

def ofNode? (node : Yaml.Node) : Option ThingEntry := do
  let members ← members? node
  let id ← text? (← required? members "id")
  let secret ← text? (← required? members "secret")
  let channels ← match ← field? members "channels" with
    | some node => channels? node
    | none => some []
  return ⟨id, secret, channels⟩

def listed? (document : Yaml.Node) : Option (List ThingEntry) := do
  match ← field? (← members? document) "things" with
  | some node => (← items? node).mapM ofNode?
  | none => return []

def read? (text : String) : Option (List ThingEntry) := do
  match ← Yaml.Node.read? text with
  | some document => listed? document
  | none => return []

end ThingEntry

namespace Directory

def addEntry (directory : Directory) (entry : ThingEntry) : Except PolicyError Directory := do
  let directory ← directory.addThing entry.id ⟨entry.secret⟩
  entry.channels.foldlM (fun directory channel => directory.grant entry.id channel.1 channel.2)
    directory

def ofEntries (entries : List ThingEntry) : Except PolicyError Directory :=
  entries.foldlM addEntry .empty

def ofText (text : String) : Except PolicyError Directory :=
  match ThingEntry.read? text with
  | some entries => ofEntries entries
  | none => .error (.invalidDefinition "Failed to parse policies YAML")

def ofFile (disk : Disk) (path : String) : Except PolicyError Directory :=
  match disk.find? path with
  | none => .error (.invalidDefinition ("Policies file not found at " ++ Quoted.quote path))
  | some (.directory _) =>
    .error (.invalidDefinition "Failed to read policies file: Is a directory (os error 21)")
  | some (.file (.unreadable reason)) =>
    .error (.invalidDefinition ("Failed to read policies file: " ++ reason))
  | some (.file (.readable content)) =>
    match Utf8.toString? content with
    | some text => ofText text
    | none =>
      .error (.invalidDefinition
        "Failed to read policies file: stream did not contain valid UTF-8")

end Directory

end ChannelGate
