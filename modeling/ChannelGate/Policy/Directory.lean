import ChannelGate.Policy.Request

set_option autoImplicit false

namespace ChannelGate

structure Thing where
  id : String
  credential : Credential
  deriving DecidableEq

/-- Things in the order in which they were added, and the requests that were granted. -/
structure Directory where
  things : List Thing
  granted : List Request
  deriving DecidableEq

namespace Directory

def empty : Directory := ⟨[], []⟩

def holds (directory : Directory) (id : String) : Bool := directory.things.any (·.id = id)

def knows (directory : Directory) (credential : Credential) : Bool :=
  directory.things.any (·.credential = credential)

def size (directory : Directory) : Nat := directory.things.length

/-- Adds a thing whose id and secret are new. -/
def addThing (directory : Directory) (id : String) (credential : Credential) :
    Except PolicyError Directory :=
  if id = "" ∨ credential.isEmpty then
    .error (.invalidDefinition "thing id and secret must not be empty")
  else if directory.holds id then
    .error (.invalidDefinition ("duplicate thing id '" ++ id ++ "'"))
  else if directory.knows credential then
    .error (.invalidDefinition ("thing '" ++ id ++ "' reuses another thing's secret"))
  else .ok { directory with things := directory.things ++ [⟨id, credential⟩] }

def grant (directory : Directory) (thing channel : String) (actions : List Action) :
    Except PolicyError Directory :=
  if !directory.holds thing then
    .error (.invalidDefinition ("grant references unknown thing '" ++ thing ++ "'"))
  else if channel = "" then
    .error (.invalidDefinition ("thing '" ++ thing ++ "' has a grant with an empty channel id"))
  else
    .ok { directory with
      granted := directory.granted ++ actions.map fun action => ⟨thing, channel, action⟩ }

def identify (directory : Directory) (credential : Credential) : Except PolicyError String :=
  if credential.isEmpty then .error .notFound
  else
    match directory.things.find? (·.credential = credential) with
    | some thing => .ok thing.id
    | none => .error .notFound

def allows (directory : Directory) (request : Request) : Bool := directory.granted.contains request

def policy : Policy Directory where
  identify credential := Run.onState fun directory => (directory.identify credential, directory)
  authorize request := Run.onState fun directory => (.ok (directory.allows request), directory)

end Directory

end ChannelGate
