set_option autoImplicit false

namespace ChannelGate

/-- A file with its content, or with the reason why it cannot be opened. -/
inductive DiskFile where
  | readable (content : List UInt8)
  | unreadable (reason : String)
  deriving DecidableEq

/-- What stands in a directory under a name. A directory goes by its place, the names that lead to
it from the root; a link is what it leads to. -/
inductive DiskEntry where
  | file (file : DiskFile)
  | directory (place : List String)
  deriving DecidableEq

/-- The entries of the directories, by place and name, and the working directory. -/
structure Disk where
  entry? : List String → String → Option DiskEntry
  home : List String

namespace Disk

def names (path : String) : List String := (path.toList.splitOn '/').map String.ofList

/-- Goes along names. An empty name and a dot stay in a directory, two dots go to the one above it,
and nothing leads on from a file. -/
def follow (disk : Disk) : DiskEntry → List String → Option DiskEntry
  | stop, [] => some stop
  | .file _, _ :: _ => none
  | .directory place, name :: rest =>
    if name = "" ∨ name = "." then disk.follow (.directory place) rest
    else if name = ".." then disk.follow (.directory place.dropLast) rest
    else
      match disk.entry? place name with
      | some entry => disk.follow entry rest
      | none => none

def origin (disk : Disk) (path : String) : List String :=
  if path.toList.head? = some '/' then [] else disk.home

/-- What a path leads to. An empty path leads nowhere, and neither does one with a zero in it. -/
def find? (disk : Disk) (path : String) : Option DiskEntry :=
  if path = "" ∨ path.toList.contains '\x00' then none
  else disk.follow (.directory (disk.origin path)) (names path)

/-- The file with a name that is found first on the way from a place up to the root; `up` is the
place with its last name first. -/
def nearestFile? (disk : Disk) (name : String) (up : List String) : Option DiskFile :=
  match disk.entry? up.reverse name, up with
  | some (.file file), _ => some file
  | _, _ :: up => disk.nearestFile? name up
  | _, [] => none

def empty : Disk where
  entry? place name := if place = [] ∧ name = "work" then some (.directory ["work"]) else none
  home := ["work"]

/-- The names of a path that lead somewhere else. -/
def properNames (path : String) : List String :=
  (names path).filter fun name => name ≠ "" ∧ name ≠ "."

/-- Puts something at a path below the working directory, and the directories that it lies in. -/
def put (disk : Disk) (path : String) (entry : List String → DiskEntry) : Disk :=
  let goal := disk.home ++ properNames path
  { disk with
    entry? := fun place name =>
      let spot := place ++ [name]
      if spot = goal then some (entry goal)
      else if spot.isPrefixOf goal then some (.directory spot)
      else disk.entry? place name }

def addFile (disk : Disk) (path : String) (content : List UInt8) : Disk :=
  disk.put path fun _ => .file (.readable content)

def addDirectory (disk : Disk) (path : String) : Disk := disk.put path .directory

end Disk

end ChannelGate
