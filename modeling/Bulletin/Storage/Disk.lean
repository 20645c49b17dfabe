import Bulletin.Storage.Host
/-!
# Disks

A file system in memory: entries at locations below a root directory, in which the program runs, the
lookup of paths among them, and a host that works on it. Devices and pipes are left out: what is
written to a file stays there.
-/

namespace Bulletin

inductive FileContent where
  | text (content : String)
  /-- Bytes that are no UTF-8 text. -/
  | unreadable
deriving DecidableEq, Repr

inductive Entry where
  | directory
  | file (content : FileContent)
  /-- A symbolic link. A second name of a file is one too: no command can tell them apart. -/
  | link (path : RawText)
deriving DecidableEq, Repr

abbrev Location := List RawText

structure Disk where
  entries : List (Location × Entry)
deriving DecidableEq, Repr

namespace Disk

def empty : Disk := ⟨[]⟩

/-- The entry at a location; the root is a directory. -/
def entry? (disk : Disk) : Location → Option Entry
  | [] => some .directory
  | location => disk.entries.lookup location

def putEntry (location : Location) (entry : Entry) :
    List (Location × Entry) → List (Location × Entry)
  | [] => [(location, entry)]
  | head :: tail =>
      if head.1 = location then (location, entry) :: tail
      else head :: putEntry location entry tail

def put (disk : Disk) (location : Location) (entry : Entry) : Disk :=
  ⟨putEntry location entry disk.entries⟩

/-! ## Lookup -/

/-- Where a path leads, and whether it asks for a directory there. -/
structure Target where
  location : Location
  asDirectory : Bool
deriving DecidableEq, Repr

/-- The end of a way at a location where no directory is: nothing but slashes may be left. -/
def Target.ofEnd (location : Location) (rest : List RawText) (fault : FileFault) :
    Except FileFault Target :=
  if ∀ part ∈ rest, part = "" then .ok ⟨location, rest ≠ []⟩ else .error fault

/-- From a directory through the parts of a path, of which the last one need not be there. Where a
link stands, `follow` goes on with the parts behind it. -/
def walkParts (disk : Disk) (follow : Location → List RawText → Except FileFault Target) :
    Location → List RawText → Except FileFault Target
  | location, [] => .ok ⟨location, true⟩
  | location, part :: rest =>
      if part = "" ∨ part = "." then disk.walkParts follow location rest
      else if part = ".." then disk.walkParts follow location.dropLast rest
      else
        match disk.entry? (location ++ [part]) with
        | some .directory => disk.walkParts follow (location ++ [part]) rest
        | some (.link path) =>
            follow (if Path.isAbsolute path then [] else location) (Path.parts path ++ rest)
        | some (.file _) => Target.ofEnd (location ++ [part]) rest .notDirectory
        | none => Target.ofEnd (location ++ [part]) rest .notFound

def walk (disk : Disk) : (links : Nat) → Location → List RawText → Except FileFault Target
  | 0 => disk.walkParts fun _ _ => .error .tooManyLinks
  | links + 1 => disk.walkParts (disk.walk links)

/-- How many links are followed on the way to one file. -/
def maxLinks : Nat := 40

/-- Where a path leads; nothing need be there, but everything on the way to it. -/
def resolve (disk : Disk) (path : RawText) : Except FileFault Target :=
  if path = "" then .error .notFound
  else if 0 ∈ path.bytes then .error .zeroByte
  else disk.walk maxLinks [] (Path.parts path)

inductive Found where
  | directory
  | file (content : FileContent)
deriving DecidableEq, Repr

def find (disk : Disk) (path : RawText) : Except FileFault (Location × Found) := do
  let target ← disk.resolve path
  match disk.entry? target.location with
  | some (.file content) =>
      if target.asDirectory then .error .notDirectory
      else .ok (target.location, .file content)
  | some .directory => .ok (target.location, .directory)
  | _ => .error .notFound

def readText (disk : Disk) (path : RawText) : Except FileFault String := do
  match ← disk.find path with
  | (_, .file (.text content)) => .ok content
  | (_, .file .unreadable) => .error .notText
  | (_, .directory) => .error .isDirectory

/-- The disk after a text was written to a file, which is made where there is none. -/
def writeText (disk : Disk) (path : RawText) (text : String) : Except FileFault Disk := do
  let target ← disk.resolve path
  if target.asDirectory then .error .isDirectory
  else .ok (disk.put target.location (.file (.text text)))

def isDirectory (disk : Disk) (path : RawText) : Bool :=
  match disk.find path with
  | .ok (_, .directory) => true
  | _ => false

def pathExists (disk : Disk) (path : RawText) : Bool :=
  match disk.find path with
  | .ok _ => true
  | .error _ => false

def childNames (disk : Disk) (location : Location) : List RawText :=
  disk.entries.filterMap fun (other, _) =>
    match other.getLast? with
    | some name => if other = location ++ [name] then some name else none
    | none => none

def directoryNames (disk : Disk) (path : RawText) : Except FileFault (List RawText) := do
  match ← disk.find path with
  | (location, .directory) => .ok (disk.childNames location)
  | (_, .file _) => .error .notDirectory

/-- A link to a directory, one in it that leads to no file yet, and one that leads to itself. -/
def linked : Disk :=
  ⟨[(["d"], .directory), (["d", "new"], .link "../news.json"), (["way"], .link "d"),
    (["round"], .link "./round")]⟩

example :
    (linked.resolve "way/new").toOption = some ⟨["news.json"], false⟩ ∧
      (linked.resolve "round").toOption = none := by
  decide +kernel

end Disk

/-! ## The host of a disk -/

structure Machine where
  disk : Disk
  ids : IdSupply
  now : Timestamp

instance : Host (StateM Machine) where
  readText path machine := (machine.disk.readText path, machine)
  writeText path text machine :=
    match machine.disk.writeText path text with
    | .ok disk => (.ok (), { machine with disk })
    | .error fault => (.error fault, machine)
  pathExists path machine := (machine.disk.pathExists path, machine)
  isDirectory path machine := (machine.disk.isDirectory path, machine)
  directoryNames path machine := (machine.disk.directoryNames path, machine)
  draw fresh machine :=
    let (value, ids) := fresh machine.ids
    (value, { machine with ids })
  now machine := (machine.now, machine)

end Bulletin
