import Bulletin.Failure
import Bulletin.Identity
import Bulletin.Time.Timestamp
/-!
# Paths and the host

What the program asks of the machine it runs on: files, new ids and the time. Everything that uses
files is written for any host, so that it runs on a real machine and on a `Disk` in memory. Files
are named by paths, which are written with slashes between their steps.
-/

namespace Bulletin

/-! ## Paths -/

namespace Path

def slash : UInt8 := 0x2F

def point : UInt8 := 0x2E

def splitBytes : List UInt8 → List (List UInt8)
  | [] => [[]]
  | byte :: rest =>
      if byte = slash then [] :: splitBytes rest
      else
        match splitBytes rest with
        | [] => [[byte]]
        | part :: parts => (byte :: part) :: parts

def parts (path : RawText) : List RawText :=
  (splitBytes path.bytes).map RawText.mk

def isAbsolute (path : RawText) : Bool :=
  path.bytes.head? = some slash

def join (directory name : RawText) : RawText :=
  match directory.bytes.getLast? with
  | none => name
  | some byte =>
      if byte = slash then ⟨directory.bytes ++ name.bytes⟩
      else ⟨directory.bytes ++ slash :: name.bytes⟩

/-- What follows the last point of a name, if anything stands before that point. -/
def extension? (name : RawText) : Option RawText :=
  let reversed := name.bytes.reverse
  match reversed.dropWhile (· ≠ point) with
  | _ :: _ :: _ => some ⟨(reversed.takeWhile (· ≠ point)).reverse⟩
  | _ => none

example : parts "a//b/" = ["a", "", "b", ""].map RawText.ofText := by decide +kernel
example : extension? ".json" = none ∧ extension? "a.b.json" = some "json" := by decide +kernel

end Path

/-! ## Hosts -/

class Host (m : Type → Type) extends Monad m where
  readText : RawText → m (Except FileFault String)
  writeText : (path : RawText) → (text : String) → m (Except FileFault Unit)
  pathExists : RawText → m Bool
  isDirectory : RawText → m Bool
  /-- The names in a directory, in any order. -/
  directoryNames : RawText → m (Except FileFault (List RawText))
  draw : Fresh α → m α
  now : m Timestamp

abbrev Task (m : Type → Type) := ExceptT Failure m

namespace Task

variable {m : Type → Type} [Host m]

def atPath (path : RawText) (answer : m (Except FileFault α)) : Task m α := do
  match ← (answer : m _) with
  | .ok value => return value
  | .error fault => throw (.file path fault)

def readText (path : RawText) : Task m String :=
  atPath path (Host.readText path)

def writeText (path : RawText) (text : String) : Task m Unit :=
  atPath path (Host.writeText path text)

def draw (computation : Fresh (Except Failure α)) : Task m α :=
  ExceptT.mk (Host.draw computation)

end Task

end Bulletin
