import Bulletin.Command.Run
import Std.Time.DateTime.Timestamp
/-!
# The command line

The machine that the program runs on as a host, and the entry point.
-/

namespace Bulletin

abbrev Console := StateT IdSupply IO

namespace Console

def notDirectoryCode : UInt32 := 20

def isDirectoryCode : UInt32 := 21

def tooManyLinksCode : UInt32 := 40

/-- Faults are numbered with either sign. -/
def hasCode (code number : UInt32) : Bool :=
  number = code || 0 - number = code

def faultOf : IO.Error → FileFault
  | .noFileOrDirectory .. => .notFound
  | .inappropriateType _ number details =>
      if hasCode notDirectoryCode number then .notDirectory
      else if hasCode isDirectoryCode number then .isDirectory
      else .other details
  | .invalidArgument _ number details =>
      if hasCode tooManyLinksCode number then .tooManyLinks else .other details
  | error => .other error.toString

/-- The result of an action on a file, or its fault. Only a path that is text can be named here. -/
def attempt (path : RawText) (action : String → IO α) : Console (Except FileFault α) := do
  match path.text? with
  | none => return .error (.other "no text")
  | some text =>
      match ← ((action text).toBaseIO : IO _) with
      | .ok value => return .ok value
      | .error error => return .error (faultOf error)

instance : Host Console where
  readText path := do
    match ← attempt path fun text => IO.FS.readBinFile text with
    | .ok bytes =>
        match String.fromUTF8? bytes with
        | some text => return .ok text
        | none => return .error .notText
    | .error fault => return .error fault
  writeText path content := attempt path fun text => IO.FS.writeFile text content
  pathExists path := do
    return (← attempt path fun text => IO.FS.realPath text).toBool
  isDirectory path := do
    return (← attempt path fun text => do (← IO.FS.realPath text).isDir).toOption.getD false
  directoryNames path := attempt path fun text => do
    return ((← (← IO.FS.realPath text).readDir).map fun entry => .ofText entry.fileName).toList
  draw computation := modifyGet computation
  now := do
    let elapsed := (← (Std.Time.Timestamp.now : IO _)).toNanosecondsSinceUnixEpoch.toInt.toNat
    return .afterEpoch (elapsed / 1000000000) (elapsed % 1000000000)

def usage : String :=
  let commands := Command.forms.map Command.Form.name
  let actions := LibraryAction.forms.map Command.Form.name
  "usage: bulletin [--" ++ Invocation.presetsOption.name ++ " DIRECTORY] COMMAND [OPTIONS]\n" ++
    "commands: " ++ String.intercalate ", " commands ++ ", " ++ Command.libraryName ++ "\n" ++
    Command.libraryName ++ " commands: " ++ String.intercalate ", " actions

def serve (arguments : List String) : IO UInt32 := do
  let supply := IdSupply.ofSeed (Digest.sha256 (← IO.getRandomBytes 32))
  let (outcome, _) ←
    (runArguments (arguments.map RawText.ofText) : Console Outcome).run supply
  if outcome.answer.isNone then IO.eprintln usage
  IO.print outcome.text
  return UInt32.ofNat outcome.code.value

end Console

end Bulletin

def main (arguments : List String) : IO UInt32 :=
  Bulletin.Console.serve arguments
