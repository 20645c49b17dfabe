import Bulletin.Text.Bytes
/-!
# Options

The options of a command line. An option has a name, written behind two hyphens, and may have a
letter, written behind one. Its value is the next argument, or stands in the same one, behind an
equals sign or right behind the letter.
-/

namespace Bulletin.Command

inductive OptionValue where
  | switch
  | text
  /-- Any bytes, but some. -/
  | path
deriving DecidableEq, Repr

structure OptionForm where
  name : String
  letter : Option Char
  value : OptionValue
deriving DecidableEq, Repr

inductive Refusal where
  | helpWanted
  | misused
deriving DecidableEq, Repr

/-! ## Arguments -/

inductive Argument where
  | word
  /-- The mark behind which nothing is an option. -/
  | endMark
  | named (name : RawText) (value : Option RawText)
  | lettered (letter : Char) (value : Option RawText)
deriving DecidableEq, Repr

namespace Argument

def hyphen : UInt8 := 0x2D

def equalsSign : UInt8 := 0x3D

def afterEquals? : List UInt8 → Option RawText
  | byte :: value => if byte = equalsSign then some ⟨value⟩ else none
  | [] => none

def attached? (behind : List UInt8) : Option RawText :=
  if behind = [] then none else some ((afterEquals? behind).getD ⟨behind⟩)

/-- What stands behind the first hyphen of an argument. -/
def ofTail : List UInt8 → Argument
  | [] => .word
  | byte :: rest =>
      if byte ≠ hyphen then .lettered (Char.ofUInt8 byte) (attached? rest)
      else if rest = [] then .endMark
      else
        let (name, value) := rest.span (· ≠ equalsSign)
        .named ⟨name⟩ (afterEquals? value)

def ofRaw (argument : RawText) : Argument :=
  match argument.bytes with
  | byte :: rest => if byte = hyphen then ofTail rest else .word
  | [] => .word

example : ofRaw "--name=a=b" = .named "name" (some "a=b") := by decide +kernel
example : ofRaw "-ofile" = .lettered 'o' (some "file") := by decide +kernel
example : ofRaw "-" = .word := by decide +kernel

end Argument

/-! ## Reading options -/

structure Given where
  values : List (String × RawText)
deriving DecidableEq, Repr

namespace Given

def empty : Given := ⟨[]⟩

def value? (given : Given) (name : String) : Option RawText :=
  given.values.lookup name

def text? (given : Given) (name : String) : Option String :=
  (given.value? name).bind RawText.text?

def has (given : Given) (name : String) : Bool :=
  (given.value? name).isSome

/-- Takes one more option, which may come only once. -/
def take (given : Given) (form : OptionForm) (value : RawText) : Except Refusal Given :=
  if given.has form.name || (form.value = .path && value = "") ||
      (form.value = .text && value.text?.isNone) then
    .error .misused
  else .ok ⟨(form.name, value) :: given.values⟩

end Given

def helpName : String := "help"

def helpLetter : Char := 'h'

def formOf (options : List OptionForm) : Argument → Except Refusal OptionForm
  | .named name value? =>
      match options.find? fun form => .ofText form.name = name with
      | some form => .ok form
      | none => .error (if name = helpName ∧ value? = none then .helpWanted else .misused)
  | .lettered letter _ =>
      match options.find? fun form => form.letter = some letter with
      | some form => .ok form
      | none => .error (if letter = helpLetter then .helpWanted else .misused)
  | _ => .error .misused

def Argument.value? : Argument → Option RawText
  | .named _ value? => value?
  | .lettered _ value? => value?
  | _ => none

/-- Reads options up to the first argument that is none; gives them and what follows. -/
def readOptions (options : List OptionForm) :
    Given → List RawText → Except Refusal (Given × List RawText)
  | given, [] => .ok (given, [])
  | given, raw :: rest =>
      let argument := Argument.ofRaw raw
      if argument = .word ∨ argument = .endMark then .ok (given, raw :: rest)
      else do
        let form ← formOf options argument
        match form.value, argument.value? with
        | .switch, none => readOptions options (← given.take form "") rest
        | .switch, some _ => .error .misused
        | _, some value => readOptions options (← given.take form value) rest
        | _, none =>
            match rest with
            | [] => .error .misused
            | value :: rest =>
                if Argument.ofRaw value = .word then
                  readOptions options (← given.take form value) rest
                else .error .misused

end Bulletin.Command
