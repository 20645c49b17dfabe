import Bulletin.Json.Writer
import Bulletin.Text.Quoted
/-!
# Faults in JSON text

What can be wrong with a JSON text, or with a JSON value that should describe something else, and
the messages for it. A fault found in a text has a position there, counted in bytes.
-/

namespace Bulletin.Json

inductive Found where
  | null
  | boolean (value : Bool)
  | number (value : Json.Number)
  | text (value : String)
  | sequence
  | map
deriving DecidableEq, Repr

def found : Json → Found
  | .null => .null
  | .boolean value => .boolean value
  | .number value => .number value
  | .text value => .text value
  | .array _ => .sequence
  | .object _ => .map

inductive Cause where
  | endInArray
  | endInObject
  | endInString
  | endBeforeValue
  | expectedColon
  | expectedItemEnd
  | expectedMemberEnd
  | expectedWord
  | expectedValue
  | invalidEscape
  | invalidNumber
  | numberOutOfRange
  | controlCharacter
  | keyNotString
  | loneSurrogate
  | unfinishedSurrogatePair
  | trailingComma
  | trailingCharacters
  | tooDeep
  | wrongType (found : Found) (expected : String)
  | wrongLength (length : Nat) (expected : String)
  | unknownVariant (name : String) (known : List String)
  | missingField (name : String)
  | duplicateField (name : String)
deriving DecidableEq, Repr

namespace Found

def describe : Found → String
  | .null => "null"
  | .boolean true => "boolean `true`"
  | .boolean false => "boolean `false`"
  | .number (.integer value) =>
      "integer `" ++ String.ofList (numberText (.integer value)) ++ "`"
  | .number (.real negative magnitude) =>
      "floating point `" ++ String.ofList (realText negative magnitude) ++ "`"
  | .text value => "string " ++ Text.quote value
  | .sequence => "sequence"
  | .map => "map"

end Found

namespace Cause

def message : Cause → String
  | .endInArray => "EOF while parsing a list"
  | .endInObject => "EOF while parsing an object"
  | .endInString => "EOF while parsing a string"
  | .endBeforeValue => "EOF while parsing a value"
  | .expectedColon => "expected `:`"
  | .expectedItemEnd => "expected `,` or `]`"
  | .expectedMemberEnd => "expected `,` or `\x7d`"
  | .expectedWord => "expected ident"
  | .expectedValue => "expected value"
  | .invalidEscape => "invalid escape"
  | .invalidNumber => "invalid number"
  | .numberOutOfRange => "number out of range"
  | .controlCharacter =>
      "control character (\\u0000-\\u001F) found while parsing a string"
  | .keyNotString => "key must be a string"
  | .loneSurrogate => "lone leading surrogate in hex escape"
  | .unfinishedSurrogatePair => "unexpected end of hex escape"
  | .trailingComma => "trailing comma"
  | .trailingCharacters => "trailing characters"
  | .tooDeep => "recursion limit exceeded"
  | .wrongType found expected => "invalid type: " ++ found.describe ++ ", expected " ++ expected
  | .wrongLength length expected =>
      "invalid length " ++ Number.naturalText length ++ ", expected " ++ expected
  | .unknownVariant name known =>
      "unknown variant `" ++ name ++ "`, expected one of " ++
        String.intercalate ", " (known.map fun other => "`" ++ other ++ "`")
  | .missingField name => "missing field `" ++ name ++ "`"
  | .duplicateField name => "duplicate field `" ++ name ++ "`"

end Cause

/-- A place in a text: lines count from one, columns are bytes behind the last line break. -/
structure Position where
  line : Nat
  column : Nat
deriving DecidableEq, Repr

namespace Position

def advance : List Char → (count : Nat) → Position → Position
  | [], _, position => position
  | c :: rest, count, position =>
      if count = 0 then position
      else if c = '\n' then advance rest (count - 1) ⟨position.line + 1, 0⟩
      else
        advance rest (count - c.utf8Size)
          ⟨position.line, position.column + min c.utf8Size count⟩

def ofOffset (chars : List Char) (offset : Nat) : Position :=
  advance chars offset ⟨1, 0⟩

end Position

/-- A fault as it is reported; one found in a value that is no longer text has no position. -/
structure ReadError where
  cause : Cause
  position : Option Position
deriving DecidableEq, Repr

namespace ReadError

def message (error : ReadError) : String :=
  match error.position with
  | some position =>
      error.cause.message ++ " at line " ++ Number.naturalText position.line ++ " column " ++
        Number.naturalText position.column
  | none => error.cause.message

end ReadError

end Bulletin.Json
