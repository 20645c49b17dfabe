import Bulletin.Json.Basic
import Bulletin.Number.Hexadecimal
/-!
# Writing JSON

The two layouts of JSON text: compact, without any blank, and pretty, with one member or item a
line and two blanks of indentation a level.
-/

namespace Bulletin.Json

/-- One character inside a string. Only the quote, the backslash and control characters are
escaped. -/
def charText (c : Char) : List Char :=
  if c = '"' then ['\\', '"']
  else if c = '\\' then ['\\', '\\']
  else if c = '\n' then ['\\', 'n']
  else if c = '\r' then ['\\', 'r']
  else if c = '\t' then ['\\', 't']
  else if c = '\x08' then ['\\', 'b']
  else if c = '\x0c' then ['\\', 'f']
  else if c.toNat < 0x20 then '\\' :: 'u' :: Number.hexDigits 4 c.toNat
  else [c]

def stringText (value : String) : List Char :=
  '"' :: value.toList.flatMap charText ++ ['"']

/-- A real number: the shortest decimal that reads back. -/
def realText (negative : Bool) (magnitude : Number.Dyadic) : List Char :=
  (if negative then ['-'] else []) ++
    Number.jsonStyle.write (Number.shortest Number.binary64 .even magnitude)

def numberText : Json.Number → List Char
  | .integer value =>
      (if value < 0 then ['-'] else []) ++ Number.digitChars value.natAbs
  | .real negative magnitude => realText negative magnitude

mutual
def compactChars : Json → List Char
  | .null => ['n', 'u', 'l', 'l']
  | .boolean true => ['t', 'r', 'u', 'e']
  | .boolean false => ['f', 'a', 'l', 's', 'e']
  | .number value => numberText value
  | .text value => stringText value
  | .array .nil => ['[', ']']
  | .array (.cons head tail) => '[' :: compactChars head ++ compactItems tail
  | .object .nil => ['{', '}']
  | .object (.cons key value tail) =>
      '{' :: stringText key ++ ':' :: compactChars value ++ compactMembers tail

/-- The items behind the first one, and the closing bracket. -/
def compactItems : Json.Items → List Char
  | .nil => [']']
  | .cons head tail => ',' :: compactChars head ++ compactItems tail

def compactMembers : Json.Members → List Char
  | .nil => ['}']
  | .cons key value tail =>
      ',' :: stringText key ++ ':' :: compactChars value ++ compactMembers tail
end

def newLine (level : Nat) : List Char :=
  '\n' :: List.replicate (2 * level) ' '

mutual
def prettyChars (level : Nat) : Json → List Char
  | .null => ['n', 'u', 'l', 'l']
  | .boolean true => ['t', 'r', 'u', 'e']
  | .boolean false => ['f', 'a', 'l', 's', 'e']
  | .number value => numberText value
  | .text value => stringText value
  | .array .nil => ['[', ']']
  | .array (.cons head tail) =>
      '[' :: newLine (level + 1) ++ prettyChars (level + 1) head ++ prettyItems level tail
  | .object .nil => ['{', '}']
  | .object (.cons key value tail) =>
      '{' :: newLine (level + 1) ++ stringText key ++ ':' :: ' ' ::
        prettyChars (level + 1) value ++ prettyMembers level tail

def prettyItems (level : Nat) : Json.Items → List Char
  | .nil => newLine level ++ [']']
  | .cons head tail =>
      ',' :: newLine (level + 1) ++ prettyChars (level + 1) head ++ prettyItems level tail

def prettyMembers (level : Nat) : Json.Members → List Char
  | .nil => newLine level ++ ['}']
  | .cons key value tail =>
      ',' :: newLine (level + 1) ++ stringText key ++ ':' :: ' ' ::
        prettyChars (level + 1) value ++ prettyMembers level tail
end

def compact (value : Json) : String :=
  String.ofList (compactChars value)

def pretty (value : Json) : String :=
  String.ofList (prettyChars 0 value)

example : compact (record [("a", list [count 1, .null]), ("b", .text "\n\x01")]) =
    "\x7b\"a\":[1,null],\"b\":\"\\n\\u0001\"\x7d" := by decide +kernel

end Bulletin.Json
