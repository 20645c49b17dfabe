import Bulletin.Json.Fault
/-!
# Scanning JSON text

A cursor is what is left of a text and the number of bytes before it. Every scanner takes a cursor
and gives what it read with the cursor behind it, or a fault.

A fault found by looking ahead lies at the byte looked at, or at the end of the text; a fault found
in what was read lies behind the last byte read. A `pending` fault is one of meaning, not of
syntax: its place is settled when the bracket around it is closed.
-/

namespace Bulletin.Json

structure Cursor where
  rest : List Char
  offset : Nat
deriving DecidableEq, Repr

inductive Fault where
  | placed (cause : Cause) (offset : Nat)
  | pending (cause : Cause) (cursor : Cursor)
deriving DecidableEq, Repr

namespace Cursor

def aheadFault (cursor : Cursor) (cause : Cause) : Fault :=
  match cursor.rest with
  | [] => .placed cause cursor.offset
  | _ :: _ => .placed cause (cursor.offset + 1)

def fault (cursor : Cursor) (cause : Cause) (more : Nat) : Fault :=
  .placed cause (cursor.offset + more)

def next (cursor : Cursor) (rest : List Char) : Cursor :=
  ⟨rest, cursor.offset + 1⟩

end Cursor

def isSpace (c : Char) : Bool :=
  c = ' ' || c = '\n' || c = '\t' || c = '\r'

def skipSpaces : (rest : List Char) → (offset : Nat) → Cursor
  | [], offset => ⟨[], offset⟩
  | c :: rest, offset => if isSpace c then skipSpaces rest (offset + 1) else ⟨c :: rest, offset⟩

def Cursor.skipSpaces (cursor : Cursor) : Cursor :=
  Json.skipSpaces cursor.rest cursor.offset

def expectLetters : List Char → Cursor → Except Fault Cursor
  | [], cursor => .ok cursor
  | letter :: letters, cursor =>
      match cursor.rest with
      | [] => .error (cursor.fault .endBeforeValue 0)
      | c :: rest =>
          if c = letter then expectLetters letters (cursor.next rest)
          else .error (cursor.fault .expectedWord 1)

end Bulletin.Json
