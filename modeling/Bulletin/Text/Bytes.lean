/-!
# Bytes of a text

Offsets into a text count the bytes of its UTF-8 form. An offset may fall inside a character, and a
text cannot be cut there. What the machine hands over as names, paths and arguments are bytes that
need not be the UTF-8 form of any text.
-/

namespace Bulletin

namespace Text

def bytes (text : String) : List UInt8 :=
  text.toUTF8.data.toList

def byteCount : List Char → Nat
  | [] => 0
  | c :: rest => c.utf8Size + byteCount rest

/-- What stands from byte `start` on; nothing where no character starts or ends there. -/
def fromByte? : (chars : List Char) → (start : Nat) → Option (List Char)
  | chars, 0 => some chars
  | [], _ + 1 => none
  | c :: rest, start + 1 =>
      if c.utf8Size ≤ start + 1 then fromByte? rest (start + 1 - c.utf8Size) else none

def findByte? (sought : List Char) : List Char → Option Nat
  | [] => if sought = [] then some 0 else none
  | c :: rest =>
      if sought.isPrefixOf (c :: rest) then some 0
      else (findByte? sought rest).map (c.utf8Size + ·)

example : fromByte? ['é', 'a'] 1 = none ∧ fromByte? ['é', 'a'] 2 = some ['a'] := by decide +kernel

end Text

/-! ## Raw text -/

/-- A name, a path or an argument, as the machine has it. -/
structure RawText where
  bytes : List UInt8
deriving DecidableEq, Repr

namespace RawText

def ofText (text : String) : RawText := ⟨Text.bytes text⟩

instance : Coe String RawText := ⟨ofText⟩

instance : LT RawText := ⟨fun raw other => raw.bytes < other.bytes⟩

instance : LE RawText := ⟨fun raw other => raw.bytes ≤ other.bytes⟩

instance (raw other : RawText) : Decidable (raw < other) :=
  inferInstanceAs (Decidable (raw.bytes < other.bytes))

instance (raw other : RawText) : Decidable (raw ≤ other) :=
  inferInstanceAs (Decidable (raw.bytes ≤ other.bytes))

def text? (raw : RawText) : Option String :=
  String.fromUTF8? ⟨raw.bytes.toArray⟩

/-- The least and the greatest byte that can stand at each place behind the first byte of a
character. A byte that starts no character, or that is one by itself, has none behind it. -/
def tailRanges (lead : UInt8) : List (UInt8 × UInt8) :=
  let further : UInt8 × UInt8 := (0x80, 0xBF)
  if 0xC2 ≤ lead && lead ≤ 0xDF then [further]
  else if lead = 0xE0 then [(0xA0, 0xBF), further]
  else if lead = 0xED then [(0x80, 0x9F), further]
  else if 0xE1 ≤ lead && lead ≤ 0xEF then [further, further]
  else if lead = 0xF0 then [(0x90, 0xBF), further, further]
  else if 0xF1 ≤ lead && lead ≤ 0xF3 then [further, further, further]
  else if lead = 0xF4 then [(0x80, 0x8F), further, further]
  else []

def countInRanges : List (UInt8 × UInt8) → List UInt8 → Nat
  | (least, greatest) :: ranges, byte :: rest =>
      if least ≤ byte && byte ≤ greatest then countInRanges ranges rest + 1 else 0
  | _, _ => 0

/-- The characters of some bytes, of which the first `skip` were dealt with. Bytes that start like
a character and are none are shown as one replacement character. -/
def shownChars : (skip : Nat) → List UInt8 → List Char
  | _, [] => []
  | skip + 1, _ :: rest => shownChars skip rest
  | 0, lead :: rest =>
      let tail := rest.take (countInRanges (tailRanges lead) rest)
      ((text? ⟨lead :: tail⟩).getD "\uFFFD").toList ++ shownChars tail.length rest

def shown (raw : RawText) : String :=
  raw.text?.getD (String.ofList (shownChars 0 raw.bytes))

example : text? "café" = some "café" ∧ text? ⟨[0x63, 0xE9]⟩ = none := by decide +kernel
example : shown ⟨[0xF0, 0x9F, 0x98, 0x61, 0xE9]⟩ = "\uFFFDa\uFFFD" := by decide +kernel

end RawText

end Bulletin
