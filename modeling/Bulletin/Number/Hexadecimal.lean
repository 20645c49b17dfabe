/-!
# Hexadecimal numbers

Fixed runs of lowercase digits for writing, single digits of either case for reading, and words,
which are numbers of a fixed count of bits. What the bits of a word cannot hold is a fault; it does
not wrap around.
-/

namespace Bulletin.Number

/-- `count` lowercase hexadecimal digits of a number, the most significant first. -/
def hexDigits : (count : Nat) → (value : Nat) → List Char
  | 0, _ => []
  | count + 1, value => hexDigits count (value / 16) ++ [Nat.digitChar (value % 16)]

def hexValue? (c : Char) : Option (Fin 16) :=
  if '0' ≤ c ∧ c ≤ '9' then some (Fin.ofNat 16 (c.toNat - '0'.toNat))
  else if 'a' ≤ c ∧ c ≤ 'f' then some (Fin.ofNat 16 (c.toNat - 'a'.toNat + 10))
  else if 'A' ≤ c ∧ c ≤ 'F' then some (Fin.ofNat 16 (c.toNat - 'A'.toNat + 10))
  else none

example : hexDigits 4 0x1f = ['0', '0', '1', 'f'] := by decide
example : (hexValue? 'F').map Fin.val = some 15 ∧ hexValue? 'g' = none := by decide

/-! ## Words -/

inductive WordFault where
  | noDigits
  | notDigit
  | overflow
deriving DecidableEq, Repr

def isHexByte (byte : UInt8) : Bool :=
  (0x30 ≤ byte && byte ≤ 0x39) || (0x41 ≤ byte && byte ≤ 0x46) || (0x61 ≤ byte && byte ≤ 0x66)

/-- The value of the character with the code of a byte. -/
def hexByteValue? (byte : UInt8) : Option (Fin 16) :=
  hexValue? (Char.ofUInt8 byte)

namespace Word

def plus (word other : BitVec width) : Except WordFault (BitVec width) :=
  if word.uaddOverflow other then .error .overflow else .ok (word + other)

def times (word factor : BitVec width) : Except WordFault (BitVec width) :=
  if word.umulOverflow factor then .error .overflow else .ok (word * factor)

def readDigits (word : BitVec width) : List UInt8 → Except WordFault (BitVec width)
  | [] => .ok word
  | byte :: rest =>
      match hexByteValue? byte with
      | none => .error .notDigit
      | some digit => do
          let shifted ← times word 16
          let next ← plus shifted (BitVec.ofNat width digit.val)
          readDigits next rest

/-- The word that hexadecimal digits spell, behind one optional plus sign. -/
def ofHex (width : Nat) : List UInt8 → Except WordFault (BitVec width)
  | [] => .error .noDigits
  | [0x2B] => .error .notDigit
  | 0x2B :: digits => readDigits 0 digits
  | digits => readDigits 0 digits

end Word

example : Word.ofHex 16 [0x2B, 0x66, 0x41, 0x30] = .ok 0xFA0 := by rfl
example : Word.ofHex 16 [0x31, 0x30, 0x30, 0x30, 0x30] = .error .overflow := by rfl

end Bulletin.Number
