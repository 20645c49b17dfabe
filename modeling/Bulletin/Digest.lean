import Bulletin.Number.Hexadecimal
/-!
# SHA-256 fingerprints

The SHA-256 digest of a byte string, as lowercase hexadecimal text.
-/

namespace Bulletin.Digest

/-- The first 32 fraction bits of the cube roots of the first 64 primes. -/
def roundConstants : List UInt32 :=
  [0x428a2f98, 0x71374491, 0xb5c0fbcf, 0xe9b5dba5, 0x3956c25b, 0x59f111f1, 0x923f82a4, 0xab1c5ed5,
    0xd807aa98, 0x12835b01, 0x243185be, 0x550c7dc3, 0x72be5d74, 0x80deb1fe, 0x9bdc06a7, 0xc19bf174,
    0xe49b69c1, 0xefbe4786, 0x0fc19dc6, 0x240ca1cc, 0x2de92c6f, 0x4a7484aa, 0x5cb0a9dc, 0x76f988da,
    0x983e5152, 0xa831c66d, 0xb00327c8, 0xbf597fc7, 0xc6e00bf3, 0xd5a79147, 0x06ca6351, 0x14292967,
    0x27b70a85, 0x2e1b2138, 0x4d2c6dfc, 0x53380d13, 0x650a7354, 0x766a0abb, 0x81c2c92e, 0x92722c85,
    0xa2bfe8a1, 0xa81a664b, 0xc24b8b70, 0xc76c51a3, 0xd192e819, 0xd6990624, 0xf40e3585, 0x106aa070,
    0x19a4c116, 0x1e376c08, 0x2748774c, 0x34b0bcb5, 0x391c0cb3, 0x4ed8aa4a, 0x5b9cca4f, 0x682e6ff3,
    0x748f82ee, 0x78a5636f, 0x84c87814, 0x8cc70208, 0x90befffa, 0xa4506ceb, 0xbef9a3f7, 0xc67178f2]

/-- The eight words carried from block to block. -/
structure ChainState where
  a : UInt32
  b : UInt32
  c : UInt32
  d : UInt32
  e : UInt32
  f : UInt32
  g : UInt32
  h : UInt32
deriving DecidableEq, Repr

/-- The first 32 fraction bits of the square roots of the first eight primes. -/
def initialState : ChainState :=
  ⟨0x6a09e667, 0xbb67ae85, 0x3c6ef372, 0xa54ff53a, 0x510e527f, 0x9b05688c, 0x1f83d9ab, 0x5be0cd19⟩

def rotateRight (word : UInt32) (count : UInt32) : UInt32 :=
  (word >>> count) ||| (word <<< (32 - count))

/-- The message, a one bit, zeros up to a whole number of 64-byte blocks, and the bit length. -/
def pad (message : ByteArray) : ByteArray :=
  let zeros := (119 - message.size % 64) % 64
  let bits := 8 * message.size
  let length := (List.range 8).map fun i => UInt8.ofNat (bits / Nat.pow 2 (8 * (7 - i)))
  message ++ ⟨(0x80 :: (List.replicate zeros 0 ++ length)).toArray⟩

def byteAt (bytes : ByteArray) (index : Nat) : UInt32 :=
  if h : index < bytes.size then bytes[index].toUInt32 else 0

/-- The big-endian word that starts at `index`. -/
def wordAt (bytes : ByteArray) (index : Nat) : UInt32 :=
  (byteAt bytes index <<< 24) ||| (byteAt bytes (index + 1) <<< 16) |||
    (byteAt bytes (index + 2) <<< 8) ||| byteAt bytes (index + 3)

def extendSchedule (words : Array UInt32) : Array UInt32 :=
  let back (distance : Nat) : UInt32 := words.getD (words.size - distance) 0
  let small0 := rotateRight (back 15) 7 ^^^ rotateRight (back 15) 18 ^^^ (back 15 >>> 3)
  let small1 := rotateRight (back 2) 17 ^^^ rotateRight (back 2) 19 ^^^ (back 2 >>> 10)
  words.push (back 16 + small0 + back 7 + small1)

def schedule (bytes : ByteArray) (start : Nat) : Array UInt32 :=
  let input := ((List.range 16).map fun i => wordAt bytes (start + 4 * i)).toArray
  (List.range 48).foldl (fun words _ => extendSchedule words) input

def oneRound (s : ChainState) (constant word : UInt32) : ChainState :=
  let big1 := rotateRight s.e 6 ^^^ rotateRight s.e 11 ^^^ rotateRight s.e 25
  let choice := (s.e &&& s.f) ^^^ ((s.e ^^^ 0xffffffff) &&& s.g)
  let first := s.h + big1 + choice + constant + word
  let big0 := rotateRight s.a 2 ^^^ rotateRight s.a 13 ^^^ rotateRight s.a 22
  let majority := (s.a &&& s.b) ^^^ (s.a &&& s.c) ^^^ (s.b &&& s.c)
  ⟨first + (big0 + majority), s.a, s.b, s.c, s.d + first, s.e, s.f, s.g⟩

def compress (bytes : ByteArray) (state : ChainState) (block : Nat) : ChainState :=
  let words := (schedule bytes (64 * block)).toList
  let mixed := (roundConstants.zip words).foldl (fun s pair => oneRound s pair.1 pair.2) state
  ⟨state.a + mixed.a, state.b + mixed.b, state.c + mixed.c, state.d + mixed.d, state.e + mixed.e,
    state.f + mixed.f, state.g + mixed.g, state.h + mixed.h⟩

/-- The SHA-256 digest of a byte string, in 64 lowercase hexadecimal digits. -/
def sha256 (message : ByteArray) : String :=
  let bytes := pad message
  let final := (List.range (bytes.size / 64)).foldl (compress bytes) initialState
  String.ofList <|
    [final.a, final.b, final.c, final.d, final.e, final.f, final.g, final.h].flatMap fun word =>
      Number.hexDigits 8 word.toNat

example :
    sha256 "".toUTF8 = "e3b0c44298fc1c149afbf4c8996fb92427ae41e4649b934ca495991b7852b855" := by
  decide +kernel

def ofText (text : String) : String :=
  sha256 text.toUTF8

end Bulletin.Digest
