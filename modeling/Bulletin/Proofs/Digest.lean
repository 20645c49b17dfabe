import Bulletin.Digest
import Mathlib.Data.List.Induction
import Mathlib.Data.Nat.NthRoot.Defs
/-!
# The SHA-256 digest

The digest of a message as a specification: the constants are bits of roots of primes, a padded
message is any that fits, and every word that is mixed in follows from four earlier ones. Each
message has one digest, and that is the one which is computed.
-/

namespace Bulletin.Sha256

/-! ## Specification -/

abbrev Word := BitVec 32

def primes : List Nat :=
  [2, 3, 5, 7, 11, 13, 17, 19, 23, 29, 31, 37, 41, 43, 47, 53, 59, 61, 67, 71, 73, 79, 83, 89, 97,
    101, 103, 107, 109, 113, 127, 131, 137, 139, 149, 151, 157, 163, 167, 173, 179, 181, 191, 193,
    197, 199, 211, 223, 227, 229, 233, 239, 241, 251, 257, 263, 269, 271, 277, 281, 283, 293, 307,
    311]

/-- The first 32 bits behind the point of a root. -/
def rootBits (degree value : Nat) : Word :=
  BitVec.ofNat 32 (Nat.nthRoot degree (value * Nat.pow 2 (32 * degree)))

def choose (x y z : Word) : Word := (x &&& y) ^^^ (~~~x &&& z)

def majority (x y z : Word) : Word := (x &&& y) ^^^ (x &&& z) ^^^ (y &&& z)

def bigSigma0 (x : Word) : Word := x.rotateRight 2 ^^^ x.rotateRight 13 ^^^ x.rotateRight 22

def bigSigma1 (x : Word) : Word := x.rotateRight 6 ^^^ x.rotateRight 11 ^^^ x.rotateRight 25

def smallSigma0 (x : Word) : Word := x.rotateRight 7 ^^^ x.rotateRight 18 ^^^ x >>> 3

def smallSigma1 (x : Word) : Word := x.rotateRight 17 ^^^ x.rotateRight 19 ^^^ x >>> 10

def bigEndian (bytes : List UInt8) : Nat :=
  bytes.foldl (fun value byte => 256 * value + byte.toNat) 0

def scheduled (block : List UInt8) (index : Nat) : Word :=
  if index < 16 then BitVec.ofNat 32 (bigEndian ((block.drop (4 * index)).take 4))
  else
    scheduled block (index - 16) + smallSigma0 (scheduled block (index - 15)) +
      scheduled block (index - 7) + smallSigma1 (scheduled block (index - 2))

structure Registers where
  a : Word
  b : Word
  c : Word
  d : Word
  e : Word
  f : Word
  g : Word
  h : Word
deriving DecidableEq

namespace Registers

def ofWords (word : Nat → Word) : Registers :=
  ⟨word 0, word 1, word 2, word 3, word 4, word 5, word 6, word 7⟩

def start : Registers :=
  ofWords fun index => rootBits 2 (primes.getD index 0)

def mix (r : Registers) (constant word : Word) : Registers :=
  let first := r.h + bigSigma1 r.e + choose r.e r.f r.g + constant + word
  let second := bigSigma0 r.a + majority r.a r.b r.c
  ⟨first + second, r.a, r.b, r.c, r.d + first, r.e, r.f, r.g⟩

def absorb (r : Registers) (block : List UInt8) : Registers :=
  let words := (List.range 64).map (scheduled block)
  let mixed := ((primes.map (rootBits 3)).zip words).foldl (fun r pair => r.mix pair.1 pair.2) r
  ⟨r.a + mixed.a, r.b + mixed.b, r.c + mixed.c, r.d + mixed.d, r.e + mixed.e, r.f + mixed.f,
    r.g + mixed.g, r.h + mixed.h⟩

def text (r : Registers) : String :=
  String.ofList <| [r.a, r.b, r.c, r.d, r.e, r.f, r.g, r.h].flatMap fun word =>
    (List.range 8).map fun place => (word.toNat / Nat.pow 16 (7 - place) % 16).digitChar

end Registers

/-- A message, a one bit, as few zero bits as make whole blocks of 64 bytes, and the length of the
message in bits. -/
def IsPadded (message padded : List UInt8) : Prop :=
  ∃ zeros length, padded = message ++ 0x80 :: (List.replicate zeros 0 ++ length) ∧
    zeros < 64 ∧ length.length = 8 ∧ bigEndian length = 8 * message.length % Nat.pow 2 64 ∧
    padded.length % 64 = 0

def blocks (padded : List UInt8) : List (List UInt8) :=
  (List.range (padded.length / 64)).map fun index => (padded.drop (64 * index)).take 64

def IsDigest (message : List UInt8) (text : String) : Prop :=
  ∃ padded, IsPadded message padded ∧
    text = ((blocks padded).foldl Registers.absorb Registers.start).text

/-! ## Numbers in bytes -/

theorem bigEndian_concat (bytes : List UInt8) (last : UInt8) :
    bigEndian (bytes ++ [last]) = 256 * bigEndian bytes + last.toNat := by
  rw [bigEndian, List.foldl_append]
  rfl

theorem eq_of_bigEndian_eq {bytes others : List UInt8} (sameLength : bytes.length = others.length)
    (same : bigEndian bytes = bigEndian others) : bytes = others := by
  induction bytes using List.reverseRecOn generalizing others with
  | nil => exact (List.eq_nil_of_length_eq_zero sameLength.symm).symm
  | append_singleton bytes last induction =>
      induction others using List.reverseRecOn with
      | nil => simp at sameLength
      | append_singleton others otherLast _ =>
          rw [bigEndian_concat, bigEndian_concat] at same
          have low := last.toNat_lt
          have otherLow := otherLast.toNat_lt
          rw [List.length_append, List.length_append] at sameLength
          -- The last byte is the remainder of the number by 256.
          have sameLast : last = otherLast := UInt8.toNat_inj.mp (by omega)
          rw [induction (Nat.add_right_cancel sameLength) (by omega), sameLast]

theorem bigEndian_map_range (count number : Nat) :
    bigEndian ((List.range count).map fun index =>
        UInt8.ofNat (number / Nat.pow 2 (8 * (count - 1 - index)))) =
      number % Nat.pow 2 (8 * count) := by
  induction count generalizing number with
  | zero => simp [bigEndian, Nat.mod_one]
  | succ count induction =>
      have earlier : ∀ index ∈ List.range count,
          UInt8.ofNat (number / Nat.pow 2 (8 * (count + 1 - 1 - index))) =
            UInt8.ofNat (number / 256 / Nat.pow 2 (8 * (count - 1 - index))) := by
        intro index isEarlier
        have distance : 8 * (count + 1 - 1 - index) = 8 + 8 * (count - 1 - index) := by
          have := List.mem_range.mp isEarlier
          omega
        rw [distance, Nat.div_div_eq_div_mul, Nat.pow_eq, Nat.pow_add]
        rfl
      rw [List.range_succ, List.map_append, List.map_singleton, bigEndian_concat,
        List.map_congr_left earlier, induction, Nat.add_sub_cancel, Nat.sub_self]
      have scale : Nat.pow 2 (8 * (count + 1)) = 256 * Nat.pow 2 (8 * count) := by
        rw [Nat.pow_eq, Nat.pow_eq, Nat.mul_succ, Nat.pow_add, Nat.mul_comm]
      rw [scale, Nat.mod_mul]
      simp [Nat.add_comm]

/-! ## Padding -/

theorem isPadded_pad (message : ByteArray) :
    IsPadded message.data.toList (Digest.pad message).data.toList := by
  have bytes : (Digest.pad message).data.toList = message.data.toList ++
      0x80 :: (List.replicate ((119 - message.size % 64) % 64) 0 ++ (List.range 8).map fun index =>
        UInt8.ofNat (8 * message.size / Nat.pow 2 (8 * (8 - 1 - index)))) := by
    simp [Digest.pad]
  refine ⟨_, _, bytes, Nat.mod_lt _ (by decide), by simp, bigEndian_map_range 8 _, ?_⟩
  rw [bytes]
  simp only [List.length_append, List.length_cons, List.length_replicate, List.length_map,
    List.length_range, Array.length_toList, ByteArray.size_data]
  omega

theorem IsPadded.unique {message padded other : List UInt8} (isPadded : IsPadded message padded)
    (isOther : IsPadded message other) : padded = other := by
  rcases isPadded with ⟨zeros, length, rfl, few, eight, bits, whole⟩
  rcases isOther with ⟨otherZeros, otherLength, rfl, otherFew, otherEight, otherBits, otherWhole⟩
  have sameLength : length = otherLength :=
    eq_of_bigEndian_eq (eight.trans otherEight.symm) (bits.trans otherBits.symm)
  simp only [List.length_append, List.length_cons, List.length_replicate] at whole otherWhole
  have sameZeros : zeros = otherZeros := by omega
  rw [sameLength, sameZeros]

/-! ## Words -/

theorem toBitVec_roundConstants :
    Digest.roundConstants.map UInt32.toBitVec = primes.map (rootBits 3) := by
  decide +kernel

theorem shiftLeft_or (high : Nat) (byte : UInt8) :
    high <<< 8 ||| byte.toNat = 256 * high + byte.toNat := by
  rw [← Nat.shiftLeft_add_eq_or_of_lt byte.toNat_lt, Nat.shiftLeft_eq, Nat.mul_comm]

theorem toBitVec_joinBytes (first second third fourth : UInt8) :
    (first.toUInt32 <<< 24 ||| second.toUInt32 <<< 16 ||| third.toUInt32 <<< 8 |||
        fourth.toUInt32).toBitVec =
      BitVec.ofNat 32 (bigEndian [first, second, third, fourth]) := by
  have fits (byte : UInt8) {count : Nat} (small : count ≤ 24) :
      byte.toNat <<< count % 4294967296 = byte.toNat <<< count := by
    apply Nat.mod_eq_of_lt
    rw [Nat.shiftLeft_eq]
    have low := byte.toNat_lt
    have scale : 2 ^ count ≤ 2 ^ 24 := Nat.pow_le_pow_right (by decide) small
    exact Nat.lt_of_lt_of_le (Nat.mul_lt_mul_of_lt_of_le low scale (by decide)) (by decide)
  -- Bytes that are shifted apart have no bits in common, so joining them adds them up.
  rw [← BitVec.setWidth_eq (UInt32.toBitVec _), ← BitVec.ofNat_toNat]
  simp only [bigEndian, List.foldl, ← shiftLeft_or]
  simp [Nat.shiftLeft_or_distrib, ← Nat.shiftLeft_add, fits]

/-! ## Schedules -/

theorem byteAt_eq {bytes : ByteArray} {index : Nat} {byte : UInt8}
    (isThere : bytes.data.toList[index]? = some byte) :
    Digest.byteAt bytes index = byte.toUInt32 := by
  rw [Array.getElem?_toList, Array.getElem?_eq_some_iff] at isThere
  rcases isThere with ⟨inside, isByte⟩
  have inBytes : index < bytes.size := inside
  rw [Digest.byteAt, dif_pos inBytes, ← isByte]
  rfl

theorem toBitVec_wordAt {bytes : ByteArray} {index : Nat} (inside : index + 4 ≤ bytes.size) :
    (Digest.wordAt bytes index).toBitVec =
      BitVec.ofNat 32 (bigEndian ((bytes.data.toList.drop index).take 4)) := by
  have long : 4 ≤ (bytes.data.toList.drop index).length := by
    rw [List.length_drop, Array.length_toList, ByteArray.size_data]
    omega
  match cut : bytes.data.toList.drop index, long with
  | first :: second :: third :: fourth :: rest, _ =>
      have found (offset : Nat) : bytes.data.toList[index + offset]? =
          (first :: second :: third :: fourth :: rest)[offset]? := by
        rw [← cut, List.getElem?_drop]
      have opening : Digest.byteAt bytes index = first.toUInt32 := byteAt_eq (found 0)
      rw [Digest.wordAt, opening, byteAt_eq (found 1), byteAt_eq (found 2), byteAt_eq (found 3)]
      exact toBitVec_joinBytes first second third fourth

/-- The words so far are those that are scheduled for the block. -/
def Follows (block : List UInt8) (words : Array UInt32) : Prop :=
  words.toList.map UInt32.toBitVec = (List.range words.size).map (scheduled block)

theorem Follows.getD {block : List UInt8} {words : Array UInt32} (follows : Follows block words)
    {index : Nat} (inside : index < words.size) :
    (words.getD index 0).toBitVec = scheduled block index := by
  have found := congrArg (·[index]?) follows
  simpa [inside] using found

theorem follows_extendSchedule {block : List UInt8} {words : Array UInt32}
    (follows : Follows block words) (long : 16 ≤ words.size) :
    Follows block (Digest.extendSchedule words) ∧
      (Digest.extendSchedule words).size = words.size + 1 := by
  have next : scheduled block words.size =
      scheduled block (words.size - 16) + smallSigma0 (scheduled block (words.size - 15)) +
        scheduled block (words.size - 7) + smallSigma1 (scheduled block (words.size - 2)) := by
    rw [scheduled, if_neg (by omega)]
  have back (distance : Nat) (isBack : 0 < distance ∧ distance ≤ 16) :
      scheduled block (words.size - distance) = (words.getD (words.size - distance) 0).toBitVec :=
    (follows.getD (by omega)).symm
  refine ⟨?_, Array.size_push _⟩
  rw [Follows, Digest.extendSchedule, Array.toList_push, Array.size_push, List.map_append, follows,
    List.range_succ, List.map_append, List.map_singleton, List.map_singleton, next,
    back 16 (by decide), back 15 (by decide), back 7 (by decide), back 2 (by decide)]
  rfl

theorem take_drop_block {padded : List UInt8} (block : Nat) {index : Nat} (inBlock : index < 16) :
    (((padded.drop (64 * block)).take 64).drop (4 * index)).take 4 =
      (padded.drop (64 * block + 4 * index)).take 4 := by
  rw [List.drop_take, List.drop_drop, List.take_take]
  congr 1
  omega

theorem follows_foldl {block : List UInt8} {words : Array UInt32} (follows : Follows block words)
    (long : 16 ≤ words.size) (steps : List Nat) :
    Follows block (steps.foldl (fun words _ => Digest.extendSchedule words) words) ∧
      (steps.foldl (fun words _ => Digest.extendSchedule words) words).size =
        words.size + steps.length := by
  induction steps generalizing words with
  | nil => exact ⟨follows, rfl⟩
  | cons step steps induction =>
      rcases follows_extendSchedule follows long with ⟨followsNext, size⟩
      have rest := induction followsNext (by omega)
      rw [size, Nat.add_assoc, Nat.add_comm 1] at rest
      exact rest

theorem map_schedule {bytes : ByteArray} {block : Nat} (inside : 64 * block + 64 ≤ bytes.size) :
    (Digest.schedule bytes (64 * block)).toList.map UInt32.toBitVec =
      (List.range 64).map (scheduled ((bytes.data.toList.drop (64 * block)).take 64)) := by
  let input := ((List.range 16).map fun i => Digest.wordAt bytes (64 * block + 4 * i)).toArray
  have follows : Follows ((bytes.data.toList.drop (64 * block)).take 64) input := by
    rw [Follows, List.size_toArray, List.length_map, List.length_range, List.map_map]
    apply List.map_congr_left
    intro index isIndex
    have inBlock := List.mem_range.mp isIndex
    rw [scheduled, if_pos inBlock, take_drop_block block inBlock]
    exact toBitVec_wordAt (by omega)
  have size : input.size = 16 := by simp [input]
  rcases follows_foldl follows (Nat.le_of_eq size.symm) (List.range 48) with ⟨all, count⟩
  rw [Follows, count, size] at all
  exact all

/-! ## Blocks -/

def ofState (state : Digest.ChainState) : Registers :=
  ⟨state.a.toBitVec, state.b.toBitVec, state.c.toBitVec, state.d.toBitVec, state.e.toBitVec,
    state.f.toBitVec, state.g.toBitVec, state.h.toBitVec⟩

theorem ofState_initialState : ofState Digest.initialState = .start := by
  decide +kernel

theorem ofState_oneRound (state : Digest.ChainState) (constant word : UInt32) :
    ofState (Digest.oneRound state constant word) =
      (ofState state).mix constant.toBitVec word.toBitVec := by
  have complement (word : UInt32) : word ^^^ 0xffffffff = ~~~word :=
    UInt32.toBitVec_inj.mp BitVec.xor_allOnes
  rw [Digest.oneRound, complement]
  rfl

theorem ofState_rounds (state : Digest.ChainState) (pairs : List (UInt32 × UInt32)) :
    ofState (pairs.foldl (fun s pair => Digest.oneRound s pair.1 pair.2) state) =
      (pairs.map (Prod.map UInt32.toBitVec UInt32.toBitVec)).foldl
        (fun r pair => r.mix pair.1 pair.2) (ofState state) := by
  rw [List.foldl_map]
  exact (List.foldl_hom ofState fun s pair => (ofState_oneRound s pair.1 pair.2).symm).symm

theorem ofState_compress {bytes : ByteArray} {block : Nat}
    (inside : 64 * block + 64 ≤ bytes.size) (state : Digest.ChainState) :
    ofState (Digest.compress bytes state block) =
      (ofState state).absorb ((bytes.data.toList.drop (64 * block)).take 64) := by
  have rounds := ofState_rounds state
    (Digest.roundConstants.zip (Digest.schedule bytes (64 * block)).toList)
  rw [← List.zip_map, toBitVec_roundConstants, map_schedule inside] at rounds
  rw [Registers.absorb, ← rounds, Digest.compress]
  generalize List.foldl _ state _ = mixed
  rfl

theorem ofState_blocks (bytes : ByteArray) (state : Digest.ChainState) {indices : List Nat}
    (inside : ∀ block ∈ indices, 64 * block + 64 ≤ bytes.size) :
    ofState (indices.foldl (Digest.compress bytes) state) =
      (indices.map fun block => (bytes.data.toList.drop (64 * block)).take 64).foldl
        Registers.absorb (ofState state) := by
  induction indices generalizing state with
  | nil => rfl
  | cons block indices induction =>
      rw [List.foldl_cons, List.map_cons, List.foldl_cons,
        ← ofState_compress (inside block List.mem_cons_self)]
      exact induction _ fun other isOther => inside other (List.mem_cons_of_mem block isOther)

theorem hexDigits_eq (value : Nat) : Number.hexDigits 8 value =
    (List.range 8).map fun place => (value / Nat.pow 16 (7 - place) % 16).digitChar := by
  simp [Number.hexDigits, List.range_succ, Nat.div_div_eq_div_mul]

/-- What is computed is the digest, and nothing else is. -/
theorem isDigest_iff (message : ByteArray) (text : String) :
    IsDigest message.data.toList text ↔ Digest.sha256 message = text := by
  have inside : ∀ block ∈ List.range ((Digest.pad message).size / 64),
      64 * block + 64 ≤ (Digest.pad message).size := by
    intro block isBlock
    have := List.mem_range.mp isBlock
    omega
  have computed : Digest.sha256 message =
      ((blocks (Digest.pad message).data.toList).foldl Registers.absorb Registers.start).text := by
    rw [blocks, Array.length_toList, ByteArray.size_data, ← ofState_initialState,
      ← ofState_blocks _ _ inside, Digest.sha256]
    simp only [hexDigits_eq]
    rfl
  rw [computed]
  constructor
  · rintro ⟨padded, isPadded, rfl⟩
    rw [isPadded.unique (isPadded_pad message)]
  · rintro rfl
    exact ⟨_, isPadded_pad message, rfl⟩

end Bulletin.Sha256
