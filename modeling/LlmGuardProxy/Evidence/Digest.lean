import Mathlib.Tactic.IntervalCases
import LlmGuardProxy.Machinery.Sha256

/-!
# Evidence/Digest — the digest of a raw artifact

The store names the text of an artifact by the digest that it computes by hand.

* `pushZeros_eq`, `bytesBits_padMessage` — the padding loop, in every residue of the length.
* `extendWords_spec`, `workingRounds_eq` — the schedule and the rounds.
* `sha256_is_standard` — the digest is the one of the standard.
-/

namespace LlmGuardProxy.Evidence

open Machinery
open Machinery.Sha256 (Word Eight bytesBits wordBits)

/-! ## The source's tables -/

/-- `SHA256_INITIAL_STATE`. -/
def sha256InitialState : Eight :=
  ⟨0x6a09e667, 0xbb67ae85, 0x3c6ef372, 0xa54ff53a,
   0x510e527f, 0x9b05688c, 0x1f83d9ab, 0x5be0cd19⟩

/-- `SHA256_ROUND_CONSTANTS`. -/
def sha256RoundConstants : List Word :=
  [0x428a2f98, 0x71374491, 0xb5c0fbcf, 0xe9b5dba5, 0x3956c25b, 0x59f111f1, 0x923f82a4, 0xab1c5ed5,
   0xd807aa98, 0x12835b01, 0x243185be, 0x550c7dc3, 0x72be5d74, 0x80deb1fe, 0x9bdc06a7, 0xc19bf174,
   0xe49b69c1, 0xefbe4786, 0x0fc19dc6, 0x240ca1cc, 0x2de92c6f, 0x4a7484aa, 0x5cb0a9dc, 0x76f988da,
   0x983e5152, 0xa831c66d, 0xb00327c8, 0xbf597fc7, 0xc6e00bf3, 0xd5a79147, 0x06ca6351, 0x14292967,
   0x27b70a85, 0x2e1b2138, 0x4d2c6dfc, 0x53380d13, 0x650a7354, 0x766a0abb, 0x81c2c92e, 0x92722c85,
   0xa2bfe8a1, 0xa81a664b, 0xc24b8b70, 0xc76c51a3, 0xd192e819, 0xd6990624, 0xf40e3585, 0x106aa070,
   0x19a4c116, 0x1e376c08, 0x2748774c, 0x34b0bcb5, 0x391c0cb3, 0x4ed8aa4a, 0x5b9cca4f, 0x682e6ff3,
   0x748f82ee, 0x78a5636f, 0x84c87814, 0x8cc70208, 0x90befffa, 0xa4506ceb, 0xbef9a3f7, 0xc67178f2]

/-! ## The source's loops -/

/-- `u32::from_be_bytes` of the first four bytes. -/
def fromBeBytes (bytes : Bytes) : Word :=
  (bytes.getD 0 0).toBitVec ++ (bytes.getD 1 0).toBitVec ++ (bytes.getD 2 0).toBitVec ++
    (bytes.getD 3 0).toBitVec

/-- `to_be_bytes` of an integer of `n` bytes. -/
def toBeBytes {n : ℕ} (x : BitVec (8 * n)) : Bytes :=
  (List.range n).map fun i => .ofBitVec (x.extractLsb' (8 * (n - 1 - i)) 8)

/-- `as_chunks::<N>().0`, without the remainder. -/
def asChunks {α : Type*} (n : ℕ) (xs : List α) : List (List α) :=
  (List.range (xs.length / n)).map fun i => (xs.drop (n * i)).take n

/-- The length in bits, a saturating `u64`. -/
def bitLen (input : Bytes) : ℕ :=
  min ((if input.length < 2 ^ 64 then input.length else (2 ^ 64 - 1) / 8) * 8) (2 ^ 64 - 1)

/-- The loop that pushes zeros up to the place of the length. -/
def pushZeros (message : Bytes) : Bytes :=
  if message.length % 64 ≠ 56 then pushZeros (message ++ [0]) else message
termination_by (120 - message.length % 64) % 64
decreasing_by
  rw [List.length_append, List.length_singleton]
  omega

/-- The padded message. -/
def padMessage (input : Bytes) : Bytes :=
  pushZeros (input ++ [0x80]) ++ toBeBytes (n := 8) (BitVec.ofNat 64 (bitLen input))

/-- The first sixteen words of a chunk, with 48 zeros after them. -/
def loadWords (chunk : Bytes) : List Word :=
  ((asChunks 4 chunk).take 16).map fromBeBytes ++ List.replicate 48 0

/-- One step of the message schedule. -/
def extendWord (words : List Word) (index : ℕ) : List Word :=
  let word15 := words.getD (index - 15) 0
  let word2 := words.getD (index - 2) 0
  let sigma0 := word15.rotateRight 7 ^^^ word15.rotateRight 18 ^^^ (word15 >>> 3)
  let sigma1 := word2.rotateRight 17 ^^^ word2.rotateRight 19 ^^^ (word2 >>> 10)
  words.set index (words.getD (index - 16) 0 + sigma0 + words.getD (index - 7) 0 + sigma1)

/-- The message schedule of a chunk. -/
def extendWords (words : List Word) : List Word := (List.range' 16 48).foldl extendWord words

/-- One round of the working variables. -/
def workingRound (v : Eight) (constant word : Word) : Eight :=
  let bigSigma1 := v.e.rotateRight 6 ^^^ v.e.rotateRight 11 ^^^ v.e.rotateRight 25
  let choose := (v.e &&& v.f) ^^^ (~~~v.e &&& v.g)
  let temp1 := v.h + bigSigma1 + choose + constant + word
  let bigSigma0 := v.a.rotateRight 2 ^^^ v.a.rotateRight 13 ^^^ v.a.rotateRight 22
  let majority := (v.a &&& v.b) ^^^ (v.a &&& v.c) ^^^ (v.b &&& v.c)
  let temp2 := bigSigma0 + majority
  { h := v.g, g := v.f, f := v.e, e := v.d + temp1, d := v.c, c := v.b, b := v.a, a := temp1 + temp2 }

/-- The rounds over the table of constants. -/
def workingRounds (words : List Word) (state : Eight) : Eight :=
  sha256RoundConstants.zipIdx.foldl (fun v entry => workingRound v entry.1 (words.getD entry.2 0)) state

/-- The state after a chunk. -/
def digestChunk (state : Eight) (chunk : Bytes) : Eight :=
  state.add (workingRounds (extendWords (loadWords chunk)) state)

/-- `sha256_digest`. -/
def sha256Digest (input : Bytes) : Bytes :=
  ((asChunks 64 (padMessage input)).foldl digestChunk sha256InitialState).words.flatMap
    (toBeBytes (n := 4))

/-- `hex_digit`. -/
def hexDigit (value : UInt8) : Char :=
  if value ≤ 9 then Char.ofNat (0x30 + value.toNat) else Char.ofNat (0x61 + (value.toNat - 10))

/-- `sha256_hex`, the text that the store keeps. -/
def sha256Hex (bytes : Bytes) : List Char :=
  (sha256Digest bytes).flatMap fun byte : UInt8 => [hexDigit (byte >>> 4), hexDigit (byte &&& 0x0f)]

/-! ## Big-endian integers -/

@[simp] theorem length_toBeBytes {n : ℕ} (x : BitVec (8 * n)) : (toBeBytes x).length = n := by
  simp [toBeBytes]

/-- The bits of the bytes of an integer are its bits. -/
theorem bytesBits_toBeBytes {n : ℕ} (x : BitVec (8 * n)) : bytesBits (toBeBytes x) = wordBits x := by
  apply List.ext_getElem (by simp)
  intro k hk hk'
  have hq : k / 8 < n := by
    rw [Sha256.length_bytesBits, length_toBeBytes] at hk
    omega
  have hr : k % 8 < 8 := Nat.mod_lt _ (by decide)
  rw [← List.getD_eq_getElem _ false hk, Sha256.getElem_wordBits, ← Nat.div_add_mod k 8,
    Sha256.getD_bytesBits _ _ hr, List.getD_eq_getElem _ _ (by simpa using hq)]
  simp only [toBeBytes, List.getElem_map, List.getElem_range, BitVec.getMsbD]
  grind

/-- The bits of a word read from bytes. -/
theorem getMsbD_fromBeBytes (bytes : Bytes) {n : ℕ} (hn : n < 32) :
    (fromBeBytes bytes).getMsbD n = (bytes.getD (n / 8) 0).toBitVec.getMsbD (n % 8) := by
  simp only [fromBeBytes, BitVec.getMsbD_append]
  interval_cases n <;> rfl

/-! ## The padding -/

/-- **The loop pushes the fewest zeros** that leave room for the length at the end of a block. -/
theorem pushZeros_eq (message : Bytes) :
    pushZeros message = message ++ List.replicate ((120 - message.length % 64) % 64) 0 := by
  fun_induction pushZeros message with
  | case1 message h ih =>
    have hcount : (120 - message.length % 64) % 64 =
        (120 - (message ++ [0]).length % 64) % 64 + 1 := by
      rw [List.length_append, List.length_singleton]
      omega
    rw [ih, hcount, List.replicate_succ, List.append_assoc, List.singleton_append]
  | case2 message h =>
    have hcount : (120 - message.length % 64) % 64 = 0 := by omega
    rw [hcount, List.replicate_zero, List.append_nil]

theorem bytesBits_replicate (n : ℕ) :
    bytesBits (List.replicate n 0) = List.replicate (8 * n) false := by
  induction n with
  | zero => rfl
  | succ n ih =>
    have hzero : wordBits (0 : UInt8).toBitVec = List.replicate 8 false := by decide
    rw [List.replicate_succ, Nat.mul_succ, Nat.add_comm, List.replicate_add, ← ih, ← hzero]
    rfl

theorem bitLen_eq {input : Bytes} (h : input.length < 2 ^ 61) : bitLen input = 8 * input.length := by
  unfold bitLen
  rw [if_pos (by omega)]
  omega

/-- **The padded message is the one of the standard**, whatever the length modulo 64. -/
theorem bytesBits_padMessage {input : Bytes} (h : input.length < 2 ^ 61) :
    bytesBits (padMessage input) = Sha256.pad (bytesBits input) := by
  have hlength : (input ++ [0x80]).length = input.length + 1 := by simp
  have hone : bytesBits [0x80] = [true] ++ List.replicate 7 false := by decide
  have hzeros : Sha256.zeros (8 * input.length) =
      7 + 8 * ((120 - (input.length + 1) % 64) % 64) :=
    Sha256.zeros_eq (by omega) (by omega)
  rw [padMessage, pushZeros_eq, hlength, bitLen_eq h, Sha256.bytesBits_append,
    Sha256.bytesBits_append, Sha256.bytesBits_append, bytesBits_toBeBytes, bytesBits_replicate,
    hone, Sha256.pad, Sha256.length_bytesBits, hzeros, List.replicate_add]
  simp only [List.append_assoc]

/-! ## The words of a chunk -/

theorem getD_take_drop {α : Type*} (xs : List α) (m n k : ℕ) (d : α) (hk : k < n) :
    ((xs.drop m).take n).getD k d = xs.getD (m + k) d := by
  rw [List.getD_eq_getElem?_getD, List.getD_eq_getElem?_getD, List.getElem?_take_of_lt hk,
    List.getElem?_drop]

/-- **A word of a chunk is the word of the standard's block.** -/
theorem fromBeBytes_eq (message : Bytes) (i : ℕ) {j : ℕ} (hj : j < 16) :
    fromBeBytes ((((message.drop (64 * i)).take 64).drop (4 * j)).take 4) =
      Sha256.messageWord (bytesBits message) i j := by
  apply BitVec.eq_of_getMsbD_eq
  intro n hn
  rw [Sha256.getMsbD_messageWord _ _ _ hn, getMsbD_fromBeBytes _ hn,
    getD_take_drop _ _ _ _ _ (by omega), getD_take_drop _ _ _ _ _ (by omega),
    show 512 * i + 32 * j + n = 8 * (64 * i + (4 * j + n / 8)) + n % 8 by omega,
    Sha256.getD_bytesBits _ _ (Nat.mod_lt _ (by decide))]

theorem length_loadWords {chunk : Bytes} (h : chunk.length = 64) : (loadWords chunk).length = 64 := by
  simp [loadWords, asChunks, h]

theorem getD_loadWords {chunk : Bytes} (h : chunk.length = 64) {j : ℕ} (hj : j < 16) :
    (loadWords chunk).getD j 0 = fromBeBytes ((chunk.drop (4 * j)).take 4) := by
  rw [loadWords, List.getD_append _ _ _ _ (by simp [asChunks, h]; omega),
    List.getD_eq_getElem _ _ (by simp [asChunks, h]; omega)]
  simp [asChunks]

/-! ## The schedule -/

theorem rotateRight_eq {n : ℕ} (hn : n < 32) (x : Word) : x.rotateRight n = Sha256.rotr n x := by
  rw [BitVec.rotateRight_def, Nat.mod_eq_of_lt hn]
  rfl

/-- The words up to an index are those of the schedule. -/
def Scheduled (block : ℕ → Word) (n : ℕ) (words : List Word) : Prop :=
  words.length = 64 ∧ ∀ t < n, words.getD t 0 = Sha256.schedule block t

/-- One step of the loop adds the word of its index. -/
theorem Scheduled.extendWord {block : ℕ → Word} {n : ℕ} {words : List Word}
    (h : Scheduled block n words) (hlow : 16 ≤ n) (hhigh : n < 64) :
    Scheduled block (n + 1) (extendWord words n) := by
  obtain ⟨hlength, hwords⟩ := h
  refine ⟨by rw [Evidence.extendWord, List.length_set, hlength], fun t ht => ?_⟩
  rcases Nat.lt_succ_iff_lt_or_eq.mp ht with hlt | rfl
  · rw [Evidence.extendWord, List.getD_eq_getElem?_getD, List.getElem?_set_ne (by omega),
      ← List.getD_eq_getElem?_getD, hwords t hlt]
  · rw [Evidence.extendWord, List.getD_eq_getElem?_getD, List.getElem?_set_self (by omega),
      Option.getD_some, hwords (t - 16) (by omega), hwords (t - 15) (by omega),
      hwords (t - 7) (by omega), hwords (t - 2) (by omega), Sha256.schedule_of_le hlow,
      rotateRight_eq (by decide), rotateRight_eq (by decide), rotateRight_eq (by decide),
      rotateRight_eq (by decide)]
    unfold Sha256.lowerSigma0 Sha256.lowerSigma1
    ac_rfl

theorem extendWords_spec {block : ℕ → Word} {words : List Word} (h : Scheduled block 16 words) :
    Scheduled block 64 (extendWords words) := by
  have hrun : ∀ n ≤ 48, Scheduled block (16 + n) ((List.range' 16 n).foldl extendWord words) := by
    intro n
    induction n with
    | zero => exact fun _ => h
    | succ n ih =>
      intro hn
      rw [List.range'_concat, List.foldl_append, Nat.one_mul]
      exact (ih (by omega)).extendWord (by omega) (by omega)
  exact hrun 48 le_rfl

/-! ## The tables -/

/-- The primes whose roots the tables are made of. -/
def firstPrimes : List ℕ :=
  [2, 3, 5, 7, 11, 13, 17, 19, 23, 29, 31, 37, 41, 43, 47, 53, 59, 61, 67, 71, 73, 79, 83, 89, 97, 101,
   103, 107, 109, 113, 127, 131, 137, 139, 149, 151, 157, 163, 167, 173, 179, 181, 191, 193, 197, 199,
   211, 223, 227, 229, 233, 239, 241, 251, 257, 263, 269, 271, 277, 281, 283, 293, 307, 311]

theorem firstPrimes_counted : ∀ t < 64, firstPrimes.getD t 0 < 324 ∧
    Sha256.trialPrime (firstPrimes.getD t 0) = true ∧
      Nat.count (fun q => Sha256.trialPrime q = true) (firstPrimes.getD t 0) = t := by
  decide +kernel

theorem nth_prime {t : ℕ} (ht : t < 64) : Nat.nth Nat.Prime t = firstPrimes.getD t 0 := by
  obtain ⟨hlt, hprime, hcount⟩ := firstPrimes_counted t ht
  exact Sha256.nth_prime_eq hlt hprime hcount

theorem sha256RoundConstants_roots : ∀ t < 64,
    Sha256.RootBits 3 (firstPrimes.getD t 0) (sha256RoundConstants.getD t 0) := by
  decide +kernel

/-- The words of a state, by their index. -/
theorem sha256InitialState_roots : ∀ t < 8,
    Sha256.RootBits 2 (firstPrimes.getD t 0) (sha256InitialState.words.getD t 0) := by
  decide +kernel

/-- **The table of constants** holds the fractional bits of the cube roots of the primes. -/
theorem sha256RoundConstants_eq {t : ℕ} (ht : t < 64) :
    sha256RoundConstants.getD t 0 = Sha256.constant t := by
  rw [Sha256.constant, nth_prime ht]
  exact ((sha256RoundConstants_roots t ht).eq (by decide)).symm

/-- **The initial state** holds those of the square roots. -/
theorem sha256InitialState_eq : sha256InitialState = Sha256.initial := by
  have hroot : ∀ t < 8, Sha256.rootBits 2 (Nat.nth Nat.Prime t) =
      sha256InitialState.words.getD t 0 := by
    intro t ht
    rw [nth_prime (by omega)]
    exact (sha256InitialState_roots t ht).eq (by decide)
  unfold Sha256.initial
  rw [hroot 0 (by decide), hroot 1 (by decide), hroot 2 (by decide), hroot 3 (by decide),
    hroot 4 (by decide), hroot 5 (by decide), hroot 6 (by decide), hroot 7 (by decide)]
  rfl

/-! ## The rounds -/

theorem workingRound_eq (v : Eight) (constant word : Word) :
    workingRound v constant word = Sha256.round v constant word := by
  simp only [workingRound, rotateRight_eq (show 6 < 32 by decide),
    rotateRight_eq (show 11 < 32 by decide), rotateRight_eq (show 25 < 32 by decide),
    rotateRight_eq (show 2 < 32 by decide), rotateRight_eq (show 13 < 32 by decide),
    rotateRight_eq (show 22 < 32 by decide)]
  rfl

theorem sha256RoundConstants_zipIdx :
    sha256RoundConstants.zipIdx = (List.range 64).map fun t => (Sha256.constant t, t) := by
  have hlength : sha256RoundConstants.length = 64 := rfl
  apply List.ext_getElem (by simp [hlength])
  intro t ht _
  have ht : t < 64 := by simpa [hlength] using ht
  rw [List.getElem_zipIdx, List.getElem_map, List.getElem_range, ← sha256RoundConstants_eq ht,
    List.getD_eq_getElem _ _ (by rw [hlength]; exact ht), Nat.zero_add]

/-- The rounds over the table are those over the schedule. -/
theorem workingRounds_eq {block : ℕ → Word} {words : List Word} (h : Scheduled block 64 words)
    (state : Eight) :
    workingRounds words state = (List.range 64).foldl
      (fun v t => Sha256.round v (Sha256.constant t) (Sha256.schedule block t)) state := by
  rw [workingRounds, sha256RoundConstants_zipIdx, List.foldl_map]
  apply List.foldl_ext
  intro v t ht
  rw [workingRound_eq, h.2 t (List.mem_range.mp ht)]

/-- **The state after a chunk is the hash value after its block.** -/
theorem digestChunk_eq (message : Bytes) {i : ℕ} (hi : i < message.length / 64) (state : Eight) :
    digestChunk state ((message.drop (64 * i)).take 64) =
      Sha256.compress state (Sha256.messageWord (bytesBits message) i) := by
  have hlength : ((message.drop (64 * i)).take 64).length = 64 := by
    rw [List.length_take, List.length_drop]
    omega
  have hloaded : Scheduled (Sha256.messageWord (bytesBits message) i) 16
      (loadWords ((message.drop (64 * i)).take 64)) := by
    refine ⟨length_loadWords hlength, fun t ht => ?_⟩
    rw [getD_loadWords hlength ht, fromBeBytes_eq message i ht, Sha256.schedule_of_lt ht]
  rw [digestChunk, workingRounds_eq (extendWords_spec hloaded), Sha256.compress]

/-- The loop over the chunks, by the number of them done. -/
theorem foldl_digestChunk (message : Bytes) {n : ℕ} (hn : n ≤ message.length / 64) :
    ((List.range n).map fun i => (message.drop (64 * i)).take 64).foldl digestChunk
      sha256InitialState = Sha256.hashValue (bytesBits message) n := by
  induction n with
  | zero => exact sha256InitialState_eq
  | succ n ih =>
    rw [List.range_succ, List.map_append, List.foldl_append, ih (by omega)]
    exact digestChunk_eq message (by omega) _

/-! ## The digest -/

/-- The bits that a hexadecimal digit stands for. -/
def hexBits (c : Char) : Sha256.Bits :=
  wordBits (BitVec.ofNat 4 (if c.toNat < 0x61 then c.toNat - 0x30 else c.toNat - 0x57))

theorem hexBits_hexDigit (b : UInt8) :
    hexBits (hexDigit (b >>> 4)) ++ hexBits (hexDigit (b &&& 0x0f)) = wordBits b.toBitVec :=
  forall_byte (p := fun b => hexBits (hexDigit (b >>> 4)) ++ hexBits (hexDigit (b &&& 0x0f)) =
    wordBits b.toBitVec) (by decide +kernel) b

/-- The kept text spells the digest. -/
theorem flatMap_hexBits (input : Bytes) :
    (sha256Hex input).flatMap hexBits = bytesBits (sha256Digest input) := by
  rw [sha256Hex, List.flatMap_assoc]
  refine List.flatMap_congr fun b _ => ?_
  rw [← hexBits_hexDigit b]
  simp

theorem bytesBits_flatMap_toBeBytes (words : List Word) :
    bytesBits (words.flatMap (toBeBytes (n := 4))) = words.flatMap wordBits := by
  rw [bytesBits, List.flatMap_assoc]
  exact List.flatMap_congr fun w _ => bytesBits_toBeBytes (n := 4) w

/-- **The hand-written digest is SHA-256**: for every byte string of length below `2 ^ 61`, the bits of
the digest, and those that the kept text spells, are the standard's digest of the bits of the string. -/
theorem sha256_is_standard (input : Bytes) (h : input.length < 2 ^ 61) :
    bytesBits (sha256Digest input) = Sha256.hash (bytesBits input) ∧
      (sha256Hex input).flatMap hexBits = Sha256.hash (bytesBits input) := by
  have hblocks : (bytesBits (padMessage input)).length / 512 = (padMessage input).length / 64 := by
    rw [Sha256.length_bytesBits]
    omega
  have hdigest : bytesBits (sha256Digest input) = Sha256.hash (bytesBits input) := by
    rw [sha256Digest, bytesBits_flatMap_toBeBytes, asChunks, foldl_digestChunk _ le_rfl, Sha256.hash,
      ← bytesBits_padMessage h, hblocks]
  exact ⟨hdigest, (flatMap_hexBits input).trans hdigest⟩

theorem sha256_is_standard_abc :
    (utf8 "abc").length < 2 ^ 61 ∧
      bytesBits (sha256Digest (utf8 "abc")) = Sha256.hash (bytesBits (utf8 "abc")) ∧
      (sha256Hex (utf8 "abc")).flatMap hexBits = Sha256.hash (bytesBits (utf8 "abc")) := by
  have hlength : (utf8 "abc").length < 2 ^ 61 := by decide
  exact ⟨hlength, sha256_is_standard (utf8 "abc") hlength⟩

example : String.ofList (sha256Hex (utf8 "abc")) =
    "ba7816bf8f01cfea414140de5dae2223b00361a396177a9cb410ff61f20015ad" := by
  rw [sha256Hex, sha256Digest, padMessage, pushZeros_eq]
  decide +kernel

end LlmGuardProxy.Evidence
