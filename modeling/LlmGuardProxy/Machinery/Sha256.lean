import Mathlib.Analysis.SpecialFunctions.Pow.Real
import Mathlib.Data.Nat.Nth
import Mathlib.Data.Nat.Prime.Defs
import LlmGuardProxy.Machinery.Bytes

/-!
# Machinery/Sha256 — the secure hash standard

SHA-256 as FIPS 180-4 defines it: a function of bit strings, with its constants as the leading fractional
bits of the roots of the first primes.

* `pad`, `messageWord` — sections 5.1 and 5.2, the padded message and its words.
* `schedule`, `round`, `compress` — section 6.2.2.
* `hash` — the digest, eight words of bits.
* `rootBits_eq`, `zeros_eq`, `getD_bytesBits` — the constants, the padding and the bits of a byte string
  as integers give them.
-/

namespace Machinery.Sha256

/-- A string of bits, the first one leftmost. -/
abbrev Bits := List Bool

/-- A word, whose leftmost bit is its most significant one. -/
abbrev Word := BitVec 32

/-- The bits of a bit vector from the left. -/
def wordBits {w : ℕ} (x : BitVec w) : Bits := List.ofFn fun i : Fin w => x.getMsbD i

/-- The bits of a byte string. -/
def bytesBits (bytes : Bytes) : Bits := bytes.flatMap fun b => wordBits b.toBitVec

/-! ## Functions and constants -/

/-- The rotation `ROTR`. -/
def rotr (n : ℕ) (x : Word) : Word := (x >>> n) ||| (x <<< (32 - n))

/-- `Ch`. -/
def ch (x y z : Word) : Word := (x &&& y) ^^^ (~~~x &&& z)

/-- `Maj`. -/
def maj (x y z : Word) : Word := (x &&& y) ^^^ (x &&& z) ^^^ (y &&& z)

/-- `Σ₀`. -/
def upperSigma0 (x : Word) : Word := rotr 2 x ^^^ rotr 13 x ^^^ rotr 22 x

/-- `Σ₁`. -/
def upperSigma1 (x : Word) : Word := rotr 6 x ^^^ rotr 11 x ^^^ rotr 25 x

/-- `σ₀`. -/
def lowerSigma0 (x : Word) : Word := rotr 7 x ^^^ rotr 18 x ^^^ (x >>> 3)

/-- `σ₁`. -/
def lowerSigma1 (x : Word) : Word := rotr 17 x ^^^ rotr 19 x ^^^ (x >>> 10)

/-- The first 32 bits of the fractional part of the `k`-th root of a number. -/
noncomputable def rootBits (k p : ℕ) : Word :=
  BitVec.ofNat 32 ⌊2 ^ 32 * Int.fract ((p : ℝ) ^ (k⁻¹ : ℝ))⌋₊

/-- `K_t`, of the cube root of a prime. -/
noncomputable def constant (t : ℕ) : Word := rootBits 3 (Nat.nth Nat.Prime t)

/-- Eight words: a hash value, or the working variables. -/
@[ext] structure Eight where
  a : Word
  b : Word
  c : Word
  d : Word
  e : Word
  f : Word
  g : Word
  h : Word
  deriving DecidableEq, Repr

/-- `H⁽⁰⁾`, of the square roots of the first eight primes. -/
noncomputable def initial : Eight where
  a := rootBits 2 (Nat.nth Nat.Prime 0)
  b := rootBits 2 (Nat.nth Nat.Prime 1)
  c := rootBits 2 (Nat.nth Nat.Prime 2)
  d := rootBits 2 (Nat.nth Nat.Prime 3)
  e := rootBits 2 (Nat.nth Nat.Prime 4)
  f := rootBits 2 (Nat.nth Nat.Prime 5)
  g := rootBits 2 (Nat.nth Nat.Prime 6)
  h := rootBits 2 (Nat.nth Nat.Prime 7)

/-! ## The padded message -/

/-- The number of zero bits: the smallest solution of `l + 1 + k ≡ 448 mod 512`. -/
noncomputable def zeros (l : ℕ) : ℕ := sInf {k | l + 1 + k ≡ 448 [MOD 512]}

/-- The message, the bit 1, the zeros and the length of the message in 64 bits. -/
noncomputable def pad (message : Bits) : Bits :=
  message ++ [true] ++ List.replicate (zeros message.length) false ++
    wordBits (BitVec.ofNat 64 message.length)

/-- `M_j⁽ⁱ⁾`, blocks counted from zero. -/
def messageWord (padded : Bits) (i j : ℕ) : Word :=
  (BitVec.ofBoolListBE (List.ofFn fun n : Fin 32 =>
    padded.getD (512 * i + 32 * j + n) false)).cast List.length_ofFn

/-! ## The hash computation -/

/-- `W_t`, the message schedule of a block. -/
def schedule (block : ℕ → Word) (t : ℕ) : Word :=
  if t < 16 then block t
  else lowerSigma1 (schedule block (t - 2)) + schedule block (t - 7) +
    lowerSigma0 (schedule block (t - 15)) + schedule block (t - 16)

/-- One round of the working variables. -/
def round (v : Eight) (k w : Word) : Eight :=
  let t1 := v.h + upperSigma1 v.e + ch v.e v.f v.g + k + w
  let t2 := upperSigma0 v.a + maj v.a v.b v.c
  ⟨t1 + t2, v.a, v.b, v.c, v.d + t1, v.e, v.f, v.g⟩

/-- The sum, word by word. -/
def Eight.add (x y : Eight) : Eight :=
  ⟨x.a + y.a, x.b + y.b, x.c + y.c, x.d + y.d, x.e + y.e, x.f + y.f, x.g + y.g, x.h + y.h⟩

/-- The hash value after a block. -/
noncomputable def compress (value : Eight) (block : ℕ → Word) : Eight :=
  value.add ((List.range 64).foldl (fun v t => round v (constant t) (schedule block t)) value)

/-- `H⁽ⁱ⁾`. -/
noncomputable def hashValue (padded : Bits) : ℕ → Eight
  | 0 => initial
  | i + 1 => compress (hashValue padded i) (messageWord padded i)

/-- The words in order. -/
def Eight.words (x : Eight) : List Word := [x.a, x.b, x.c, x.d, x.e, x.f, x.g, x.h]

/-- **The message digest**: the words of `H⁽ᴺ⁾` for the `N` blocks of the padded message. -/
noncomputable def hash (message : Bits) : Bits :=
  (hashValue (pad message) ((pad message).length / 512)).words.flatMap wordBits

/-! ## The constants -/

/-- **An integer root gives the bits of the real one.** -/
theorem rootBits_eq {k p q : ℕ} (hk : k ≠ 0) (hle : q ^ k ≤ p * (2 ^ 32) ^ k)
    (hlt : p * (2 ^ 32) ^ k < (q + 1) ^ k) : rootBits k p = BitVec.ofNat 32 q := by
  set x : ℝ := (p : ℝ) ^ (k⁻¹ : ℝ) with hx
  have hx0 : 0 ≤ x := Real.rpow_nonneg (Nat.cast_nonneg p) _
  have hpow : (2 ^ 32 * x) ^ k = p * (2 ^ 32) ^ k := by
    rw [mul_pow, hx, Real.rpow_inv_natCast_pow (Nat.cast_nonneg p) hk, mul_comm]
  have hfloor : ⌊2 ^ 32 * x⌋₊ = q := by
    rw [Nat.floor_eq_iff (by positivity)]
    refine ⟨le_of_pow_le_pow_left₀ hk (by positivity) ?_,
      lt_of_pow_lt_pow_left₀ k (by positivity) ?_⟩
    · rw [hpow]
      exact_mod_cast hle
    · rw [hpow]
      exact_mod_cast hlt
  have hfract : 2 ^ 32 * Int.fract x = 2 ^ 32 * x - ((2 ^ 32 * ⌊x⌋₊ : ℕ) : ℝ) := by
    rw [Int.fract, ← natCast_floor_eq_intCast_floor hx0]
    push_cast
    ring
  have hwhole : 2 ^ 32 * ⌊x⌋₊ ≤ q := by
    rw [← hfloor, Nat.le_floor_iff (by positivity)]
    have hbelow : (⌊x⌋₊ : ℝ) ≤ x := Nat.floor_le hx0
    push_cast
    linarith
  rw [rootBits, ← hx, hfract, Nat.floor_sub_natCast, hfloor]
  apply BitVec.eq_of_toNat_eq
  rw [BitVec.toNat_ofNat, BitVec.toNat_ofNat]
  omega

/-- Bits that follow the binary point of some integer root. -/
def RootBits (k p : ℕ) (bits : Word) : Prop :=
  ∃ n < 18, (n * 2 ^ 32 + bits.toNat) ^ k ≤ p * (2 ^ 32) ^ k ∧
    p * (2 ^ 32) ^ k < (n * 2 ^ 32 + bits.toNat + 1) ^ k

instance (k p : ℕ) (bits : Word) : Decidable (RootBits k p bits) :=
  inferInstanceAs (Decidable (∃ n < 18, _))

theorem RootBits.eq {k p : ℕ} {bits : Word} (hk : k ≠ 0) (h : RootBits k p bits) :
    rootBits k p = bits := by
  obtain ⟨n, -, hle, hlt⟩ := h
  rw [rootBits_eq hk hle hlt]
  apply BitVec.eq_of_toNat_eq
  rw [BitVec.toNat_ofNat]
  omega

/-- Trial division of a number below `18 ^ 2`. -/
def trialPrime (q : ℕ) : Bool :=
  decide (2 ≤ q) && (List.range 18).all fun m => decide (m < 2) || decide (q ≤ m) || q % m != 0

theorem trialPrime_iff {q : ℕ} (hq : q < 324) : trialPrime q = true ↔ q.Prime := by
  simp only [trialPrime, Bool.and_eq_true, decide_eq_true_eq, List.all_eq_true, List.mem_range,
    Bool.or_eq_true, bne_iff_ne]
  constructor
  · rintro ⟨htwo, hall⟩
    rw [Nat.prime_def_le_sqrt]
    refine ⟨htwo, fun m hm hsqrt hdvd => ?_⟩
    have hmm : m * m ≤ q := Nat.le_sqrt.mp hsqrt
    have hm18 : m < 18 := by nlinarith
    have hmq : m < q := by nlinarith
    have hzero : q % m = 0 := Nat.mod_eq_zero_of_dvd hdvd
    rcases hall m hm18 with (h | h) | h
    · omega
    · omega
    · exact h hzero
  · intro hprime
    refine ⟨hprime.two_le, fun m _ => ?_⟩
    by_contra hcon
    have hdvd : m ∣ q := Nat.dvd_of_mod_eq_zero (by omega)
    rcases (Nat.dvd_prime hprime).mp hdvd with h | h <;> omega

/-- **The prime with a given number of primes below it.** -/
theorem nth_prime_eq {p t : ℕ} (hp : p < 324) (h : trialPrime p = true)
    (ht : Nat.count (fun q => trialPrime q = true) p = t) : Nat.nth Nat.Prime t = p := by
  have hcount : Nat.count (fun q => trialPrime q = true) p = Nat.count Nat.Prime p := by
    rw [Nat.count_eq_card_filter_range, Nat.count_eq_card_filter_range]
    congr 1
    refine Finset.filter_congr fun q hq => trialPrime_iff ?_
    exact (Finset.mem_range.mp hq).trans hp
  rw [← ht, hcount]
  exact Nat.nth_count ((trialPrime_iff hp).mp h)

/-! ## The padding -/

/-- The zeros are the first solution. -/
theorem zeros_eq {l k : ℕ} (hk : k < 512) (h : (l + 1 + k) % 512 = 448) : zeros l = k := by
  have hmem : l + 1 + k ≡ 448 [MOD 512] := h
  refine le_antisymm (Nat.sInf_le hmem) (le_csInf ⟨k, hmem⟩ fun n hn => ?_)
  have hn : (l + 1 + n) % 512 = 448 := hn
  omega

/-! ## The schedule -/

theorem schedule_of_lt {block : ℕ → Word} {t : ℕ} (h : t < 16) : schedule block t = block t := by
  rw [schedule, if_pos h]

theorem schedule_of_le {block : ℕ → Word} {t : ℕ} (h : 16 ≤ t) :
    schedule block t = lowerSigma1 (schedule block (t - 2)) + schedule block (t - 7) +
      lowerSigma0 (schedule block (t - 15)) + schedule block (t - 16) := by
  rw [schedule, if_neg (by omega)]

/-! ## Bits of words and bytes -/

@[simp] theorem length_wordBits {w : ℕ} (x : BitVec w) : (wordBits x).length = w :=
  List.length_ofFn

theorem getElem_wordBits {w i : ℕ} (x : BitVec w) (hi : i < (wordBits x).length) :
    (wordBits x)[i] = x.getMsbD i := by
  simp [wordBits]

@[simp] theorem bytesBits_append (xs ys : Bytes) :
    bytesBits (xs ++ ys) = bytesBits xs ++ bytesBits ys :=
  List.flatMap_append

@[simp] theorem length_bytesBits (bytes : Bytes) : (bytesBits bytes).length = 8 * bytes.length := by
  simp [bytesBits, List.length_flatMap, Nat.mul_comm]

/-- **The bits of a byte string**, byte by byte. -/
theorem getD_bytesBits (bytes : Bytes) (q : ℕ) {r : ℕ} (hr : r < 8) :
    (bytesBits bytes).getD (8 * q + r) false = (bytes.getD q 0).toBitVec.getMsbD r := by
  induction bytes generalizing q with
  | nil => simp [bytesBits]
  | cons b bytes ih =>
    have hcons : bytesBits (b :: bytes) = wordBits b.toBitVec ++ bytesBits bytes := rfl
    cases q with
    | zero =>
      rw [hcons, Nat.mul_zero, Nat.zero_add, List.getD_append _ _ _ _ (by simpa using hr),
        List.getD_eq_getElem _ _ (by simpa using hr), getElem_wordBits]
      rfl
    | succ q =>
      rw [hcons, List.getD_append_right _ _ _ _ (by simp; omega), length_wordBits,
        show 8 * (q + 1) + r - 8 = 8 * q + r by omega, ih]
      rfl

theorem getMsbD_messageWord (padded : Bits) (i j : ℕ) {n : ℕ} (hn : n < 32) :
    (messageWord padded i j).getMsbD n = padded.getD (512 * i + 32 * j + n) false := by
  rw [messageWord, BitVec.getMsbD_cast, BitVec.getMsbD_ofBoolListBE,
    List.getD_eq_getElem _ _ (by simpa using hn), List.getElem_ofFn]

end Machinery.Sha256
