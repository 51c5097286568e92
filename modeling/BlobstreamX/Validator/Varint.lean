import BlobstreamX.Validator.Bits
import Mathlib.Data.ZMod.Basic
import Mathlib.Data.Nat.Bitwise

namespace BlobstreamX.Validator

open Protobuf

/-- `I64Target`: a voting power as two 32-bit limbs, the lower one first. -/
structure I64Target where
  lower : UInt32
  upper : UInt32
  deriving DecidableEq

def I64Target.value (x : I64Target) : Nat := x.lower.toNat + 2 ^ 32 * x.upper.toNat

theorem I64Target.value_lt (x : I64Target) : x.value < 2 ^ 64 := by
  have h₁ : x.lower.toNat < 2 ^ 32 := x.lower.val.isLt
  have h₂ : x.upper.toNat < 2 ^ 32 := x.upper.val.isLt
  unfold value; omega

/-- `u32_to_bits_le`. Modelled from the spec: the 32 bits of a limb, least significant first. -/
def u32ToBitsLe (x : UInt32) : List Bool := List.ofFn fun i : Fin 32 => x.toNat.testBit i

theorem getD_u32ToBitsLe (x : UInt32) (k : Nat) :
    (u32ToBitsLe x).getD k false = x.toNat.testBit k := by
  rcases Nat.lt_or_ge k 32 with hk | hk
  · rw [u32ToBitsLe, List.getD_eq_getElem _ _ (by rwa [List.length_ofFn]), List.getElem_ofFn]
  · rw [List.getD_eq_default _ _ (by rwa [u32ToBitsLe, List.length_ofFn]), eq_comm]
    exact Nat.testBit_eq_false_of_lt ((x.val.isLt : x.toNat < 2 ^ 32).trans_le
      (Nat.pow_le_pow_right (by decide : 0 < 2) hk))

/-- `voting_power_bits`: the bits of both limbs, lower limb first. -/
def votingPowerBits (votingPower : I64Target) : List Bool :=
  u32ToBitsLe votingPower.lower ++ u32ToBitsLe votingPower.upper

theorem getD_votingPowerBits (x : I64Target) (k : Nat) :
    (votingPowerBits x).getD k false = x.value.testBit k := by
  have hlen : (u32ToBitsLe x.lower).length = 32 := List.length_ofFn _
  rw [I64Target.value, Nat.add_comm,
    Nat.testBit_mul_pow_two_add _ (show x.lower.toNat < 2 ^ 32 from x.lower.val.isLt)]
  unfold votingPowerBits
  split_ifs with hk
  · rw [List.getD_append _ _ _ _ (by omega), getD_u32ToBitsLe]
  · rw [List.getD_append_right _ _ _ _ (by omega), hlen, getD_u32ToBitsLe]

/-- `VOTING_POWER_BYTES_LEN_MAX`. -/
def votingPowerBytesLenMax : Nat := 9

section Field

variable (p : Nat)

/-- The inner loop building septet `i`: `septet = base * bit + septet` for `j < 7`, `base = 2^j`. -/
def septet (bits : List Bool) (i : Nat) : Nat → ZMod p
  | 0 => 0
  | j + 1 => (2 : ZMod p) ^ j * ((bits.getD (i * 7 + j) false).toNat : ZMod p) + septet bits i j

/-- The loop for `last_seen_non_zero_septet_idx`: each non-zero septet's index is selected in
place of the one held so far. -/
def lastSeenNonZeroSeptetIdx (isZeroSeptets : Nat → Bool) : Nat → ZMod p
  | 0 => 0
  | i + 1 => if !isZeroSeptets i then (i : ZMod p) else lastSeenNonZeroSeptetIdx isZeroSeptets i

/-- The loop for `is_lt_last_non_zero_septet_idx`: the OR over the candidates `j` below the bound
of `diff == j`. -/
def isLtLastNonZeroSeptetIdx (diff : ZMod p) : Nat → Bool
  | 0 => false
  | j + 1 => isLtLastNonZeroSeptetIdx diff j || decide (diff = (j : ZMod p))

/-- `marshal_int64_varint` over the field `ZMod p`: nine bytes holding seven bits of the voting
power each, the high bit set when the field difference `last - (i + 1)` is a small candidate. -/
def marshalInt64Varint (votingPower : I64Target) : List Bool :=
  let votingPowerBits := votingPowerBits votingPower
  let isZeroSeptets := fun i => decide (septet p votingPowerBits i 7 = 0)
  let lastSeen := lastSeenNonZeroSeptetIdx p isZeroSeptets votingPowerBytesLenMax
  (List.range votingPowerBytesLenMax).flatMap fun i =>
    (List.range 7).map (fun j => votingPowerBits.getD (i * 7 + j) false) ++
      [isLtLastNonZeroSeptetIdx p (lastSeen - ((i + 1 : Nat) : ZMod p)) votingPowerBytesLenMax]

end Field

/-- The Goldilocks prime, the order of plonky2's `RichField`. -/
def goldilocks : Nat := 2 ^ 64 - 2 ^ 32 + 1

section Loops

variable {p : Nat}

theorem natCast_inj_of_lt {a b : Nat} (ha : a < p) (hb : b < p) : (a : ZMod p) = b ↔ a = b := by
  rw [ZMod.natCast_eq_natCast_iff', Nat.mod_eq_of_lt ha, Nat.mod_eq_of_lt hb]

theorem natCast_eq_zero_of_lt {a : Nat} (ha : a < p) : (a : ZMod p) = 0 ↔ a = 0 := by
  rw [ZMod.natCast_zmod_eq_zero_iff_dvd]
  exact ⟨fun h => Nat.eq_zero_of_dvd_of_lt h ha, fun h => h ▸ dvd_zero p⟩

theorem septet_eq (bits : List Bool) (i j : Nat) :
    septet p bits i j =
      (leValue ((List.range j).map fun k => bits.getD (i * 7 + k) false) : ZMod p) := by
  induction j with
  | zero => simp [septet, leValue]
  | succ j ih =>
    rw [septet, ih, List.range_succ, List.map_append, leValue_append]
    simp [leValue]; ring

theorem leValue_septetBits (x : I64Target) (i : Nat) :
    leValue ((List.range 7).map fun j => (votingPowerBits x).getD (i * 7 + j) false) =
      group x.value i := by
  simp only [getD_votingPowerBits, leValue_testBit, group, pow_mul']
  norm_num

theorem septet_votingPowerBits (x : I64Target) (i : Nat) :
    septet p (votingPowerBits x) i 7 = (group x.value i : ZMod p) := by
  rw [septet_eq, leValue_septetBits]

/-- Run lemma of the selection loop: once it has passed the last non-zero septet `L`, it holds
`L`, whatever it held before. -/
theorem lastSeenNonZeroSeptetIdx_eq (f : Nat → Nat) {L n : Nat} (hLn : L + 1 ≤ n)
    (hz : ∀ i, L < i → i < n → f i = 0) (hL : L = 0 ∨ f L ≠ 0) :
    lastSeenNonZeroSeptetIdx p (fun i => decide (f i = 0)) n = L := by
  induction n, hLn using Nat.le_induction with
  | base => rcases hL with rfl | h <;> simp [lastSeenNonZeroSeptetIdx, *]
  | succ n hn ih =>
    rw [lastSeenNonZeroSeptetIdx, if_neg (by simp [hz n (by omega) (by omega)]),
      ih fun i h₁ h₂ => hz i h₁ (by omega)]

theorem isLtLastNonZeroSeptetIdx_iff (diff : ZMod p) (n : Nat) :
    isLtLastNonZeroSeptetIdx p diff n = true ↔ ∃ j < n, diff = j := by
  induction n with
  | zero => simp [isLtLastNonZeroSeptetIdx]
  | succ n ih =>
    simp [isLtLastNonZeroSeptetIdx, ih, Nat.lt_succ_iff_lt_or_eq, or_and_right, exists_or]

theorem isLtLastNonZeroSeptetIdx_sub (hp : 128 ≤ p) {L i : Nat} (hL : L < 9) (hi : i < 9) :
    isLtLastNonZeroSeptetIdx p ((L : ZMod p) - ((i + 1 : Nat) : ZMod p)) 9 = decide (i < L) := by
  rw [Bool.eq_iff_iff, isLtLastNonZeroSeptetIdx_iff, decide_eq_true_iff]
  constructor
  · rintro ⟨j, hj, h⟩
    rw [sub_eq_iff_eq_add, ← Nat.cast_add, natCast_inj_of_lt (by omega) (by omega)] at h
    omega
  · intro h
    refine ⟨L - (i + 1), by omega, ?_⟩
    rw [sub_eq_iff_eq_add, ← Nat.cast_add]
    congr 1; omega

end Loops

theorem septet_congr {bits bits' : List Bool} {i j : Nat}
    (h : ∀ k < j, bits.getD (i * 7 + k) false = bits'.getD (i * 7 + k) false) :
    septet p bits i j = septet p bits' i j := by
  induction j with
  | zero => rfl
  | succ j ih =>
    rw [septet, septet, h j (by omega), ih fun k hk => h k (by omega)]

theorem lastSeenNonZeroSeptetIdx_congr {f g : Nat → Bool} {n : Nat} (h : ∀ i < n, f i = g i) :
    lastSeenNonZeroSeptetIdx p f n = lastSeenNonZeroSeptetIdx p g n := by
  induction n with
  | zero => rfl
  | succ n ih =>
    rw [lastSeenNonZeroSeptetIdx, lastSeenNonZeroSeptetIdx, h n (by omega),
      ih fun i hi => h i (by omega)]

theorem marshalInt64Varint_congr {x y : I64Target}
    (h : ∀ k < 63, (votingPowerBits x).getD k false = (votingPowerBits y).getD k false) :
    marshalInt64Varint p x = marshalInt64Varint p y := by
  have hs : ∀ i < 9, septet p (votingPowerBits x) i 7 = septet p (votingPowerBits y) i 7 :=
    fun i hi => septet_congr fun k hk => h _ (by omega)
  unfold marshalInt64Varint
  simp only [votingPowerBytesLenMax]
  rw [lastSeenNonZeroSeptetIdx_congr fun i hi => by rw [hs i hi]]
  refine List.flatMap_congr fun i hi => ?_
  rw [List.map_congr_left fun j hj => h _ (by simp at hi hj; omega)]

/-- Bit 63 of the voting power is dropped in every field: values equal modulo `2^63` marshal to
the same bits. -/
theorem marshalInt64Varint_mod_two_pow (p : Nat) {x y : I64Target}
    (h : x.value % 2 ^ 63 = y.value % 2 ^ 63) : marshalInt64Varint p x = marshalInt64Varint p y :=
  marshalInt64Varint_congr fun k hk => by
    have hb := congrArg (Nat.testBit · k) h
    simp only [Nat.testBit_mod_two_pow, hk, decide_True, Bool.true_and] at hb
    rw [getD_votingPowerBits, getD_votingPowerBits, hb]

theorem marshalInt64Varint_mod_two_pow_two_pow :
    I64Target.value ⟨0, 0⟩ % 2 ^ 63 = I64Target.value ⟨0, 2147483648⟩ % 2 ^ 63 ∧
      marshalInt64Varint goldilocks ⟨0, 0⟩ =
        marshalInt64Varint goldilocks ⟨0, 2147483648⟩ :=
  ⟨by decide, marshalInt64Varint_mod_two_pow goldilocks (by decide)⟩

theorem group_mod_two_pow (v : Nat) {i : Nat} (hi : i < 9) : group (v % 2 ^ 63) i = group v i := by
  have h : 2 ^ 63 = 128 ^ i * (128 * 128 ^ (8 - i)) := by
    rw [← pow_succ', ← pow_add, show i + (8 - i + 1) = 9 by omega]; norm_num
  rw [group, group, h, Nat.mod_mul_right_div_self, Nat.mod_mul_right_mod]

theorem lastSeenNonZeroSeptetIdx_votingPowerBits {p : Nat} (hp : 128 ≤ p) (x : I64Target) :
    lastSeenNonZeroSeptetIdx p (fun i => decide (septet p (votingPowerBits x) i 7 = 0)) 9 =
      ((encodeVarint (x.value % 2 ^ 63)).length - 1 : Nat) := by
  set w := x.value % 2 ^ 63
  have hpos := length_encodeVarint_pos w
  have hlen : (encodeVarint w).length ≤ 9 :=
    length_encodeVarint_le (by norm_num) ((Nat.mod_lt _ (by norm_num)).trans_le (by norm_num))
  have hgroup : ∀ i < 9, group x.value i = group w i := fun i hi => (group_mod_two_pow _ hi).symm
  have hz : (fun i => decide (septet p (votingPowerBits x) i 7 = 0)) =
      fun i => decide (group x.value i = 0) := funext fun i => by
    rw [septet_votingPowerBits, decide_eq_decide]
    exact natCast_eq_zero_of_lt ((group_lt _ _).trans_le hp)
  rw [hz]
  refine lastSeenNonZeroSeptetIdx_eq _ (by omega) (fun i h₁ h₂ => ?_) ?_
  · rw [hgroup i h₂]; exact group_eq_zero_of_length_le (by omega)
  · rcases Nat.lt_or_ge 1 (encodeVarint w).length with h | h
    · right; rw [hgroup _ (by omega)]; exact group_length_sub_one_ne_zero h
    · left; omega

/-- `marshal_int64_varint` is the protobuf varint of the voting power's low 63 bits, zero padded
to nine bytes. -/
theorem marshalInt64Varint_bytes {p : Nat} (hp : 128 ≤ p) (x : I64Target) :
    toBytes 9 (marshalInt64Varint p x) = padZeros 9 (encodeVarint (x.value % 2 ^ 63)) := by
  set w := x.value % 2 ^ 63 with hwdef
  have hw : w < 128 ^ (8 + 1) := (Nat.mod_lt _ (by norm_num)).trans_le (by norm_num)
  have hlen := length_encodeVarint_le (by norm_num) hw
  rw [padZeros_encodeVarint 8 w hw, marshalInt64Varint]
  simp only [votingPowerBytesLenMax]
  rw [lastSeenNonZeroSeptetIdx_votingPowerBits hp, ← hwdef,
    toBytes_flatMap_range _ _ fun i => by simp]
  refine List.map_congr_left fun i hi => ?_
  have hi : i < 9 := List.mem_range.mp hi
  rw [leValue_append, leValue_septetBits, isLtLastNonZeroSeptetIdx_sub hp (by omega) hi,
    ← group_mod_two_pow x.value hi, ← hwdef]
  by_cases h : i + 1 < (encodeVarint w).length
  · simp [leValue, h, show i < (encodeVarint w).length - 1 by omega]
  · simp [leValue, h, show ¬ i < (encodeVarint w).length - 1 by omega]

theorem decodeVarint_marshalInt64Varint {p : Nat} (hp : 128 ≤ p) {x : I64Target}
    (h : x.value < 2 ^ 63) :
    decodeVarint (toBytes 9 (marshalInt64Varint p x)) =
      some (x.value, List.replicate (9 - (encodeVarint x.value).length) 0) := by
  rw [marshalInt64Varint_bytes hp, Nat.mod_eq_of_lt h, padZeros, decodeVarint_encodeVarint]

/-- Below `2^63` the marshalled voting power is its minimal varint, `⌈bitlen v / 7⌉` bytes long
with `bitlen 0 = 1`, and the protobuf decoder reads the value back from the nine bytes. -/
theorem marshalInt64Varint_spec {p : Nat} (hp : 128 ≤ p) (x : I64Target) :
    toBytes 9 (marshalInt64Varint p x) = padZeros 9 (encodeVarint (x.value % 2 ^ 63)) ∧
    (x.value < 2 ^ 63 →
      (encodeVarint x.value).length = (max 1 x.value.size + 6) / 7 ∧
      decodeVarint (toBytes 9 (marshalInt64Varint p x)) =
        some (x.value, List.replicate (9 - (encodeVarint x.value).length) 0)) :=
  ⟨marshalInt64Varint_bytes hp x, fun h =>
    ⟨length_encodeVarint _, decodeVarint_marshalInt64Varint hp h⟩⟩

example : toBytes 9 (marshalInt64Varint goldilocks ⟨1234567890, 0⟩) =
    [210, 133, 216, 204, 4, 0, 0, 0, 0] := by
  decide

theorem marshalInt64Varint_spec_goldilocks : 128 ≤ goldilocks ∧
    (toBytes 9 (marshalInt64Varint goldilocks ⟨1234567890, 0⟩) =
        padZeros 9 (encodeVarint ((I64Target.value ⟨1234567890, 0⟩) % 2 ^ 63)) ∧
      (I64Target.value ⟨1234567890, 0⟩ < 2 ^ 63 →
        (encodeVarint (I64Target.value ⟨1234567890, 0⟩)).length =
            (max 1 (I64Target.value ⟨1234567890, 0⟩).size + 6) / 7 ∧
          decodeVarint (toBytes 9 (marshalInt64Varint goldilocks ⟨1234567890, 0⟩)) =
            some (I64Target.value ⟨1234567890, 0⟩,
              List.replicate
                (9 - (encodeVarint (I64Target.value ⟨1234567890, 0⟩)).length) 0))) :=
  ⟨by norm_num [goldilocks],
    marshalInt64Varint_spec (by norm_num [goldilocks]) ⟨1234567890, 0⟩⟩

end BlobstreamX.Validator
