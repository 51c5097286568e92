import Mathlib.Data.Nat.Size
import Mathlib.Tactic.Linarith
import Mathlib.Tactic.Positivity
import Mathlib.Tactic.Ring

namespace BlobstreamX.Protobuf

@[simp] theorem toNat_uint8_ofNat (n : Nat) : (UInt8.ofNat n).toNat = n % 256 := rfl

@[simp] theorem uint8_ofNat_zero : UInt8.ofNat 0 = 0 := rfl

/-- The 7-bit group `i` of `v`, least significant group first. -/
def group (v i : Nat) : Nat := v / 128 ^ i % 128

theorem group_lt (v i : Nat) : group v i < 128 := Nat.mod_lt _ (by norm_num)

theorem group_zero (v : Nat) : group v 0 = v % 128 := by simp [group]

theorem group_succ (v i : Nat) : group v (i + 1) = group (v / 128) i := by
  simp only [group, pow_succ', Nat.div_div_eq_div_mul]

/-- The varint loop with `fuel` bounding its number of bytes. -/
def encodeVarintAux : Nat → Nat → List UInt8
  | 0, v => [UInt8.ofNat v]
  | fuel + 1, v =>
    if v < 128 then [UInt8.ofNat v]
    else UInt8.ofNat (v % 128 + 128) :: encodeVarintAux fuel (v / 128)

/-- Protobuf's base-128 varint of an unsigned value: 7-bit groups, least significant first, the
high bit set on every byte but the last. -/
def encodeVarint (v : Nat) : List UInt8 := encodeVarintAux v v

theorem encodeVarintAux_fuel (f₁ f₂ v : Nat) (h₁ : v ≤ f₁) (h₂ : v ≤ f₂) :
    encodeVarintAux f₁ v = encodeVarintAux f₂ v := by
  induction f₁ generalizing f₂ v with
  | zero => cases f₂ <;> simp_all [encodeVarintAux]
  | succ f₁ ih =>
    cases f₂ with
    | zero => simp_all [encodeVarintAux]
    | succ f₂ =>
      simp only [encodeVarintAux]
      split
      · rfl
      · rw [ih f₂ (v / 128) (by omega) (by omega)]

theorem encodeVarint_of_lt {v : Nat} (h : v < 128) : encodeVarint v = [UInt8.ofNat v] := by
  cases v <;> simp_all [encodeVarint, encodeVarintAux]

theorem encodeVarint_of_le {v : Nat} (h : 128 ≤ v) :
    encodeVarint v = UInt8.ofNat (v % 128 + 128) :: encodeVarint (v / 128) := by
  obtain ⟨f, rfl⟩ : ∃ f, v = f + 1 := ⟨v - 1, by omega⟩
  simp only [encodeVarint, encodeVarintAux, if_neg (show ¬ f + 1 < 128 by omega)]
  rw [encodeVarintAux_fuel f _ _ (by omega) le_rfl]

theorem length_encodeVarint_pos (v : Nat) : 0 < (encodeVarint v).length := by
  by_cases h : v < 128
  · simp [encodeVarint_of_lt h]
  · simp [encodeVarint_of_le (Nat.le_of_not_lt h)]

theorem lt_pow_length_encodeVarint (v : Nat) : v < 128 ^ (encodeVarint v).length := by
  induction v using Nat.strong_induction_on with
  | _ v ih =>
    by_cases h : v < 128
    · simpa [encodeVarint_of_lt h] using h
    · have hv := ih (v / 128) (by omega)
      rw [encodeVarint_of_le (by omega), List.length_cons, pow_succ]
      omega

theorem pow_length_encodeVarint_le (v : Nat) (h : 1 < (encodeVarint v).length) :
    128 ^ ((encodeVarint v).length - 1) ≤ v := by
  induction v using Nat.strong_induction_on with
  | _ v ih =>
    by_cases hv : v < 128
    · simp [encodeVarint_of_lt hv] at h
    · rw [encodeVarint_of_le (by omega)] at h ⊢
      rw [List.length_cons, Nat.add_sub_cancel]
      rcases Nat.lt_or_ge 1 (encodeVarint (v / 128)).length with hl | hl
      · have := ih (v / 128) (by omega) hl
        rw [← Nat.sub_add_cancel (Nat.le_of_lt hl), pow_succ]
        omega
      · have := length_encodeVarint_pos (v / 128)
        rw [show (encodeVarint (v / 128)).length = 1 by omega]
        omega

theorem length_encodeVarint_le {v n : Nat} (hn : 0 < n) (h : v < 128 ^ n) :
    (encodeVarint v).length ≤ n := by
  by_contra hlt
  have := pow_length_encodeVarint_le v (by omega)
  have := Nat.pow_le_pow_right (show 0 < 128 by norm_num)
    (show n ≤ (encodeVarint v).length - 1 by omega)
  omega

theorem length_encodeVarint (v : Nat) :
    (encodeVarint v).length = (max 1 v.size + 6) / 7 := by
  have hpos := length_encodeVarint_pos v
  have hsize : v.size ≤ 7 * (encodeVarint v).length :=
    Nat.size_le.mpr (by rw [pow_mul]; exact lt_pow_length_encodeVarint v)
  rcases Nat.lt_or_ge 1 (encodeVarint v).length with hl | hl
  · have : 7 * ((encodeVarint v).length - 1) < v.size :=
      Nat.lt_size.mpr (by rw [pow_mul]; exact pow_length_encodeVarint_le v hl)
    omega
  · omega

theorem group_eq_zero_of_length_le {v i : Nat} (h : (encodeVarint v).length ≤ i) :
    group v i = 0 := by
  have hlt : v < 128 ^ i :=
    (lt_pow_length_encodeVarint v).trans_le (Nat.pow_le_pow_right (by norm_num) h)
  simp [group, Nat.div_eq_of_lt hlt]

theorem group_length_sub_one_ne_zero {v : Nat} (h : 1 < (encodeVarint v).length) :
    group v ((encodeVarint v).length - 1) ≠ 0 := by
  have hle := pow_length_encodeVarint_le v h
  have hlt := lt_pow_length_encodeVarint v
  have hpos : 0 < 128 ^ ((encodeVarint v).length - 1) := by positivity
  rw [← Nat.sub_add_cancel (show 1 ≤ (encodeVarint v).length by omega), pow_succ] at hlt
  have hq : v / 128 ^ ((encodeVarint v).length - 1) < 128 := by
    rw [Nat.div_lt_iff_lt_mul hpos]; linarith
  have hq' : 1 ≤ v / 128 ^ ((encodeVarint v).length - 1) :=
    (Nat.le_div_iff_mul_le hpos).mpr (by linarith)
  simp only [group, Nat.mod_eq_of_lt hq]
  omega

/-- Protobuf's varint decoder: the low 7 bits of each byte, least significant group first, up to
and including the first byte with its high bit clear; returns the value and the bytes after it. -/
def decodeVarint : List UInt8 → Option (Nat × List UInt8)
  | [] => none
  | b :: bs =>
    if b.toNat < 128 then some (b.toNat, bs)
    else (decodeVarint bs).map fun r => (b.toNat % 128 + 128 * r.1, r.2)

theorem decodeVarint_encodeVarint (v : Nat) (rest : List UInt8) :
    decodeVarint (encodeVarint v ++ rest) = some (v, rest) := by
  induction v using Nat.strong_induction_on with
  | _ v ih =>
    by_cases h : v < 128
    · simp [encodeVarint_of_lt h, decodeVarint, h,
        Nat.mod_eq_of_lt (h.trans (by norm_num : 128 < 256))]
    · rw [encodeVarint_of_le (by omega), List.cons_append, decodeVarint, ih (v / 128) (by omega)]
      simp only [toNat_uint8_ofNat, Option.map_some']
      rw [if_neg (by omega)]
      congr 2
      omega

def padZeros (n : Nat) (l : List UInt8) : List UInt8 := l ++ List.replicate (n - l.length) 0

theorem length_padZeros {n : Nat} {l : List UInt8} (h : l.length ≤ n) :
    (padZeros n l).length = n := by
  simp [padZeros]; omega

theorem padZeros_encodeVarint (n v : Nat) (h : v < 128 ^ (n + 1)) :
    padZeros (n + 1) (encodeVarint v) = (List.range (n + 1)).map fun i =>
      UInt8.ofNat (group v i + if i + 1 < (encodeVarint v).length then 128 else 0) := by
  induction n generalizing v with
  | zero =>
    have hv : v < 128 := by simpa using h
    simp [padZeros, encodeVarint_of_lt hv, group_zero, Nat.mod_eq_of_lt hv, List.range_succ]
  | succ n ih =>
    rw [List.range_succ_eq_map, List.map_cons, List.map_map]
    by_cases hv : v < 128
    · have hone : (encodeVarint v).length = 1 := by simp [encodeVarint_of_lt hv]
      have hz : ∀ i, group v (i + 1) = 0 := fun i => group_eq_zero_of_length_le (by omega)
      simp [padZeros, encodeVarint_of_lt hv, hone, Function.comp_def, hz, group_zero,
        Nat.mod_eq_of_lt hv, List.map_const']
    · have hlt : v / 128 < 128 ^ (n + 1) := by
        rw [Nat.div_lt_iff_lt_mul (by norm_num), ← pow_succ]; exact h
      have hlen := length_encodeVarint_pos (v / 128)
      rw [encodeVarint_of_le (by omega)]
      simp only [padZeros, List.cons_append, List.length_cons, Nat.add_sub_add_right] at ih ⊢
      rw [ih _ hlt]
      simp [Function.comp_def, group_succ, group_zero, hlen]

/-! ## Messages -/

/-- A field's key: the field number and the wire type, as a varint. -/
def fieldKey (fieldNumber wireType : Nat) : List UInt8 := encodeVarint (fieldNumber * 8 + wireType)

/-- A length-delimited field (wire type 2): bytes and embedded messages. -/
def lengthDelimited (fieldNumber : Nat) (payload : List UInt8) : List UInt8 :=
  fieldKey fieldNumber 2 ++ encodeVarint payload.length ++ payload

theorem lengthDelimited_one_of_length_eq {payload : List UInt8} (h : payload.length = 32) :
    lengthDelimited 1 payload = [10, 32] ++ payload := by
  simp [lengthDelimited, fieldKey, h, encodeVarint_of_lt]

/-- Tendermint's `crypto.PublicKey` with its `ed25519` bytes (field 1 of the `sum` oneof) set. -/
def encodePublicKeyEd25519 (key : List UInt8) : List UInt8 := lengthDelimited 1 key

/-- proto3 encoding of Tendermint's `SimpleValidator { pub_key = 1; voting_power = 2 }` for a
non-negative voting power; proto3 leaves a zero `voting_power` out. -/
def encodeSimpleValidator (pubKey : List UInt8) (votingPower : Nat) : List UInt8 :=
  lengthDelimited 1 (encodePublicKeyEd25519 pubKey) ++
    if votingPower = 0 then [] else fieldKey 2 0 ++ encodeVarint votingPower

theorem encodeSimpleValidator_ed25519 (pubKey : List UInt8) (hk : pubKey.length = 32)
    {votingPower : Nat} (hv : votingPower ≠ 0) :
    encodeSimpleValidator pubKey votingPower =
      [10, 34, 10, 32] ++ pubKey ++ [16] ++ encodeVarint votingPower := by
  simp [encodeSimpleValidator, encodePublicKeyEd25519, lengthDelimited, fieldKey, hk, hv,
    encodeVarint_of_lt]

end BlobstreamX.Protobuf
