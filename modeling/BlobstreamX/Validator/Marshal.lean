import BlobstreamX.Validator.Varint

namespace BlobstreamX.Validator

open Protobuf

/-- `Ed25519PubkeyTarget`: a public key as 256 bits, bit `8i+j` being bit `j` of key byte `i`. -/
structure Ed25519PubkeyTarget where
  bits : List Bool
  length_bits : bits.length = 256

/-- `VALIDATOR_BYTES_LEN_MAX`. -/
def validatorBytesLenMax : Nat := 46

/-- `PUBKEY_BYTES_LEN`. -/
def pubkeyBytesLen : Nat := 32

/-- The validator buffer with its bit pointer `ptr`. -/
structure Buffer where
  bits : List Bool
  ptr : Nat

/-- `buffer[ptr] = bit; ptr += 1`. -/
def Buffer.write (s : Buffer) (bit : Bool) : Buffer := ⟨s.bits.set s.ptr bit, s.ptr + 1⟩

/-- The writes of one copy loop, in order. -/
def Buffer.writeAll (s : Buffer) (bits : List Bool) : Buffer := bits.foldl Buffer.write s

/-- A constant byte as the circuit lays it out: bit `j` is `(byte >> j) & 1`. -/
def constantBits (byte : Nat) : List Bool := (List.range 8).map fun j => byte.testBit j

/-- `marshal_tendermint_validator`: the prefix bytes `10 34 10 32`, the public key, the byte `16`
and the marshalled voting power, written bit after bit at the pointer `ptr`. -/
def marshalTendermintValidator (p : Nat) (pubkey : Ed25519PubkeyTarget) (votingPower : I64Target) :
    List Bool :=
  let s : Buffer := ⟨List.replicate (validatorBytesLenMax * 8) false, 0⟩
  let s := s.writeAll ([10, 34, 10, 32].flatMap constantBits)
  let s := s.writeAll ((List.range pubkeyBytesLen).flatMap fun i =>
    (List.range 8).map fun j => pubkey.bits.getD (i * 8 + j) false)
  let s := s.writeAll (constantBits 16)
  let votingPowerBits := marshalInt64Varint p votingPower
  let s := s.writeAll ((List.range votingPowerBytesLenMax).flatMap fun i =>
    (List.range 8).map fun j => votingPowerBits.getD (i * 8 + j) false)
  s.bits

theorem writeAll_replicate (pre bits : List Bool) (n ptr : Nat) (hptr : ptr = pre.length)
    (h : bits.length ≤ n) :
    Buffer.writeAll ⟨pre ++ List.replicate n false, ptr⟩ bits =
      ⟨pre ++ bits ++ List.replicate (n - bits.length) false, ptr + bits.length⟩ := by
  subst hptr
  induction bits generalizing pre n with
  | nil => simp [Buffer.writeAll]
  | cons b bits ih =>
    obtain ⟨n, rfl⟩ : ∃ m, n = m + 1 := ⟨n - 1, by simp at h; omega⟩
    have hw : Buffer.write ⟨pre ++ List.replicate (n + 1) false, pre.length⟩ b =
        ⟨(pre ++ [b]) ++ List.replicate n false, (pre ++ [b]).length⟩ := by
      simp [Buffer.write, List.set_append_right, List.replicate_succ]
    simp only [Buffer.writeAll, List.foldl_cons] at ih ⊢
    rw [hw, ih _ _ (by simp at h; omega)]
    simp [Nat.add_assoc, Nat.add_comm 1]

theorem length_marshalInt64Varint (p : Nat) (x : I64Target) :
    (marshalInt64Varint p x).length = 8 * 9 :=
  length_flatMap_of_length_eq _ _ fun i => by simp

theorem marshalTendermintValidator_eq (p : Nat) (pubkey : Ed25519PubkeyTarget)
    (x : I64Target) :
    marshalTendermintValidator p pubkey x =
      [10, 34, 10, 32].flatMap constantBits ++ pubkey.bits ++ constantBits 16 ++
        marshalInt64Varint p x := by
  have h0 : (⟨List.replicate (validatorBytesLenMax * 8) false, 0⟩ : Buffer) =
      ⟨[] ++ List.replicate 368 false, 0⟩ := rfl
  have hk := pubkey.length_bits
  have hv := length_marshalInt64Varint p x
  simp only [marshalTendermintValidator, h0, pubkeyBytesLen, votingPowerBytesLenMax]
  rw [flatMap_range_getD 32 _ (by simp [hk]), flatMap_range_getD 9 _ hv]
  repeat rw [writeAll_replicate _ _ _ _ (by simp [constantBits, hk])
    (by simp [constantBits, hk, hv])]
  simp [constantBits, hk, hv]

theorem toBytes_marshalTendermintValidator (p : Nat) (pubkey : Ed25519PubkeyTarget)
    (x : I64Target) :
    toBytes 46 (marshalTendermintValidator p pubkey x) =
      [10, 34, 10, 32] ++ toBytes 32 pubkey.bits ++ [16] ++
        toBytes 9 (marshalInt64Varint p x) := by
  rw [marshalTendermintValidator_eq, show 46 = 4 + (32 + (1 + 9)) from rfl, List.append_assoc,
    List.append_assoc, toBytes_append _ _ _ _ (by decide),
    toBytes_append _ _ _ _ pubkey.length_bits, toBytes_append _ _ _ _ (by decide)]
  rfl

/-- For a voting power `1 ≤ v < 2^63` the record is the proto3 `SimpleValidator` of the key and
`v`, `37 + ⌈bitlen v / 7⌉` bytes long, followed by zero bytes. -/
theorem marshalTendermintValidator_spec {p : Nat} (hp : 128 ≤ p) (pubkey : Ed25519PubkeyTarget)
    (x : I64Target) :
    toBytes 46 (marshalTendermintValidator p pubkey x) =
        [10, 34, 10, 32] ++ toBytes 32 pubkey.bits ++ [16] ++ toBytes 9 (marshalInt64Varint p x) ∧
      (1 ≤ x.value → x.value < 2 ^ 63 →
        (toBytes 46 (marshalTendermintValidator p pubkey x)).take
            (37 + (max 1 x.value.size + 6) / 7) =
            encodeSimpleValidator (toBytes 32 pubkey.bits) x.value ∧
          ∀ b ∈ (toBytes 46 (marshalTendermintValidator p pubkey x)).drop
            (37 + (max 1 x.value.size + 6) / 7), b = 0) := by
  refine ⟨toBytes_marshalTendermintValidator p pubkey x, fun h1 h63 => ?_⟩
  have hbytes : toBytes 46 (marshalTendermintValidator p pubkey x) =
      ([10, 34, 10, 32] ++ toBytes 32 pubkey.bits ++ [16] ++ encodeVarint x.value) ++
        List.replicate (9 - (encodeVarint x.value).length) 0 := by
    rw [toBytes_marshalTendermintValidator, marshalInt64Varint_bytes hp, Nat.mod_eq_of_lt h63,
      padZeros]
    simp only [List.append_assoc]
  have hlen :
      ([10, 34, 10, 32] ++ toBytes 32 pubkey.bits ++ [16] ++ encodeVarint x.value).length =
        37 + (max 1 x.value.size + 6) / 7 := by
    simp [length_toBytes, length_encodeVarint]; omega
  rw [hbytes, List.take_left' hlen, List.drop_left' hlen,
    encodeSimpleValidator_ed25519 _ (length_toBytes _ _) (by omega)]
  exact ⟨rfl, fun b hb => List.eq_of_mem_replicate hb⟩

theorem marshalTendermintValidator_spec_goldilocks : 128 ≤ goldilocks ∧
    (toBytes 46 (marshalTendermintValidator goldilocks
          ⟨List.replicate 256 false, List.length_replicate _ _⟩ ⟨1234567890, 0⟩) =
        [10, 34, 10, 32] ++ toBytes 32 (List.replicate 256 false) ++ [16] ++
          toBytes 9 (marshalInt64Varint goldilocks ⟨1234567890, 0⟩) ∧
      (1 ≤ I64Target.value ⟨1234567890, 0⟩ →
        I64Target.value ⟨1234567890, 0⟩ < 2 ^ 63 →
        (toBytes 46 (marshalTendermintValidator goldilocks
              ⟨List.replicate 256 false, List.length_replicate _ _⟩ ⟨1234567890, 0⟩)).take
            (37 + (max 1 (I64Target.value ⟨1234567890, 0⟩).size + 6) / 7) =
          encodeSimpleValidator (toBytes 32 (List.replicate 256 false))
            (I64Target.value ⟨1234567890, 0⟩) ∧
        ∀ b ∈ (toBytes 46 (marshalTendermintValidator goldilocks
              ⟨List.replicate 256 false, List.length_replicate _ _⟩ ⟨1234567890, 0⟩)).drop
            (37 + (max 1 (I64Target.value ⟨1234567890, 0⟩).size + 6) / 7),
          b = 0)) :=
  ⟨by norm_num [goldilocks],
    marshalTendermintValidator_spec (by norm_num [goldilocks])
      ⟨List.replicate 256 false, List.length_replicate _ _⟩ ⟨1234567890, 0⟩⟩

/-- Validators below the 63-bit bound marshal to distinct records: the record determines the key
and the voting power. -/
theorem marshalTendermintValidator_injective {p : Nat} (hp : 128 ≤ p)
    {pubkey pubkey' : Ed25519PubkeyTarget} {x x' : I64Target} (hx : x.value < 2 ^ 63)
    (hx' : x'.value < 2 ^ 63)
    (h : marshalTendermintValidator p pubkey x = marshalTendermintValidator p pubkey' x') :
    pubkey.bits = pubkey'.bits ∧ x.value = x'.value := by
  rw [marshalTendermintValidator_eq, marshalTendermintValidator_eq] at h
  simp only [List.append_assoc, List.append_cancel_left_eq] at h
  obtain ⟨hk, hv⟩ := List.append_inj h (pubkey.length_bits.trans pubkey'.length_bits.symm)
  have hd := decodeVarint_marshalInt64Varint hp hx
  rw [List.append_cancel_left hv, decodeVarint_marshalInt64Varint hp hx'] at hd
  exact ⟨hk, (Prod.mk.inj (Option.some.inj hd)).1.symm⟩

theorem marshalTendermintValidator_injective_goldilocks :
    128 ≤ goldilocks ∧ I64Target.value ⟨7, 0⟩ < 2 ^ 63 ∧
      (List.replicate 256 false = List.replicate 256 false ∧
        I64Target.value ⟨7, 0⟩ = I64Target.value ⟨7, 0⟩) :=
  ⟨by norm_num [goldilocks], by decide,
    @marshalTendermintValidator_injective goldilocks (by norm_num [goldilocks])
      ⟨List.replicate 256 false, List.length_replicate _ _⟩
      ⟨List.replicate 256 false, List.length_replicate _ _⟩ ⟨7, 0⟩ ⟨7, 0⟩
      (by decide) (by decide) rfl⟩

end BlobstreamX.Validator
