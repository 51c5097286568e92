import BlobstreamX.Circuit.Builder
import BlobstreamX.Protobuf.Varint

namespace BlobstreamX.Commitment

open Protobuf

/-- The `n` big-endian bytes of `v`, most significant first. -/
def beBytes : Nat → Nat → List UInt8
  | 0, _ => []
  | n + 1, v => beBytes n (v / 256) ++ [UInt8.ofNat (v % 256)]

@[simp] theorem length_beBytes (n v : Nat) : (beBytes n v).length = n := by
  induction n generalizing v with
  | zero => rfl
  | succ n ih => simp [beBytes, ih]

/-- The number a big-endian byte string spells. -/
def beValue (l : List UInt8) : Nat := l.foldl (fun acc b => 256 * acc + b.toNat) 0

theorem beValue_beBytes (n v : Nat) : beValue (beBytes n v) = v % 256 ^ n := by
  induction n generalizing v with
  | zero => simp [beBytes, beValue, Nat.mod_one]
  | succ n ih =>
    have h := ih (v / 256)
    simp only [beValue] at h ⊢
    rw [beBytes, List.foldl_append, h, pow_succ', Nat.mod_mul]
    simp [Nat.mod_eq_of_lt (Nat.mod_lt v (by norm_num : 0 < 256))]
    ring

theorem beBytes_add (m n v : Nat) : beBytes (m + n) v = beBytes m (v / 256 ^ n) ++ beBytes n v := by
  induction n generalizing v with
  | zero => simp [beBytes]
  | succ n ih => rw [← Nat.add_assoc, beBytes, ih, beBytes, List.append_assoc, pow_succ',
      Nat.div_div_eq_div_mul]

theorem beBytes_zero (n : Nat) : beBytes n 0 = List.replicate n 0 := by
  induction n with
  | zero => rfl
  | succ n ih => rw [beBytes, Nat.zero_div, ih, List.replicate_succ']; rfl

/-- `U64Variable::encode`. Modelled from the spec: the eight big-endian bytes of the value. -/
def encodeU64 (v : UInt64) : Bytes 8 := ⟨beBytes 8 v.toNat, length_beBytes _ _⟩

/-- `encode_data_root_tuple`: 24 zero bytes, the eight bytes of the height, the data hash. -/
def encodeDataRootTuple (dataHash : Bytes 32) (height : UInt64) : Bytes 64 :=
  ((Mathlib.Vector.replicate 24 0).append (encodeU64 height)).append dataHash

/-- Solidity's `abi.encode(uint256 h, bytes32 d)`: the 32-byte big-endian word of `h`, then `d`. -/
def abiEncodeUint256Bytes32 (h : Nat) (d : Bytes 32) : List UInt8 := beBytes 32 h ++ d.toList

/-- The on-chain decoding of a data root tuple: its height word and its data hash. -/
def decodeDataRootTuple (tuple : Bytes 64) : Nat × List UInt8 :=
  (beValue (tuple.toList.take 32), tuple.toList.drop 32)

theorem encodeDataRootTuple_eq_abi (dataHash : Bytes 32) (height : UInt64) :
    (encodeDataRootTuple dataHash height).toList =
      abiEncodeUint256Bytes32 height.toNat dataHash := by
  have hlt : height.toNat < 256 ^ 8 := height.val.isLt
  simp only [encodeDataRootTuple, encodeU64, abiEncodeUint256Bytes32,
    Mathlib.Vector.toList_append, toList_vector_replicate, show 32 = 24 + 8 from rfl,
    beBytes_add, Nat.div_eq_of_lt hlt, beBytes_zero]
  rfl

theorem decodeDataRootTuple_encodeDataRootTuple (dataHash : Bytes 32) (height : UInt64) :
    decodeDataRootTuple (encodeDataRootTuple dataHash height) =
      (height.toNat, dataHash.toList) := by
  have hlt : height.toNat < 256 ^ 32 := height.val.isLt.trans (by norm_num)
  rw [decodeDataRootTuple, encodeDataRootTuple_eq_abi, abiEncodeUint256Bytes32,
    List.take_left' (length_beBytes _ _), List.drop_left' (length_beBytes _ _), beValue_beBytes,
    Nat.mod_eq_of_lt hlt]

theorem encodeDataRootTuple_inj {dataHash dataHash' : Bytes 32} {height height' : UInt64}
    (h : encodeDataRootTuple dataHash height = encodeDataRootTuple dataHash' height') :
    dataHash = dataHash' ∧ height = height' := by
  have hd := decodeDataRootTuple_encodeDataRootTuple dataHash height
  rw [h, decodeDataRootTuple_encodeDataRootTuple, Prod.mk.injEq] at hd
  exact ⟨Mathlib.Vector.eq _ _ hd.2.symm, UInt64.toNat.inj hd.1.symm⟩

/-- A data root tuple is the ABI word of the height followed by the data hash; the decoder gets
both back, so distinct `(height, hash)` pairs give distinct tuples. -/
theorem encodeDataRootTuple_spec (dataHash : Bytes 32) (height : UInt64) :
    (encodeDataRootTuple dataHash height).toList =
        abiEncodeUint256Bytes32 height.toNat dataHash ∧
      decodeDataRootTuple (encodeDataRootTuple dataHash height) =
        (height.toNat, dataHash.toList) ∧
      ∀ dataHash' height',
        encodeDataRootTuple dataHash height = encodeDataRootTuple dataHash' height' →
          dataHash = dataHash' ∧ height = height' :=
  ⟨encodeDataRootTuple_eq_abi _ _, decodeDataRootTuple_encodeDataRootTuple _ _,
    fun _ _ => encodeDataRootTuple_inj⟩

example : (encodeDataRootTuple (Mathlib.Vector.replicate 32 255) 256).toList =
    List.replicate 24 0 ++ [0, 0, 0, 0, 0, 0, 1, 0] ++ List.replicate 32 255 := by
  decide

/-- `extract_hash_from_protobuf::<START_BYTE, N>`: the 32 bytes from `START_BYTE` on, which must
lie inside the buffer for the circuit to be built at all. -/
def extractHashFromProtobuf {n : Nat} (startByte : Nat) (bytes : Bytes n)
    (h : startByte + 32 ≤ n) : Bytes 32 :=
  ⟨(bytes.toList.drop startByte).take 32, by simp; omega⟩

@[simp] theorem toList_extractHashFromProtobuf {n : Nat} (startByte : Nat) (bytes : Bytes n)
    (h : startByte + 32 ≤ n) :
    (extractHashFromProtobuf startByte bytes h).toList = (bytes.toList.drop startByte).take 32 :=
  rfl

/-- `encode_marshalled_varint`: the Merkle leaf prefix `0x00` and the key `0x08` of field 1, then
the nine marshalled bytes. -/
def encodeMarshalledVarint (marshalledVarint : Bytes 9) : Bytes 11 :=
  Mathlib.Vector.cons 0 (Mathlib.Vector.cons 8 marshalledVarint)

end BlobstreamX.Commitment
