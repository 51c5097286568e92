import BlobstreamX.Protobuf.Varint
import Mathlib.Data.List.OfFn
import Mathlib.Data.List.GetD

namespace BlobstreamX.Validator

/-- The value of a little-endian bit list. -/
def leValue : List Bool → Nat
  | [] => 0
  | b :: bs => b.toNat + 2 * leValue bs

theorem leValue_append (l l' : List Bool) :
    leValue (l ++ l') = leValue l + 2 ^ l.length * leValue l' := by
  induction l with
  | nil => simp [leValue]
  | cons b l ih => rw [List.cons_append, leValue, leValue, ih, List.length_cons, pow_succ]; ring

theorem leValue_testBit (x s k : Nat) :
    leValue ((List.range k).map fun j => x.testBit (s + j)) = x / 2 ^ s % 2 ^ k := by
  induction k with
  | zero => simp [leValue, Nat.mod_one]
  | succ k ih =>
    rw [List.range_succ, List.map_append, leValue_append, ih, Nat.mod_pow_succ]
    simp [leValue, Nat.toNat_testBit, Nat.div_div_eq_div_mul, ← pow_add]

/-- The first `n` bytes of a bit buffer, bit `8i+j` being bit `j` of byte `i`. -/
def toBytes : Nat → List Bool → List UInt8
  | 0, _ => []
  | n + 1, bits => UInt8.ofNat (leValue (bits.take 8)) :: toBytes n (bits.drop 8)

theorem length_toBytes (n : Nat) (l : List Bool) : (toBytes n l).length = n := by
  induction n generalizing l with
  | zero => rfl
  | succ n ih => simp [toBytes, ih]

theorem toBytes_append (n m : Nat) (l l' : List Bool) (hl : l.length = 8 * n) :
    toBytes (n + m) (l ++ l') = toBytes n l ++ toBytes m l' := by
  induction n generalizing l with
  | zero => simp_all [toBytes]
  | succ n ih =>
    rw [Nat.add_right_comm, toBytes, toBytes, List.take_append_of_le_length (by omega),
      List.drop_append_of_le_length (by omega), ih _ (by rw [List.length_drop, hl]; omega)]
    rfl

theorem toBytes_flatMap (is : List Nat) (f : Nat → List Bool) (hf : ∀ i, (f i).length = 8) :
    toBytes is.length (is.flatMap f) = is.map fun i => UInt8.ofNat (leValue (f i)) := by
  induction is with
  | nil => rfl
  | cons i is ih =>
    rw [List.flatMap_cons, List.length_cons, toBytes, List.take_left' (hf i),
      List.drop_left' (hf i), ih, List.map_cons]

theorem length_flatMap_of_length_eq (is : List Nat) (f : Nat → List Bool)
    (hf : ∀ i, (f i).length = 8) :
    (is.flatMap f).length = 8 * is.length := by
  induction is with
  | nil => rfl
  | cons i is ih => rw [List.flatMap_cons, List.length_append, ih, hf, List.length_cons]; ring

theorem toBytes_flatMap_range (n : Nat) (f : Nat → List Bool) (hf : ∀ i, (f i).length = 8) :
    toBytes n ((List.range n).flatMap f) =
      (List.range n).map fun i => UInt8.ofNat (leValue (f i)) := by
  simpa using toBytes_flatMap (List.range n) f hf

theorem flatMap_range_getD (n : Nat) (l : List Bool) (hl : l.length = 8 * n) :
    (List.range n).flatMap (fun i => (List.range 8).map fun j => l.getD (i * 8 + j) false) = l := by
  have hflat : ∀ m,
      (List.range m).flatMap (fun i => (List.range 8).map fun j => l.getD (i * 8 + j) false) =
        (List.range (8 * m)).map fun k => l.getD k false := by
    intro m
    induction m with
    | zero => rfl
    | succ m ih =>
      rw [List.range_succ, List.flatMap_append, List.flatMap_singleton, ih,
        show 8 * (m + 1) = 8 * m + 8 by ring, List.range_add, List.map_append, List.map_map,
        Nat.mul_comm m 8]
      rfl
  rw [hflat, ← hl]
  refine List.ext_getElem (by simp) fun k h₁ h₂ => ?_
  rw [List.getElem_map, List.getElem_range, List.getD_eq_getElem]

end BlobstreamX.Validator
