import BlobstreamX.Commitment.DataCommitment
import BlobstreamX.Commitment.HeaderChain

namespace BlobstreamX.Commitment

section ProveDataCommitment

variable (G : Gadgets) (C : Consts)

/-- `prove_data_commitment::<WINDOW_RANGE, NB_LEAVES>`: the commitment over the given data hashes
from the trusted height on, next to the constraints of the header chain. -/
def proveDataCommitment {R : Nat} (N : Nat) (input : CelestiaHeaderChainProofInput C R)
    (dataHashes : Mathlib.Vector (Bytes 32) R) : Circuit (Bytes 32) := do
  let dataCommitment := getDataCommitment G R N dataHashes input.trustedHeader.height
  proveHeaderChain G C input
  pure dataCommitment

/-- The 32 bytes a protobuf-encoded data hash leaf carries after its two-byte prefix. -/
def leafDataHash {n : Nat} (leaf : Bytes n) : List UInt8 := (leaf.toList.drop 2).take 32

theorem proveDataCommitment_holds {R : Nat} (N : Nat)
    (input : CelestiaHeaderChainProofInput C R) (dataHashes : Mathlib.Vector (Bytes 32) R) :
    (proveDataCommitment G C N input dataHashes).Holds ↔ (proveHeaderChain G C input).Holds := by
  simp [proveDataCommitment]

/-- Next to any header chain that passes, a first data hash other than the one proven under the
trusted header passes as well. -/
theorem proveDataCommitment_accepts_unproven_dataHash {R : Nat} (N : Nat)
    (input : CelestiaHeaderChainProofInput C (R + 1)) (h : (proveHeaderChain G C input).Holds) :
    ∃ dataHashes : Mathlib.Vector (Bytes 32) (R + 1),
      (proveDataCommitment G C N input dataHashes).Holds ∧
        (dataHashes.get 0).toList ≠
          leafDataHash (input.dataHashProofs.get (Fin.last R)).leaf := by
  by_cases hz : leafDataHash (input.dataHashProofs.get (Fin.last R)).leaf = List.replicate 32 0
  · refine ⟨Mathlib.Vector.replicate _ (Mathlib.Vector.replicate 32 1),
      (proveDataCommitment_holds G C N input _).mpr h, ?_⟩
    rw [hz, Mathlib.Vector.get_replicate, toList_vector_replicate]; decide
  · exact ⟨Mathlib.Vector.replicate _ (Mathlib.Vector.replicate 32 0),
      (proveDataCommitment_holds G C N input _).mpr h, Ne.symm hz⟩

end ProveDataCommitment

def shallowConsts : Consts := ⟨0, 34, 34, le_rfl⟩

/-- A one-block window from height 1 back to height 0 in which every hash is zero. -/
def zeroWindow : CelestiaHeaderChainProofInput shallowConsts 1 where
  currentHeader := ⟨Mathlib.Vector.replicate 32 0, Mathlib.Vector.nil, 0, 1⟩
  trustedHeader := ⟨Mathlib.Vector.replicate 32 0, Mathlib.Vector.nil, 0, 0⟩
  dataHashProofs :=
    Mathlib.Vector.replicate 1 ⟨Mathlib.Vector.replicate 34 0, Mathlib.Vector.nil⟩
  prevHeaderProofs :=
    Mathlib.Vector.replicate 1 ⟨Mathlib.Vector.replicate 34 0, Mathlib.Vector.nil⟩

theorem proveDataCommitment_accepts_unproven_dataHash_zeroWindow :
    (proveHeaderChain zeroRootGadgets shallowConsts zeroWindow).Holds ∧
      ∃ dataHashes : Mathlib.Vector (Bytes 32) 1,
        (proveDataCommitment zeroRootGadgets shallowConsts 1 zeroWindow dataHashes).Holds ∧
          (dataHashes.get 0).toList ≠
            leafDataHash (zeroWindow.dataHashProofs.get (Fin.last 0)).leaf :=
  have h : (proveHeaderChain zeroRootGadgets shallowConsts zeroWindow).Holds := by decide
  ⟨h,
    proveDataCommitment_accepts_unproven_dataHash zeroRootGadgets shallowConsts 1 zeroWindow h⟩

section Heights

open scoped UInt64.CommRing

variable (G : Gadgets) (C : Consts)

theorem uint64_ofNat_eq_natCast (n : Nat) : UInt64.ofNat n = (n : UInt64) := rfl

theorem add_ofNat_eq_sub_ofNat {current trusted : UInt64} {R i : Nat} (hi : i ≤ R)
    (h : current - trusted = UInt64.ofNat R) :
    trusted + UInt64.ofNat i = current - UInt64.ofNat (R - i) := by
  rw [sub_eq_iff_eq_add] at h
  simp only [h, uint64_ofNat_eq_natCast, Nat.cast_sub hi]
  ring

/-- In every witness that passes, the root commits data hash `i` at height `R - i` below the
verified current height. -/
theorem proveDataCommitment_out_of_holds {R : Nat} (N : Nat)
    (input : CelestiaHeaderChainProofInput C R) (dataHashes : Mathlib.Vector (Bytes 32) R)
    (h : (proveDataCommitment G C N input dataHashes).Holds) :
    (proveDataCommitment G C N input dataHashes).out =
      G.computeRootFromLeaves N
        (List.ofFn fun i : Fin N => if hi : i.val < R then
            encodeDataRootTuple (dataHashes.get ⟨i, hi⟩)
              (input.currentHeader.height - UInt64.ofNat (R - i))
          else Mathlib.Vector.replicate 64 0)
        (List.ofFn fun i : Fin N => decide (i.val < R)) := by
  have hdiff := ((holds_proveHeaderChain G C _).mp ((proveDataCommitment_holds G C N _ _).mp h)).1
  simp only [proveDataCommitment, Circuit.out_bind, Circuit.out_pure, getDataCommitment,
    dataCommitmentLeaves_fst, dataCommitmentLeaves_snd]
  refine congrArg (G.computeRootFromLeaves N · _) (congrArg List.ofFn (funext fun i => ?_))
  split_ifs with hi
  · rw [add_ofNat_eq_sub_ofNat hi.le hdiff]
  · rfl

theorem proveDataCommitment_out_of_holds_zeroWindow :
    (proveDataCommitment zeroRootGadgets shallowConsts 1 zeroWindow
        (Mathlib.Vector.replicate 1 (Mathlib.Vector.replicate 32 0))).Holds ∧
      (proveDataCommitment zeroRootGadgets shallowConsts 1 zeroWindow
          (Mathlib.Vector.replicate 1 (Mathlib.Vector.replicate 32 0))).out =
        zeroRootGadgets.computeRootFromLeaves 1
          (List.ofFn fun i : Fin 1 => if hi : i.val < 1 then
              encodeDataRootTuple
                ((Mathlib.Vector.replicate 1 (Mathlib.Vector.replicate 32 0)).get ⟨i, hi⟩)
                (zeroWindow.currentHeader.height - UInt64.ofNat (1 - i))
            else Mathlib.Vector.replicate 64 0)
          (List.ofFn fun i : Fin 1 => decide (i.val < 1)) :=
  have h : (proveDataCommitment zeroRootGadgets shallowConsts 1 zeroWindow
      (Mathlib.Vector.replicate 1 (Mathlib.Vector.replicate 32 0))).Holds := by decide
  ⟨h, proveDataCommitment_out_of_holds zeroRootGadgets shallowConsts 1 zeroWindow _ h⟩

end Heights

end BlobstreamX.Commitment
