import BlobstreamX.Commitment.ProveDataCommitment

namespace BlobstreamX.Commitment

open Protobuf

/-- Headers `0` (trusted) to `R` (current) with an honest prover's Merkle proofs: the BlockID
leaf of header `k + 1` carries hash `k`, each proof verifying under its own header. -/
structure HonestWindow (G : Gadgets) (C : Consts) (R : Nat) where
  hash : Fin (R + 1) → Bytes 32
  dataHash : Fin R → Bytes 32
  blockIdProof : Fin R → PrevHeaderProof C
  dataHashProof : Fin R → DataHashProof C
  blockIdProof_root : ∀ k, G.getRootFromMerkleProof (blockIdProof k) = hash k.succ
  blockIdProof_leaf : ∀ k, ∃ rest,
    (blockIdProof k).leaf.toList = lengthDelimited 1 (hash k.castSucc).toList ++ rest
  dataHashProof_root : ∀ k, G.getRootFromMerkleProof (dataHashProof k) = hash k.castSucc
  dataHashProof_leaf : ∀ k, ∃ rest,
    (dataHashProof k).leaf.toList = lengthDelimited 1 (dataHash k).toList ++ rest

namespace HonestWindow

variable {G : Gadgets} {C : Consts} {R : Nat} (w : HonestWindow G C R)

/-- The circuit input an honest prover builds: both proof arrays listed from the current header
back to the trusted one, so that hop `i` is the header `R - i`. -/
@[simps]
def toInput (current trusted : HeaderVariable C) : CelestiaHeaderChainProofInput C R :=
  ⟨current, trusted, Mathlib.Vector.ofFn fun i => w.dataHashProof i.rev,
    Mathlib.Vector.ofFn fun i => w.blockIdProof i.rev⟩

theorem hashField_blockIdProof (k : Fin R) :
    ((w.blockIdProof k).leaf.toList.drop 2).take 32 = (w.hash k.castSucc).toList := by
  obtain ⟨rest, h⟩ := w.blockIdProof_leaf k
  simp [h, lengthDelimited_one_of_length_eq]

theorem leafDataHash_dataHashProof (k : Fin R) :
    leafDataHash (w.dataHashProof k).leaf = (w.dataHash k).toList := by
  obtain ⟨rest, h⟩ := w.dataHashProof_leaf k
  simp [leafDataHash, h, lengthDelimited_one_of_length_eq]

theorem walkHashes_toInput (current trusted : HeaderVariable C) (i : Fin (R + 1)) :
    walkHashes C (w.hash (Fin.last R)) (w.toInput current trusted).prevHeaderProofs i =
      (w.hash i.rev).toList := by
  cases i using Fin.cases with
  | zero => simp [walkHashes]
  | succ i => simp [walkHashes, hashField_blockIdProof, Fin.rev_succ]

theorem headerChainLinked_toInput {current trusted : HeaderVariable C}
    (hcur : current.header = w.hash (Fin.last R)) (htr : trusted.header = w.hash 0) :
    HeaderChainLinked G C (w.toInput current trusted) := by
  refine ⟨fun i => ⟨?_, ?_⟩, ?_⟩ <;>
    simp only [toInput_currentHeader, toInput_trustedHeader, hcur, htr, walkHashes_toInput]
  · simp [w.blockIdProof_root, Fin.rev_castSucc]
  · simp [w.dataHashProof_root, Fin.rev_succ]
  · simp

end HonestWindow

section Completeness

variable (G : Gadgets) (C : Consts)

/-- Every honest window is accepted, and the data hash it commits at height `trusted + j` is the
one in the leaf of `data_hash_proofs[R - 1 - j]`. -/
theorem proveDataCommitment_honestWindow {R : Nat} (w : HonestWindow G C R) (N : Nat)
    (current trusted : HeaderVariable C)
    (hcur : current.header = w.hash (Fin.last R)) (htr : trusted.header = w.hash 0)
    (hheight : current.height - trusted.height = UInt64.ofNat R)
    (hvc : (G.verifyBlockHeight current.header current.headerHeightProofAunts current.height
      current.heightByteLength).Holds)
    (hvt : (G.verifyBlockHeight trusted.header trusted.headerHeightProofAunts trusted.height
      trusted.heightByteLength).Holds) :
    (proveDataCommitment G C N (w.toInput current trusted)
        (Mathlib.Vector.ofFn w.dataHash)).Holds ∧
      ∀ j : Fin R, ((Mathlib.Vector.ofFn w.dataHash).get j).toList =
        leafDataHash ((w.toInput current trusted).dataHashProofs.get j.rev).leaf := by
  refine ⟨(proveDataCommitment_holds G C N _ _).mpr ((holds_proveHeaderChain G C _).mpr
    ⟨hheight, hvc, hvt, w.headerChainLinked_toInput hcur htr⟩), fun j => ?_⟩
  simp [HonestWindow.leafDataHash_dataHashProof]

end Completeness

def zeroHashLeaf : Bytes 34 := ⟨[10, 32] ++ List.replicate 32 0, by decide⟩

/-- A one-block honest window in which every hash is zero, under `zeroRootGadgets`. -/
def zeroHonestWindow : HonestWindow zeroRootGadgets shallowConsts 1 where
  hash _ := Mathlib.Vector.replicate 32 0
  dataHash _ := Mathlib.Vector.replicate 32 0
  blockIdProof _ := ⟨zeroHashLeaf, Mathlib.Vector.nil⟩
  dataHashProof _ := ⟨zeroHashLeaf, Mathlib.Vector.nil⟩
  blockIdProof_root _ := rfl
  blockIdProof_leaf _ := ⟨[], by simp [zeroHashLeaf, lengthDelimited_one_of_length_eq]⟩
  dataHashProof_root _ := rfl
  dataHashProof_leaf _ := ⟨[], by simp [zeroHashLeaf, lengthDelimited_one_of_length_eq]⟩

theorem proveDataCommitment_honestWindow_zero :
    zeroWindow.currentHeader.header = zeroHonestWindow.hash (Fin.last 1) ∧
      zeroWindow.trustedHeader.header = zeroHonestWindow.hash 0 ∧
      zeroWindow.currentHeader.height - zeroWindow.trustedHeader.height = UInt64.ofNat 1 ∧
      (zeroRootGadgets.verifyBlockHeight zeroWindow.currentHeader.header
        zeroWindow.currentHeader.headerHeightProofAunts zeroWindow.currentHeader.height
        zeroWindow.currentHeader.heightByteLength).Holds ∧
      (zeroRootGadgets.verifyBlockHeight zeroWindow.trustedHeader.header
        zeroWindow.trustedHeader.headerHeightProofAunts zeroWindow.trustedHeader.height
        zeroWindow.trustedHeader.heightByteLength).Holds ∧
      ((proveDataCommitment zeroRootGadgets shallowConsts 1
          (zeroHonestWindow.toInput zeroWindow.currentHeader zeroWindow.trustedHeader)
          (Mathlib.Vector.ofFn zeroHonestWindow.dataHash)).Holds ∧
        ∀ j : Fin 1, ((Mathlib.Vector.ofFn zeroHonestWindow.dataHash).get j).toList =
          leafDataHash ((zeroHonestWindow.toInput zeroWindow.currentHeader
            zeroWindow.trustedHeader).dataHashProofs.get j.rev).leaf) :=
  ⟨rfl, rfl, by decide, by decide, by decide,
    proveDataCommitment_honestWindow zeroRootGadgets shallowConsts zeroHonestWindow 1 _ _ rfl rfl
      (by decide) (by decide) (by decide)⟩

end BlobstreamX.Commitment
