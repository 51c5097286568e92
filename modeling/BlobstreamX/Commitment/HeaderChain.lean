import BlobstreamX.Commitment.Variables

namespace BlobstreamX.Commitment

section HeaderChain

variable (G : Gadgets) (C : Consts)

/-- One hop of the walk: the BlockID leaf is proven under the current hash, the previous header's
hash is taken out of it, and the data hash leaf is proven under that hash. -/
def proveHeaderChainStep (currHeaderHash : Bytes 32) (dataHashProof : DataHashProof C)
    (prevHeaderProof : PrevHeaderProof C) : Circuit (Bytes 32) := do
  let dataHashProofRoot := G.getRootFromMerkleProof dataHashProof
  let prevHeaderProofRoot := G.getRootFromMerkleProof prevHeaderProof
  assertIsEqual prevHeaderProofRoot currHeaderHash
  let prevHeaderHash := extractHashFromProtobuf 2 prevHeaderProof.leaf C.block_id_fits
  assertIsEqual dataHashProofRoot prevHeaderHash
  pure prevHeaderHash

/-- The `for i in 0..WINDOW_RANGE` loop, taking both proof arrays from the current header on. -/
def proveHeaderChainLoop : (R : Nat) → Bytes 32 → Mathlib.Vector (DataHashProof C) R →
    Mathlib.Vector (PrevHeaderProof C) R → Circuit (Bytes 32)
  | 0, currHeaderHash, _, _ => pure currHeaderHash
  | R + 1, currHeaderHash, dataHashProofs, prevHeaderProofs => do
    let prevHeaderHash ←
      proveHeaderChainStep G C currHeaderHash dataHashProofs.head prevHeaderProofs.head
    proveHeaderChainLoop R prevHeaderHash dataHashProofs.tail prevHeaderProofs.tail

/-- `prove_header_chain::<WINDOW_RANGE>`. -/
def proveHeaderChain {R : Nat} (input : CelestiaHeaderChainProofInput C R) : Circuit Unit := do
  let heightDiff := input.currentHeader.height - input.trustedHeader.height
  assertIsEqual heightDiff (UInt64.ofNat R)
  G.verifyBlockHeight input.currentHeader.header input.currentHeader.headerHeightProofAunts
    input.currentHeader.height input.currentHeader.heightByteLength
  G.verifyBlockHeight input.trustedHeader.header input.trustedHeader.headerHeightProofAunts
    input.trustedHeader.height input.trustedHeader.heightByteLength
  let currHeaderHash ← proveHeaderChainLoop G C R input.currentHeader.header input.dataHashProofs
    input.prevHeaderProofs
  assertIsEqual currHeaderHash input.trustedHeader.header

/-- The hashes of the backward walk, as byte lists: `h 0` is the current header's hash and
`h (i + 1)` is bytes `[2, 34)` of the BlockID leaf of hop `i`. -/
def walkHashes {R : Nat} (currHeaderHash : Bytes 32)
    (prevHeaderProofs : Mathlib.Vector (PrevHeaderProof C) R) : Fin (R + 1) → List UInt8 :=
  Fin.cons currHeaderHash.toList fun i => ((prevHeaderProofs.get i).leaf.toList.drop 2).take 32

/-- The backward hash-link walk: hop `i` proves its BlockID leaf under `h i` and its data hash
leaf under `h (i + 1)`, and `h R` is the trusted header's hash. -/
def HeaderChainLinked {R : Nat} (input : CelestiaHeaderChainProofInput C R) : Prop :=
  (∀ i : Fin R,
    (G.getRootFromMerkleProof (input.prevHeaderProofs.get i)).toList =
        walkHashes C input.currentHeader.header input.prevHeaderProofs i.castSucc ∧
      (G.getRootFromMerkleProof (input.dataHashProofs.get i)).toList =
        walkHashes C input.currentHeader.header input.prevHeaderProofs i.succ) ∧
    walkHashes C input.currentHeader.header input.prevHeaderProofs (Fin.last R) =
      input.trustedHeader.header.toList

theorem proveHeaderChainStep_out (curr : Bytes 32) (dataHashProof : DataHashProof C)
    (prevHeaderProof : PrevHeaderProof C) :
    (proveHeaderChainStep G C curr dataHashProof prevHeaderProof).out =
      extractHashFromProtobuf 2 prevHeaderProof.leaf C.block_id_fits :=
  rfl

theorem proveHeaderChainStep_holds (curr : Bytes 32) (dataHashProof : DataHashProof C)
    (prevHeaderProof : PrevHeaderProof C) :
    (proveHeaderChainStep G C curr dataHashProof prevHeaderProof).Holds ↔
      (G.getRootFromMerkleProof prevHeaderProof).toList = curr.toList ∧
        (G.getRootFromMerkleProof dataHashProof).toList =
          (prevHeaderProof.leaf.toList.drop 2).take 32 := by
  simp [proveHeaderChainStep, ← Mathlib.Vector.toList_injective.eq_iff]

theorem walkHashes_succ {R : Nat} (curr : Bytes 32)
    (prevHeaderProofs : Mathlib.Vector (PrevHeaderProof C) (R + 1)) (i : Fin (R + 1)) :
    walkHashes C curr prevHeaderProofs i.succ =
      walkHashes C (extractHashFromProtobuf 2 prevHeaderProofs.head.leaf C.block_id_fits)
        prevHeaderProofs.tail i := by
  cases i using Fin.cases <;> simp [walkHashes, Mathlib.Vector.get_tail_succ]

/-- Run lemma of the loop: it ends on the last hash of the walk, and its constraints hold exactly
when every hop is linked. -/
theorem proveHeaderChainLoop_spec (R : Nat) (curr : Bytes 32)
    (dataHashProofs : Mathlib.Vector (DataHashProof C) R)
    (prevHeaderProofs : Mathlib.Vector (PrevHeaderProof C) R) :
    (proveHeaderChainLoop G C R curr dataHashProofs prevHeaderProofs).out.toList =
        walkHashes C curr prevHeaderProofs (Fin.last R) ∧
      ((proveHeaderChainLoop G C R curr dataHashProofs prevHeaderProofs).Holds ↔
        ∀ i : Fin R,
          (G.getRootFromMerkleProof (prevHeaderProofs.get i)).toList =
              walkHashes C curr prevHeaderProofs i.castSucc ∧
            (G.getRootFromMerkleProof (dataHashProofs.get i)).toList =
              walkHashes C curr prevHeaderProofs i.succ) := by
  induction R generalizing curr with
  | zero => simp [proveHeaderChainLoop, walkHashes]
  | succ R ih =>
    obtain ⟨hout, hholds⟩ :=
      ih (extractHashFromProtobuf 2 prevHeaderProofs.head.leaf C.block_id_fits)
        dataHashProofs.tail prevHeaderProofs.tail
    simp only [proveHeaderChainLoop, Circuit.out_bind, Circuit.holds_bind, proveHeaderChainStep_out,
      proveHeaderChainStep_holds, hout, hholds, Fin.forall_fin_succ, ← Fin.succ_last,
      ← Fin.succ_castSucc, walkHashes_succ, Mathlib.Vector.get_tail_succ, Mathlib.Vector.get_zero]
    simp [walkHashes]

theorem holds_proveHeaderChain {R : Nat} (input : CelestiaHeaderChainProofInput C R) :
    (proveHeaderChain G C input).Holds ↔
      input.currentHeader.height - input.trustedHeader.height = UInt64.ofNat R ∧
        (G.verifyBlockHeight input.currentHeader.header input.currentHeader.headerHeightProofAunts
          input.currentHeader.height input.currentHeader.heightByteLength).Holds ∧
        (G.verifyBlockHeight input.trustedHeader.header input.trustedHeader.headerHeightProofAunts
          input.trustedHeader.height input.trustedHeader.heightByteLength).Holds ∧
        HeaderChainLinked G C input := by
  obtain ⟨hout, hholds⟩ := proveHeaderChainLoop_spec G C R input.currentHeader.header
    input.dataHashProofs input.prevHeaderProofs
  simp only [proveHeaderChain, Circuit.holds_bind, holds_assertIsEqual, Circuit.out_bind,
    ← Mathlib.Vector.toList_injective.eq_iff, hout, hholds, HeaderChainLinked, and_assoc]

/-- The constraints of `prove_header_chain` hold exactly when the heights differ by the window,
both height proofs verify, and the proofs form the backward hash-link walk. -/
theorem proveHeaderChain_holds_iff {R : Nat} (input : CelestiaHeaderChainProofInput C R) :
    (proveHeaderChain G C input).Holds ↔
      input.currentHeader.height - input.trustedHeader.height = UInt64.ofNat R ∧
        (G.verifyBlockHeight input.currentHeader.header input.currentHeader.headerHeightProofAunts
          input.currentHeader.height input.currentHeader.heightByteLength).Holds ∧
        (G.verifyBlockHeight input.trustedHeader.header input.trustedHeader.headerHeightProofAunts
          input.trustedHeader.height input.trustedHeader.heightByteLength).Holds ∧
        HeaderChainLinked G C input :=
  holds_proveHeaderChain G C input

end HeaderChain

end BlobstreamX.Commitment
