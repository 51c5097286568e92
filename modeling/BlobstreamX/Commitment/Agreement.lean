import BlobstreamX.Commitment.ProveDataCommitment

namespace BlobstreamX.Commitment

section Agreement

variable (G : Gadgets) (C : Consts)

/-- Two Merkle proofs of one shape with different leaves and the same root: a collision of
`get_root_from_merkle_proof`. -/
def MerkleCollision {depth leafBytes : Nat} (p q : MerkleInclusionProof depth leafBytes) : Prop :=
  p.leaf ≠ q.leaf ∧ G.getRootFromMerkleProof p = G.getRootFromMerkleProof q

instance {depth leafBytes : Nat} (p q : MerkleInclusionProof depth leafBytes) :
    Decidable (MerkleCollision G p q) :=
  inferInstanceAs (Decidable (_ ∧ _))

theorem leaf_eq_or_merkleCollision {depth leafBytes : Nat}
    {p q : MerkleInclusionProof depth leafBytes}
    (h : G.getRootFromMerkleProof p = G.getRootFromMerkleProof q) :
    p.leaf = q.leaf ∨ MerkleCollision G p q :=
  (em (p.leaf = q.leaf)).imp_right fun hne => ⟨hne, h⟩

theorem walkHashes_congr {R : Nat} (curr : Bytes 32)
    {p p' : Mathlib.Vector (PrevHeaderProof C) R} (h : ∀ i, (p.get i).leaf = (p'.get i).leaf) :
    walkHashes C curr p = walkHashes C curr p' := by
  funext i
  cases i using Fin.cases <;> simp [walkHashes, h]

/-- Run lemma: two walks from one hash whose BlockID proofs verify under the walk read the same
BlockID leaves, or at some hop the two proofs collide. -/
theorem prevLeaves_eq_or_merkleCollision {R : Nat} (curr : Bytes 32)
    (p p' : Mathlib.Vector (PrevHeaderProof C) R)
    (h : ∀ i, (G.getRootFromMerkleProof (p.get i)).toList = walkHashes C curr p i.castSucc)
    (h' : ∀ i, (G.getRootFromMerkleProof (p'.get i)).toList = walkHashes C curr p' i.castSucc) :
    (∀ i, (p.get i).leaf = (p'.get i).leaf) ∨
      ∃ i, MerkleCollision G (p.get i) (p'.get i) := by
  induction R generalizing curr with
  | zero => exact Or.inl fun i => i.elim0
  | succ R ih =>
    have hroot : G.getRootFromMerkleProof (p.get 0) = G.getRootFromMerkleProof (p'.get 0) :=
      Mathlib.Vector.toList_injective ((h 0).trans (h' 0).symm)
    rcases leaf_eq_or_merkleCollision G hroot with hl | hc
    · have hhead : p'.head.leaf = p.head.leaf := by simpa using hl.symm
      have htail := ih (extractHashFromProtobuf 2 p.head.leaf C.block_id_fits) p.tail p'.tail
        (fun i => by rw [Mathlib.Vector.get_tail_succ, h, ← Fin.succ_castSucc, walkHashes_succ])
        (fun i => by
          rw [Mathlib.Vector.get_tail_succ, h', ← Fin.succ_castSucc, walkHashes_succ, hhead])
      simp only [Mathlib.Vector.get_tail_succ] at htail
      exact htail.imp (fun ht => Fin.cases hl ht) fun ⟨i, hc⟩ => ⟨i.succ, hc⟩
    · exact Or.inr ⟨0, hc⟩

/-- Two accepted header chains from one current header agree on the trusted header and on every
leaf, unless at some hop their Merkle proofs collide. -/
theorem proveHeaderChain_agree_or_merkleCollision {R : Nat}
    {input input' : CelestiaHeaderChainProofInput C R}
    (h : (proveHeaderChain G C input).Holds) (h' : (proveHeaderChain G C input').Holds)
    (hcur : input.currentHeader.header = input'.currentHeader.header) :
    (input.trustedHeader.header = input'.trustedHeader.header ∧
      ∀ i : Fin R, (input.prevHeaderProofs.get i).leaf = (input'.prevHeaderProofs.get i).leaf ∧
        (input.dataHashProofs.get i).leaf = (input'.dataHashProofs.get i).leaf) ∨
    ∃ i : Fin R,
      MerkleCollision G (input.prevHeaderProofs.get i) (input'.prevHeaderProofs.get i) ∨
        MerkleCollision G (input.dataHashProofs.get i) (input'.dataHashProofs.get i) := by
  obtain ⟨-, -, -, hl, hend⟩ := (holds_proveHeaderChain G C input).mp h
  obtain ⟨-, -, -, hl', hend'⟩ := (holds_proveHeaderChain G C input').mp h'
  rw [← hcur] at hl' hend'
  rcases prevLeaves_eq_or_merkleCollision G C _ _ _ (fun i => (hl i).1) (fun i => (hl' i).1)
    with hp | ⟨i, hc⟩
  · rw [← walkHashes_congr C input.currentHeader.header hp] at hl' hend'
    by_cases hd : ∀ i, (input.dataHashProofs.get i).leaf = (input'.dataHashProofs.get i).leaf
    · exact Or.inl ⟨Mathlib.Vector.toList_injective (hend.symm.trans hend'),
        fun i => ⟨hp i, hd i⟩⟩
    · obtain ⟨i, hi⟩ := not_forall.mp hd
      exact Or.inr ⟨i, Or.inr ⟨hi,
        Mathlib.Vector.toList_injective ((hl i).2.trans (hl' i).2.symm)⟩⟩
  · exact Or.inr ⟨i, Or.inl hc⟩

end Agreement

/-- `zeroWindow` with a data hash leaf of one-bytes: under `zeroRootGadgets` it is accepted too. -/
def otherDataWindow : CelestiaHeaderChainProofInput shallowConsts 1 :=
  { zeroWindow with
    dataHashProofs :=
      Mathlib.Vector.replicate 1 ⟨Mathlib.Vector.replicate 34 1, Mathlib.Vector.nil⟩ }

theorem proveHeaderChain_agree_or_merkleCollision_otherData :
    (proveHeaderChain zeroRootGadgets shallowConsts zeroWindow).Holds ∧
      (proveHeaderChain zeroRootGadgets shallowConsts otherDataWindow).Holds ∧
      zeroWindow.currentHeader.header = otherDataWindow.currentHeader.header ∧
      ((zeroWindow.trustedHeader.header = otherDataWindow.trustedHeader.header ∧
        ∀ i : Fin 1,
          (zeroWindow.prevHeaderProofs.get i).leaf =
              (otherDataWindow.prevHeaderProofs.get i).leaf ∧
            (zeroWindow.dataHashProofs.get i).leaf =
              (otherDataWindow.dataHashProofs.get i).leaf) ∨
        ∃ i : Fin 1,
          MerkleCollision zeroRootGadgets (zeroWindow.prevHeaderProofs.get i)
              (otherDataWindow.prevHeaderProofs.get i) ∨
            MerkleCollision zeroRootGadgets (zeroWindow.dataHashProofs.get i)
              (otherDataWindow.dataHashProofs.get i)) :=
  have h : (proveHeaderChain zeroRootGadgets shallowConsts zeroWindow).Holds := by decide
  have h' : (proveHeaderChain zeroRootGadgets shallowConsts otherDataWindow).Holds := by decide
  ⟨h, h', rfl, proveHeaderChain_agree_or_merkleCollision zeroRootGadgets shallowConsts h h' rfl⟩

end BlobstreamX.Commitment
