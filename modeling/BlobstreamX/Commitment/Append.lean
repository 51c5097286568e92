import BlobstreamX.Commitment.ProveDataCommitment

namespace BlobstreamX.Commitment

open scoped UInt64.CommRing

theorem vector_get_append_castAdd {α : Type} {n m : Nat} (v : Mathlib.Vector α n)
    (w : Mathlib.Vector α m) (i : Fin n) : (v.append w).get (Fin.castAdd m i) = v.get i := by
  obtain ⟨l, hl⟩ := v
  obtain ⟨l', hl'⟩ := w
  simp [Mathlib.Vector.get, Mathlib.Vector.append, List.getElem_append_left, hl]

theorem vector_get_append_natAdd {α : Type} {n m : Nat} (v : Mathlib.Vector α n)
    (w : Mathlib.Vector α m) (i : Fin m) : (v.append w).get (Fin.natAdd n i) = w.get i := by
  obtain ⟨l, rfl⟩ := v
  obtain ⟨l', hl'⟩ := w
  simp [Mathlib.Vector.get, Mathlib.Vector.append, List.getElem_append_right]

section Append

variable (G : Gadgets) (C : Consts)

/-- Two windows one after the other as one window: the first's current header, the second's
trusted header, and the first's proofs followed by the second's. -/
def CelestiaHeaderChainProofInput.append {R₁ R₂ : Nat}
    (a : CelestiaHeaderChainProofInput C R₁) (b : CelestiaHeaderChainProofInput C R₂) :
    CelestiaHeaderChainProofInput C (R₁ + R₂) :=
  ⟨a.currentHeader, b.trustedHeader, a.dataHashProofs.append b.dataHashProofs,
    a.prevHeaderProofs.append b.prevHeaderProofs⟩

variable {C} {R₁ R₂ : Nat} (curr : Bytes 32) (p₁ : Mathlib.Vector (PrevHeaderProof C) R₁)
  (p₂ : Mathlib.Vector (PrevHeaderProof C) R₂)

theorem walkHashes_append_castLE (k : Fin (R₁ + 1)) :
    walkHashes C curr (p₁.append p₂) (k.castLE (by omega)) = walkHashes C curr p₁ k := by
  cases k using Fin.cases with
  | zero => rfl
  | succ i =>
    rw [show (i.succ.castLE _ : Fin (R₁ + R₂ + 1)) = (Fin.castAdd R₂ i).succ from rfl]
    simp [walkHashes, vector_get_append_castAdd]

theorem walkHashes_append_natAdd {mid : Bytes 32}
    (hmid : walkHashes C curr p₁ (Fin.last R₁) = mid.toList) (j : Fin (R₂ + 1)) :
    walkHashes C curr (p₁.append p₂) (Fin.natAdd R₁ j) = walkHashes C mid p₂ j := by
  cases j using Fin.cases with
  | zero => exact (walkHashes_append_castLE curr p₁ p₂ (Fin.last R₁)).trans hmid
  | succ j =>
    rw [show (Fin.natAdd R₁ j.succ : Fin (R₁ + R₂ + 1)) = (Fin.natAdd R₁ j).succ from rfl]
    simp [walkHashes, vector_get_append_natAdd]

variable {G}

theorem headerChainLinked_append {a : CelestiaHeaderChainProofInput C R₁}
    {b : CelestiaHeaderChainProofInput C R₂} (ha : HeaderChainLinked G C a)
    (hb : HeaderChainLinked G C b) (hmid : a.trustedHeader.header = b.currentHeader.header) :
    HeaderChainLinked G C (a.append C b) := by
  obtain ⟨ha, haend⟩ := ha
  obtain ⟨hb, hbend⟩ := hb
  rw [hmid] at haend
  have hnat := walkHashes_append_natAdd a.currentHeader.header a.prevHeaderProofs
    b.prevHeaderProofs haend
  refine ⟨fun k => ?_, (hnat (Fin.last R₂)).trans hbend⟩
  induction k using Fin.addCases with
  | left i =>
    simp only [CelestiaHeaderChainProofInput.append, vector_get_append_castAdd]
    exact ⟨(ha i).1.trans (walkHashes_append_castLE _ _ _ i.castSucc).symm,
      (ha i).2.trans (walkHashes_append_castLE _ _ _ i.succ).symm⟩
  | right j =>
    simp only [CelestiaHeaderChainProofInput.append, vector_get_append_natAdd]
    exact ⟨(hb j).1.trans (hnat j.castSucc).symm, (hb j).2.trans (hnat j.succ).symm⟩

variable (G)

/-- Two accepted windows, the second starting at the header where the first ends, join into one
accepted window of the two lengths together. -/
theorem proveHeaderChain_append {a : CelestiaHeaderChainProofInput C R₁}
    {b : CelestiaHeaderChainProofInput C R₂} (ha : (proveHeaderChain G C a).Holds)
    (hb : (proveHeaderChain G C b).Holds) (hmid : a.trustedHeader = b.currentHeader) :
    (proveHeaderChain G C (a.append C b)).Holds := by
  obtain ⟨hda, hca, -, hla⟩ := (holds_proveHeaderChain G C a).mp ha
  obtain ⟨hdb, -, htb, hlb⟩ := (holds_proveHeaderChain G C b).mp hb
  have hdiff : a.currentHeader.height - b.trustedHeader.height = UInt64.ofNat (R₁ + R₂) := by
    rw [hmid, sub_eq_iff_eq_add] at hda
    rw [sub_eq_iff_eq_add] at hdb
    simp only [hda, hdb, uint64_ofNat_eq_natCast, Nat.cast_add]
    ring
  exact (holds_proveHeaderChain G C _).mpr
    ⟨hdiff, hca, htb, headerChainLinked_append hla hlb (congrArg HeaderVariable.header hmid)⟩

end Append

/-- The one-block window just above `zeroWindow`, from height 2 back to height 1. -/
def zeroWindowAbove : CelestiaHeaderChainProofInput shallowConsts 1 :=
  { zeroWindow with
    currentHeader := ⟨Mathlib.Vector.replicate 32 0, Mathlib.Vector.nil, 0, 2⟩
    trustedHeader := zeroWindow.currentHeader }

theorem proveHeaderChain_append_zeroWindowAbove :
    (proveHeaderChain zeroRootGadgets shallowConsts zeroWindowAbove).Holds ∧
      (proveHeaderChain zeroRootGadgets shallowConsts zeroWindow).Holds ∧
      zeroWindowAbove.trustedHeader = zeroWindow.currentHeader ∧
      (proveHeaderChain zeroRootGadgets shallowConsts
        (zeroWindowAbove.append shallowConsts zeroWindow)).Holds :=
  have ha : (proveHeaderChain zeroRootGadgets shallowConsts zeroWindowAbove).Holds := by decide
  have hb : (proveHeaderChain zeroRootGadgets shallowConsts zeroWindow).Holds := by decide
  ⟨ha, hb, rfl, proveHeaderChain_append zeroRootGadgets ha hb rfl⟩

end BlobstreamX.Commitment
