import BlobstreamX.Commitment.Variables
import Mathlib.Data.List.OfFn
import Mathlib.Data.List.GetD
import Mathlib.Data.UInt

namespace BlobstreamX.Commitment

/-- `Vec::resize`: cut to `n` elements, or pad with copies of `x` up to `n`. -/
def resize {α : Type} (v : List α) (n : Nat) (x : α) : List α :=
  v.take n ++ List.replicate (n - v.length) x

theorem resize_eq_ofFn {α : Type} (v : List α) (n : Nat) (x : α) :
    resize v n x = List.ofFn fun i : Fin n => v.getD i x := by
  unfold resize
  refine List.ext_getElem (by simp; omega) fun i h₁ h₂ => ?_
  simp only [List.length_ofFn] at h₂
  rw [List.getElem_ofFn]
  rcases Nat.lt_or_ge i v.length with h | h
  · rw [List.getElem_append_left (by simp; omega), List.getElem_take, List.getD_eq_getElem _ _ h]
  · rw [List.getElem_append_right (by simp; omega), List.getElem_replicate,
      List.getD_eq_default _ _ h]

/-- The leaves and enabled flags `get_data_commitment` hands to `compute_root_from_leaves`, both
resized to `NB_LEAVES`. -/
def dataCommitmentLeaves (R N : Nat) (dataHashes : Mathlib.Vector (Bytes 32) R)
    (startBlock : UInt64) : List (Bytes 64) × List Bool :=
  let leaves := List.ofFn fun i : Fin R =>
    encodeDataRootTuple (dataHashes.get i) (startBlock + UInt64.ofNat i)
  (resize leaves N (Mathlib.Vector.replicate 64 0), resize (resize [] R true) N false)

/-- `get_data_commitment::<WINDOW_RANGE, NB_LEAVES>`. -/
def getDataCommitment (G : Gadgets) (R N : Nat) (dataHashes : Mathlib.Vector (Bytes 32) R)
    (startBlock : UInt64) : Bytes 32 :=
  let leaves := dataCommitmentLeaves R N dataHashes startBlock
  G.computeRootFromLeaves N leaves.1 leaves.2

theorem dataCommitmentLeaves_fst (R N : Nat) (dataHashes : Mathlib.Vector (Bytes 32) R)
    (startBlock : UInt64) :
    (dataCommitmentLeaves R N dataHashes startBlock).1 =
      List.ofFn fun i : Fin N => if h : i.val < R then
          encodeDataRootTuple (dataHashes.get ⟨i, h⟩) (startBlock + UInt64.ofNat i)
        else Mathlib.Vector.replicate 64 0 := by
  simp only [dataCommitmentLeaves, resize_eq_ofFn]
  congr 1; funext i
  split_ifs with h
  · rw [List.getD_eq_getElem _ _ (by simpa using h), List.getElem_ofFn]
  · rw [List.getD_eq_default _ _ (by simpa using h)]

theorem dataCommitmentLeaves_snd (R N : Nat) (dataHashes : Mathlib.Vector (Bytes 32) R)
    (startBlock : UInt64) :
    (dataCommitmentLeaves R N dataHashes startBlock).2 =
      List.ofFn fun i : Fin N => decide (i.val < R) := by
  simp only [dataCommitmentLeaves, resize_eq_ofFn, List.getD_nil]
  congr 1; funext i
  by_cases h : i.val < R
  · rw [List.getD_eq_getElem _ _ (by simpa using h), List.getElem_ofFn, decide_eq_true h]
  · rw [List.getD_eq_default _ _ (by simpa using h), decide_eq_false h]

/-- `get_data_commitment` passes exactly `NB_LEAVES` leaves: the tuples of the first
`WINDOW_RANGE` data hashes, enabled, then disabled zero tuples. -/
theorem getDataCommitment_eq (G : Gadgets) (R N : Nat) (dataHashes : Mathlib.Vector (Bytes 32) R)
    (startBlock : UInt64) :
    getDataCommitment G R N dataHashes startBlock =
      G.computeRootFromLeaves N
        (List.ofFn fun i : Fin N => if h : i.val < R then
            encodeDataRootTuple (dataHashes.get ⟨i, h⟩) (startBlock + UInt64.ofNat i)
          else Mathlib.Vector.replicate 64 0)
        (List.ofFn fun i : Fin N => decide (i.val < R)) := by
  simp only [getDataCommitment, dataCommitmentLeaves_fst, dataCommitmentLeaves_snd]

/-- A stand-in for `compute_root_from_leaves` whose root, 32 copies of the byte sum of all leaves,
changes with any one leaf byte. -/
def byteSumGadgets : Gadgets :=
  ⟨fun _ => Mathlib.Vector.replicate 32 0, fun _ _ _ _ => pure (),
    fun _ leaves _ => Mathlib.Vector.replicate 32 (leaves.map fun l => l.toList.sum).sum⟩

set_option maxRecDepth 2000 in
theorem getDataCommitment_drops_excess :
    getDataCommitment byteSumGadgets 2 1
        (Mathlib.Vector.replicate 32 0 ::ᵥ Mathlib.Vector.replicate 32 1 ::ᵥ Mathlib.Vector.nil)
        0 =
      getDataCommitment byteSumGadgets 2 1
        (Mathlib.Vector.replicate 32 0 ::ᵥ Mathlib.Vector.replicate 32 0 ::ᵥ Mathlib.Vector.nil)
        0 ∧
    getDataCommitment byteSumGadgets 2 2
        (Mathlib.Vector.replicate 32 0 ::ᵥ Mathlib.Vector.replicate 32 1 ::ᵥ Mathlib.Vector.nil)
        0 ≠
      getDataCommitment byteSumGadgets 2 2
        (Mathlib.Vector.replicate 32 0 ::ᵥ Mathlib.Vector.replicate 32 0 ::ᵥ Mathlib.Vector.nil)
        0 :=
  ⟨by decide, by decide⟩

/-- Two leaf lists under one list of flags, different but with one root: a collision of
`compute_root_from_leaves`. -/
def RootCollision (G : Gadgets) (N : Nat) (leaves leaves' : List (Bytes 64))
    (enabled : List Bool) : Prop :=
  leaves ≠ leaves' ∧
    G.computeRootFromLeaves N leaves enabled = G.computeRootFromLeaves N leaves' enabled

/-- Within its capacity the commitment binds the window: two windows with one root have the same
start height and data hashes, or their leaf lists collide in `compute_root_from_leaves`. -/
theorem getDataCommitment_binding {R N : Nat} (hR : 0 < R) (hRN : R ≤ N) (G : Gadgets)
    {dataHashes dataHashes' : Mathlib.Vector (Bytes 32) R} {startBlock startBlock' : UInt64}
    (h : getDataCommitment G R N dataHashes startBlock =
      getDataCommitment G R N dataHashes' startBlock') :
    (dataHashes = dataHashes' ∧ startBlock = startBlock') ∨
      RootCollision G N
        (List.ofFn fun i : Fin N => if hi : i.val < R then
            encodeDataRootTuple (dataHashes.get ⟨i, hi⟩) (startBlock + UInt64.ofNat i)
          else Mathlib.Vector.replicate 64 0)
        (List.ofFn fun i : Fin N => if hi : i.val < R then
            encodeDataRootTuple (dataHashes'.get ⟨i, hi⟩) (startBlock' + UInt64.ofNat i)
          else Mathlib.Vector.replicate 64 0)
        (List.ofFn fun i : Fin N => decide (i.val < R)) := by
  simp only [getDataCommitment, dataCommitmentLeaves_fst, dataCommitmentLeaves_snd] at h
  refine or_iff_not_imp_right.mpr fun hc => ?_
  have hl := not_not.mp fun hne => hc ⟨hne, h⟩
  have hi (i : Fin R) := congrFun (List.ofFn_injective hl) ⟨i, by omega⟩
  simp only [Fin.is_lt, dif_pos, Fin.eta] at hi
  have h0 := (encodeDataRootTuple_inj (hi ⟨0, hR⟩)).2
  exact ⟨Mathlib.Vector.ext fun i => (encodeDataRootTuple_inj (hi i)).1, by simpa using h0⟩

/-- A stand-in for the external gadgets under which every Merkle root is 32 zero bytes. -/
def zeroRootGadgets : Gadgets :=
  ⟨fun _ => Mathlib.Vector.replicate 32 0, fun _ _ _ _ => pure (),
    fun _ _ _ => Mathlib.Vector.replicate 32 0⟩

theorem getDataCommitment_binding_zeroRoot :
    0 < 1 ∧ 1 ≤ 1 ∧
      getDataCommitment zeroRootGadgets 1 1
          (Mathlib.Vector.replicate 1 (Mathlib.Vector.replicate 32 0)) 0 =
        getDataCommitment zeroRootGadgets 1 1
          (Mathlib.Vector.replicate 1 (Mathlib.Vector.replicate 32 1)) 0 ∧
      ((Mathlib.Vector.replicate 1 (Mathlib.Vector.replicate 32 (0 : UInt8)) =
          Mathlib.Vector.replicate 1 (Mathlib.Vector.replicate 32 1) ∧ (0 : UInt64) = 0) ∨
        RootCollision zeroRootGadgets 1
          (List.ofFn fun i : Fin 1 => if hi : i.val < 1 then
              encodeDataRootTuple
                ((Mathlib.Vector.replicate 1 (Mathlib.Vector.replicate 32 0)).get ⟨i, hi⟩)
                (0 + UInt64.ofNat i)
            else Mathlib.Vector.replicate 64 0)
          (List.ofFn fun i : Fin 1 => if hi : i.val < 1 then
              encodeDataRootTuple
                ((Mathlib.Vector.replicate 1 (Mathlib.Vector.replicate 32 1)).get ⟨i, hi⟩)
                (0 + UInt64.ofNat i)
            else Mathlib.Vector.replicate 64 0)
          (List.ofFn fun i : Fin 1 => decide (i.val < 1))) :=
  ⟨by decide, le_rfl, rfl,
    @getDataCommitment_binding 1 1 (by decide) le_rfl zeroRootGadgets
      (Mathlib.Vector.replicate 1 (Mathlib.Vector.replicate 32 0))
      (Mathlib.Vector.replicate 1 (Mathlib.Vector.replicate 32 1)) 0 0 rfl⟩

end BlobstreamX.Commitment
