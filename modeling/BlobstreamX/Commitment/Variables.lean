import BlobstreamX.Commitment.Encoding

namespace BlobstreamX.Commitment

/-- The sizes `crate::consts` fixes (not among the sources); a BlockID leaf carries its hash at
bytes `[2, 34)`. -/
structure Consts where
  headerProofDepth : Nat
  protobufHashSizeBytes : Nat
  protobufBlockIdSizeBytes : Nat
  block_id_fits : 2 + 32 ≤ protobufBlockIdSizeBytes

/-- `MerkleInclusionProofVariable<DEPTH, LEAF_BYTES>`. -/
structure MerkleInclusionProof (depth leafBytes : Nat) where
  leaf : Bytes leafBytes
  aunts : Mathlib.Vector (Bytes 32) depth
  deriving DecidableEq

/-- The proof of a header's data hash leaf, `PROTOBUF_HASH_SIZE_BYTES` long. -/
abbrev DataHashProof (C : Consts) := MerkleInclusionProof C.headerProofDepth C.protobufHashSizeBytes

/-- The proof of a header's BlockID leaf, `PROTOBUF_BLOCK_ID_SIZE_BYTES` long. -/
abbrev PrevHeaderProof (C : Consts) :=
  MerkleInclusionProof C.headerProofDepth C.protobufBlockIdSizeBytes

/-- `HeaderVariable`; of `header_height_proof` the circuit reads the aunts only. -/
structure HeaderVariable (C : Consts) where
  header : Bytes 32
  headerHeightProofAunts : Mathlib.Vector (Bytes 32) C.headerProofDepth
  heightByteLength : UInt32
  height : UInt64

/-- `CelestiaHeaderChainProofInputVariable<WINDOW_RANGE>`; both proof arrays run from the
current header back towards the trusted one. -/
structure CelestiaHeaderChainProofInput (C : Consts) (R : Nat) where
  currentHeader : HeaderVariable C
  trustedHeader : HeaderVariable C
  dataHashProofs : Mathlib.Vector (DataHashProof C) R
  prevHeaderProofs : Mathlib.Vector (PrevHeaderProof C) R

/-- The gadgets the commitment circuit takes from the rest of the builder, each as the function
of wire values its constraints pin down. -/
structure Gadgets where
  /-- `get_root_from_merkle_proof`: the root the leaf hashes up to along its aunts. -/
  getRootFromMerkleProof :
    {depth leafBytes : Nat} → MerkleInclusionProof depth leafBytes → Bytes 32
  /-- `verify_block_height`, with the constraints it adds. -/
  verifyBlockHeight :
    {depth : Nat} → Bytes 32 → Mathlib.Vector (Bytes 32) depth → UInt64 → UInt32 →
      Circuit Unit
  /-- `compute_root_from_leaves::<NB_LEAVES, 64>`: the root over the enabled leaves. -/
  computeRootFromLeaves : Nat → List (Bytes 64) → List Bool → Bytes 32

end BlobstreamX.Commitment
