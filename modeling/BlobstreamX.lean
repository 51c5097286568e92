import BlobstreamX.Circuit.Builder
import BlobstreamX.Protobuf.Varint
import BlobstreamX.Validator.Bits
import BlobstreamX.Validator.Varint
import BlobstreamX.Validator.Marshal
import BlobstreamX.Commitment.Encoding
import BlobstreamX.Commitment.Variables
import BlobstreamX.Commitment.DataCommitment
import BlobstreamX.Commitment.HeaderChain
import BlobstreamX.Commitment.ProveDataCommitment
import BlobstreamX.Commitment.Agreement
import BlobstreamX.Commitment.HonestWindow
import BlobstreamX.Commitment.Append
