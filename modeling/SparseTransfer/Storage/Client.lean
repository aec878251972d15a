import SparseTransfer.Settings

/- The client through which a storage over a network is reached: where and as whom it sends, and
how. -/
namespace SparseTransfer

/-- When a checksum of what is sent goes with it. What goes with one is sent in chunks. -/
inductive ChecksumRule where
  | whenSupported
  | whenRequired
  deriving Repr, DecidableEq

structure StorageClient where
  endpointUrl : String
  accessKey : String
  region : String
  /-- Whether a bucket is named in the path of a request, and not in front of the host. -/
  pathStyle : Bool
  /-- How often a request that is not accepted is sent once more. -/
  retries : Nat
  checksums : ChecksumRule
  deriving Repr, DecidableEq

/-- The client for settings: it names the bucket in the path, sends nothing twice, and sends what it
is given as it is. -/
def StorageSettings.client (s : StorageSettings) : StorageClient where
  endpointUrl := s.endpointUrl
  accessKey := s.accessKey
  region := s.region
  pathStyle := true
  retries := 0
  checksums := .whenRequired

end SparseTransfer
