import SparseTransfer.UploadTarget

/- What a storage gives for an upload. -/
namespace SparseTransfer

structure UploadReceipt where
  bucket : String
  key : String
  bytes : Nat
  /-- The storage's name for this version of the object, if it gives one. -/
  eTag : Option String
  deriving Repr, DecidableEq

/-- Where the object is. -/
def UploadReceipt.target (r : UploadReceipt) : UploadTarget := ⟨r.bucket, r.key⟩

end SparseTransfer
