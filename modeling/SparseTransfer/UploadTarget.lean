import SparseTransfer.TransferError

/- Where an archive is uploaded to: a bucket and an object key, written `bucket/key`. -/
namespace SparseTransfer

/-- Values that are read from a text, if it is the text of one. -/
class OfText (α : Type) where
  ofText : String → Except TransferError α

structure UploadTarget where
  bucket : String
  key : String
  deriving Repr, DecidableEq

namespace UploadTarget

def text (t : UploadTarget) : String := t.bucket ++ "/" ++ t.key

/-- The bucket ends at the first slash; all that follows is the key, and neither may be empty. -/
def parse (target : String) : Except TransferError UploadTarget :=
  match target.toList.dropWhile (· != '/') with
  | [] => .error (.config (.targetWithoutSeparator target))
  | _ :: key =>
    let bucket := target.toList.takeWhile (· != '/')
    if bucket.isEmpty || key.isEmpty then .error (.config (.targetWithEmptyPart target))
    else .ok ⟨String.ofList bucket, String.ofList key⟩

instance : OfText UploadTarget := ⟨parse⟩

def inspect (t : UploadTarget) : String :=
  "UploadTarget \x7b bucket: " ++ Text.Quoted.text t.bucket ++ ", key: " ++
    Text.Quoted.text t.key ++ " \x7d"

end UploadTarget
end SparseTransfer
