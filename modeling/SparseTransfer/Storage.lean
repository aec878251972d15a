import SparseTransfer.Ledger
import SparseTransfer.UploadReceipt

/- Storages: they take the archive at a path, or fail. -/
namespace SparseTransfer

def Storage : Type := UploadTarget → Path → Action (World Ledger) UploadReceipt

namespace Storage

def keeping (eTag : Option String) : Storage := fun target path => do
  let content ← World.inspectFiles (·.read path)
  Ledger.keep target content
  return ⟨target.bucket, target.key, content.size, eTag⟩

def refusing (e : TransferError) : Storage := fun _ path => do
  let _ ← World.inspectFiles (·.read path)
  Action.fail e

end Storage
end SparseTransfer
