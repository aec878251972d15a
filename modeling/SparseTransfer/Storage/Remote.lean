import SparseTransfer.Archive.Folder
import SparseTransfer.Storage

/- The storage behind an endpoint, to which an archive is sent with one request. -/
namespace SparseTransfer.Storage

/-- To connect makes a client, and sends nothing yet. -/
def connect (s : StorageSettings) : Action (World Ledger) Unit := Action.report (.clientReady s)

/-- Sends the request that puts an object. An object without a key is not sent. -/
def put (network : Network) (client : StorageClient) (target : UploadTarget) (body : Content) :
    Action (World Ledger) Exchange :=
  let request := Request.put client target body
  if target.key = "" then pure (network request).withheld
  else Ledger.sendUntilAccepted network request client.retries

/-- The storage that a client reaches. It sends the archive at a path, unless the size of the file
cannot be told. -/
def through (network : Network) (client : StorageClient) : Storage := fun target path => do
  let bytes ← World.inspectFiles (Archive.sizeOf · path)
  Action.report (.uploading target bytes)
  let failed (detail : String) : TransferError := .upload target.bucket target.key detail
  let w ← Action.get
  match w.files.read path with
  | .error e => Action.fail (failed e.message)
  | .ok body =>
    let exchange ← put network client target body
    match exchange.accepted with
    | .error detail => Action.fail (failed detail)
    | .ok headers =>
      Action.report (.uploadComplete target)
      return ⟨target.bucket, target.key, bytes, header? headers "etag"⟩

/-- The storage that the client for some settings reaches. -/
def remote (network : Network) (s : StorageSettings) : Storage := through network s.client

end SparseTransfer.Storage
