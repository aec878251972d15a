/- The stages of a transfer. -/
namespace SparseTransfer

inductive Stage where
  | init
  | fetching
  | archiving
  | uploading
  | done
  | failed
  deriving Repr, DecidableEq

def Stage.name : Stage → String
  | .init => "init"
  | .fetching => "fetching"
  | .archiving => "archiving"
  | .uploading => "uploading"
  | .done => "done"
  | .failed => "failed"

def Stage.inspect : Stage → String
  | .init => "Init"
  | .fetching => "Fetching"
  | .archiving => "Archiving"
  | .uploading => "Uploading"
  | .done => "Done"
  | .failed => "Failed"

end SparseTransfer
