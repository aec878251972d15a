import SparseTransfer.Action
import SparseTransfer.Settings.Rules

/- Checking the settings of a transfer, and saying so. -/
namespace SparseTransfer.TransferSettings

/-- All rules, in the order in which they are checked. -/
def check (s : TransferSettings) : Except TransferError Unit := do
  Rules.checkPresent "repo_url" s.repoUrl
  Rules.checkBranch "branch" s.branch
  Rules.checkRelativePath "dir_path" s.dirPath
  Rules.checkUrl "minio_endpoint" s.storage.endpointUrl
  Rules.checkPresent "access_key" s.storage.accessKey
  Rules.checkPresent "secret_key" s.storage.secretKey
  Rules.checkPresent "region" s.storage.region
  Rules.checkBucket "minio_target" s.target.bucket

/-- Checks the rules; a storage that was not asked to be secure is reported. -/
def validate (s : TransferSettings) : Action σ Unit := do
  Action.ofExcept s.check
  if !s.storage.secure then Action.report (.plaintext s.storage.endpoint)
  Action.report .settingsValid

end SparseTransfer.TransferSettings
