import SparseTransfer.Archive.Folder
import SparseTransfer.Git.Checkout
import SparseTransfer.Storage

/- The three stages of a transfer, and the pipeline that fetches with git, packs what was fetched
and hands the archive to a storage. -/
namespace SparseTransfer

/-- Three stages; each works on what the one before it gives. -/
structure Pipeline (π : Type) where
  /-- Fetches into a working directory, and gives the directory to archive. -/
  fetch : Path → Action (World π) Path
  /-- Archives a directory into a working directory. -/
  archive : Path → Path → Action (World π) ArchiveSummary
  upload : ArchiveSummary → Action (World π) UploadReceipt

namespace Pipeline

/-- Where a working directory holds the checkout. -/
def stagingDir (workDir : Path) : Path := Path.child workDir "staging"

def archiveFile (workDir : Path) : Path := Path.child workDir "archive.zip"

def checkoutOf (s : TransferSettings) : SparseCheckout := ⟨s.repoUrl, s.branch, s.dirPath⟩

def fetchWith (git : Git) (s : TransferSettings) (workDir : Path) :
    Action (World Ledger) Path := do
  let staging := stagingDir workDir
  (checkoutOf s).run git staging
  let source := Path.append staging (Path.ofText s.dirPath)
  let w ← Action.get
  if w.files.isDirectory source then return source
  else Action.fail (.pathNotFound s.dirPath s.branch)

/-- Hands an archive to a storage, unless there is nothing in it. -/
def uploadTo (storage : Storage) (target : UploadTarget) (archive : ArchiveSummary) :
    Action (World Ledger) UploadReceipt :=
  if archive.entries = 0 ∨ archive.bytes = 0 then Action.fail (.emptyArchive archive.path)
  else do
    Ledger.notePut target archive.path
    storage target archive.path

def transfer (git : Git) (storage : Storage) (s : TransferSettings) : Pipeline Ledger where
  fetch := fetchWith git s
  archive source workDir := Archive.packFolder source (archiveFile workDir)
  upload := uploadTo storage s.target

end Pipeline
end SparseTransfer
