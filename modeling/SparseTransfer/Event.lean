import SparseTransfer.File.Path
import SparseTransfer.Settings
import SparseTransfer.Stage

/- What a transfer reports while it runs. -/
namespace SparseTransfer

inductive Level where
  | error
  | warn
  | info
  | debug
  | trace
  deriving Repr, DecidableEq

/-- The stages after which a process looks at itself. -/
inductive Phase where
  | fetch
  | archive
  | upload
  | named (name : String)
  deriving Repr, DecidableEq

def Phase.name : Phase → String
  | .fetch => "fetch"
  | .archive => "archive"
  | .upload => "upload"
  | .named name => name

inductive Event where
  | starting
  | loadingFile (path : Path)
  | plaintext (endpoint : String)
  | settingsValid
  | settingsResolved (settings : TransferSettings)
  | dryRun
  | clientReady (settings : StorageSettings)
  | entering (stage : Stage)
  | workDirCreated (path : Path)
  | workDirCleaning (path : Path)
  | checkoutStarting (repoUrl branch dirPath : String) (dest : Path)
  | runningGit (step : String) (command : String)
  | gitFailed (step : String) (status : String)
  | checkoutComplete (dest : Path)
  | zipping (folder archive : Path)
  | notFollowing (path : Path)
  | skippingLink (path : Path) (error : FileError)
  | fileAdded (entry : String)
  | archiveWritten (entries bytes : Nat)
  | uploading (target : UploadTarget) (bytes : Nat)
  | uploadComplete (target : UploadTarget)
  | processStats (phase : Phase)
  | transferComplete (entries bytes : Nat) (target : UploadTarget)
  | cleanupFailed (error : TransferError)
  | transferFailed (during : Stage) (error : TransferError)
  | suggesting (error : TransferError)
  deriving Repr, DecidableEq

/-- A value that goes with an event. -/
inductive FieldValue where
  | shown (text : String)
  | text (text : String)
  | count (n : Nat)
  deriving Repr, DecidableEq

def FieldValue.plain : FieldValue → String
  | .shown s | .text s => s
  | .count n => toString n

namespace Event

def level : Event → Level
  | .plaintext _ | .skippingLink .. | .cleanupFailed _ => .warn
  | .gitFailed .. | .transferFailed .. | .suggesting _ => .error
  | .settingsValid | .settingsResolved _ | .clientReady _ | .runningGit .. | .notFollowing _
  | .fileAdded _ => .debug
  | _ => .info

def message : Event → String
  | .starting => "Starting push-transfer"
  | .loadingFile _ => "Loading configuration file"
  | .plaintext _ => "Object storage transport is plaintext; pass --secure for TLS"
  | .settingsValid => "Configuration validation passed"
  | .settingsResolved _ => "Resolved configuration"
  | .dryRun => "Dry run: nothing will be fetched or uploaded"
  | .clientReady _ => "S3 client configured"
  | .entering _ => "Entering stage"
  | .workDirCreated _ => "Created working directory"
  | .workDirCleaning _ => "Cleaning up working directory"
  | .checkoutStarting .. => "Starting sparse checkout"
  | .runningGit step _ => "Running git " ++ step
  | .gitFailed .. => "git exited with failure"
  | .checkoutComplete _ => "Sparse checkout complete"
  | .zipping .. => "Zipping folder"
  | .notFollowing _ => "Not following directory link"
  | .skippingLink .. => "Skipping dangling symbolic link"
  | .fileAdded _ => "Added file to archive"
  | .archiveWritten .. => "Archive written"
  | .uploading .. => "Uploading archive"
  | .uploadComplete _ => "Upload complete"
  | .processStats _ => "process stats"
  | .transferComplete .. => "Transfer complete"
  | .cleanupFailed _ => "Working directory cleanup failed"
  | .transferFailed .. => "Transfer failed"
  | .suggesting e => "Suggestion: " ++ e.suggestion

def fields : Event → List (String × FieldValue)
  | .starting | .settingsValid | .dryRun => []
  | .loadingFile path => [("config_path", .shown (Path.shown path))]
  | .plaintext endpoint => [("endpoint", .shown endpoint)]
  | .settingsResolved settings => [("config", .shown settings.inspect)]
  | .clientReady settings =>
    [("endpoint", .shown settings.endpointUrl), ("region", .shown settings.region)]
  | .entering stage => [("stage", .shown stage.name)]
  | .workDirCreated path | .workDirCleaning path => [("path", .shown (Path.shown path))]
  | .checkoutStarting repoUrl branch dirPath dest =>
    [("repo_url", .text repoUrl), ("branch", .text branch), ("dir_path", .text dirPath),
      ("dest", .shown (Path.shown dest))]
  | .runningGit _ command => [("command", .shown command)]
  | .gitFailed step status => [("step", .text step), ("status", .shown status)]
  | .checkoutComplete dest => [("dest", .shown (Path.shown dest))]
  | .zipping folder archive =>
    [("folder", .shown (Path.shown folder)), ("archive", .shown (Path.shown archive))]
  | .notFollowing path => [("path", .shown (Path.shown path))]
  | .skippingLink path e => [("path", .shown (Path.shown path)), ("error", .shown e.message)]
  | .fileAdded entry => [("entry", .shown entry)]
  | .archiveWritten entries bytes => [("entries", .count entries), ("bytes", .count bytes)]
  | .uploading target bytes =>
    [("bucket", .shown target.bucket), ("key", .shown target.key), ("bytes", .count bytes)]
  | .uploadComplete target => [("bucket", .shown target.bucket), ("key", .shown target.key)]
  | .processStats phase => [("phase", .text phase.name)]
  | .transferComplete entries bytes target =>
    [("stage", .shown Stage.done.name), ("entries", .count entries), ("bytes", .count bytes),
      ("target", .shown target.text)]
  | .cleanupFailed e => [("error", .shown e.message)]
  | .transferFailed during e =>
    [("stage", .shown Stage.failed.name), ("failed_during", .shown during.name),
      ("category", .shown e.category.name), ("error", .shown e.message)]
  | .suggesting e => [("category", .shown e.category.name)]

/-- The part of the program that an event comes from, for filters. -/
def source : Event → String
  | .starting | .settingsResolved _ | .dryRun | .suggesting _ => "push_transfer"
  | .loadingFile _ => "push_transfer::config::toml_config"
  | .plaintext _ | .settingsValid => "push_transfer::config"
  | .clientReady _ | .uploading .. | .uploadComplete _ => "push_transfer::adapters::s3"
  | .entering _ | .transferComplete .. | .cleanupFailed _ | .transferFailed .. =>
    "push_transfer::core::engine"
  | .workDirCreated _ | .workDirCleaning _ => "push_transfer::core::workdir"
  | .checkoutStarting .. | .runningGit .. | .gitFailed .. | .checkoutComplete _ =>
    "push_transfer::adapters::git"
  | .zipping .. | .notFollowing _ | .skippingLink .. | .fileAdded _ | .archiveWritten .. =>
    "push_transfer::adapters::archive"
  | .processStats _ => "push_transfer::utils::monitor"

end Event
end SparseTransfer
