import SparseTransfer.File.OsError
import SparseTransfer.Text.Quoted
import SparseTransfer.Url.Fault

/- The ways in which a transfer can fail: causes, their texts, and what to do about them. -/
namespace SparseTransfer

/-- Why a file could not be read, written, made or removed. -/
inductive FileError where
  | os (error : OsError)
  /-- A name holds the byte that ends names. -/
  | nulInName
  /-- The content was to be text and is not. -/
  | notText
  | other (message : String)
  /-- The failure happened at `path`. -/
  | atPath (path : Bytes) (cause : FileError)
  deriving Repr, DecidableEq

def FileError.message : FileError → String
  | .os e => e.message
  | .nulInName => "file name contained an unexpected NUL byte"
  | .notText => "stream did not contain valid UTF-8"
  | .other message => message
  | .atPath path cause => cause.message ++ " at path " ++ Text.Quoted.bytes path

inductive ArchiveError where
  | file (cause : FileError)
  | entryNotFound
  | duplicateName (name : String)
  deriving Repr, DecidableEq

def ArchiveError.message : ArchiveError → String
  | .file _ => "i/o error"
  | .entryNotFound => "specified file not found in archive"
  | .duplicateName name => "invalid Zip archive: Duplicate filename: " ++ name

/-- A traversal that could not look at `path`. -/
structure WalkError where
  path : Bytes
  cause : FileError
  deriving Repr, DecidableEq

def WalkError.message (e : WalkError) : String :=
  "IO error for operation on " ++ Utf8.shown e.path ++ ": " ++ e.cause.message

inductive ConfigFault where
  | targetWithoutSeparator (target : String)
  | targetWithEmptyPart (target : String)
  | unreadable (path : Bytes) (cause : FileError)
  | toml (problem : String)
  | other (message : String)
  deriving Repr, DecidableEq

def ConfigFault.message : ConfigFault → String
  | .targetWithoutSeparator target =>
    "upload target '" ++ target ++ "' must be of the form bucket/object-key"
  | .targetWithEmptyPart target =>
    "upload target '" ++ target ++ "' has an empty bucket or object key"
  | .unreadable path cause => "cannot read " ++ Utf8.shown path ++ ": " ++ cause.message
  | .toml problem => "TOML parsing error: " ++ problem
  | .other message => message

/-- The rule that a value breaks. -/
inductive BrokenRule where
  | urlEmpty
  | urlWithoutHost
  | urlScheme (scheme : String)
  | urlMalformed (fault : UrlFault)
  | branchDash
  | branchBlank
  | pathEmpty
  | pathNul
  | pathParent
  | pathAbsolute
  | bucketLength
  | bucketCharacter
  | bucketHyphen
  | other (message : String)
  deriving Repr, DecidableEq

def BrokenRule.message : BrokenRule → String
  | .urlEmpty => "URL cannot be empty"
  | .urlWithoutHost => "URL has no host"
  | .urlScheme scheme => "Unsupported URL scheme: " ++ scheme
  | .urlMalformed fault => "Invalid URL format: " ++ fault.message
  | .branchDash => "Branch cannot start with '-'"
  | .branchBlank => "Branch cannot contain whitespace or control characters"
  | .pathEmpty => "Path cannot be empty"
  | .pathNul => "Path contains null bytes"
  | .pathParent => "Path cannot contain '..'"
  | .pathAbsolute => "Path must be relative to the repository root"
  | .bucketLength => "Bucket name must be between 3 and 63 characters"
  | .bucketCharacter =>
    "Bucket name can only contain lowercase letters, numbers, hyphens, and dots"
  | .bucketHyphen => "Bucket name cannot start or end with a hyphen"
  | .other message => message

/-- Every failure ends the transfer. -/
inductive TransferError where
  | git (step status stderr : String)
  | pathNotFound (path branch : String)
  | archive (cause : ArchiveError)
  | walk (cause : WalkError)
  | file (cause : FileError)
  | emptyArchive (path : Bytes)
  | upload (bucket key message : String)
  | config (fault : ConfigFault)
  | invalidValue (field value : String) (rule : BrokenRule)
  | missingValue (field : String)
  deriving Repr, DecidableEq

/-- The class of a failure. -/
inductive ErrorCategory where
  | vcs
  | filesystem
  | configuration
  | transport
  deriving Repr, DecidableEq

def ErrorCategory.name : ErrorCategory → String
  | .vcs => "Vcs"
  | .filesystem => "Filesystem"
  | .configuration => "Configuration"
  | .transport => "Transport"

namespace TransferError

def message : TransferError → String
  | .git step status stderr => "git " ++ step ++ " failed (" ++ status ++ "): " ++ stderr
  | .pathNotFound path branch =>
    "directory '" ++ path ++ "' not found on branch '" ++ branch ++ "'"
  | .archive cause => "Zip operation failed: " ++ cause.message
  | .walk cause => "Directory traversal failed: " ++ cause.message
  | .file cause => "IO error: " ++ cause.message
  | .emptyArchive path => "Archive is empty: no files found under " ++ Utf8.shown path
  | .upload bucket key message => "Upload to " ++ bucket ++ "/" ++ key ++ " failed: " ++ message
  | .config fault => "Configuration error: " ++ fault.message
  | .invalidValue field value rule =>
    "Invalid value for '" ++ field ++ "' (" ++ value ++ "): " ++ rule.message
  | .missingValue field => "Missing required configuration: " ++ field

def category : TransferError → ErrorCategory
  | .git .. | .pathNotFound .. => .vcs
  | .archive _ | .walk _ | .file _ | .emptyArchive _ => .filesystem
  | .config _ | .invalidValue .. | .missingValue _ => .configuration
  | .upload .. => .transport

def suggestion : TransferError → String
  | .git .. => "Check that the repository URL is reachable and the branch exists"
  | .pathNotFound .. => "Check --dir-path against the repository layout on that branch"
  | .emptyArchive _ => "The directory contains no regular files"
  | .archive _ | .walk _ | .file _ => "Check free space and permissions of the temp directory"
  | .upload .. => "Check the endpoint, credentials and that the bucket exists"
  | .config _ | .invalidValue .. | .missingValue _ => "Fix the flag or config file value"

end TransferError
end SparseTransfer
