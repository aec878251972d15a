import SparseTransfer.Program
import SparseTransfer.Text.Instant
import Std.Time.DateTime.Timestamp

/- The command line. It reads what the program needs to know, and prints what the program says. What
it can do is to check settings and to show the plan: it has no git and no network at hand, so that a
transfer fails in its first stage. -/
namespace SparseTransfer.Front

/-- The characters of random texts. -/
def alphabet : List Char :=
  "ABCDEFGHIJKLMNOPQRSTUVWXYZabcdefghijklmnopqrstuvwxyz0123456789".toList

/-- Six characters that write a number in base 62. -/
def sixCharacters (n : Nat) : List Char :=
  (List.range 6).map fun i => alphabet.getD (n / Nat.pow 62 i % 62) 'A'

/-- The random texts that follow from one number. -/
def suffixesFrom (seed : Nat) : Suffixes := fun n =>
  Utf8.encode (sixCharacters (seed + 7919 * n))

/-- A git that is not there. -/
def absentGit : Git := fun _ _ files => (files, .notStarted (.os .notFound))

/-- A network that is not there. -/
def absentNetwork : Network := fun _ => .unreachable "no network"

/-- A file system with a working directory, a directory for temporary files, and one more item. -/
def filesWith (cwd tempDir : Path) (item : Option (Path × Item)) : FileSystem :=
  let keep (fs : FileSystem) (r : Except FileError FileSystem) : FileSystem :=
    match r with
    | .ok fs => fs
    | .error _ => fs
  let fs := keep FileSystem.empty (FileSystem.empty.createDirAll cwd)
  let fs := { fs with cwd := FileSystem.namesOf cwd }
  let fs := keep fs (fs.createDirAll tempDir)
  match item with
  | none => fs
  | some (path, item) =>
    let fs := match Path.parent? path with
      | some parent => keep fs (fs.createDirAll parent)
      | none => fs
    keep fs (fs.make path item)

/-- What stands at the path of a configuration file. -/
def lookAt (path : Path) : IO (Option (Path × Item)) := do
  let file := (← IO.currentDir) / Path.shown path
  if ← file.isDir then return some (path, .directory)
  try
    let bytes ← IO.FS.readBinFile file
    return some (path, .file ⟨FileSystem.newFilePermissions, .plain bytes.toList⟩)
  catch _ => return none

def setting (name : String) : IO (Option Bytes) := do
  return (← IO.getEnv name).map Utf8.bytes

/-- The time, in millionths of a second. -/
def now : IO Nat := do
  let t ← Std.Time.Timestamp.now
  return t.toNanosecondsSinceUnixEpoch.val.toNat / 1000

end SparseTransfer.Front

open SparseTransfer in
def main (args : List String) : IO UInt32 := do
  let tempDir ← Front.setting "TMPDIR"
  let invocation : Invocation :=
    { arguments := args.map Utf8.bytes
      secrets := ⟨← Front.setting "PUSH_TRANSFER_ACCESS_KEY",
        ← Front.setting "PUSH_TRANSFER_SECRET_KEY"⟩
      logFilter := ← Front.setting "RUST_LOG"
      tempDir }
  let config := match CommandLine.parse invocation.secrets invocation.arguments with
    | .ok c => c.config
    | .error _ => none
  let item ← match config with
    | some path => Front.lookAt path
    | none => pure none
  let cwd := Path.ofText (← IO.currentDir).toString
  let files := Front.filesWith cwd (tempDir.getD Program.standardTempDir) item
  let around : Surroundings :=
    ⟨Front.absentGit, Front.absentNetwork, Front.suffixesFrom (← IO.rand 0 (Nat.pow 62 6))⟩
  let (finish, _) := Program.run around invocation ⟨files, 0, {}⟩
  (← IO.getStderr).putStr (finish.stderr (Instant.text (← Front.now)))
  (← IO.getStdout).putStr finish.stdout
  return finish.exitCode.toUInt32
