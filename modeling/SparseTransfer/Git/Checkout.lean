import SparseTransfer.Ledger
import SparseTransfer.Text.Blank

/- Checking out one directory of one branch: ten invocations of git, of which the first that fails
ends the checkout. -/
namespace SparseTransfer

structure SparseCheckout where
  repoUrl : String
  branch : String
  dirPath : String
  deriving Repr, DecidableEq

namespace SparseCheckout

/-- The line that keeps a checkout to one directory. -/
def pattern (dirPath : String) : String :=
  String.ofList (Text.trimEnd '/' dirPath.toList) ++ "/*\n"

/-- What the remote repository's branch is called here. -/
def refspec (branch : String) : String :=
  "+refs/heads/" ++ branch ++ ":refs/remotes/origin/" ++ branch

/-- The operations before the pattern is written. -/
def preparing (c : SparseCheckout) : List GitOperation :=
  [.init, .remoteAdd c.repoUrl, .config "core.sparseCheckout" "true",
    .config "core.sparseCheckoutCone" "false",
    .config "remote.origin.fetch" (refspec c.branch),
    .config "fetch.recurseSubmodules" "false", .config "transfer.fsckobjects" "true",
    .config "fetch.fsckobjects" "true"]

/-- The operations after it. -/
def fetching (c : SparseCheckout) : List GitOperation := [.fetch c.branch, .checkout c.branch]

theorem length_preparing (c : SparseCheckout) : c.preparing.length = 8 := rfl

theorem length_fetching (c : SparseCheckout) : c.fetching.length = 2 := rfl

def runGit (git : Git) (c : GitCall) : Action (World Ledger) Unit := do
  let step := c.operation.step
  Action.report (.runningGit step c.command)
  match ← Ledger.askGit git c with
  | .notStarted failure => Action.fail (.git step "not started" failure.message)
  | .ended status stderr =>
    if !status.isSuccess then
      Action.report (.gitFailed step status.text)
      let said := String.ofList (Text.trim (Utf8.decodeLossy stderr))
      Action.fail (.git step status.text said)

/-- Runs git for one operation after the other. -/
def runAll (git : Git) (dest : Path) : List GitOperation → Action (World Ledger) Unit
  | [] => pure ()
  | op :: rest => do
    runGit git ⟨dest, op⟩
    runAll git dest rest

/-- The directory of a repository that holds the pattern. -/
def infoDir (dest : Path) : Path := Path.child (Path.child dest ".git") "info"

/-- The file of a repository that holds the pattern. -/
def patternFile (dest : Path) : Path := Path.child (infoDir dest) "sparse-checkout"

def writePattern (c : SparseCheckout) (dest : Path) : Action (World Ledger) Unit := do
  World.changeFiles (·.createDirAll (infoDir dest))
  World.changeFiles (·.write (patternFile dest) (.plain (Utf8.bytes (pattern c.dirPath))))

/-- Checks the directory out into a repository at `dest`, which is made if it is missing. -/
def run (c : SparseCheckout) (git : Git) (dest : Path) : Action (World Ledger) Unit := do
  Action.report (.checkoutStarting c.repoUrl c.branch c.dirPath dest)
  World.changeFiles (·.createDirAll dest)
  runAll git dest c.preparing
  c.writePattern dest
  runAll git dest c.fetching
  Action.report (.checkoutComplete dest)

end SparseCheckout
end SparseTransfer
