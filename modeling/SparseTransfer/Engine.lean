import SparseTransfer.Monitor
import SparseTransfer.Pipeline
import SparseTransfer.WorkDir

/- Running a pipeline in a fresh working directory, which is removed whatever comes of the run. -/
namespace SparseTransfer

/-- What a run that went well gives. -/
structure TransferReport where
  archive : ArchiveSummary
  receipt : UploadReceipt
  deriving Repr, DecidableEq

/-- An engine: its pipeline, its monitor, and the random texts for the names of working
directories. -/
structure Engine (π : Type) where
  pipeline : Pipeline π
  monitor : Monitor
  suffixes : Suffixes

namespace Engine

/-- Goes through one stage. A failure is kept together with the stage, and the events stay. -/
def stage (e : Engine π) (s : Stage) (phase : Phase) (work : Action (World π) α) :
    Action (World π) (Except (Stage × TransferError) α) := do
  Action.report (.entering s)
  match ← work.attempt with
  | .error failure => return .error (s, failure)
  | .ok x =>
    e.monitor.report phase
    return .ok x

/-- Goes through the stages, up to the first that fails. -/
def stages (e : Engine π) (workDir : Path) :
    Action (World π) (Except (Stage × TransferError) TransferReport) := do
  match ← e.stage .fetching .fetch (e.pipeline.fetch workDir) with
  | .error failure => return .error failure
  | .ok source =>
    match ← e.stage .archiving .archive (e.pipeline.archive source workDir) with
    | .error failure => return .error failure
    | .ok archive =>
      match ← e.stage .uploading .upload (e.pipeline.upload archive) with
      | .error failure => return .error failure
      | .ok receipt => return .ok ⟨archive, receipt⟩

/-- Ends a run: what came of the stages counts first, and then what came of removing the working
directory. -/
def conclude (outcome : Except (Stage × TransferError) TransferReport)
    (cleanup : Except TransferError Unit) : Action (World π) TransferReport :=
  match outcome, cleanup with
  | .ok report, .ok () => do
    Action.report
      (.transferComplete report.archive.entries report.receipt.bytes report.receipt.target)
    return report
  | .ok _, .error e => Action.fail e
  | .error (during, failure), cleanup => do
    match cleanup with
    | .ok () => pure ()
    | .error e => Action.report (.cleanupFailed e)
    Action.report (.transferFailed during failure)
    Action.fail failure

/-- One run, with a working directory in `parent`. -/
def runIn (e : Engine π) (parent : Path) : Action (World π) TransferReport := do
  Action.report (.entering .init)
  let workDir ← WorkDir.create e.suffixes parent
  let outcome ← e.stages workDir
  let cleanup ← (WorkDir.cleanup workDir).attempt
  conclude outcome cleanup

end Engine
end SparseTransfer
