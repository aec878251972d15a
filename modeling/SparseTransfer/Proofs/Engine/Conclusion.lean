import SparseTransfer.Proofs.Engine.Restoration
import SparseTransfer.Proofs.Engine.Trace

/- What a run comes to: the first failure of a stage, whatever becomes of the working directory, and
otherwise what was uploaded, if the working directory is there to be removed. -/
namespace SparseTransfer
open FileSystem

/-- A path leads to a directory, or to a link that has taken the place of one. -/
def WorkDir.IsThere (fs : FileSystem) (workDir : Path) : Prop :=
  ∃ loc item, fs.stat false workDir = .ok (loc, item) ∧ item.isLeaf = false

/-- What is there can be removed, and nothing else can. -/
theorem WorkDir.removeTree_isOk_iff {fs : FileSystem} {workDir : Path} :
    (∃ files, fs.removeTree workDir = .ok files) ↔ IsThere fs workDir := by
  constructor
  · rintro ⟨files, h⟩
    unfold FileSystem.removeTree at h
    split at h
    · cases h
    · next loc hstat => exact ⟨loc, .directory, hstat, rfl⟩
    · next loc target hstat => exact ⟨loc, .link target, hstat, rfl⟩
    · cases h
  · rintro ⟨loc, item, hstat, hleaf⟩
    unfold FileSystem.removeTree
    rw [hstat]
    cases item with
    | directory | link target => exact ⟨_, rfl⟩
    | file data | socket | device => cases hleaf

/-- A working directory is removed if it is there, and otherwise the removal says why it cannot
be. -/
theorem WorkDir.ends_remove_cases {workDir : Path} {w w' : World π} {r : Except TransferError Unit}
    (h : (remove workDir).Ends w r w') : (r = .ok () ∧ IsThere w.files workDir) ∨
      ∃ cause, w.files.removeTree workDir = .error cause ∧ ¬ IsThere w.files workDir ∧
        r = .error (.file (.atPath workDir cause)) := by
  rcases ends_remove h with ⟨files, hfiles, rfl, -⟩ | ⟨cause, hcause, rfl, -⟩
  · exact .inl ⟨rfl, removeTree_isOk_iff.1 ⟨files, hfiles⟩⟩
  · refine .inr ⟨cause, hcause, fun hthere => ?_, rfl⟩
    obtain ⟨files, hfiles⟩ := removeTree_isOk_iff.2 hthere
    cases hcause.symm.trans hfiles

/-- A run whose stages came to `outcome` and left `files`. Failing to remove the working directory
is reported as a warning if a stage has failed before, and is the failure of the run if none has. -/
structure Engine.Concludes (workDir : Path) (files : FileSystem)
    (outcome : Except (Stage × TransferError) TransferReport)
    (run : Outcome (World π) TransferReport) : Prop where
  failed : ∀ {during failure}, outcome = .error (during, failure) → run.result = .error failure
  failedLast : ∀ {during failure}, outcome = .error (during, failure) →
    WorkDir.IsThere files workDir →
    ∃ front, run.events = front ++ [.workDirCleaning workDir, .transferFailed during failure]
  warned : ∀ {during failure}, outcome = .error (during, failure) →
    ¬ WorkDir.IsThere files workDir →
    ∃ front warning cause, files.removeTree workDir = .error cause ∧
      warning = .cleanupFailed (.file (.atPath workDir cause)) ∧ warning.level = .warn ∧
      run.events = front ++ [.workDirCleaning workDir, warning, .transferFailed during failure]
  ok_iff : ∀ {report}, outcome = .ok report →
    (run.result = .ok report ↔ WorkDir.IsThere files workDir)
  notRemoved : ∀ {report}, outcome = .ok report → ¬ WorkDir.IsThere files workDir →
    ∃ cause, files.removeTree workDir = .error cause ∧
      run.result = .error (.file (.atPath workDir cause))

/-- A run that has a working directory calls its stages one after the other, each with what the one
before it gave, up to the first that fails; the failure is that of the run. If all go well the run
gives what they gave, unless the working directory is gone. -/
theorem run_concludes {e : Engine π} {parent workDir : Path} {w w₁ : World π}
    (hcreate : (WorkDir.create e.suffixes parent).Ends w (.ok workDir) w₁) :
    ∃ outcome w₂, Staged e.pipeline workDir w₁ (e.calls parent w) outcome w₂ ∧
      Engine.Concludes workDir w₂.files outcome ((e.runIn parent).run w) := by
  rcases e.run_cases parent w with ⟨failure, hnone, -, -⟩ |
    ⟨workDir', w₁', outcome, w₂, cleaned, hcreate', hstaged, hremove, -⟩
  · cases (hcreate.unique hnone).1
  · obtain ⟨hdir, rfl⟩ := hcreate.unique hcreate'
    cases hdir
    refine ⟨outcome, w₂, hstaged, ?_⟩
    rw [Engine.run_with_directory hcreate hstaged hremove]
    rcases WorkDir.ends_remove_cases hremove with ⟨rfl, hthere⟩ | ⟨cause, hcause, hgone, rfl⟩
    · constructor
      · rintro during failure rfl
        rfl
      · rintro during failure rfl -
        exact ⟨.entering .init :: .workDirCreated workDir :: (e.calls parent w).flatMap
          e.callEvents, rfl⟩
      · exact fun _ hgone => absurd hthere hgone
      · rintro report rfl
        exact iff_of_true rfl hthere
      · exact fun _ hgone => absurd hthere hgone
    · constructor
      · rintro during failure rfl
        rfl
      · exact fun _ hthere => absurd hthere hgone
      · rintro during failure rfl -
        exact ⟨.entering .init :: .workDirCreated workDir ::
          (e.calls parent w).flatMap e.callEvents, _, cause, hcause, rfl, rfl, rfl⟩
      · rintro report rfl
        refine iff_of_false ?_ hgone
        rintro ⟨⟩
      · rintro report rfl -
        exact ⟨cause, hcause, rfl⟩

/-- The working directory of a run in the directory `d`. -/
def removedDir : Path := [47, 100, 47] ++ WorkDir.drawnName removingEngine.suffixes 0

/-- A run whose second stage fails after the first has removed the working directory. -/
theorem run_concludes_removing :
    (∃ w₁ outcome w₂, (WorkDir.create removingEngine.suffixes [47, 100]).Ends ⟨linkedFolder, 0, ()⟩
        (.ok removedDir) w₁ ∧
      Staged removingPipeline removedDir w₁ (removingEngine.calls [47, 100] ⟨linkedFolder, 0, ()⟩)
        outcome w₂ ∧
      Engine.Concludes removedDir w₂.files outcome
        ((removingEngine.runIn [47, 100]).run ⟨linkedFolder, 0, ()⟩)) ∧
    ((removingEngine.runIn [47, 100]).run ⟨linkedFolder, 0, ()⟩).result =
        .error (.archive .entryNotFound) ∧
      (.cleanupFailed (.file (.atPath removedDir (.os .notFound))) ∈
        ((removingEngine.runIn [47, 100]).run ⟨linkedFolder, 0, ()⟩).events) := by
  have hcreate : (WorkDir.create removingEngine.suffixes [47, 100]).Ends ⟨linkedFolder, 0, ()⟩
      (.ok removedDir) _ := ⟨by decide, rfl⟩
  obtain ⟨outcome, w₂, hstaged, hconcludes⟩ := run_concludes hcreate
  exact ⟨⟨_, outcome, w₂, hcreate, hstaged, hconcludes⟩, rfl, by decide⟩

end SparseTransfer
