import SparseTransfer.Proofs.Engine.Calls

/- What a run reports, from its first event to its last: the stages that are called tell their part
each in its place, and how the run ends comes after the working directory has been cleaned up. -/
namespace SparseTransfer
namespace Engine

/-- What is reported of a call. -/
def callEvents (e : Engine π) : StageCall × World π → List Event
  | (.fetch workDir, w) => e.stageEvents .fetching .fetch ((e.pipeline.fetch workDir).run w)
  | (.archive source workDir, w) =>
    e.stageEvents .archiving .archive ((e.pipeline.archive source workDir).run w)
  | (.upload archive, w) => e.stageEvents .uploading .upload ((e.pipeline.upload archive).run w)

section stages
variable {e : Engine π} {w w' : World π}

theorem run_stage_bind {s : Stage} {phase : Phase} {work : Action (World π) α}
    {r : Except TransferError α} (h : work.Ends w r w')
    (f : Except (Stage × TransferError) α → Action (World π) β) :
    (e.stage s phase work >>= f).run w =
      ⟨((f (r.mapError fun failure => (s, failure))).run w').result,
        ((f (r.mapError fun failure => (s, failure))).run w').state,
        e.stageEvents s phase (work.run w) ++
          ((f (r.mapError fun failure => (s, failure))).run w').events⟩ := by
  obtain ⟨rfl, rfl⟩ := h
  rw [Action.run_bind_of_ok (congrArg Outcome.result (run_stage e s phase work w)), run_stage]

theorem run_stage_bind_ok {s : Stage} {phase : Phase} {work : Action (World π) α} {x : α}
    (h : work.Ends w (.ok x) w') (f : Except (Stage × TransferError) α → Action (World π) β) :
    (e.stage s phase work >>= f).run w =
      ⟨((f (.ok x)).run w').result, ((f (.ok x)).run w').state,
        e.stageEvents s phase (work.run w) ++ ((f (.ok x)).run w').events⟩ :=
  run_stage_bind h f

theorem run_stage_bind_error {s : Stage} {phase : Phase} {work : Action (World π) α}
    {failure : TransferError} (h : work.Ends w (.error failure) w')
    (f : Except (Stage × TransferError) α → Action (World π) β) :
    (e.stage s phase work >>= f).run w =
      ⟨((f (.error (s, failure))).run w').result, ((f (.error (s, failure))).run w').state,
        e.stageEvents s phase (work.run w) ++ ((f (.error (s, failure))).run w').events⟩ :=
  run_stage_bind h f

/-- Stages that go as they do report what each call reports, one after the other. -/
theorem run_stages {workDir : Path} {calls : List (StageCall × World π)}
    {outcome : Except (Stage × TransferError) TransferReport}
    (h : Staged e.pipeline workDir w calls outcome w') :
    (e.stages workDir).run w = ⟨.ok outcome, w', calls.flatMap e.callEvents⟩ := by
  cases h with
  | fetchFails hfetch =>
    rw [stages, run_stage_bind_error hfetch]
    simp [callEvents]
  | archiveFails hfetch harchive =>
    rw [stages, run_stage_bind_ok hfetch]
    simp [callEvents, run_stage_bind_error harchive]
  | uploadFails hfetch harchive hupload =>
    rw [stages, run_stage_bind_ok hfetch]
    simp [callEvents, run_stage_bind_ok harchive, run_stage_bind_error hupload]
  | complete hfetch harchive hupload =>
    rw [stages, run_stage_bind_ok hfetch]
    simp [callEvents, run_stage_bind_ok harchive, run_stage_bind_ok hupload]

end stages
end Engine

namespace WorkDir
variable {suffixes : Suffixes} {parent path : Path} {w w' : World π}

/-- Trying names is not reported. -/
theorem events_createNamed (suffixes : Suffixes) (parent : Path) (attempts : Nat) (w : World π) :
    ((createNamed suffixes parent attempts).run w).events = [] := by
  induction attempts generalizing w with
  | zero => rfl
  | succ attempts ih =>
    rw [Action.run, createNamed]
    simp only
    split
    · rfl
    · split
      · exact ih _
      · rfl

theorem run_create_ok (h : (create suffixes parent).Ends w (.ok path) w') :
    (create suffixes parent).run w = ⟨.ok path, w', [.workDirCreated path]⟩ := by
  obtain ⟨hresult, hstate⟩ := ends_create h
  have hevents := events_createNamed suffixes (w.files.absolute parent) attempts w
  rw [create, Action.run_bind_of_ok rfl, Action.run_get, Action.run_bind_of_ok hresult,
    hstate, hevents]
  rfl

theorem run_create_error {failure : TransferError}
    (h : (create suffixes parent).Ends w (.error failure) w') :
    (create suffixes parent).run w = ⟨.error failure, w', []⟩ := by
  obtain ⟨hresult, hstate⟩ := ends_create h
  have hevents := events_createNamed suffixes (w.files.absolute parent) attempts w
  rw [create, Action.run_bind_of_ok rfl, Action.run_get, Action.run_bind_of_error hresult, hstate,
    hevents]
  rfl

theorem run_cleanup {r : Except TransferError Unit} (h : (remove path).Ends w r w') :
    (cleanup path).run w = ⟨r, w', [.workDirCleaning path]⟩ := by
  have hsilent : ((remove path).run w).events = [] := by
    rw [Action.run, remove]
    split <;> rfl
  obtain ⟨rfl, rfl⟩ := h
  rw [cleanup, Action.run_bind_of_ok rfl, Action.run_report, hsilent]
  rfl

end WorkDir

namespace Engine
variable {e : Engine π} {parent : Path} {w w' : World π}

/-- Without a working directory a run tells that it has begun, and nothing else. -/
theorem run_without_directory {failure : TransferError}
    (h : (WorkDir.create e.suffixes parent).Ends w (.error failure) w') :
    (e.runIn parent).run w = ⟨.error failure, w', [.entering .init]⟩ := by
  rw [runIn, Action.run_bind_of_ok rfl, Action.run_report,
    Action.run_bind_of_error (congrArg Outcome.result (WorkDir.run_create_error h)),
    WorkDir.run_create_error h]
  rfl

/-- A run that has a working directory: what it comes to and all that it reports. -/
theorem run_with_directory {workDir : Path} {w₁ w₂ : World π} {calls : List (StageCall × World π)}
    {outcome : Except (Stage × TransferError) TransferReport} {cleaned : Except TransferError Unit}
    (hcreate : (WorkDir.create e.suffixes parent).Ends w (.ok workDir) w₁)
    (hstaged : Staged e.pipeline workDir w₁ calls outcome w₂)
    (hremove : (WorkDir.remove workDir).Ends w₂ cleaned w') :
    (e.runIn parent).run w = ⟨concluded outcome cleaned, w',
      .entering .init :: .workDirCreated workDir :: (calls.flatMap e.callEvents ++
        .workDirCleaning workDir :: closing outcome cleaned)⟩ := by
  have hcreated := WorkDir.run_create_ok hcreate
  have hstages := run_stages hstaged
  have hcleaned := WorkDir.run_cleanup hremove
  have hattempt : ((WorkDir.cleanup workDir).attempt.run w₂).result = .ok cleaned := by
    rw [Action.run_attempt, hcleaned]
  rw [runIn, Action.run_bind_of_ok rfl, Action.run_report,
    Action.run_bind_of_ok (congrArg Outcome.result hcreated), hcreated,
    Action.run_bind_of_ok (congrArg Outcome.result hstages), hstages,
    Action.run_bind_of_ok hattempt, Action.run_attempt, hcleaned, run_conclude]
  rfl

end Engine
end SparseTransfer
