import SparseTransfer.Engine
import SparseTransfer.Proofs.WorkDir

/- Which stages a run calls, and what one stage and the end of a run come to and report. An engine
can be made to note every call of a stage together with the world in which it is made; it runs as it
does without the notes. -/
namespace SparseTransfer

inductive StageCall where
  | fetch (workDir : Path)
  | archive (source workDir : Path)
  | upload (archive : ArchiveSummary)
  deriving Repr, DecidableEq

/-- What a pipeline keeps for itself, and the calls noted so far. -/
structure Noted (π : Type) where
  own : π
  calls : List (StageCall × World π)

namespace World

/-- The world without the notes. -/
def plain (w : World (Noted π)) : World π := ⟨w.files, w.drawn, w.own.own⟩

/-- The world before anything has been noted. -/
def unnoted (w : World π) : World (Noted π) := ⟨w.files, w.drawn, ⟨w.own, []⟩⟩

theorem plain_unnoted (w : World π) : w.unnoted.plain = w := rfl

end World

/-- Notes a call, and does what the stage does. -/
def Action.noting (call : StageCall) (a : Action (World π) α) :
    Action (World (Noted π)) α := fun w =>
  let o := a.run w.plain
  let calls := w.own.calls ++ [(call, w.plain)]
  ⟨o.result, ⟨o.state.files, o.state.drawn, ⟨o.state.own, calls⟩⟩, o.events⟩

def Pipeline.noting (p : Pipeline π) : Pipeline (Noted π) where
  fetch workDir := (p.fetch workDir).noting (.fetch workDir)
  archive source workDir := (p.archive source workDir).noting (.archive source workDir)
  upload archive := (p.upload archive).noting (.upload archive)

def Engine.noting (e : Engine π) : Engine (Noted π) := ⟨e.pipeline.noting, e.monitor, e.suffixes⟩

/-- The calls of stages in a run, each with the world in which it is made. -/
def Engine.calls (e : Engine π) (parent : Path) (w : World π) : List (StageCall × World π) :=
  ((e.noting.runIn parent).run w.unnoted).state.own.calls

/-- Notes apart, two computations do the same. -/
def Follows (a' : Action (World (Noted π)) α) (a : Action (World π) α) : Prop :=
  ∀ w, (a'.run w).result = (a.run w.plain).result ∧ (a'.run w).state.plain = (a.run w.plain).state ∧
    (a'.run w).events = (a.run w.plain).events

namespace Follows

theorem ends {a' : Action (World (Noted π)) α} {a : Action (World π) α} (ha : Follows a' a)
    {w w' : World (Noted π)} {r : Except TransferError α} (h : a'.Ends w r w') :
    a.Ends w.plain r w'.plain := by
  obtain ⟨rfl, rfl⟩ := h
  obtain ⟨hresult, hstate, -⟩ := ha w
  exact ⟨hresult.symm, hstate.symm⟩

theorem bind {a' : Action (World (Noted π)) α} {a : Action (World π) α}
    {f' : α → Action (World (Noted π)) β} {f : α → Action (World π) β} (ha : Follows a' a)
    (hf : ∀ x, Follows (f' x) (f x)) : Follows (a' >>= f') (a >>= f) := by
  intro w
  obtain ⟨hresult, hstate, hevents⟩ := ha w
  cases h : (a.run w.plain).result with
  | ok x =>
    rw [h] at hresult
    obtain ⟨hresult', hstate', hevents'⟩ := hf x (a'.run w).state
    rw [hstate] at hresult' hstate' hevents'
    rw [Action.run_bind_of_ok hresult, Action.run_bind_of_ok h]
    exact ⟨hresult', hstate', by rw [hevents, hevents']⟩
  | error e =>
    rw [h] at hresult
    rw [Action.run_bind_of_error hresult, Action.run_bind_of_error h]
    exact ⟨rfl, hstate, hevents⟩

theorem getBind {f' : World (Noted π) → Action (World (Noted π)) β}
    {f : World π → Action (World π) β} (hf : ∀ w, Follows (f' w) (f w.plain)) :
    Follows (Action.get >>= f') (Action.get >>= f) :=
  fun w => hf w w

theorem pure (x : α) :
    Follows (Pure.pure x : Action (World (Noted π)) α) (Pure.pure x : Action (World π) α) :=
  fun _ => ⟨rfl, rfl, rfl⟩

theorem fail (e : TransferError) :
    Follows (Action.fail e : Action (World (Noted π)) α) (Action.fail e : Action (World π) α) :=
  fun _ => ⟨rfl, rfl, rfl⟩

theorem report (e : Event) :
    Follows (Action.report e : Action (World (Noted π)) Unit)
      (Action.report e : Action (World π) Unit) :=
  fun _ => ⟨rfl, rfl, rfl⟩

theorem attempt {a' : Action (World (Noted π)) α} {a : Action (World π) α} (h : Follows a' a) :
    Follows a'.attempt a.attempt := by
  intro w
  obtain ⟨hresult, hstate, hevents⟩ := h w
  exact ⟨congrArg Except.ok hresult, hstate, hevents⟩

theorem noting (call : StageCall) (a : Action (World π) α) : Follows (a.noting call) a :=
  fun _ => ⟨rfl, rfl, rfl⟩

theorem createNamed (suffixes : Suffixes) (parent : Path) (attempts : Nat) :
    Follows (WorkDir.createNamed suffixes parent attempts : Action (World (Noted π)) Path)
      (WorkDir.createNamed suffixes parent attempts : Action (World π) Path) := by
  induction attempts with
  | zero => exact Follows.fail _
  | succ attempts ih =>
    intro w
    simp only [Action.run, WorkDir.createNamed, World.plain]
    cases hmake :
      w.files.createDir (Path.append parent (WorkDir.nameStart ++ suffixes w.drawn)) with
    | ok files => exact ⟨rfl, rfl, rfl⟩
    | error e =>
      simp only
      split
      · exact ih { w with drawn := w.drawn + 1 }
      · exact ⟨rfl, rfl, rfl⟩

theorem create (suffixes : Suffixes) (parent : Path) :
    Follows (WorkDir.create suffixes parent : Action (World (Noted π)) Path)
      (WorkDir.create suffixes parent : Action (World π) Path) := by
  refine getBind fun w => ?_
  exact (createNamed suffixes _ WorkDir.attempts).bind fun path => (report _).bind fun _ => pure _

theorem remove (path : Path) :
    Follows (WorkDir.remove path : Action (World (Noted π)) Unit)
      (WorkDir.remove path : Action (World π) Unit) := by
  intro w
  simp only [Action.run, WorkDir.remove, World.plain]
  cases w.files.removeTree path with
  | ok files => exact ⟨rfl, rfl, rfl⟩
  | error e => exact ⟨rfl, rfl, rfl⟩

theorem cleanup (path : Path) :
    Follows (WorkDir.cleanup path : Action (World (Noted π)) Unit)
      (WorkDir.cleanup path : Action (World π) Unit) := by
  exact (report _).bind fun _ => remove path

theorem monitor (m : Monitor) (phase : Phase) :
    Follows (m.report phase : Action (World (Noted π)) Unit)
      (m.report phase : Action (World π) Unit) := by
  rw [Monitor.report, Monitor.report]
  split
  · exact report _
  · exact pure ()

theorem stage (e : Engine π) (s : Stage) (phase : Phase) {work' : Action (World (Noted π)) α}
    {work : Action (World π) α} (h : Follows work' work) :
    Follows (e.noting.stage s phase work') (e.stage s phase work) := by
  refine (report _).bind fun _ => h.attempt.bind fun r => ?_
  cases r with
  | error failure => exact pure _
  | ok x => exact (monitor e.monitor phase).bind fun _ => pure _

theorem stages (e : Engine π) (workDir : Path) :
    Follows (e.noting.stages workDir) (e.stages workDir) := by
  refine (stage e _ _ (noting _ _)).bind fun r => ?_
  cases r with
  | error failure => exact pure _
  | ok source =>
    refine (stage e _ _ (noting _ _)).bind fun r => ?_
    cases r with
    | error failure => exact pure _
    | ok archive =>
      refine (stage e _ _ (noting _ _)).bind fun r => ?_
      cases r with
      | error failure => exact pure _
      | ok receipt => exact pure _

theorem conclude (outcome : Except (Stage × TransferError) TransferReport)
    (cleaned : Except TransferError Unit) :
    Follows (Engine.conclude outcome cleaned : Action (World (Noted π)) TransferReport)
      (Engine.conclude outcome cleaned : Action (World π) TransferReport) := by
  cases outcome with
  | ok report =>
    cases cleaned with
    | ok _ => exact (Follows.report _).bind fun _ => pure _
    | error e => exact fail e
  | error failed =>
    cases cleaned with
    | ok _ => exact (pure ()).bind fun _ => (report _).bind fun _ => fail _
    | error e => exact (report _).bind fun _ => (report _).bind fun _ => fail _

/-- Notes apart, a run that notes its calls is the run. -/
theorem runIn (e : Engine π) (parent : Path) :
    Follows (e.noting.runIn parent) (e.runIn parent) := by
  refine (report _).bind fun _ => (create _ _).bind fun workDir =>
    (stages e workDir).bind fun r => ?_
  exact (cleanup workDir).attempt.bind fun c => conclude r c

end Follows

/-- How the stages can go that are begun in `w`: the calls, what comes of them, and what is left. -/
inductive Staged (p : Pipeline π) (workDir : Path) (w : World π) :
    List (StageCall × World π) → Except (Stage × TransferError) TransferReport → World π → Prop
  | fetchFails {e : TransferError} {w' : World π}
      (hfetch : (p.fetch workDir).Ends w (.error e) w') :
      Staged p workDir w [(.fetch workDir, w)] (.error (.fetching, e)) w'
  | archiveFails {source : Path} {e : TransferError} {w₁ w' : World π}
      (hfetch : (p.fetch workDir).Ends w (.ok source) w₁)
      (harchive : (p.archive source workDir).Ends w₁ (.error e) w') :
      Staged p workDir w [(.fetch workDir, w), (.archive source workDir, w₁)]
        (.error (.archiving, e)) w'
  | uploadFails {source : Path} {archive : ArchiveSummary} {e : TransferError} {w₁ w₂ w' : World π}
      (hfetch : (p.fetch workDir).Ends w (.ok source) w₁)
      (harchive : (p.archive source workDir).Ends w₁ (.ok archive) w₂)
      (hupload : (p.upload archive).Ends w₂ (.error e) w') :
      Staged p workDir w
        [(.fetch workDir, w), (.archive source workDir, w₁), (.upload archive, w₂)]
        (.error (.uploading, e)) w'
  | complete {source : Path} {archive : ArchiveSummary} {receipt : UploadReceipt}
    {w₁ w₂ w' : World π}
      (hfetch : (p.fetch workDir).Ends w (.ok source) w₁)
      (harchive : (p.archive source workDir).Ends w₁ (.ok archive) w₂)
      (hupload : (p.upload archive).Ends w₂ (.ok receipt) w') :
      Staged p workDir w
        [(.fetch workDir, w), (.archive source workDir, w₁), (.upload archive, w₂)]
        (.ok ⟨archive, receipt⟩) w'

/-- What a monitor reports after a stage. -/
def Monitor.events (m : Monitor) (phase : Phase) : List Event :=
  if m.enabled then [.processStats phase] else []

theorem Monitor.run_report (m : Monitor) (phase : Phase) (s : σ) :
    (m.report phase).run s = ⟨.ok (), s, m.events phase⟩ := by
  unfold Monitor.report Monitor.events
  split <;> rfl

namespace Engine

/-- What is reported while a stage is gone through that comes to `o`: the monitor follows a
success. -/
def stageEvents (e : Engine π) (s : Stage) (phase : Phase) (o : Outcome (World π) α) : List Event :=
  .entering s :: o.events ++
    match o.result with
    | .ok _ => e.monitor.events phase
    | .error _ => []

/-- What a stage comes to, leaves and reports. -/
theorem run_stage (e : Engine π) (s : Stage) (phase : Phase) (work : Action (World π) α)
    (w : World π) : (e.stage s phase work).run w =
      ⟨.ok ((work.run w).result.mapError fun failure => (s, failure)), (work.run w).state,
        e.stageEvents s phase (work.run w)⟩ := by
  have hattempt : (work.attempt.run w).result = .ok (work.run w).result := rfl
  rw [stage, Action.run_bind_of_ok rfl, Action.run_report, Action.run_bind_of_ok hattempt,
    Action.run_attempt, stageEvents]
  cases hwork : (work.run w).result with
  | error failure => rfl
  | ok x =>
    have hmonitor := e.monitor.run_report phase (work.run w).state
    simp only [Action.run_bind_of_ok (congrArg Outcome.result hmonitor), hmonitor, Action.run_pure,
      List.append_nil]
    rfl

end Engine

section stages
variable {w w' : World (Noted π)}

theorem ends_noting {call : StageCall} {a : Action (World π) α} {r : Except TransferError α}
    (h : (a.noting call).Ends w r w') :
    a.Ends w.plain r w'.plain ∧ w'.own.calls = w.own.calls ++ [(call, w.plain)] := by
  obtain ⟨rfl, rfl⟩ := h
  exact ⟨⟨rfl, rfl⟩, rfl⟩

/-- A stage leaves the world as its work leaves it. -/
theorem ends_stage {e : Engine π} {s : Stage} {phase : Phase} {work : Action (World π) α}
    {w w' : World π} {r : Except TransferError (Except (Stage × TransferError) α)}
    (h : (e.stage s phase work).Ends w r w') :
    ∃ x, work.Ends w x w' ∧ r = .ok (x.mapError fun failure => (s, failure)) := by
  rw [Action.Ends, Engine.run_stage] at h
  obtain ⟨rfl, rfl⟩ := h
  exact ⟨_, ⟨rfl, rfl⟩, rfl⟩

/-- What follows a stage is told what came of it. -/
theorem ends_stage_bind {e : Engine (Noted π)} {s : Stage} {phase : Phase} {call : StageCall}
    {a : Action (World π) α} {f : Except (Stage × TransferError) α → Action (World (Noted π)) β}
    {r : Except TransferError β} (h : (e.stage s phase (a.noting call) >>= f).Ends w r w') :
    ∃ x w₁, a.Ends w.plain x w₁.plain ∧ w₁.own.calls = w.own.calls ++ [(call, w.plain)] ∧
      (f (x.mapError fun failure => (s, failure))).Ends w₁ r w' := by
  rw [Action.ends_bind] at h
  rcases h with ⟨_, w₁, hstage, h⟩ | ⟨_, hstage, -⟩
  · obtain ⟨x, hwork, hx⟩ := ends_stage hstage
    cases hx
    obtain ⟨ha, hcalls⟩ := ends_noting hwork
    exact ⟨x, w₁, ha, hcalls, h⟩
  · obtain ⟨_, _, hx⟩ := ends_stage hstage
    cases hx

/-- The calls that are noted are those of the stages that were gone through. -/
theorem staged_of_ends {e : Engine π} {workDir : Path}
    {r : Except TransferError (Except (Stage × TransferError) TransferReport)}
    (h : (e.noting.stages workDir).Ends w r w') :
    ∃ calls outcome, r = .ok outcome ∧ w'.own.calls = w.own.calls ++ calls ∧
      Staged e.pipeline workDir w.plain calls outcome w'.plain := by
  obtain ⟨fetched, w₁, hfetch, hcalls, h⟩ := ends_stage_bind h
  cases fetched with
  | error failure =>
    obtain ⟨rfl, rfl⟩ := Action.ends_pure.1 h
    exact ⟨_, _, rfl, hcalls, .fetchFails hfetch⟩
  | ok source =>
    obtain ⟨archived, w₂, harchive, hcalls', h⟩ := ends_stage_bind h
    rw [hcalls, List.append_assoc] at hcalls'
    cases archived with
    | error failure =>
      obtain ⟨rfl, rfl⟩ := Action.ends_pure.1 h
      exact ⟨_, _, rfl, hcalls', .archiveFails hfetch harchive⟩
    | ok archive =>
      obtain ⟨uploaded, w₃, hupload, hcalls'', h⟩ := ends_stage_bind h
      rw [hcalls', List.append_assoc] at hcalls''
      cases uploaded with
      | error failure =>
        obtain ⟨rfl, rfl⟩ := Action.ends_pure.1 h
        exact ⟨_, _, rfl, hcalls'', .uploadFails hfetch harchive hupload⟩
      | ok receipt =>
        obtain ⟨rfl, rfl⟩ := Action.ends_pure.1 h
        exact ⟨_, _, rfl, hcalls'', .complete hfetch harchive hupload⟩

end stages

namespace Engine

/-- The result of a run, from what came of its stages and of removing the working directory. -/
def concluded (outcome : Except (Stage × TransferError) TransferReport)
    (cleaned : Except TransferError Unit) : Except TransferError TransferReport :=
  match outcome, cleaned with
  | .ok report, .ok () => .ok report
  | .ok _, .error e => .error e
  | .error (_, failure), _ => .error failure

/-- What is reported last. If all stages went well but the working directory could not be removed,
there is nothing. -/
def closing (outcome : Except (Stage × TransferError) TransferReport)
    (cleaned : Except TransferError Unit) : List Event :=
  match outcome, cleaned with
  | .ok report, .ok () =>
    [.transferComplete report.archive.entries report.receipt.bytes report.receipt.target]
  | .ok _, .error _ => []
  | .error (during, failure), .ok () => [.transferFailed during failure]
  | .error (during, failure), .error e => [.cleanupFailed e, .transferFailed during failure]

theorem run_conclude (outcome : Except (Stage × TransferError) TransferReport)
    (cleaned : Except TransferError Unit) (w : World π) :
    (conclude outcome cleaned).run w = ⟨concluded outcome cleaned, w, closing outcome cleaned⟩ := by
  rcases outcome with ⟨during, failure⟩ | report <;> rcases cleaned with e | _ <;> rfl

theorem ends_conclude {outcome : Except (Stage × TransferError) TransferReport}
    {cleaned : Except TransferError Unit} {w w' : World π}
    {r : Except TransferError TransferReport} : (conclude outcome cleaned).Ends w r w' ↔
      r = concluded outcome cleaned ∧ w' = w := by
  rw [Action.Ends, run_conclude]
  exact and_congr eq_comm eq_comm

end Engine

/-- A run ends when its working directory cannot be made, or goes through its stages and then
removes its working directory. -/
theorem Engine.run_cases (e : Engine π) (parent : Path) (w : World π) :
    (∃ failure, (WorkDir.create e.suffixes parent).Ends w (.error failure)
        ((e.runIn parent).run w).state ∧
      ((e.runIn parent).run w).result = .error failure ∧ e.calls parent w = []) ∨
    ∃ workDir w₁ outcome w₂ cleaned, (WorkDir.create e.suffixes parent).Ends w (.ok workDir) w₁ ∧
      Staged e.pipeline workDir w₁ (e.calls parent w) outcome w₂ ∧
      (WorkDir.remove workDir).Ends w₂ cleaned ((e.runIn parent).run w).state ∧
      ((e.runIn parent).run w).result = concluded outcome cleaned := by
  obtain ⟨hresult, hstate, -⟩ := Follows.runIn e parent w.unnoted
  rw [World.plain_unnoted] at hresult hstate
  rw [← hresult, ← hstate]
  have h := Action.ends_run (e.noting.runIn parent) w.unnoted
  have hcalls : e.calls parent w = ((e.noting.runIn parent).run w.unnoted).state.own.calls := rfl
  generalize ((e.noting.runIn parent).run w.unnoted).result = r at h ⊢
  generalize ((e.noting.runIn parent).run w.unnoted).state = w' at h hcalls ⊢
  rw [Engine.runIn, Action.ends_report_bind, Action.ends_bind] at h
  have hsame : e.noting.suffixes = e.suffixes := rfl
  rw [hsame] at h
  rcases h with ⟨workDir, w₁, hcreate, h⟩ | ⟨failure, hcreate, rfl⟩
  · have hplain := (Follows.create e.suffixes parent).ends hcreate
    rw [World.plain_unnoted] at hplain
    rw [Action.ends_bind] at h
    rcases h with ⟨outcome, w₂, hstages, h⟩ | ⟨failure, hstages, rfl⟩
    · obtain ⟨calls, outcome', heq, hnoted, hstaged⟩ := staged_of_ends hstages
      cases heq
      rw [Action.ends_attempt_bind] at h
      obtain ⟨cleaned, w₃, hclean, h⟩ := h
      rw [WorkDir.cleanup, Action.ends_report_bind] at hclean
      obtain ⟨rfl, rfl⟩ := ends_conclude.1 h
      refine Or.inr ⟨workDir, w₁.plain, outcome, w₂.plain, cleaned, hplain, ?_,
        (Follows.remove workDir).ends hclean, rfl⟩
      have hnil : w₁.own.calls = [] := by rw [own_createNamed (ends_create hcreate)]; rfl
      rw [hcalls, own_remove hclean, hnoted, hnil]
      exact hstaged
    · obtain ⟨_, _, heq, -, -⟩ := staged_of_ends hstages
      cases heq
  · have hplain := (Follows.create e.suffixes parent).ends hcreate
    rw [World.plain_unnoted] at hplain
    refine Or.inl ⟨failure, hplain, rfl, ?_⟩
    rw [hcalls, own_createNamed (ends_create hcreate)]
    rfl

/-- The calls of a run whose first two stages go well. -/
theorem Engine.calls_of_archived {e : Engine π} {parent workDir source : Path}
    {archive : ArchiveSummary} {w w₁ w₂ w₃ : World π}
    (hcreate : (WorkDir.create e.suffixes parent).Ends w (.ok workDir) w₁)
    (hfetch : (e.pipeline.fetch workDir).Ends w₁ (.ok source) w₂)
    (harchive : (e.pipeline.archive source workDir).Ends w₂ (.ok archive) w₃) :
    e.calls parent w =
      [(.fetch workDir, w₁), (.archive source workDir, w₂), (.upload archive, w₃)] := by
  rcases e.run_cases parent w with ⟨failure, hcreate', -, -⟩ |
    ⟨workDir', w₁', outcome, w', cleaned, hcreate', hstaged, -, -⟩
  · cases (hcreate.unique hcreate').1
  · obtain ⟨heq, rfl⟩ := hcreate.unique hcreate'
    cases heq
    generalize e.calls parent w = calls at hstaged ⊢
    cases hstaged with
    | fetchFails hfails => cases (hfetch.unique hfails).1
    | archiveFails hfetch' hfails =>
      obtain ⟨heq, rfl⟩ := hfetch.unique hfetch'
      cases heq
      cases (harchive.unique hfails).1
    | uploadFails hfetch' harchive' _ | complete hfetch' harchive' _ =>
      obtain ⟨heq, rfl⟩ := hfetch.unique hfetch'
      cases heq
      obtain ⟨heq, rfl⟩ := harchive.unique harchive'
      cases heq
      rfl

end SparseTransfer
