import SparseTransfer.Proofs.Engine.Restoration
import SparseTransfer.Proofs.Engine.Trace

/- What a run tells of its way through the stages. The stages it announces follow one another, and
an event at the end says how it ended, unless the failure is that of making or removing the working
directory: then nothing is said. -/
namespace SparseTransfer

/-- The stage that comes after one that went well. -/
def Stage.next? : Stage → Option Stage
  | .init => some .fetching
  | .fetching => some .archiving
  | .archiving => some .uploading
  | .uploading => some .done
  | .done | .failed => none

/-- From a stage that is no end, a transfer goes on to the next stage or fails. -/
def Stage.CanFollow (s t : Stage) : Prop := s.next? = some t ∨ s.next? ≠ none ∧ t = .failed

instance : DecidableRel Stage.CanFollow :=
  fun s t => inferInstanceAs (Decidable (s.next? = some t ∨ s.next? ≠ none ∧ t = .failed))

/-- The stage that an event announces. -/
def Event.stage? : Event → Option Stage
  | .entering stage => some stage
  | .transferComplete .. => some .done
  | .transferFailed .. => some .failed
  | _ => none

/-- What an event says of how a run ended is so. -/
def Event.TellsOf (event : Event) : Except TransferError TransferReport → Prop
  | .ok report => event.message = "Transfer complete" ∧ event.stage? = some .done ∧
      event = .transferComplete report.archive.entries report.receipt.bytes report.receipt.target
  | .error failure => event.message = "Transfer failed" ∧ event.stage? = some .failed ∧
      ("category", .shown failure.category.name) ∈ event.fields ∧
      ("error", .shown failure.message) ∈ event.fields

/-- The stage that a call begins. -/
def StageCall.stage : StageCall → Stage
  | .fetch _ => .fetching
  | .archive .. => .archiving
  | .upload _ => .uploading

/-- What a stage that is called reports itself. -/
def Engine.spoken (e : Engine π) : StageCall × World π → List Event
  | (.fetch workDir, w) => ((e.pipeline.fetch workDir).run w).events
  | (.archive source workDir, w) => ((e.pipeline.archive source workDir).run w).events
  | (.upload archive, w) => ((e.pipeline.upload archive).run w).events

/-- No stage that is called announces a stage. -/
def Engine.Quiet (e : Engine π) (calls : List (StageCall × World π)) : Prop :=
  ∀ call ∈ calls, ∀ event ∈ e.spoken call, event.stage? = none

/-- The computation, of which nothing is reported. -/
def Action.muted (a : Action σ α) : Action σ α := fun s => ⟨(a.run s).result, (a.run s).state, []⟩

def Pipeline.muted (p : Pipeline π) : Pipeline π where
  fetch workDir := (p.fetch workDir).muted
  archive source workDir := (p.archive source workDir).muted
  upload archive := (p.upload archive).muted

def Engine.muted (e : Engine π) : Engine π := { e with pipeline := e.pipeline.muted }

/-- What the engine itself reports of a run: what is reported when the stages report nothing. -/
def Engine.ownEvents (e : Engine π) (parent : Path) (w : World π) : List Event :=
  ((e.muted.runIn parent).run w).events

/-- The stages that a run announces, the first one first. -/
def Engine.announced (e : Engine π) (parent : Path) (w : World π) : List Stage :=
  (e.ownEvents parent w).filterMap Event.stage?

section announced
variable {p : Pipeline π} {e : Engine π} {parent workDir : Path} {w w₁ w₂ w' : World π}
  {calls : List (StageCall × World π)} {outcome : Except (Stage × TransferError) TransferReport}
  {cleaned : Except TransferError Unit}

/-- Stages go as they go, whether they report it or not. -/
theorem Staged.muted (h : Staged p workDir w calls outcome w') :
    Staged p.muted workDir w calls outcome w' := by
  cases h with
  | fetchFails hfetch => exact .fetchFails hfetch
  | archiveFails hfetch harchive => exact .archiveFails hfetch harchive
  | uploadFails hfetch harchive hupload => exact .uploadFails hfetch harchive hupload
  | complete hfetch harchive hupload => exact .complete hfetch harchive hupload

theorem spoken_muted (e : Engine π) (call : StageCall × World π) : e.muted.spoken call = [] := by
  obtain ⟨call, w⟩ := call
  cases call <;> rfl

theorem quiet_muted (e : Engine π) (calls : List (StageCall × World π)) : e.muted.Quiet calls := by
  intro call _ event hevent
  rw [spoken_muted] at hevent
  cases hevent

theorem stages_monitor (m : Monitor) (phase : Phase) :
    (m.events phase).filterMap Event.stage? = [] := by
  unfold Monitor.events
  split <;> rfl

/-- Around what a stage reports itself, its call announces it, and nothing else. -/
theorem stages_callEvents (e : Engine π) (call : StageCall × World π) :
    (e.callEvents call).filterMap Event.stage? =
      call.1.stage :: (e.spoken call).filterMap Event.stage? := by
  have hstage {α : Type} (s : Stage) (phase : Phase) (o : Outcome (World π) α) :
      (e.stageEvents s phase o).filterMap Event.stage? = s :: o.events.filterMap Event.stage? := by
    obtain ⟨result, state, events⟩ := o
    cases result with
    | error failure => simp [Engine.stageEvents, Event.stage?]
    | ok x => simp [Engine.stageEvents, List.filterMap_append, stages_monitor, Event.stage?]
  obtain ⟨call, w⟩ := call
  cases call with
  | fetch workDir => exact hstage _ _ _
  | archive source workDir => exact hstage _ _ _
  | upload archive => exact hstage _ _ _

theorem stages_flatMap_callEvents (hquiet : e.Quiet calls) :
    (calls.flatMap e.callEvents).filterMap Event.stage? = calls.map (·.1.stage) := by
  induction calls with
  | nil => rfl
  | cons call calls ih =>
    have hspoken : (e.spoken call).filterMap Event.stage? = [] :=
      List.filterMap_eq_nil_iff.2 (hquiet call List.mem_cons_self)
    have hrest := ih fun c hc => hquiet c (List.mem_cons_of_mem _ hc)
    rw [List.flatMap_cons, List.filterMap_append, stages_callEvents, hspoken, hrest]
    rfl

/-- The stages in the events of a run that has a working directory. -/
theorem stages_of_run (hquiet : e.Quiet calls)
    (hcreate : (WorkDir.create e.suffixes parent).Ends w (.ok workDir) w₁)
    (hstaged : Staged e.pipeline workDir w₁ calls outcome w₂)
    (hremove : (WorkDir.remove workDir).Ends w₂ cleaned w') :
    ((e.runIn parent).run w).events.filterMap Event.stage? =
      .init :: calls.map (·.1.stage) ++
        (Engine.closing outcome cleaned).filterMap Event.stage? := by
  have hentering : Event.stage? (.entering .init) = some .init := rfl
  have hcreated : Event.stage? (.workDirCreated workDir) = none := rfl
  have hcleaning : Event.stage? (.workDirCleaning workDir) = none := rfl
  rw [Engine.run_with_directory hcreate hstaged hremove, List.filterMap_cons_some hentering,
    List.filterMap_cons_none hcreated, List.filterMap_append, List.filterMap_cons_none hcleaning,
    stages_flatMap_callEvents hquiet, List.cons_append]

theorem sublist_callEvents (e : Engine π) (call : StageCall × World π) :
    (e.muted.callEvents call).Sublist (e.callEvents call) := by
  have hstage {α : Type} (s : Stage) (phase : Phase) (a : Action (World π) α) :
      (e.muted.stageEvents s phase (a.muted.run call.2)).Sublist
        (e.stageEvents s phase (a.run call.2)) := by
    refine List.Sublist.cons_cons _ ?_
    exact (List.nil_sublist _).append (List.Sublist.refl _)
  obtain ⟨call, w⟩ := call
  cases call with
  | fetch workDir => exact hstage _ _ _
  | archive source workDir => exact hstage _ _ _
  | upload archive => exact hstage _ _ _

theorem sublist_flatMap_callEvents (e : Engine π) (calls : List (StageCall × World π)) :
    (calls.flatMap e.muted.callEvents).Sublist (calls.flatMap e.callEvents) := by
  induction calls with
  | nil => exact List.Sublist.refl _
  | cons call calls ih => exact (sublist_callEvents e call).append ih

theorem announced_of_run (hcreate : (WorkDir.create e.suffixes parent).Ends w (.ok workDir) w₁)
    (hstaged : Staged e.pipeline workDir w₁ calls outcome w₂)
    (hremove : (WorkDir.remove workDir).Ends w₂ cleaned w') :
    e.announced parent w =
      .init :: calls.map (·.1.stage) ++ (Engine.closing outcome cleaned).filterMap Event.stage? :=
  stages_of_run (e := e.muted) (quiet_muted e calls) hcreate hstaged.muted hremove

/-- What the engine reports is reported in the run, in that order. -/
theorem sublist_ownEvents (hcreate : (WorkDir.create e.suffixes parent).Ends w (.ok workDir) w₁)
    (hstaged : Staged e.pipeline workDir w₁ calls outcome w₂)
    (hremove : (WorkDir.remove workDir).Ends w₂ cleaned w') :
    (e.ownEvents parent w).Sublist ((e.runIn parent).run w).events := by
  have hown := Engine.run_with_directory (e := e.muted) hcreate hstaged.muted hremove
  rw [Engine.ownEvents, hown, Engine.run_with_directory hcreate hstaged hremove]
  refine List.Sublist.cons_cons _ (List.Sublist.cons_cons _ ?_)
  exact (sublist_flatMap_callEvents e calls).append (List.Sublist.refl _)

theorem getLast?_events (hcreate : (WorkDir.create e.suffixes parent).Ends w (.ok workDir) w₁)
    (hstaged : Staged e.pipeline workDir w₁ calls outcome w₂)
    (hremove : (WorkDir.remove workDir).Ends w₂ cleaned w') (front : List Event) {event : Event}
    (hclosing : Engine.closing outcome cleaned = front ++ [event]) :
    ((e.runIn parent).run w).events.getLast? = some event := by
  rw [List.getLast?_eq_some_iff, Engine.run_with_directory hcreate hstaged hremove, hclosing]
  exact ⟨.entering .init :: .workDirCreated workDir :: (calls.flatMap e.callEvents ++
    .workDirCleaning workDir :: front), by simp⟩

end announced

/-- How a run tells of its stages: those that it announces, and the event that says how it ended.
Nothing says so when the working directory could not be made, or could not be removed after all
stages had gone well. -/
inductive Engine.Told (e : Engine π) (parent : Path) (w : World π) :
    List Stage → Option Event → Prop
  | notMade {failure : TransferError} {w' : World π}
      (hcreate : (WorkDir.create e.suffixes parent).Ends w (.error failure) w')
      (hcalls : e.calls parent w = [])
      (hresult : ((e.runIn parent).run w).result = .error failure) :
      Told e parent w [.init] none
  | failed {workDir : Path} {during : Stage} {failure : TransferError} {w₁ w₂ : World π}
      (hcreate : (WorkDir.create e.suffixes parent).Ends w (.ok workDir) w₁)
      (hstaged : Staged e.pipeline workDir w₁ (e.calls parent w) (.error (during, failure)) w₂)
      (hresult : ((e.runIn parent).run w).result = .error failure) :
      Told e parent w (.init :: (e.calls parent w).map (·.1.stage) ++ [.failed])
        (some (.transferFailed during failure))
  | notRemoved {workDir : Path} {report : TransferReport} {failure : TransferError}
      {w₁ w₂ w' : World π}
      (hcreate : (WorkDir.create e.suffixes parent).Ends w (.ok workDir) w₁)
      (hstaged : Staged e.pipeline workDir w₁ (e.calls parent w) (.ok report) w₂)
      (hremove : (WorkDir.remove workDir).Ends w₂ (.error failure) w')
      (hresult : ((e.runIn parent).run w).result = .error failure) :
      Told e parent w [.init, .fetching, .archiving, .uploading] none
  | complete {workDir : Path} {report : TransferReport} {w₁ w₂ : World π}
      (hcreate : (WorkDir.create e.suffixes parent).Ends w (.ok workDir) w₁)
      (hstaged : Staged e.pipeline workDir w₁ (e.calls parent w) (.ok report) w₂)
      (hresult : ((e.runIn parent).run w).result = .ok report) :
      Told e parent w [.init, .fetching, .archiving, .uploading, .done] (some
        (.transferComplete report.archive.entries report.receipt.bytes report.receipt.target))

/-- Calls that are made one after the other begin a way through the stages, from which a failure can
follow. -/
theorem Staged.isChain {p : Pipeline π} {workDir : Path} {w w' : World π}
    {calls : List (StageCall × World π)} {outcome : Except (Stage × TransferError) TransferReport}
    (h : Staged p workDir w calls outcome w') :
    List.IsChain Stage.CanFollow (.init :: calls.map (·.1.stage) ++ [.failed]) := by
  cases h with
  | fetchFails _ => simp [StageCall.stage, Stage.CanFollow, Stage.next?]
  | archiveFails _ _ => simp [StageCall.stage, Stage.CanFollow, Stage.next?]
  | uploadFails _ _ _ | complete _ _ _ => simp [StageCall.stage, Stage.CanFollow, Stage.next?]

theorem Staged.stages_of_ok {p : Pipeline π} {workDir : Path} {w w' : World π}
    {calls : List (StageCall × World π)} {report : TransferReport}
    (h : Staged p workDir w calls (.ok report) w') :
    calls.map (·.1.stage) = [.fetching, .archiving, .uploading] := by
  cases h with
  | complete _ _ _ => rfl

/-- A run announces its stages in the order in which they follow one another, each when it is
called. The last event says how the run ended, except after the two failures that no stage is to
blame for. -/
theorem told_stages (e : Engine π) (parent : Path) (w : World π) :
    ∃ last, e.Told parent w (e.announced parent w) last ∧
      (e.announced parent w).IsChain Stage.CanFollow ∧
      (e.ownEvents parent w).Sublist ((e.runIn parent).run w).events ∧
      (e.Quiet (e.calls parent w) →
        ((e.runIn parent).run w).events.filterMap Event.stage? = e.announced parent w) ∧
      ((e.runIn parent).run w).events.head? = some (.entering .init) ∧
      ∀ event ∈ last, ((e.runIn parent).run w).events.getLast? = some event ∧
        event.TellsOf ((e.runIn parent).run w).result := by
  rcases e.run_cases parent w with ⟨failure, hcreate, hresult, hcalls⟩ |
    ⟨workDir, w₁, outcome, w₂, cleaned, hcreate, hstaged, hremove, hresult⟩
  · have hevents := congrArg Outcome.events (Engine.run_without_directory hcreate)
    have hown : e.ownEvents parent w = [.entering .init] :=
      congrArg Outcome.events (Engine.run_without_directory (e := e.muted) hcreate)
    have hannounced : e.announced parent w = [.init] := by
      rw [Engine.announced, hown]
      rfl
    rw [hevents, hown, hannounced]
    refine ⟨none, .notMade hcreate hcalls hresult, by simp, List.Sublist.refl _,
      fun _ => rfl, rfl, ?_⟩
    intro event hevent
    cases hevent
  · have hannounced := announced_of_run hcreate hstaged hremove
    have hsublist := sublist_ownEvents hcreate hstaged hremove
    have hquiet (h : e.Quiet (e.calls parent w)) :
        ((e.runIn parent).run w).events.filterMap Event.stage? = e.announced parent w := by
      rw [stages_of_run h hcreate hstaged hremove, hannounced]
    have hfirst : ((e.runIn parent).run w).events.head? = some (.entering .init) := by
      rw [Engine.run_with_directory hcreate hstaged hremove]
      rfl
    have hlast (front : List Event) {event : Event} :=
      @getLast?_events _ _ _ _ _ _ _ _ _ _ _ hcreate hstaged hremove front event
    cases outcome with
    | error failed =>
      obtain ⟨during, failure⟩ := failed
      have htold : e.announced parent w = .init :: (e.calls parent w).map (·.1.stage) ++ [.failed] ∧
          ((e.runIn parent).run w).events.getLast? = some (.transferFailed during failure) := by
        rw [hannounced]
        cases cleaned with
        | error cause => exact ⟨rfl, hlast [.cleanupFailed cause] rfl⟩
        | ok _ => exact ⟨rfl, hlast [] rfl⟩
      obtain ⟨hstages, hend⟩ := htold
      have hresult : ((e.runIn parent).run w).result = .error failure := hresult
      refine ⟨some (.transferFailed during failure), ?_, ?_, hsublist, hquiet, hfirst, ?_⟩
      · rw [hstages]
        exact .failed hcreate hstaged hresult
      · rw [hstages]
        exact hstaged.isChain
      · rintro event ⟨⟩
        refine ⟨hend, ?_⟩
        rw [hresult]
        simp [Event.TellsOf, Event.message, Event.stage?, Event.fields]
    | ok report =>
      rw [hstaged.stages_of_ok] at hannounced
      cases cleaned with
      | error cause =>
        have hstages : e.announced parent w = [.init, .fetching, .archiving, .uploading] :=
          hannounced
        refine ⟨none, ?_, ?_, hsublist, hquiet, hfirst, ?_⟩
        · rw [hstages]
          exact .notRemoved hcreate hstaged hremove hresult
        · rw [hstages]
          decide
        · intro event hevent
          cases hevent
      | ok _ =>
        have hstages : e.announced parent w = [.init, .fetching, .archiving, .uploading, .done] :=
          hannounced
        have hresult : ((e.runIn parent).run w).result = .ok report := hresult
        refine ⟨some (.transferComplete report.archive.entries report.receipt.bytes
          report.receipt.target), ?_, ?_, hsublist, hquiet, hfirst, ?_⟩
        · rw [hstages]
          exact .complete hcreate hstaged hresult
        · rw [hstages]
          decide
        · rintro event ⟨⟩
          refine ⟨hlast [] rfl, ?_⟩
          rw [hresult]
          exact ⟨rfl, rfl, rfl⟩

/-- Stages that all go well, although the first removes the working directory. -/
def vanishingPipeline : Pipeline Unit where
  fetch workDir := do
    WorkDir.remove workDir
    return workDir
  archive source _ := return ⟨source, 1, 4⟩
  upload archive := return ⟨"sips", "transfer.zip", archive.bytes, none⟩

def vanishingEngine : Engine Unit := { removingEngine with pipeline := vanishingPipeline }

/-- Two runs that fail and end in no stage: one for which there is no parent directory, and one
whose working directory is gone when it is to be removed. -/
theorem untold_failures :
    (∃ failure, ((vanishingEngine.runIn [47, 120]).run ⟨linkedFolder, 0, ()⟩).result =
      .error failure) ∧
      ((vanishingEngine.runIn [47, 120]).run ⟨linkedFolder, 0, ()⟩).events.filterMap Event.stage? =
        [.init] ∧
    (∃ failure, ((vanishingEngine.runIn [47, 100]).run ⟨linkedFolder, 0, ()⟩).result =
      .error failure) ∧
      ((vanishingEngine.runIn [47, 100]).run ⟨linkedFolder, 0, ()⟩).events.filterMap Event.stage? =
        [.init, .fetching, .archiving, .uploading] :=
  ⟨⟨_, rfl⟩, by decide, ⟨_, rfl⟩, by decide⟩

end SparseTransfer
