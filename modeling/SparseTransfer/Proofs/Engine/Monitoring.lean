import Mathlib.Data.List.Forall2
import SparseTransfer.Proofs.Engine.Announcements

/- Runs that are monitored and runs that are not. A monitor adds an event behind every stage that
goes well; what a run calls, comes to and leaves behind is the same without it. -/
namespace SparseTransfer

/-- The phase behind which an event says that the process was looked at. -/
def Event.phase? : Event → Option Phase
  | .processStats phase => some phase
  | _ => none

/-- Such events are told by their message. -/
theorem Event.message_eq_stats {event : Event} :
    event.message = "process stats" ↔ event.phase? ≠ none := by
  cases event with
  | runningGit step command | suggesting e =>
    -- Part of the message is not known, but its first letter is.
    refine iff_of_false (fun h => ?_) (fun h => h rfl)
    have hletter := congrArg (fun text : String => text.toList.head?) h
    simp [message] at hletter
  | _ => simp [message, phase?]

/-- The events that do not tell of a look at the process. -/
def withoutStats (events : List Event) : List Event :=
  events.filter fun event => event.message ≠ "process stats"

/-- The phase that a call stands for. -/
def StageCall.phase : StageCall → Phase
  | .fetch _ => .fetch
  | .archive .. => .archive
  | .upload _ => .upload

/-- Whether the stage that is called succeeds. -/
def Pipeline.succeeds (p : Pipeline π) : StageCall × World π → Bool
  | (.fetch workDir, w) => ((p.fetch workDir).run w).result.isOk
  | (.archive source workDir, w) => ((p.archive source workDir).run w).result.isOk
  | (.upload archive, w) => ((p.upload archive).run w).result.isOk

namespace Engine

/-- The engine with another monitor. -/
def withMonitor (e : Engine π) (m : Monitor) : Engine π := { e with monitor := m }

/-- The engine, made with monitoring on. -/
def monitored (e : Engine π) : Engine π := e.withMonitor { enabled := true }

/-- The engine, made with monitoring off. -/
def unmonitored (e : Engine π) : Engine π := e.withMonitor { enabled := false }

/-- What is reported of a call without a monitor: that the stage is entered, and what it reports. -/
def told (e : Engine π) (call : StageCall × World π) : List Event :=
  .entering call.1.stage :: e.spoken call

/-- What a monitor reports behind a call: one look at the process if the stage has succeeded. -/
def looks (e : Engine π) (call : StageCall × World π) : List Event :=
  if e.pipeline.succeeds call then [.processStats call.1.phase] else []

/-- No stage that is called tells of a look at the process itself. -/
def SpeaksOfNoStats (e : Engine π) (calls : List (StageCall × World π)) : Prop :=
  ∀ call ∈ calls, ∀ event ∈ e.spoken call, event.phase? = none

end Engine

section stats
variable {e : Engine π} {calls : List (StageCall × World π)}

theorem withoutStats_append (front back : List Event) :
    withoutStats (front ++ back) = withoutStats front ++ withoutStats back :=
  List.filter_append ..

theorem withoutStats_eq_self {events : List Event} (h : ∀ event ∈ events, event.phase? = none) :
    withoutStats events = events := by
  refine List.filter_eq_self.2 fun event hevent => decide_eq_true fun hmessage => ?_
  exact Event.message_eq_stats.1 hmessage (h event hevent)

theorem withoutStats_looks (e : Engine π) (call : StageCall × World π) :
    withoutStats (e.looks call) = [] := by
  rw [Engine.looks]
  split <;> rfl

theorem phases_looks (e : Engine π) (call : StageCall × World π) :
    (e.looks call).filterMap Event.phase? =
      if e.pipeline.succeeds call then [call.1.phase] else [] := by
  rw [Engine.looks]
  split <;> rfl

theorem phase?_of_told (h : e.SpeaksOfNoStats calls) :
    ∀ event ∈ calls.flatMap e.told, event.phase? = none := by
  intro event hevent
  obtain ⟨call, hcall, hevent⟩ := List.mem_flatMap.1 hevent
  rcases List.mem_cons.1 hevent with rfl | hevent
  · rfl
  · exact h call hcall event hevent

theorem withoutStats_told_looks (e : Engine π) (calls : List (StageCall × World π)) :
    withoutStats (calls.flatMap fun call => e.told call ++ e.looks call) =
      withoutStats (calls.flatMap e.told) := by
  induction calls with
  | nil => rfl
  | cons call calls ih =>
    simp only [List.flatMap_cons, withoutStats_append, ih, withoutStats_looks, List.append_nil]

theorem phases_told_looks (h : e.SpeaksOfNoStats calls) :
    (calls.flatMap fun call => e.told call ++ e.looks call).filterMap Event.phase? =
      (calls.filter e.pipeline.succeeds).map (·.1.phase) := by
  induction calls with
  | nil => rfl
  | cons call calls ih =>
    have htold : (e.told call).filterMap Event.phase? = [] :=
      List.filterMap_eq_nil_iff.2 fun event hevent =>
        phase?_of_told h event (List.mem_flatMap.2 ⟨call, List.mem_cons_self, hevent⟩)
    have hrest := ih fun c hc => h c (List.mem_cons_of_mem _ hc)
    rw [List.flatMap_cons, List.filterMap_append, List.filterMap_append, htold, phases_looks, hrest,
      List.filter_cons]
    split <;> rfl

/-- The stages that succeed are the first ones. -/
theorem Staged.phases_inOrder {p : Pipeline π} {workDir : Path} {w w' : World π}
    {outcome : Except (Stage × TransferError) TransferReport}
    (h : Staged p workDir w calls outcome w') :
    (calls.filter p.succeeds).map (·.1.phase) <+: [.fetch, .archive, .upload] := by
  cases h with
  | fetchFails hfetch => simp [Pipeline.succeeds, hfetch.1, Except.isOk, Except.toBool]
  | archiveFails hfetch harchive =>
    simp [Pipeline.succeeds, hfetch.1, harchive.1, Except.isOk, Except.toBool, StageCall.phase]
  | uploadFails hfetch harchive hupload | complete hfetch harchive hupload =>
    simp [Pipeline.succeeds, hfetch.1, harchive.1, hupload.1, Except.isOk, Except.toBool,
      StageCall.phase]

end stats

namespace Engine
variable (e : Engine π) (parent : Path) (w : World π)

/-- Around the looks of a monitor a call is reported as it is without one. -/
theorem callEvents_withMonitor (m : Monitor) (call : StageCall × World π) :
    (e.withMonitor m).callEvents call = e.told call ++ if m.enabled then e.looks call else [] := by
  have hstage {α : Type} (s : Stage) (phase : Phase) (o : Outcome (World π) α) :
      (e.withMonitor m).stageEvents s phase o = (.entering s :: o.events) ++
        if m.enabled then (if o.result.isOk then [.processStats phase] else []) else [] := by
    obtain ⟨enabled, peak⟩ := m
    obtain ⟨result, state, events⟩ := o
    cases result <;> cases enabled <;> rfl
  obtain ⟨call, w⟩ := call
  cases call with
  | fetch workDir => exact hstage _ _ _
  | archive source workDir => exact hstage _ _ _
  | upload archive => exact hstage _ _ _

theorem callEvents_monitored : e.monitored.callEvents = fun call => e.told call ++ e.looks call :=
  funext fun call => e.callEvents_withMonitor { enabled := true } call

theorem callEvents_unmonitored : e.unmonitored.callEvents = e.told :=
  funext fun call => (e.callEvents_withMonitor { enabled := false } call).trans (List.append_nil _)

theorem phase?_of_closing (outcome : Except (Stage × TransferError) TransferReport)
    (cleaned : Except TransferError Unit) :
    ∀ event ∈ closing outcome cleaned, event.phase? = none := by
  rcases outcome with ⟨during, failure⟩ | report <;> rcases cleaned with cause | _ <;>
    simp [closing, Event.phase?]

/-- What a run comes to, whatever its monitor: only what is reported of its calls depends on
that. -/
theorem run_withMonitor :
    ∃ result state front back, (∀ event ∈ front ++ back, event.phase? = none) ∧
      ∀ m, ((e.withMonitor m).runIn parent).run w = ⟨result, state,
        front ++ (e.calls parent w).flatMap (e.withMonitor m).callEvents ++ back⟩ := by
  rcases e.run_cases parent w with ⟨failure, hcreate, -, hcalls⟩ |
    ⟨workDir, w₁, outcome, w₂, cleaned, hcreate, hstaged, hremove, -⟩
  · refine ⟨.error failure, ((e.runIn parent).run w).state, [.entering .init], [],
      by simp [Event.phase?], fun m => ?_⟩
    rw [run_without_directory (e := e.withMonitor m) hcreate, hcalls]
    rfl
  · refine ⟨concluded outcome cleaned, ((e.runIn parent).run w).state,
      [.entering .init, .workDirCreated workDir],
      .workDirCleaning workDir :: closing outcome cleaned, ?_, fun m => ?_⟩
    · simpa [Event.phase?] using phase?_of_closing outcome cleaned
    · rw [run_with_directory (e := e.withMonitor m) hcreate hstaged hremove]
      simp

/-- The same stages are called with the same, whatever the monitor: an engine that notes its calls
is left with the same notes. -/
theorem calls_withMonitor (m : Monitor) : (e.withMonitor m).calls parent w = e.calls parent w := by
  obtain ⟨result, state, front, back, -, hrun⟩ := e.noting.run_withMonitor parent w.unnoted
  have hnoted (m : Monitor) : (e.withMonitor m).calls parent w = state.own.calls :=
    congrArg (fun o => o.state.own.calls) (hrun m)
  exact (hnoted m).trans (hnoted e.monitor).symm

theorem phases_calls_inOrder :
    ((e.calls parent w).filter e.pipeline.succeeds).map (·.1.phase) <+:
      [.fetch, .archive, .upload] := by
  rcases e.run_cases parent w with ⟨_, -, -, hcalls⟩ | ⟨_, _, _, _, _, -, hstaged, -, -⟩
  · rw [hcalls]
    exact List.nil_prefix
  · exact hstaged.phases_inOrder

end Engine

/-- The first run is the second with looks at the process. It calls the same stages with the same,
comes to the same and leaves the same. -/
structure Run.AddsLooks (e : Engine π) (on off : Run π) : Prop where
  before : on.before = off.before
  parent : on.parent = off.parent
  result : on.outcome.result = off.outcome.result
  state : on.outcome.state = off.outcome.state
  calls : on.calls e.monitored = off.calls e.unmonitored
  /-- The looks stand each behind what is reported of its call, and nowhere else. -/
  events : ∃ front back, (∀ event ∈ front ++ back, event.phase? = none) ∧
    off.outcome.events = front ++ (off.calls e.unmonitored).flatMap e.told ++ back ∧
    on.outcome.events =
      front ++ ((on.calls e.monitored).flatMap fun call => e.told call ++ e.looks call) ++ back
  inOrder : ((on.calls e.monitored).filter e.pipeline.succeeds).map (·.1.phase) <+:
    [.fetch, .archive, .upload]
  removed : withoutStats on.outcome.events = withoutStats off.outcome.events
  /-- There are no others, unless a stage tells of some itself. -/
  noOthers : e.SpeaksOfNoStats (on.calls e.monitored) →
    withoutStats on.outcome.events = off.outcome.events ∧
    on.outcome.events.filterMap Event.phase? =
      ((on.calls e.monitored).filter e.pipeline.succeeds).map (·.1.phase)

theorem addsLooks_runFrom (e : Engine π) (parent : Path) (w : World π) :
    Run.AddsLooks e (e.monitored.runFrom parent w) (e.unmonitored.runFrom parent w) := by
  obtain ⟨result, state, front, back, hframe, hrun⟩ := e.run_withMonitor parent w
  have hcalls : (e.monitored.runFrom parent w).calls e.monitored = e.calls parent w :=
    e.calls_withMonitor parent w { enabled := true }
  have hcalls' : (e.unmonitored.runFrom parent w).calls e.unmonitored = e.calls parent w :=
    e.calls_withMonitor parent w { enabled := false }
  have hon : (e.monitored.runFrom parent w).outcome = ⟨result, state,
      front ++ ((e.calls parent w).flatMap fun call => e.told call ++ e.looks call) ++ back⟩ := by
    rw [← e.callEvents_monitored]
    exact hrun { enabled := true }
  have hoff : (e.unmonitored.runFrom parent w).outcome = ⟨result, state,
      front ++ (e.calls parent w).flatMap e.told ++ back⟩ := by
    rw [← e.callEvents_unmonitored]
    exact hrun { enabled := false }
  have hremoved : withoutStats (e.monitored.runFrom parent w).outcome.events =
      withoutStats (e.unmonitored.runFrom parent w).outcome.events := by
    simp only [hon, hoff, withoutStats_append, withoutStats_told_looks]
  refine ⟨rfl, rfl, by rw [hon, hoff], by rw [hon, hoff], hcalls.trans hcalls'.symm,
    ⟨front, back, hframe, by rw [hoff, hcalls'], by rw [hon, hcalls]⟩, ?_, hremoved,
    fun hquiet => ?_⟩
  · rw [hcalls]
    exact e.phases_calls_inOrder parent w
  · rw [hcalls] at hquiet ⊢
    obtain ⟨hfront, hback⟩ := List.forall_mem_append.1 hframe
    have htold := phase?_of_told hquiet
    constructor
    · rw [hremoved, hoff]
      exact withoutStats_eq_self
        (List.forall_mem_append.2 ⟨List.forall_mem_append.2 ⟨hfront, htold⟩, hback⟩)
    · rw [hon, List.filterMap_append, List.filterMap_append, List.filterMap_eq_nil_iff.2 hfront,
        List.filterMap_eq_nil_iff.2 hback, phases_told_looks hquiet, List.append_nil,
        List.nil_append]

/-- Runs of an engine with monitoring and of the same engine without it are alike, one by one: the
first only add a look at the process behind every stage that succeeds. -/
theorem series_monitored (e : Engine π) (parents : List Path) (w : World π) :
    List.Forall₂ (Run.AddsLooks e) (e.monitored.series parents w)
      (e.unmonitored.series parents w) := by
  induction parents generalizing w with
  | nil => exact .nil
  | cons parent rest ih =>
    have hfirst := addsLooks_runFrom e parent w
    refine .cons hfirst ?_
    -- The other runs begin in one world, since the first two leave the same.
    rw [hfirst.state]
    exact ih _

/-- A run whose second stage fails, and a run that calls no stage: the process is looked at once. -/
theorem series_monitored_removing :
    removingEngine.SpeaksOfNoStats
      (removingEngine.monitored.calls [47, 100] ⟨linkedFolder, 0, ()⟩) ∧
    List.Forall₂ (fun on off => withoutStats on.outcome.events = withoutStats off.outcome.events)
      (removingEngine.monitored.series [[47, 100], [47, 120]] ⟨linkedFolder, 0, ()⟩)
      (removingEngine.unmonitored.series [[47, 100], [47, 120]] ⟨linkedFolder, 0, ()⟩) ∧
    (removingEngine.monitored.series [[47, 100], [47, 120]] ⟨linkedFolder, 0, ()⟩).map
      (fun run => run.outcome.events.filterMap Event.phase?) = [[.fetch], []] := by
  have hquiet : removingEngine.SpeaksOfNoStats
      (removingEngine.monitored.calls [47, 100] ⟨linkedFolder, 0, ()⟩) := by
    unfold Engine.SpeaksOfNoStats
    decide
  exact ⟨hquiet, (series_monitored removingEngine _ _).imp fun _ _ h => h.removed, by decide⟩

end SparseTransfer
