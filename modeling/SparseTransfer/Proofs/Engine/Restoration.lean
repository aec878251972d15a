import SparseTransfer.Proofs.Engine.Calls
import SparseTransfer.Proofs.WorkDir

/- Runs leave the file system as they found it. Every run that can have a working directory has one
of its own, which no other thing was at before and nothing is at afterwards. -/
namespace SparseTransfer
open FileSystem WorkDir

/-- A working directory has just been made in `fs`. -/
structure Begun (fs : FileSystem) (path : Path) (dir : Location) (name : Bytes) (w : World π) :
    Prop where
  isAbsolute : Path.isAbsolute path = true
  wasFree : fs.lookup false path = .ok (.free dir name false)
  isMade : w.files = fs.insert dir name .directory

/-- Stages that, one after the other, change nothing outside the working directory that they are
given. The directory itself may be removed, or be replaced by a link. -/
structure Pipeline.StaysInside (p : Pipeline π) : Prop where
  fetch : ∀ {fs : FileSystem} {path : Path} {dir : Location} {name : Bytes} {w w' : World π}
    {r : Except TransferError Path}, Begun fs path dir name w → (p.fetch path).Ends w r w' →
    Within (dir ++ [name]) fs w'.files
  archive : ∀ {fs : FileSystem} {path source : Path} {dir : Location} {name : Bytes}
    {w w₁ w' : World π} {r : Except TransferError ArchiveSummary}, Begun fs path dir name w →
    (p.fetch path).Ends w (.ok source) w₁ → (p.archive source path).Ends w₁ r w' →
    Within (dir ++ [name]) fs w'.files
  upload : ∀ {fs : FileSystem} {path source : Path} {dir : Location} {name : Bytes}
    {archive : ArchiveSummary} {w w₁ w₂ w' : World π} {r : Except TransferError UploadReceipt},
    Begun fs path dir name w → (p.fetch path).Ends w (.ok source) w₁ →
    (p.archive source path).Ends w₁ (.ok archive) w₂ → (p.upload archive).Ends w₂ r w' →
    Within (dir ++ [name]) fs w'.files

theorem Begun.found {fs : FileSystem} {path : Path} {dir : Location} {name : Bytes} {w : World π}
    (h : Begun fs path dir name w) : fs.at? dir = some .directory ∧
      fs.at? (dir ++ [name]) = none ∧ isName name = true :=
  lookup_found h.isAbsolute h.wasFree

theorem Begun.at? {fs : FileSystem} {path : Path} {dir : Location} {name : Bytes} {w : World π}
    (h : Begun fs path dir name w) (o : Location) :
    w.files.at? o = if o = dir ++ [name] then some .directory else fs.at? o := by
  obtain ⟨hdir, hfree, hname⟩ := h.found
  rw [h.isMade]
  exact at?_insert hdir hfree hname o

theorem Begun.within {fs : FileSystem} {path : Path} {dir : Location} {name : Bytes} {w : World π}
    (h : Begun fs path dir name w) : Within (dir ++ [name]) fs w.files := by
  refine ⟨?_, fun item hitem => ?_⟩
  · rw [h.isMade]
    exact insert_agreeOutside _ _ _ _
  · rw [h.at?, if_pos rfl] at hitem
    cases hitem
    rfl

/-- One of a series of runs: the world before it, the directory in which it was to have its working
directory, and what came of it. -/
structure Run (π : Type) where
  before : World π
  parent : Path
  outcome : Outcome (World π) TransferReport

namespace Engine

def runFrom (e : Engine π) (parent : Path) (w : World π) : Run π :=
  ⟨w, parent, (e.runIn parent).run w⟩

/-- Runs one after the other, each in the world that the one before it leaves. -/
def series (e : Engine π) : List Path → World π → List (Run π)
  | [], _ => []
  | parent :: rest, w =>
    let run := e.runFrom parent w
    run :: e.series rest run.outcome.state

end Engine

namespace Run

/-- What the run asks of the stages. -/
def calls (run : Run π) (e : Engine π) : List (StageCall × World π) := e.calls run.parent run.before

/-- Whether `dir` can hold a directory with the `k`-th of the names that the run draws. -/
def CanHold (run : Run π) (e : Engine π) (k : Nat) (dir : Location) : Prop :=
  k < attempts ∧ run.before.files.CanHold (run.before.files.absolute run.parent)
    (drawnName e.suffixes (run.before.drawn + k)) dir

/-- The run had one directory of its own: nothing was where it is made, the stages were given it,
and all that they met elsewhere was as before. -/
structure HadDirectory (run : Run π) (e : Engine π) (path : Path) (loc : Location) : Prop where
  wasFree : run.before.files.at? loc = none
  fetched : ∃ w rest, run.calls e = (.fetch path, w) :: rest ∧ w.files.cwd = run.before.files.cwd ∧
    ∀ o, w.files.at? o = if o = loc then some .directory else run.before.files.at? o
  inOrder : ∃ source archive, (run.calls e).map (·.1) <+:
    [.fetch path, .archive source path, .upload archive]
  elsewhere : ∀ call ∈ run.calls e, AgreeOutside loc run.before.files call.2.files
  isGone : run.outcome.state.files.at? loc = none

/-- The run failed before it called a stage, and changed nothing. -/
structure HadNone (run : Run π) (e : Engine π) : Prop where
  failed : ∃ failure, run.outcome.result = .error (.file failure)
  calls : run.calls e = []
  files : run.outcome.state.files = run.before.files
  own : run.outcome.state.own = run.before.own

/-- The files are as they were before the run. If a directory could be made, the run had it for
itself, and otherwise it had none. -/
structure Restores (run : Run π) (e : Engine π) : Prop where
  same : Same run.before.files run.outcome.state.files
  directory : (∃ k dir, run.CanHold e k dir ∧
      run.HadDirectory e (Path.append (run.before.files.absolute run.parent)
        (drawnName e.suffixes (run.before.drawn + k)))
        (dir ++ [drawnName e.suffixes (run.before.drawn + k)])) ∨
    (¬ ∃ k dir, run.CanHold e k dir) ∧ run.HadNone e

end Run

section staged
variable {p : Pipeline π} {path : Path} {w w' : World π} {calls : List (StageCall × World π)}
  {outcome : Except (Stage × TransferError) TransferReport}

theorem Staged.inOrder (h : Staged p path w calls outcome w') :
    ∃ source archive, calls.map (·.1) <+: [.fetch path, .archive source path, .upload archive] := by
  cases h with
  | fetchFails _ => exact ⟨[], ⟨[], 0, 0⟩, [_, _], rfl⟩
  | archiveFails _ _ => exact ⟨_, ⟨[], 0, 0⟩, [_], rfl⟩
  | uploadFails _ _ _ => exact ⟨_, _, List.prefix_rfl⟩
  | complete _ _ _ => exact ⟨_, _, List.prefix_rfl⟩

theorem Staged.first (h : Staged p path w calls outcome w') :
    ∃ rest, calls = (.fetch path, w) :: rest := by
  cases h with
  | fetchFails _ | archiveFails _ _ | uploadFails _ _ _ | complete _ _ _ => exact ⟨_, rfl⟩

/-- Stages that stay inside leave everything else alone, at every call and in the end. -/
theorem Staged.within {fs : FileSystem} {dir : Location} {name : Bytes} (hp : p.StaysInside)
    (hbegun : Begun fs path dir name w) (h : Staged p path w calls outcome w') :
    (∀ call ∈ calls, Within (dir ++ [name]) fs call.2.files) ∧
      Within (dir ++ [name]) fs w'.files := by
  cases h with
  | fetchFails hfetch =>
    refine ⟨?_, hp.fetch hbegun hfetch⟩
    simpa using hbegun.within
  | archiveFails hfetch harchive =>
    refine ⟨?_, hp.archive hbegun hfetch harchive⟩
    simpa using ⟨hbegun.within, hp.fetch hbegun hfetch⟩
  | uploadFails hfetch harchive hupload | complete hfetch harchive hupload =>
    refine ⟨?_, hp.upload hbegun hfetch harchive hupload⟩
    simpa using ⟨hbegun.within, hp.fetch hbegun hfetch, hp.archive hbegun hfetch harchive⟩

end staged

theorem FileSystem.CanHold.begun {fs : FileSystem} {parent : Path} {n : Bytes} {dir : Location}
    {w : World π} (hn : isName n = true) (h : fs.CanHold (fs.absolute parent) n dir)
    (hw : w.files = fs.insert dir n .directory) :
    Begun fs (Path.append (fs.absolute parent) n) dir n w := by
  have hne := absolute_ne_nil fs parent
  refine ⟨?_, ?_, hw⟩
  · rw [Path.isAbsolute_append hne (isAbsolute_of_isName hn)]
    exact isAbsolute_absolute fs parent
  · rw [lookup_name hne hn]
    refine ⟨h.isUsable, dir, h.isDirectory, ?_⟩
    rw [placeIn, h.isFree]

/-- What is removed in the end is what was made for the run. -/
theorem restores_of_remove {fs : FileSystem} {base : Path} {n : Bytes} {dir : Location}
    {w w' : World π} {r : Except TransferError Unit} (hbase : base ≠ []) (hn : isName n = true)
    (hhold : fs.CanHold base n dir) (hwithin : Within (dir ++ [n]) fs w.files)
    (h : (WorkDir.remove (Path.append base n)).Ends w r w') : Same fs w'.files := by
  rcases hhold.removeTree hbase hn hwithin with ⟨files, hfiles, hsame⟩ | ⟨⟨e, he⟩, hsame⟩
  · rcases ends_remove h with ⟨files', hfiles', -, rfl⟩ | ⟨failure, hfailure, -, -⟩
    · cases hfiles.symm.trans hfiles'
      exact hsame
    · cases hfiles.symm.trans hfailure
  · rcases ends_remove h with ⟨files', hfiles', -, -⟩ | ⟨failure, -, -, rfl⟩
    · cases he.symm.trans hfiles'
    · exact hsame

theorem restores_runFrom {e : Engine π} (hproper : e.suffixes.Proper) (hp : e.pipeline.StaysInside)
    (parent : Path) (w : World π) : (e.runFrom parent w).Restores e := by
  have habs := absolute_ne_nil w.files parent
  rcases e.run_cases parent w with ⟨failure, hcreate, hresult, hcalls⟩ |
    ⟨workDir, w₁, outcome, w₂, cleaned, hcreate, hstaged, hremove, -⟩
  · rcases ends_createNamed hproper habs (ends_create hcreate) with
      ⟨_, _, _, _, hr, _⟩ | ⟨⟨cause, hr⟩, hfiles, hnone⟩
    · cases hr
    · cases hr
      refine ⟨?_, Or.inr ⟨?_, ⟨cause, hresult⟩, hcalls, hfiles,
        own_createNamed (ends_create hcreate)⟩⟩
      · have hsame : Same w.files ((e.runIn parent).run w).state.files := by
          rw [hfiles]
          exact Same.refl _
        exact hsame
      · rintro ⟨k, dir, hk, hhold⟩
        exact hnone k dir hk hhold
  · rcases ends_createNamed hproper habs (ends_create hcreate) with
      ⟨k, dir, hk, hhold, hr, hfiles⟩ | ⟨⟨cause, hr⟩, -, -⟩
    · cases hr
      have hname := isName_drawnName hproper (w.drawn + k)
      have hbegun := hhold.begun hname hfiles
      obtain ⟨hcalls, hend⟩ := hstaged.within hp hbegun
      have hsame := restores_of_remove habs hname hhold hend hremove
      refine ⟨hsame, Or.inl ⟨k, dir, ⟨hk, hhold⟩, ?_⟩⟩
      obtain ⟨rest, hfirst⟩ := hstaged.first
      exact ⟨hhold.isFree, ⟨w₁, rest, hfirst, hbegun.within.agree.cwd, hbegun.at?⟩, hstaged.inOrder,
        fun call hcall => (hcalls call hcall).agree, (hsame.at? _).trans hhold.isFree⟩
    · cases hr

/-- Every run of a series finds the file system as it was before the first, and leaves it so. A run
for which a directory can be made has one of its own, and every other run fails before it calls a
stage. -/
theorem series_restores {e : Engine π} (hproper : e.suffixes.Proper) (hp : e.pipeline.StaysInside)
    (parents : List Path) (w : World π) :
    ∀ run ∈ e.series parents w, Same w.files run.before.files ∧ run.Restores e := by
  induction parents generalizing w with
  | nil =>
    intro run hrun
    cases hrun
  | cons parent rest ih =>
    intro run hrun
    have hfirst := restores_runFrom hproper hp parent w
    rcases List.mem_cons.1 hrun with rfl | hrun
    · exact ⟨Same.refl _, hfirst⟩
    · obtain ⟨hbefore, hrestores⟩ := ih _ run hrun
      exact ⟨hfirst.same.trans hbefore, hrestores⟩

/-- Stages of which the first removes its working directory, and the second fails. -/
def removingPipeline : Pipeline Unit where
  fetch workDir := do
    WorkDir.remove workDir
    return workDir
  archive _ _ := Action.fail (.archive .entryNotFound)
  upload _ := Action.fail (.archive .entryNotFound)

theorem removing_within {fs : FileSystem} {path : Path} {dir : Location} {name : Bytes}
    {w w' : World Unit} {r : Except TransferError Path} (hbegun : Begun fs path dir name w)
    (h : (removingPipeline.fetch path).Ends w r w') : Within (dir ++ [name]) fs w'.files := by
  have hagree := hbegun.within.agree
  have hlook := lookup_filled (hagree.aside hbegun.found.2.1) hagree.cwd
    (by rw [hbegun.at?, if_pos rfl]) hbegun.wasFree
  have hremoves : w.files.removeTree path = .ok (w.files.remove (dir ++ [name])) := by
    rw [removeTree, stat_eq_ok_iff.2 hlook]
  have hmade {w₁ : World Unit} {x : Except TransferError Unit}
      (hremove : (WorkDir.remove path).Ends w x w₁) :
      w₁.files = w.files.remove (dir ++ [name]) := by
    rcases ends_remove hremove with ⟨files, hfiles, -, rfl⟩ | ⟨failure, hfailure, -, -⟩
    · cases hremoves.symm.trans hfiles
      rfl
    · cases hremoves.symm.trans hfailure
  have hend : w'.files = w.files.remove (dir ++ [name]) := by
    rw [removingPipeline, Action.ends_bind] at h
    rcases h with ⟨_, w₁, hremove, h⟩ | ⟨_, hremove, -⟩
    · obtain ⟨-, rfl⟩ := Action.ends_pure.1 h
      exact hmade hremove
    · exact hmade hremove
  rw [hend]
  refine ⟨hagree.trans (remove_agreeOutside _ _), fun item hitem => ?_⟩
  rw [at?_remove_self _ (by simp)] at hitem
  cases hitem

theorem staysInside_removing : removingPipeline.StaysInside where
  fetch hbegun hfetch := removing_within hbegun hfetch
  archive hbegun hfetch harchive := by
    obtain ⟨-, rfl⟩ := Action.ends_fail.1 harchive
    exact removing_within hbegun hfetch
  upload _ _ harchive _ := by
    obtain ⟨hnone, -⟩ := Action.ends_fail.1 harchive
    cases hnone

def removingEngine : Engine Unit :=
  ⟨removingPipeline, ⟨false, 0⟩, fun _ => [97, 97, 97, 97, 97, 97]⟩

/-- A directory `d` with a link to the root in it. -/
def linkedFolder : FileSystem where
  items := [([[100]], .directory), ([[100], [97]], .link [47])]
  cwd := []
  distinct := by decide
  inDirectory := by decide
  named := by decide

/-- A run in the directory, one through the link in it, and one where there is no directory. -/
theorem series_restores_linkedFolder :
    (∀ run ∈ removingEngine.series [[47, 100], [47, 100, 47, 97], [47, 120]] ⟨linkedFolder, 0, ()⟩,
        Same linkedFolder run.before.files ∧ run.Restores removingEngine) ∧
      (removingEngine.series [[47, 100], [47, 100, 47, 97], [47, 120]] ⟨linkedFolder, 0, ()⟩).map
        (fun run => (run.calls removingEngine).length) = [2, 2, 0] := by
  have hproper : removingEngine.suffixes.Proper := Suffixes.proper_replicate (by decide)
  exact ⟨series_restores hproper staysInside_removing _ _, by decide⟩

end SparseTransfer
