import SparseTransfer.Proofs.Archive.Failure
import SparseTransfer.Proofs.Engine.Trace
import SparseTransfer.Proofs.Storage.Remote
import SparseTransfer.Proofs.Transfer.Files

/- How transfers over a network fail. Each failure belongs to the stage in which the run has failed;
that an archive is empty is found out before it is uploaded, unless it was written to a device. -/
namespace SparseTransfer
open FileSystem Pipeline Archive

/-- How a checkout fails: its last call of git does, or a file cannot be made. -/
theorem SparseCheckout.failure_of_run {c : SparseCheckout} {git : Git} {dest : Path}
    {w w' : World Ledger} {e : TransferError} (h : (c.run git dest).Ends w (.error e) w') :
    (∃ step status stderr, e = .git step status stderr) ∨ ∃ cause, e = .file cause := by
  have hgit {log : List (GitCall × GitReply)} (hfailed : FailedLast log e) :
      ∃ step status stderr, e = .git step status stderr := by
    obtain ⟨-, ⟨call, reply⟩, -, -, -, rfl⟩ := hfailed
    cases reply <;> exact ⟨_, _, _, rfl⟩
  obtain ⟨log, -, hway⟩ := ends_way h
  generalize w'.files = files at hway
  cases hway with
  | notMade _ | notWritten _ _ _ => exact Or.inr ⟨_, rfl⟩
  | notPrepared _ hstopped | notFetched _ hstopped => exact Or.inl (hgit hstopped.calls.2)

namespace Pipeline

/-- The pipeline where the files of a checkout are read so. -/
def transferReading (readings : Path → Reading) (git : Git) (storage : Storage)
    (s : TransferSettings) : Pipeline Ledger :=
  { transfer git storage s with
    archive := fun source workDir => packReading readings source (archiveFile workDir) }

/-- Where every file is read to its end, it is the pipeline of a transfer. -/
theorem transferReading_whole (git : Git) (storage : Storage) (s : TransferSettings) :
    transferReading (fun _ => .whole) git storage s = transfer git storage s := by
  rw [transferReading, transfer]
  simp only [packReading_whole]

variable {git : Git} {network : Network} {s : TransferSettings} {workDir : Path}
  {w w' : World Ledger} {e : TransferError}

theorem failure_of_fetch (h : (fetchWith git s workDir).Ends w (.error e) w') :
    (∃ step status stderr, e = .git step status stderr) ∨ (∃ cause, e = .file cause) ∨
      e = .pathNotFound s.dirPath s.branch := by
  rw [fetchWith, Action.ends_bind] at h
  rcases h with ⟨_, w₁, -, h⟩ | ⟨e', hrun, he⟩
  · rw [Action.ends_get_bind] at h
    split at h
    · cases (Action.ends_pure.1 h).1
    · cases (Action.ends_fail.1 h).1
      exact Or.inr (Or.inr rfl)
  · cases he
    rcases SparseCheckout.failure_of_run hrun with hgit | hfile
    · exact Or.inl hgit
    · exact Or.inr (Or.inl hfile)

/-- An upload over a network fails because of the network or of the file, if there is something in
the archive. -/
theorem failure_of_upload {settings : StorageSettings} {target : UploadTarget}
    {archive : ArchiveSummary}
    (h : (uploadTo (Storage.remote network settings) target archive).Ends w (.error e) w') :
    (e = .emptyArchive archive.path ∧ (archive.entries = 0 ∨ archive.bytes = 0)) ∨
      (∃ cause, e = .file cause) ∨ ∃ detail, e = .upload target.bucket target.key detail := by
  rw [uploadTo] at h
  split at h
  · next hempty =>
    cases (Action.ends_fail.1 h).1
    exact Or.inl ⟨rfl, hempty⟩
  · rw [Ledger.notePut, Action.ends_modify_bind] at h
    cases Storage.ends_remote h with
    | unfound _ => exact Or.inr (Or.inl ⟨_, rfl⟩)
    | unread _ _ | keyless _ _ _ | refused _ _ _ => exact Or.inr (Or.inr ⟨_, rfl⟩)

theorem files_of_upload {settings : StorageSettings} {target : UploadTarget}
    {archive : ArchiveSummary} {receipt : UploadReceipt}
    (h : (uploadTo (Storage.remote network settings) target archive).Ends w (.ok receipt) w') :
    w'.files = w.files := by
  rw [uploadTo] at h
  split at h
  · cases (Action.ends_fail.1 h).1
  · rw [Ledger.notePut, Action.ends_modify_bind] at h
    cases Storage.ends_remote h with
    | taken _ _ _ _ => rfl

end Pipeline

/-- How a transfer can fail in a stage: the calls, the last of which is that of the stage, and the
failure. -/
inductive FailsIn (s : TransferSettings) (workDir : Path) :
    List (StageCall × World Ledger) → Stage → TransferError → Prop where
  | git {w : World Ledger} {step status stderr : String} :
    FailsIn s workDir [(.fetch workDir, w)] .fetching (.git step status stderr)
  | unmade {w : World Ledger} {cause : FileError} :
    FailsIn s workDir [(.fetch workDir, w)] .fetching (.file cause)
  | notThere {w : World Ledger} :
    FailsIn s workDir [(.fetch workDir, w)] .fetching (.pathNotFound s.dirPath s.branch)
  | packing {w₁ w₂ : World Ledger} {e : TransferError}
    (h : PackingFails w₂.files (sourceOf s workDir) (archiveFile workDir) e) :
    FailsIn s workDir [(.fetch workDir, w₁),
      (.archive (sourceOf s workDir) workDir, w₂)] .archiving e
  /-- Nothing was left of the archive, because its path led to a device. -/
  | nothingLeft {w₁ w₂ w₃ : World Ledger} {archive : ArchiveSummary} {loc : Location}
    (hdevice : w₂.files.stat true (archiveFile workDir) = .ok (loc, .device)) :
    FailsIn s workDir [(.fetch workDir, w₁), (.archive (sourceOf s workDir) workDir, w₂),
      (.upload archive, w₃)] .uploading (.emptyArchive (archiveFile workDir))
  | unfound {w₁ w₂ w₃ : World Ledger} {archive : ArchiveSummary} {cause : FileError} :
    FailsIn s workDir [(.fetch workDir, w₁), (.archive (sourceOf s workDir) workDir, w₂),
      (.upload archive, w₃)] .uploading (.file cause)
  | notTaken {w₁ w₂ w₃ : World Ledger} {archive : ArchiveSummary} {detail : String} :
    FailsIn s workDir [(.fetch workDir, w₁), (.archive (sourceOf s workDir) workDir, w₂),
      (.upload archive, w₃)] .uploading (.upload s.target.bucket s.target.key detail)

theorem FailsIn.category {s : TransferSettings} {workDir : Path}
    {calls : List (StageCall × World Ledger)} {during : Stage} {e : TransferError}
    (h : FailsIn s workDir calls during e) : e.category ≠ .configuration := by
  cases h with
  | git | unmade | notThere | nothingLeft _ | unfound | notTaken => exact fun h => by cases h
  | packing hpacking => cases hpacking <;> exact fun h => by cases h

section staged
variable {readings : Path → Reading} {git : Git} {network : Network} {settings : StorageSettings}
  {s : TransferSettings} {workDir : Path} {w w' : World Ledger}
  {calls : List (StageCall × World Ledger)}

theorem Staged.failsIn {during : Stage} {failure : TransferError}
    (h : Staged (transferReading readings git (Storage.remote network settings) s) workDir w calls
      (.error (during, failure)) w') : FailsIn s workDir calls during failure := by
  have hsource {source : Path} {w₁ w₂ : World Ledger}
      (hfetch : (fetchWith git s workDir).Ends w₁ (.ok source) w₂) :
      source = sourceOf s workDir := by
    obtain ⟨log, -, hfetched⟩ := ends_fetchWith hfetch
    exact (hfetched source rfl).1
  cases h with
  | fetchFails hfetch =>
    rcases failure_of_fetch hfetch with ⟨step, status, stderr, rfl⟩ | ⟨cause, rfl⟩ | rfl
    · exact .git
    · exact .unmade
    · exact .notThere
  | archiveFails hfetch harchive =>
    obtain rfl := hsource hfetch
    exact .packing (packingFails harchive)
  | uploadFails hfetch harchive hupload =>
    obtain rfl := hsource hfetch
    obtain ⟨hpath, hentries, hbytes⟩ := filled_of_packed harchive
    rcases failure_of_upload hupload with ⟨rfl, hempty⟩ | ⟨cause, rfl⟩ | ⟨detail, rfl⟩
    · obtain ⟨loc, hdevice⟩ := hbytes (hempty.resolve_left (by omega))
      rw [hpath]
      exact .nothingLeft hdevice
    · exact .unfound
    · exact .notTaken

/-- After stages that have all gone well the working directory can be removed. -/
theorem Staged.removable {report : TransferReport} (habs : Path.isAbsolute workDir = true)
    (h : Staged (transferReading readings git (Storage.remote network settings) s) workDir w calls
      (.ok report) w') : ∃ files, w'.files.removeTree workDir = .ok files := by
  cases h with
  | complete hfetch harchive hupload =>
    obtain ⟨files, loc, entries, hcreate, hfiles, -⟩ := written_of_packed harchive
    rw [files_of_upload hupload]
    exact removeTree_of_written habs hcreate hfiles

end staged

theorem WorkDir.failure_of_createNamed {suffixes : Suffixes} {parent : Path} {attempts : Nat}
    {w w' : World π} {e : TransferError}
    (h : (createNamed suffixes parent attempts).Ends w (.error e) w') :
    ∃ cause, e = .file cause := by
  induction attempts generalizing w with
  | zero =>
    cases (Action.ends_fail.1 h).1
    exact ⟨_, rfl⟩
  | succ attempts ih =>
    rw [Action.Ends, Action.run, createNamed] at h
    dsimp only at h
    split at h
    · cases h.1
    · split at h
      · exact ih h
      · cases h.1
        exact ⟨_, rfl⟩

/-- How a run can fail: there is no working directory, or it fails in a stage and says so last. -/
inductive FailedRun (s : TransferSettings) (e : Engine Ledger) (parent : Path) (w : World Ledger)
    (failure : TransferError) : Prop where
  | noDirectory {cause : FileError} (hcalls : e.calls parent w = [])
    (hfailure : failure = .file cause)
  | inStage {workDir : Path} {during : Stage}
    (h : FailsIn s workDir (e.calls parent w) during failure)
    (htold : ∃ front, ((e.runIn parent).run w).events = front ++ [.transferFailed during failure])

/-- A working directory in which git has kept to its repository is laid out. -/
theorem laidOut_of_fetched {git : Git} {s : TransferSettings} {base source : Path} {n : Bytes}
    {dir : Location} {fs₀ : FileSystem} {w₁ w₂ : World Ledger} (hgit : git.KeepsToRepository)
    (hbase : Path.isAbsolute base = true) (hn : isName n = true) (hhold : fs₀.CanHold base n dir)
    (hmade : w₁.files = fs₀.insert dir n .directory)
    (hfetch : (fetchWith git s (Path.append base n)).Ends w₁ (.ok source) w₂) :
    LaidOut (Path.append base n) (dir ++ [n]) w₂.files := by
  obtain ⟨log, -, hfetched⟩ := ends_fetchWith hfetch
  obtain ⟨-, hrun, -, -⟩ := hfetched source rfl
  obtain ⟨_, -, ⟨-, -, fs₁, fs₂, fs₃, fs₄, log₁, log₂, hchecked⟩ | ⟨⟨_, heq⟩, -⟩⟩ :=
    SparseCheckout.ends_run hrun
  · rw [hmade] at hchecked
    obtain ⟨history, before, reply, htidy, -, hagree, hfree⟩ := hchecked.tree hgit hbase hn hhold
    exact htidy.laidOut hbase hn hhold hagree hfree
  · cases heq

theorem Engine.closing_error (during : Stage) (failure : TransferError)
    (cleaned : Except TransferError Unit) :
    ∃ front, closing (.error (during, failure)) cleaned =
      front ++ [.transferFailed during failure] := by
  cases cleaned with
  | ok _ => exact ⟨[], rfl⟩
  | error e => exact ⟨[.cleanupFailed e], rfl⟩

section run
variable {e : Engine Ledger} {readings : Path → Reading} {s : TransferSettings} {git : Git}
  {network : Network} {settings : StorageSettings} {parent : Path} {w : World Ledger}

theorem failedRun
    (he : e.pipeline = transferReading readings git (Storage.remote network settings) s)
    {failure : TransferError} (h : ((e.runIn parent).run w).result = .error failure) :
    FailedRun s e parent w failure := by
  rcases e.run_cases parent w with ⟨failure', hcreate, hresult, hcalls⟩ |
    ⟨workDir, w₁, outcome, w₂, cleaned, hcreate, hstaged, hremove, hresult⟩
  · cases h.symm.trans hresult
    obtain ⟨cause, hcause⟩ := WorkDir.failure_of_createNamed (ends_create hcreate)
    exact .noDirectory hcalls hcause
  · have hrun := Engine.run_with_directory hcreate hstaged hremove
    rw [he] at hstaged
    rw [hresult] at h
    rcases outcome with ⟨during, failure'⟩ | report
    · cases h
      obtain ⟨front, hclosing⟩ := Engine.closing_error during failure cleaned
      rw [hclosing] at hrun
      refine .inStage hstaged.failsIn ⟨.entering .init :: .workDirCreated workDir ::
        ((e.calls parent w).flatMap e.callEvents ++ .workDirCleaning workDir :: front), ?_⟩
      rw [hrun]
      simp
    · obtain rfl := ok_of_remove (hstaged.removable (isAbsolute_of_create hcreate)) hremove
      cases h

/-- What is handed to an upload has entries, and bytes unless it was packed to a device. -/
theorem filled_of_call
    (he : e.pipeline = transferReading readings git (Storage.remote network settings) s)
    {archive : ArchiveSummary} {w₃ : World Ledger}
    (hcall : (.upload archive, w₃) ∈ e.calls parent w) : 0 < archive.entries ∧
      (archive.bytes = 0 → ∃ source workDir w₂ loc,
        (.archive source workDir, w₂) ∈ e.calls parent w ∧
        w₂.files.stat true (archiveFile workDir) = .ok (loc, .device)) := by
  rcases e.run_cases parent w with ⟨failure, -, -, hcalls⟩ |
    ⟨workDir, w₁, outcome, w₂, cleaned, -, hstaged, -, -⟩
  · rw [hcalls] at hcall
    cases hcall
  · rw [he] at hstaged
    generalize e.calls parent w = calls at hcall hstaged ⊢
    cases hstaged with
    | fetchFails _ | archiveFails _ _ => simp at hcall
    | uploadFails _ harchive _ | complete _ harchive _ =>
      obtain ⟨rfl, rfl⟩ : archive = _ ∧ w₃ = _ := by simpa using hcall
      obtain ⟨-, hentries, hbytes⟩ := filled_of_packed harchive
      refine ⟨hentries, fun hzero => ?_⟩
      obtain ⟨loc, hdevice⟩ := hbytes hzero
      exact ⟨_, _, _, loc, List.mem_cons_of_mem _ List.mem_cons_self, hdevice⟩

/-- A working directory in which git has kept to its repository is laid out when it is packed. -/
theorem laidOut_of_call
    (he : e.pipeline = transferReading readings git (Storage.remote network settings) s)
    (hgit : git.KeepsToRepository) (hproper : e.suffixes.Proper) {source workDir : Path}
    {w₂ : World Ledger} (hcall : (.archive source workDir, w₂) ∈ e.calls parent w) :
    source = sourceOf s workDir ∧ w₂.files.isDirectory source = true ∧
      ∃ home, LaidOut workDir home w₂.files := by
  rcases e.run_cases parent w with ⟨failure, -, -, hcalls⟩ |
    ⟨workDir', w₁, outcome, w', cleaned, hcreate, hstaged, -, -⟩
  · rw [hcalls] at hcall
    cases hcall
  · rw [he] at hstaged
    have hbase := isAbsolute_absolute w.files parent
    rcases WorkDir.ends_createNamed hproper (absolute_ne_nil w.files parent)
      (ends_create hcreate) with ⟨k, dir, -, hhold, hr, hfiles⟩ | ⟨⟨cause, hr⟩, -, -⟩
    · cases hr
      have hn := WorkDir.isName_drawnName hproper (w.drawn + k)
      generalize e.calls parent w = calls at hcall hstaged
      cases hstaged with
      | fetchFails _ => simp at hcall
      | archiveFails hfetch _ | uploadFails hfetch _ _ | complete hfetch _ _ =>
        obtain ⟨⟨rfl, rfl⟩, rfl⟩ : (source = _ ∧ workDir = _) ∧ w₂ = _ := by simpa using hcall
        obtain ⟨log, -, hfetched⟩ := ends_fetchWith hfetch
        obtain ⟨hsource, -, -, hdir⟩ := hfetched source rfl
        rw [← hsource] at hdir
        exact ⟨hsource, hdir, _, laidOut_of_fetched hgit hbase hn hhold hfiles hfetch⟩
    · cases hr

end run

/-- Whatever git and the network do and however files are read, a transfer that fails does so
without a working directory or in a stage, and with a failure that belongs to it; the settings are
never to blame. What has been packed has entries, and it has bytes unless its path led to a device,
which cannot be if git keeps to its repository. -/
theorem failures_belong (readings : Path → Reading) {git : Git} {network : Network}
    {s : TransferSettings} (monitor : Monitor) {suffixes : Suffixes} (parent : Path)
    (w : World Ledger) :
    let storage := Storage.remote network s.storage
    let e : Engine Ledger := ⟨transferReading readings git storage s, monitor, suffixes⟩
    transferReading (fun _ => .whole) git storage s = Pipeline.transfer git storage s ∧
    (∀ failure, ((e.runIn parent).run w).result = .error failure →
      FailedRun s e parent w failure ∧ failure.category ≠ .configuration) ∧
    (∀ {folder out : Path} {summary : ArchiveSummary} {w w' : World Ledger},
      (packReading readings folder out).Ends w (.ok summary) w' → 0 < summary.entries ∧
        (summary.bytes = 0 → ∃ loc, w.files.stat true out = .ok (loc, .device))) ∧
    (s.check = .ok () → git.KeepsToRepository → suffixes.Proper →
      (∀ source workDir w₂, (.archive source workDir, w₂) ∈ e.calls parent w →
        Undisturbed w₂.files source (archiveFile workDir)) ∧
      ∀ archive w₃, (.upload archive, w₃) ∈ e.calls parent w → 0 < archive.entries ∧
      0 < archive.bytes) := by
  intro storage e
  have he : e.pipeline = transferReading readings git (Storage.remote network s.storage) s := rfl
  refine ⟨transferReading_whole git storage s, fun failure h => ?_, fun h => (filled_of_packed h).2,
    fun haccepted hgit hproper => ⟨fun source workDir w₂ hcall => ?_, fun archive w₃ hcall => ?_⟩⟩
  · have hfailed := failedRun he h
    refine ⟨hfailed, ?_⟩
    cases hfailed with
    | noDirectory _ hfailure =>
      rw [hfailure]
      exact fun h => by cases h
    | inStage hin _ => exact hin.category
  · obtain ⟨rfl, hdir, home, hlaid⟩ := laidOut_of_call he hgit hproper hcall
    obtain ⟨root, hroot⟩ := isDirectory_iff.1 hdir
    exact undisturbed_of_apart (hlaid.apart haccepted) hroot
  · obtain ⟨hentries, hbytes⟩ := filled_of_call he hcall
    refine ⟨hentries, Nat.pos_of_ne_zero fun hzero => ?_⟩
    obtain ⟨source, workDir, w₂, loc, hpacked, hdevice⟩ := hbytes hzero
    obtain ⟨-, -, home, hlaid⟩ := laidOut_of_call he hgit hproper hpacked
    exact hlaid.noDevice loc hdevice

section unreachable

/-- A network in which nothing listens. -/
def nobody : Network := fun _ => .unreachable "connection refused"

theorem not_ends_nobody {settings : StorageSettings} {target : UploadTarget}
    {archive : ArchiveSummary} {receipt : UploadReceipt} {w w' : World Ledger} :
    ¬ (uploadTo (Storage.remote nobody settings) target archive).Ends w (.ok receipt) w' := by
  intro h
  rw [uploadTo] at h
  split at h
  · cases (Action.ends_fail.1 h).1
  · rw [Ledger.notePut, Action.ends_modify_bind] at h
    cases Storage.ends_remote h with
    | taken _ _ _ hanswer => cases hanswer

/-- The transfer of the served files to nobody. -/
def unheardEngine : Engine Ledger :=
  ⟨transferReading (fun _ => .whole) servingGit (Storage.remote nobody wholeSettings.storage)
    wholeSettings, ⟨false, 0⟩, servedEngine.suffixes⟩

theorem calls_unheard : ∃ own w₃, unheardEngine.calls [47] ⟨FileSystem.empty, 0, {}⟩ =
      [(.fetch servedDir, ⟨servedHome, 1, {}⟩),
        (.archive servedSource servedDir, ⟨servedLeft, 1, own⟩),
        (.upload ⟨servedArchive, 2, 273⟩, w₃)] ∧
    (packReading (fun _ => .whole) servedSource (archiveFile servedDir)).Ends ⟨servedLeft, 1, own⟩
      (.ok ⟨servedArchive, 2, 273⟩) w₃ := by
  obtain ⟨own, w₃, hcalls, -, harchive⟩ :=
    calls_served (Storage.remote nobody wholeSettings.storage)
  rw [Engine.transfer, ← transferReading_whole] at hcalls
  rw [← packReading_whole] at harchive
  exact ⟨own, w₃, hcalls, harchive⟩

theorem fails_unheard :
    ∃ failure, ((unheardEngine.runIn [47]).run ⟨FileSystem.empty, 0, {}⟩).result =
      .error failure := by
  rcases unheardEngine.run_cases [47] ⟨FileSystem.empty, 0, {}⟩ with ⟨failure, -, hresult, -⟩ |
    ⟨workDir, w₁, outcome, w₂, cleaned, -, hstaged, -, hresult⟩
  · exact ⟨failure, hresult⟩
  · generalize unheardEngine.calls [47] ⟨FileSystem.empty, 0, {}⟩ = calls at hstaged
    cases hstaged with
    | fetchFails _ | archiveFails _ _ | uploadFails _ _ _ => exact ⟨_, hresult⟩
    | complete _ _ hupload => exact absurd hupload not_ends_nobody

/-- A transfer of which only the upload fails. -/
theorem failures_belong_unheard : ∃ failure w₃,
    ((unheardEngine.runIn [47]).run ⟨FileSystem.empty, 0, {}⟩).result = .error failure ∧
    FailedRun wholeSettings unheardEngine [47] ⟨FileSystem.empty, 0, {}⟩ failure ∧
    failure.category ≠ .configuration ∧
    wholeSettings.check = .ok () ∧ servingGit.KeepsToRepository ∧ servedEngine.suffixes.Proper ∧
    (.upload ⟨servedArchive, 2, 273⟩, w₃) ∈ unheardEngine.calls [47] ⟨FileSystem.empty, 0, {}⟩ ∧
    0 < 2 ∧ 0 < 273 := by
  obtain ⟨-, hfails, hfilled, hkept⟩ := @failures_belong (fun _ => .whole) servingGit nobody
    wholeSettings ⟨false, 0⟩ servedEngine.suffixes [47] ⟨FileSystem.empty, 0, {}⟩
  obtain ⟨own, w₃, hcalls, harchive⟩ := calls_unheard
  obtain ⟨failure, hresult⟩ := fails_unheard
  obtain ⟨hfailed, hcategory⟩ := hfails failure hresult
  have hcall : (.upload ⟨servedArchive, 2, 273⟩, w₃) ∈
      unheardEngine.calls [47] ⟨FileSystem.empty, 0, {}⟩ := by
    rw [hcalls]
    simp
  obtain ⟨-, hpositive⟩ := hkept accepted_whole keepsToRepository_serving proper_served
  exact ⟨failure, w₃, hresult, hfailed, hcategory, accepted_whole, keepsToRepository_serving,
    proper_served, hcall, (hfilled harchive).1, (hpositive _ _ hcall).2⟩

end unreachable

section planted

/-- A git that checks out one file, `a`, and puts a link to `/n` beside the repository, under the
name of the archive. -/
def plantingGit : Git := fun _ c fs =>
  match c.operation, fs.stat true c.dest with
  | .checkout _, .ok (loc, .directory) =>
    ((fs.insert loc [97] (.file ⟨0o644, .plain [109]⟩)).insert loc.dropLast
      (Path.ofText "archive.zip") (.link [47, 110]), .ended (.code 0) [])
  | _, _ => (fs, .ended (.code 0) [])

/-- A transfer from that git, over a network that takes everything. -/
def plantedEngine : Engine Ledger :=
  Engine.transfer plantingGit (Storage.remote Storage.taking wholeSettings.storage) wholeSettings
    ⟨false, 0⟩ fun _ => [97, 97, 97, 97, 97, 97]

/-- A device, `/n`. -/
def deviceOnly : FileSystem where
  items := [([[110]], .device)]
  cwd := []
  distinct := by decide
  inDirectory := by decide
  named := by decide

def plantedHome : FileSystem where
  items := ([servedName], .directory) :: deviceOnly.items
  cwd := []
  distinct := by decide
  inDirectory := by decide
  named := by decide

/-- What the checkout leaves: the file `a`, the pattern, and the link. -/
def plantedLeft : FileSystem where
  items := [([servedName, Path.ofText "archive.zip"], .link [47, 110]),
    (servedStaging ++ [[97]], .file ⟨0o644, .plain [109]⟩),
    (servedStaging ++ servedPattern, .file ⟨0o644, .plain [46, 47, 42, 10]⟩),
    (servedStaging ++ servedPattern.take 2, .directory),
    (servedStaging ++ servedPattern.take 1, .directory), (servedStaging, .directory),
    ([servedName], .directory), ([[110]], .device)]
  cwd := []
  distinct := by decide
  inDirectory := by decide
  named := by decide

theorem planted_create : (WorkDir.create plantedEngine.suffixes [47]).Ends
    (⟨deviceOnly, 0, {}⟩ : World Ledger) (.ok servedDir) ⟨plantedHome, 1, {}⟩ := by
  refine ⟨by decide +kernel, ?_⟩
  apply World.eq_of_files <;> decide +kernel

theorem planted_fetch : ∃ own, (fetchWith plantingGit wholeSettings servedDir).Ends
    ⟨plantedHome, 1, {}⟩ (.ok servedSource) ⟨plantedLeft, 1, own⟩ :=
  Action.ends_of_files (by decide +kernel) (by decide +kernel) (by decide +kernel)
    (by decide +kernel)

set_option maxRecDepth 100000 in
theorem planted_archive (own : Ledger) : ∃ w₃,
    (packFolder servedSource (archiveFile servedDir)).Ends ⟨plantedLeft, 1, own⟩
      (.ok ⟨servedArchive, 2, 0⟩) w₃ := by
  have hout : archiveFile servedDir = servedArchive := by decide +kernel
  rw [hout]
  exact ⟨_, by cbv, rfl⟩

/-- The settings are accepted, the network would take everything, and yet the run fails in its last
stage because there is nothing in the archive that its second stage has made of two files. -/
theorem nothing_left_planted : wholeSettings.check = .ok () ∧
    ((plantedEngine.runIn [47]).run ⟨deviceOnly, 0, {}⟩).result =
      .error (.emptyArchive servedArchive) ∧
    .transferFailed .uploading (.emptyArchive servedArchive) ∈
      ((plantedEngine.runIn [47]).run ⟨deviceOnly, 0, {}⟩).events ∧
    ∃ w₂ w₃, (packFolder servedSource (archiveFile servedDir)).Ends w₂
        (.ok ⟨servedArchive, 2, 0⟩) w₃ ∧
      plantedEngine.calls [47] ⟨deviceOnly, 0, {}⟩ = [(.fetch servedDir, ⟨plantedHome, 1, {}⟩),
        (.archive servedSource servedDir, w₂), (.upload ⟨servedArchive, 2, 0⟩, w₃)] := by
  obtain ⟨own, hfetch⟩ := planted_fetch
  obtain ⟨w₃, harchive⟩ := planted_archive own
  have hupload : (plantedEngine.pipeline.upload ⟨servedArchive, 2, 0⟩).Ends w₃
      (.error (.emptyArchive servedArchive)) w₃ := Action.ends_fail.2 ⟨rfl, rfl⟩
  have hrun := Engine.run_with_directory planted_create (.uploadFails hfetch harchive hupload)
    (Action.ends_run (WorkDir.remove servedDir) w₃)
  obtain ⟨front, hclosing⟩ := Engine.closing_error .uploading (.emptyArchive servedArchive)
    ((WorkDir.remove servedDir).run w₃).result
  rw [hclosing] at hrun
  refine ⟨accepted_whole, ?_, ?_, _, w₃, harchive,
    Engine.calls_of_archived planted_create hfetch harchive⟩
  · rw [hrun]
    rfl
  · rw [hrun]
    simp

end planted
end SparseTransfer
