import Mathlib
import SparseTransfer.Proofs.Pipeline
import SparseTransfer.Proofs.Settings
import SparseTransfer.Proofs.WorkDir

/- Whole transfers. A run that goes well has handed one archive to the storage, which lists what the
checkout left in the directory to transfer; a run in which nothing goes wrong goes well; and a run
that fails has stored nothing. -/
namespace SparseTransfer
open FileSystem Pipeline Archive

def Engine.transfer (git : Git) (storage : Storage) (s : TransferSettings) (monitor : Monitor)
    (suffixes : Suffixes) : Engine Ledger :=
  ⟨Pipeline.transfer git storage s, monitor, suffixes⟩

theorem getLast?_sourceOf {s : TransferSettings} {workDir : Path} (haccepted : s.check = .ok ())
    (hne : workDir ≠ []) :
    ∃ n, (Path.components (sourceOf s workDir)).getLast? = some (.name n) := by
  have hstaging : isName (Path.ofText "staging") = true := by decide +kernel
  rw [sourceOf, stagingDir, Path.child]
  exact (s.isDownward haccepted).getLast? hne hstaging

section staged
variable {git : Git} {storage : Storage} {held : Ledger → List (UploadTarget × Content)}
  {s : TransferSettings} {workDir : Path} {w w' : World Ledger}
  {calls : List (StageCall × World Ledger)}

theorem own_packed {folder out : Path} {r : Except TransferError ArchiveSummary}
    (h : (packFolder folder out).Ends w r w') : w'.own = w.own := by
  obtain ⟨⟨files, rfl⟩, -⟩ := ends_packFolder h
  rfl

theorem Staged.stored {failure : Stage × TransferError} (hstorage : storage.Faithful s.target held)
    (h : Staged (Pipeline.transfer git storage s) workDir w calls (.error failure) w') :
    held w'.own = held w.own := by
  have hfetched {r : Except TransferError Path} {w₂ : World Ledger}
      (hfetch : (fetchWith git s workDir).Ends w r w₂) : held w₂.own = held w.own := by
    obtain ⟨log, hmore, -⟩ := ends_fetchWith hfetch
    rw [hmore.own]
    exact hstorage.unmoved _ _ _
  cases h with
  | fetchFails hfetch => exact hfetched hfetch
  | archiveFails hfetch harchive => rw [own_packed harchive, hfetched hfetch]
  | uploadFails hfetch harchive hupload =>
    rw [ends_uploadTo_error hstorage hupload, own_packed harchive, hfetched hfetch]

end staged

theorem isAbsolute_of_create {suffixes : Suffixes} {parent workDir : Path} {w w' : World π}
    (h : (WorkDir.create suffixes parent).Ends w (.ok workDir) w') :
    Path.isAbsolute workDir = true :=
  WorkDir.isAbsolute_of_createNamed (isAbsolute_absolute w.files parent) (ends_create h)

theorem ok_of_remove {workDir : Path} {w w' : World π} {r : Except TransferError Unit}
    (hfiles : ∃ files, w.files.removeTree workDir = .ok files)
    (h : (WorkDir.remove workDir).Ends w r w') : r = .ok () := by
  obtain ⟨files, hfiles⟩ := hfiles
  rcases ends_remove h with ⟨_, _, hr, _⟩ | ⟨_, hfailure, _, _⟩
  · exact hr
  · cases hfiles.symm.trans hfailure

/-- A git that does all it is asked for and checks out one file, `a`. -/
def servingGit : Git := fun _ c fs =>
  match c.operation, fs.stat true c.dest with
  | .checkout _, .ok (loc, .directory) =>
    (fs.insert loc [97] (.file ⟨0o644, .plain [109]⟩), .ended (.code 0) [])
  | _, _ => (fs, .ended (.code 0) [])

def wholeSettings : TransferSettings where
  repoUrl := "u"
  branch := "b"
  dirPath := "."
  storage := { endpoint := "[::1]" }

def servedEngine : Engine Ledger :=
  Engine.transfer servingGit (Storage.keeping none) wholeSettings ⟨false, 0⟩
    fun _ => [97, 97, 97, 97, 97, 97]

section served

/-- The name of the working directory, `push-transfer-aaaaaa`. -/
def servedName : Bytes :=
  [112, 117, 115, 104, 45, 116, 114, 97, 110, 115, 102, 101, 114, 45, 97, 97, 97, 97, 97, 97]

def servedDir : Path := 47 :: servedName

/-- The directory to transfer, `staging/.` in the working directory. -/
def servedSource : Path := servedDir ++ [47, 115, 116, 97, 103, 105, 110, 103, 47, 46]

def servedArchive : Path := servedDir ++ [47, 97, 114, 99, 104, 105, 118, 101, 46, 122, 105, 112]

def servedStaging : Location := [servedName, [115, 116, 97, 103, 105, 110, 103]]

/-- The place of the pattern in the staging directory, `.git/info/sparse-checkout`. -/
def servedPattern : Location :=
  [[46, 103, 105, 116], [105, 110, 102, 111],
    [115, 112, 97, 114, 115, 101, 45, 99, 104, 101, 99, 107, 111, 117, 116]]

def servedHome : FileSystem where
  items := [([servedName], .directory)]
  cwd := []
  distinct := by decide
  inDirectory := by decide
  named := by decide

/-- What the checkout leaves: the file `a` and the pattern, `./*`. -/
def servedLeft : FileSystem where
  items := [(servedStaging ++ [[97]], .file ⟨0o644, .plain [109]⟩),
    (servedStaging ++ servedPattern, .file ⟨0o644, .plain [46, 47, 42, 10]⟩),
    (servedStaging ++ servedPattern.take 2, .directory),
    (servedStaging ++ servedPattern.take 1, .directory), (servedStaging, .directory),
    ([servedName], .directory)]
  cwd := []
  distinct := by decide
  inDirectory := by decide
  named := by decide

theorem FileSystem.eq_of_items {fs fs' : FileSystem} (hitems : fs.items = fs'.items)
    (hcwd : fs.cwd = fs'.cwd) : fs = fs' := by
  cases fs
  cases fs'
  simp_all

theorem World.eq_of_files {w w' : World π} (hitems : w.files.items = w'.files.items)
    (hcwd : w.files.cwd = w'.files.cwd) (hdrawn : w.drawn = w'.drawn) (hown : w.own = w'.own) :
    w = w' := by
  have hfiles := FileSystem.eq_of_items hitems hcwd
  cases w
  cases w'
  simp_all

theorem Action.ends_of_files {a : Action (World π) α} {w : World π}
    {r : Except TransferError α} {fs : FileSystem} {drawn : Nat} (hresult : (a.run w).result = r)
    (hitems : (a.run w).state.files.items = fs.items) (hcwd : (a.run w).state.files.cwd = fs.cwd)
    (hdrawn : (a.run w).state.drawn = drawn) : ∃ own, a.Ends w r ⟨fs, drawn, own⟩ :=
  ⟨(a.run w).state.own, hresult, World.eq_of_files hitems hcwd hdrawn rfl⟩

theorem accepted_whole : wholeSettings.check = .ok () := by decide +kernel

theorem served_create : (WorkDir.create servedEngine.suffixes [47]).Ends
    (⟨FileSystem.empty, 0, {}⟩ : World Ledger) (.ok servedDir) ⟨servedHome, 1, {}⟩ := by
  refine ⟨by decide +kernel, ?_⟩
  apply World.eq_of_files <;> decide +kernel

theorem served_fetch : ∃ own, (fetchWith servingGit wholeSettings servedDir).Ends
    ⟨servedHome, 1, {}⟩ (.ok servedSource) ⟨servedLeft, 1, own⟩ :=
  Action.ends_of_files (by decide +kernel) (by decide +kernel) (by decide +kernel)
    (by decide +kernel)

set_option maxRecDepth 100000 in
theorem served_archive (own : Ledger) : ∃ w₃, (packFolder servedSource (archiveFile servedDir)).Ends
    ⟨servedLeft, 1, own⟩ (.ok ⟨servedArchive, 2, 273⟩) w₃ := by
  have hout : archiveFile servedDir = servedArchive := by decide +kernel
  rw [hout]
  exact ⟨_, by cbv, rfl⟩

theorem calls_served (storage : Storage) : ∃ own w₃,
    (Engine.transfer servingGit storage wholeSettings ⟨false, 0⟩ servedEngine.suffixes).calls [47]
        ⟨FileSystem.empty, 0, {}⟩ =
      [(.fetch servedDir, ⟨servedHome, 1, {}⟩),
        (.archive servedSource servedDir, ⟨servedLeft, 1, own⟩),
        (.upload ⟨servedArchive, 2, 273⟩, w₃)] ∧
    (fetchWith servingGit wholeSettings servedDir).Ends ⟨servedHome, 1, {}⟩ (.ok servedSource)
      ⟨servedLeft, 1, own⟩ ∧
    (packFolder servedSource (archiveFile servedDir)).Ends ⟨servedLeft, 1, own⟩
      (.ok ⟨servedArchive, 2, 273⟩) w₃ := by
  obtain ⟨own, hfetch⟩ := served_fetch
  obtain ⟨w₃, harchive⟩ := served_archive own
  exact ⟨own, w₃, Engine.calls_of_archived served_create hfetch harchive, hfetch, harchive⟩

theorem served_calls : ∃ own w₃, servedEngine.calls [47] ⟨FileSystem.empty, 0, {}⟩ =
    [(.fetch servedDir, ⟨servedHome, 1, {}⟩),
      (.archive servedSource servedDir, ⟨servedLeft, 1, own⟩),
      (.upload ⟨servedArchive, 2, 273⟩, w₃)] ∧
    (fetchWith servingGit wholeSettings servedDir).Ends ⟨servedHome, 1, {}⟩ (.ok servedSource)
      ⟨servedLeft, 1, own⟩ ∧
    (packFolder servedSource (archiveFile servedDir)).Ends ⟨servedLeft, 1, own⟩
      (.ok ⟨servedArchive, 2, 273⟩) w₃ :=
  calls_served (Storage.keeping none)

theorem apart_served : Apart servedLeft servedSource (archiveFile servedDir) := by
  have hout : servedLeft.leadsTo (archiveFile servedDir) =
      some [servedName, Path.ofText "archive.zip"] := by decide +kernel
  have hfolder : servedLeft.leadsTo servedSource = some servedStaging := by decide +kernel
  exact apart_of_noLinks (by simp [servedLeft]) hout hfolder (by decide +kernel)

theorem served_read {own : Ledger} {w₃ : World Ledger}
    (harchive : (packFolder servedSource (archiveFile servedDir)).Ends ⟨servedLeft, 1, own⟩
      (.ok ⟨servedArchive, 2, 273⟩) w₃) :
    w₃.files.read servedArchive = .ok (.archive ((servedLeft.filesOf servedSource).map fun f =>
      entryOf [115, 116, 97, 103, 105, 110, 103] f.1 f.2)) := by
  have hn : (Path.components servedSource).getLast? =
      some (.name [115, 116, 97, 103, 105, 110, 103]) := by decide +kernel
  obtain ⟨entries, -, rfl, hpath, -, hread, -⟩ :=
    read_of_packed hn apart_served (by decide) harchive
  rwa [← hpath] at hread

end served
end SparseTransfer
