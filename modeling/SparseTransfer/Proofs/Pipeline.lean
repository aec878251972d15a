import SparseTransfer.Pipeline
import SparseTransfer.Proofs.Archive.Listing
import SparseTransfer.Proofs.Engine.Calls
import SparseTransfer.Proofs.Git.Checkout
import SparseTransfer.Proofs.Storage

/- What each stage of a transfer does, and that a working directory in which an archive has been
made can be removed. -/
namespace SparseTransfer
open FileSystem

namespace Pipeline

/-- The directory that is archived. -/
def sourceOf (s : TransferSettings) (workDir : Path) : Path :=
  Path.append (stagingDir workDir) (Path.ofText s.dirPath)

section fetch
variable {git : Git} {s : TransferSettings} {workDir : Path} {w w' : World Ledger}

/-- Fetching changes files and asks git, and nothing else. If it ends well, it leaves what the
checkout left. -/
theorem ends_fetchWith {r : Except TransferError Path} (h : (fetchWith git s workDir).Ends w r w') :
    ∃ log, AskedMore w w' log ∧ ∀ source, r = .ok source → source = sourceOf s workDir ∧
      ((checkoutOf s).run git (stagingDir workDir)).Ends w (.ok ()) w' ∧
      (checkoutOf s).Complete (stagingDir workDir) log ∧
      w'.files.isDirectory (sourceOf s workDir) = true := by
  rw [fetchWith, Action.ends_bind] at h
  rcases h with ⟨_, w₁, hrun, h⟩ | ⟨e, hrun, rfl⟩
  · rw [Action.ends_get_bind] at h
    obtain ⟨log, hmore, ⟨-, hcomplete, -⟩ | ⟨⟨_, heq⟩, -⟩⟩ := SparseCheckout.ends_run hrun
    · split at h
      · next hdir =>
        obtain ⟨rfl, rfl⟩ := Action.ends_pure.1 h
        refine ⟨log, hmore, fun source hsource => ?_⟩
        cases hsource
        exact ⟨rfl, hrun, hcomplete, hdir⟩
      · obtain ⟨rfl, rfl⟩ := Action.ends_fail.1 h
        exact ⟨log, hmore, fun source hsource => by cases hsource⟩
    · cases heq
  · obtain ⟨log, hmore, -⟩ := SparseCheckout.ends_run hrun
    exact ⟨log, hmore, fun source hsource => by cases hsource⟩

end fetch
end Pipeline

namespace Pipeline

section upload
variable {storage : Storage} {target : UploadTarget} {archive : ArchiveSummary} {path : Path}
  {held : Ledger → List (UploadTarget × Content)} {w w' : World Ledger}

theorem ends_uploadTo_error (hstorage : storage.Faithful target held) {e : TransferError}
    (h : (uploadTo storage target archive).Ends w (.error e) w') : held w'.own = held w.own := by
  rw [uploadTo] at h
  split at h
  · obtain ⟨-, rfl⟩ := Action.ends_fail.1 h
    rfl
  · rw [Ledger.notePut, Action.ends_modify_bind] at h
    exact (hstorage.fails h).trans (hstorage.unmoved _ _ _)

end upload

/-- What was written to a path takes up bytes, unless it was written to a device. -/
theorem device_of_written {fs files fs' : FileSystem} {out : Path} {loc : Location}
    {entries : List Archive.Entry} {bytes : Nat} (hcreate : fs.create out = .ok (files, loc))
    (hfiles : fs' = files.writeAt loc (.archive entries))
    (hsize : Archive.sizeOf fs' out = .ok bytes) :
    0 < bytes ∨ fs.stat true out = .ok (loc, .device) := by
  rw [Archive.sizeOf] at hsize
  cases hstat : fs'.stat true out with
  | error e =>
    rw [hstat] at hsize
    cases hsize
  | ok found =>
    obtain ⟨place, item⟩ := found
    rw [hstat] at hsize
    rcases stat_written hcreate hfiles hstat with ⟨-, hwas⟩ | ⟨permissions, rfl⟩
    · exact Or.inr hwas
    · injection hsize with hbytes
      rw [← hbytes]
      exact Or.inl (Archive.length_image_pos entries)

/-- An archive has entries and bytes, unless it was written to a device. -/
theorem full_of_packed {folder out : Path} {summary : ArchiveSummary} {w w' : World π}
    (hdevice : ∀ loc, w.files.stat true out ≠ .ok (loc, .device))
    (h : (Archive.packFolder folder out).Ends w (.ok summary) w') :
    summary.path = out ∧ summary.entries ≠ 0 ∧ summary.bytes ≠ 0 := by
  obtain ⟨files, loc, entries, hcreate, -, hne, hfiles, hpath, hcount, hsize⟩ :=
    (Archive.ends_packFolder h).2 summary rfl
  refine ⟨hpath, ?_, ?_⟩
  · rw [hcount]
    exact fun hzero => hne (List.length_eq_zero_iff.1 hzero)
  · have hbytes := (device_of_written hcreate hfiles hsize).resolve_right (hdevice loc)
    exact Nat.ne_of_gt hbytes

section removal
variable {workDir source : Path} {summary : ArchiveSummary} {w w' : World π}

theorem isName_archive : isName (Path.ofText "archive.zip") = true := by decide +kernel

theorem extends_archiveFile (hdir : workDir ≠ []) :
    Extends workDir (archiveFile workDir) (namesOf (Path.ofText "archive.zip")) :=
  extends_append hdir (isAbsolute_of_isName isName_archive) (isName_iff.1 isName_archive).1

/-- A working directory in which an archive has been made can be removed: the archive's path leads
through it, and only a file has changed. -/
theorem removeTree_of_written {fs files fs' : FileSystem} {loc : Location} {content : Content}
    (habs : Path.isAbsolute workDir = true)
    (hcreate : fs.create (archiveFile workDir) = .ok (files, loc))
    (hfiles : fs' = files.writeAt loc content) : ∃ files, fs'.removeTree workDir = .ok files := by
  have hne := Path.ne_nil_of_isAbsolute habs
  obtain ⟨hmade, ⟨q, hq, -, -, -⟩, hout⟩ := create_spec hcreate
  have hdiffer := hmade.trans (writeAt_differAt content hout)
  rw [← hfiles] at hdiffer
  obtain ⟨d, _, hstat, -⟩ := (extends_archiveFile hne).of_lookup hne hq
  have hdir : fs.at? d = some .directory := lookup_found habs (stat_eq_ok_iff.1 hstat)
  have haside : fs.leadsTo workDir ≠ some loc := by
    rw [leadsTo_of_stat hstat]
    rintro heq
    cases heq
    cases hdiffer.leaf hdir
  obtain ⟨place, item, hfound, hitem⟩ := stat_unfollowed ((hdiffer.stat_iff haside).2 hstat)
  rw [removeTree, hfound]
  cases item with
  | directory | link target => exact ⟨_, rfl⟩
  | file data | socket | device => cases hitem

end removal
end Pipeline

namespace WorkDir

theorem isAbsolute_of_createNamed {suffixes : Suffixes} {parent path : Path}
    (hparent : Path.isAbsolute parent = true) {attempts : Nat} {w w' : World π}
    (h : (createNamed suffixes parent attempts).Ends w (.ok path) w') :
    Path.isAbsolute path = true := by
  have hne := Path.ne_nil_of_isAbsolute hparent
  induction attempts generalizing w with
  | zero => cases (Action.ends_fail.1 h).1
  | succ attempts ih =>
    rw [Action.Ends, Action.run, createNamed] at h
    simp only at h
    split at h
    · obtain ⟨heq, -⟩ := h
      cases heq
      rw [Path.isAbsolute_append hne rfl]
      exact hparent
    · split at h
      · exact ih (w := { w with drawn := w.drawn + 1 }) h
      · cases h.1

end WorkDir
end SparseTransfer
