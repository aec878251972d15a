import SparseTransfer.Proofs.Archive.Breakage
import SparseTransfer.Proofs.File.Congruence
import SparseTransfer.Proofs.Pipeline

/- How packing fails, and what it gives if it does not. The walk through a folder that can be read
does not fail, and an archive is empty only if it was written to a device. -/
namespace SparseTransfer.Archive
open FileSystem

/-- Making a file at `out` leaves a folder as it was. -/
def Undisturbed (fs : FileSystem) (folder out : Path) : Prop :=
  ∀ files loc, fs.create out = .ok (files, loc) → SameFolder fs files folder

/-- What has not changed can be read if it could be before. -/
theorem Readable.sameFolder {fs fs' : FileSystem} {folder : Path} (h : Readable fs folder)
    (hsame : SameFolder fs fs' folder) : Readable fs' folder := by
  constructor
  · obtain ⟨-, root', item, -, hroot'⟩ := hsame.found
    exact ⟨root', item, hroot'⟩
  · intro root' names item hroot' hne hitem' hopens
    obtain ⟨root, hroot⟩ := hsame.directory_of hroot'
    have hitem := (hsame.below hroot hroot' hne).symm.trans hitem'
    obtain ⟨found, hstat⟩ := h.opened hroot hne hitem hopens
    exact ⟨_, stat_pathBelow hroot' hne hitem' (lookup_eq_ok_iff.1 (stat_eq_ok_iff.1 hstat)).1⟩

/-- What is apart from the path of an archive is undisturbed. -/
theorem undisturbed_of_apart {fs : FileSystem} {folder out : Path} {root : Location} {item : Item}
    (hapart : Apart fs folder out) (hfound : fs.stat true folder = .ok (root, item)) :
    Undisturbed fs folder out := fun files _ hcreate => by
  obtain ⟨hmade, -, -⟩ := create_spec hcreate
  exact hmade.sameFolder (leadsTo_of_create hcreate) hapart hfound

section packing
variable {readings : Path → Reading} {fs : FileSystem} {folder out : Path} {w w' : World π}

/-- How packing can fail. The walk does not fail through a folder that can be read, if it is still
what it was when the file for the archive has been made. -/
inductive PackingFails (fs : FileSystem) (folder out : Path) : TransferError → Prop where
  | empty : PackingFails fs folder out (.emptyArchive folder)
  | duplicate {name : String} : PackingFails fs folder out (.archive (.duplicateName name))
  | file {cause : FileError} : PackingFails fs folder out (.file cause)
  | walk {cause : WalkError} (h : ¬ (Undisturbed fs folder out ∧ Readable fs folder)) :
    PackingFails fs folder out (.walk cause)

/-- The errors with which packing breaks off, and that walking through a folder that can be read
gives none. -/
theorem BrokeOff.error {before after : List (Location × FileData)} {e : TransferError}
    {begun : List Entry} (h : BrokeOff readings fs folder before after e begun) :
    (∃ cause, e = .walk cause ∧ ¬ Readable fs folder) ∨
      (∃ name, e = .archive (.duplicateName name)) ∨ (∃ cause, e = .file cause) ∨
      e = .emptyArchive folder := by
  cases h with
  | missing hmissing =>
    refine Or.inl ⟨_, rfl, fun hreadable => ?_⟩
    obtain ⟨loc, item, hfound⟩ := hreadable.found
    exact hmissing _ hfound
  | @unopened _ _ root names item _ hroot hitem hopens hunusable _ _ =>
    refine Or.inl ⟨_, rfl, fun hreadable => hunusable ?_⟩
    by_cases hne : names = []
    · subst hne
      exact (lookup_eq_ok_iff.1 (stat_eq_ok_iff.1 hroot)).1
    · obtain ⟨found, hstat⟩ := hreadable.opened hroot hne hitem hopens
      exact (lookup_eq_ok_iff.1 (stat_eq_ok_iff.1 hstat)).1
  | duplicate _ => exact Or.inr (Or.inl ⟨_, rfl⟩)
  | reading _ _ => exact Or.inr (Or.inr (Or.inl ⟨_, rfl⟩))
  | empty => exact Or.inr (Or.inr (Or.inr rfl))

theorem packingFails {e : TransferError}
    (h : (packReading readings folder out).Ends w (.error e) w') :
    PackingFails w.files folder out e := by
  obtain ⟨cause, -, hr, -⟩ | ⟨files, loc, hcreate, -, hr⟩ := ends_packReading_cases h
  · cases hr
    exact .file
  · have hgathered := gathered_walk readings files folder
    generalize gatheredReading readings files (baseOf folder) [] (files.walk folder) = gathered at *
    cases hgathered with
    | all hadded =>
      rw [concluded.eq_def] at hr
      split at hr
      · next heq => cases heq
      · cases hr
        exact .empty
      · split at hr <;> cases hr
        exact .file
    | broken hfiles hadded hbroke =>
      cases hr
      rcases hbroke.error with ⟨cause, rfl, hunreadable⟩ | ⟨name, rfl⟩ | ⟨cause, rfl⟩ | rfl
      · exact .walk fun ⟨hundisturbed, hreadable⟩ =>
          hunreadable (hreadable.sameFolder (hundisturbed files loc hcreate))
      · exact .duplicate
      · exact .file
      · exact .empty

/-- What packing that ends well has written, and what it tells of it. -/
theorem written_of_packed {summary : ArchiveSummary}
    (h : (packReading readings folder out).Ends w (.ok summary) w') :
    ∃ files loc entries, w.files.create out = .ok (files, loc) ∧
      w'.files = files.writeAt loc (.archive entries) ∧ summary.path = out ∧ 0 < summary.entries ∧
      sizeOf w'.files out = .ok summary.bytes := by
  obtain ⟨cause, -, hr, -⟩ | ⟨files, loc, hcreate, rfl, hr⟩ := ends_packReading_cases h
  · cases hr
  · rw [concluded.eq_def] at hr
    split at hr
    · cases hr
    · cases hr
    · split at hr
      · cases hr
      · next hsize =>
        cases hr
        exact ⟨files, loc, _, hcreate, rfl, rfl, Nat.succ_pos _, hsize⟩

/-- An archive has entries, and it has bytes unless its path led to a device. -/
theorem filled_of_packed {summary : ArchiveSummary}
    (h : (packReading readings folder out).Ends w (.ok summary) w') : summary.path = out ∧
      0 < summary.entries ∧
      (summary.bytes = 0 → ∃ loc, w.files.stat true out = .ok (loc, .device)) := by
  obtain ⟨files, loc, entries, hcreate, hfiles, hpath, hentries, hsize⟩ := written_of_packed h
  refine ⟨hpath, hentries, fun hzero => ⟨loc, ?_⟩⟩
  exact (Pipeline.device_of_written hcreate hfiles hsize).resolve_left (by omega)

end packing
end SparseTransfer.Archive
