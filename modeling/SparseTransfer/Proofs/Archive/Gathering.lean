import SparseTransfer.Proofs.Archive.Reading
import SparseTransfer.Proofs.Action
import SparseTransfer.Proofs.File.Folder

/- What packing computes. It changes files only where the archive is; what it comes to is a function
of the files alone. -/
namespace SparseTransfer
open FileSystem

namespace Archive

/-- The file for a visit, as it is looked for. -/
def fileFor (fs : FileSystem) (v : Visit) : Except FileError (Option FileData) :=
  match v.item with
  | .link _ => .ok (fs.fileBehind v.path v.item)
  | .file _ =>
    match fs.stat false v.path with
    | .ok (_, .file data) => .ok (some data)
    | .ok _ => .ok none
    | .error e => .error e
  | _ => .ok none

/-- What comes of one visit after the entries already written: no entry, the one for its file, or a
failure. -/
def gathered? (fs : FileSystem) (base : Path) (written : List Entry) :
    Except WalkError Visit → Except TransferError (Option Entry)
  | .error e => .error (.walk e)
  | .ok v =>
    match fileFor fs v with
    | .error e => .error (.walk ⟨v.path, e⟩)
    | .ok none => .ok none
    | .ok (some data) =>
      match entryName base v.path with
      | .error e => .error e
      | .ok name =>
        if written.any (·.name == name) then .error (.archive (.duplicateName name))
        else .ok (some ⟨name, data.permissions &&& 0o777, data.content.bytes⟩)

/-- All entries written after a walk, and the failure at which it ended, if it met one. -/
def gathered (fs : FileSystem) (base : Path) (written : List Entry) :
    List (Except WalkError Visit) → List Entry × Option TransferError
  | [] => (written, none)
  | v :: rest =>
    match gathered? fs base written v with
    | .error e => (written, some e)
    | .ok none => gathered fs base written rest
    | .ok (some entry) => gathered fs base (written ++ [entry]) rest

/-- An entry with what was read of its file, and why it was no more. -/
def Entry.read (entry : Entry) : Reading → Entry × Option FileError
  | .whole => (entry, none)
  | .broken length cause => (entry.cut length, some cause)

/-- The path that a walk came to. -/
def visitedPath : Except WalkError Visit → Path
  | .error e => e.path
  | .ok v => v.path

/-- All entries written after a walk where files are read so, and the failure at which it ended, if
it met one. -/
def gatheredReading (readings : Path → Reading) (fs : FileSystem) (base : Path)
    (written : List Entry) : List (Except WalkError Visit) → List Entry × Option TransferError
  | [] => (written, none)
  | v :: rest =>
    match (gathered? fs base written v).map (Option.map (·.read (readings (visitedPath v)))) with
    | .error e => (written, some e)
    | .ok none => gatheredReading readings fs base written rest
    | .ok (some (entry, none)) => gatheredReading readings fs base (written ++ [entry]) rest
    | .ok (some (entry, some cause)) => (written ++ [entry], some (.file cause))

theorem gatheredReading_whole (fs : FileSystem) (base : Path) (written : List Entry)
    (visits : List (Except WalkError Visit)) :
    gatheredReading (fun _ => .whole) fs base written visits = gathered fs base written visits := by
  induction visits generalizing written with
  | nil => rfl
  | cons v rest ih =>
    rw [gatheredReading, gathered]
    rcases gathered? fs base written v with e | _ | entry
    · rfl
    · exact ih written
    · exact ih (written ++ [entry])

/-- What packing comes to with the entries that were gathered, when they have been written. -/
def concluded (fs : FileSystem) (folder out : Path) :
    List Entry × Option TransferError → Except TransferError ArchiveSummary
  | (_, some e) => .error e
  | ([], none) => .error (.emptyArchive folder)
  | (entry :: more, none) =>
    match sizeOf fs out with
    | .error e => .error (.file e)
    | .ok bytes => .ok ⟨out, (entry :: more).length, bytes⟩

section walk
variable {fs : FileSystem} {folder : Path} {root : Location} {found : Item}

/-- A folder is visited first, and is no file itself. -/
theorem walk_directory (hroot : fs.stat true folder = .ok (root, .directory)) :
    ∃ item, fileFor fs ⟨folder, item⟩ = .ok none ∧
      fs.walk folder = .ok ⟨folder, item⟩ :: fs.visitsBelow folder root := by
  rcases stat_unfollowed_or hroot with hstat | ⟨place, target, hstat⟩
  · refine ⟨.directory, rfl, ?_⟩
    rw [FileSystem.walk, hstat]
  · refine ⟨.link target, ?_, ?_⟩
    · simp only [fileFor, fileBehind, hroot]
    · rw [FileSystem.walk, hstat]
      simp only [hroot]

/-- What is no folder is visited alone, for the file that it is or to which it leads. -/
theorem walk_alone (hroot : fs.stat true folder = .ok (root, found)) (hfound : found ≠ .directory) :
    ∃ item, fileFor fs ⟨folder, item⟩ = .ok (fs.fileBehind folder found) ∧
      fs.walk folder = [.ok ⟨folder, item⟩] := by
  rcases stat_unfollowed_or hroot with hstat | ⟨place, target, hstat⟩
  · refine ⟨found, ?_, ?_⟩
    · cases found with
      | file data => simp only [fileFor, hstat, fileBehind]
      | link target => exact absurd hroot stat_ne_link
      | directory | socket | device => rfl
    · rw [FileSystem.walk, hstat]
      cases found with
      | directory => exact absurd rfl hfound
      | link target => exact absurd hroot stat_ne_link
      | file data | socket | device => rfl
  · refine ⟨.link target, ?_, ?_⟩
    · cases found with
      | link target => exact absurd hroot stat_ne_link
      | directory | file data | socket | device => simp only [fileFor, fileBehind, hroot]
    · rw [FileSystem.walk, hstat]
      cases found with
      | directory => exact absurd rfl hfound
      | file data | link target | socket | device => simp only [hroot]

/-- A walk that leads nowhere comes to its failure and to nothing else. -/
theorem walk_of_error {e : FileError} (hroot : fs.stat true folder = .error e) :
    ∃ e, fs.walk folder = [.error ⟨folder, e⟩] := by
  rw [FileSystem.walk]
  cases hstat : fs.stat false folder with
  | error e' => exact ⟨e', rfl⟩
  | ok found =>
    obtain ⟨place, item⟩ := found
    cases item with
    | link target =>
      simp only [hroot]
      exact ⟨e, rfl⟩
    | directory | file data | socket | device =>
      cases hroot.symm.trans (stat_followed hstat (by simp))

end walk

section gathering
variable {w w' : World π} {base : Path}

theorem ends_fileOf {v : Visit} {r : Except TransferError (Option FileData)}
    (h : (fileOf v : Action (World π) _).Ends w r w') :
    w' = w ∧ r = (fileFor w.files v).mapError fun e => .walk ⟨v.path, e⟩ := by
  obtain ⟨path, item⟩ := v
  simp only [fileOf, Action.ends_get_bind] at h
  cases item with
  | link target =>
    simp only at h
    simp only [fileFor, fileBehind]
    split at h <;> simp_all [Except.mapError]
  | file data =>
    simp only at h
    simp only [fileFor]
    split at h <;> simp_all [Except.mapError]
  | directory | socket | device =>
    obtain ⟨rfl, rfl⟩ := Action.ends_pure.1 h
    exact ⟨rfl, rfl⟩

theorem ends_addReading {entry : Entry} {reading : Reading}
    {r : Except TransferError (Option (Entry × Option FileError))}
    (h : (addReading entry reading : Action (World π) _).Ends w r w') :
    w' = w ∧ r = .ok (some (entry.read reading)) := by
  cases reading with
  | whole =>
    rw [addReading, Action.ends_report_bind, Action.ends_pure] at h
    exact ⟨h.2, h.1⟩
  | broken length cause =>
    obtain ⟨rfl, rfl⟩ := Action.ends_pure.1 h
    exact ⟨rfl, rfl⟩

theorem ends_entryReading {readings : Path → Reading} {written : List Entry}
    {v : Except WalkError Visit} {r : Except TransferError (Option (Entry × Option FileError))}
    (h : (entryReading readings base written v : Action (World π) _).Ends w r w') :
    w' = w ∧ r = (gathered? w.files base written v).map
      (Option.map (·.read (readings (visitedPath v)))) := by
  cases v with
  | error e =>
    obtain ⟨rfl, rfl⟩ := Action.ends_fail.1 h
    exact ⟨rfl, rfl⟩
  | ok visit =>
    rw [entryReading, Action.ends_bind] at h
    rw [gathered?]
    rcases h with ⟨file, w₁, hfile, h⟩ | ⟨e, hfile, rfl⟩
    · obtain ⟨rfl, hfor⟩ := ends_fileOf hfile
      cases hlook : fileFor w₁.files visit with
      | error e =>
        rw [hlook] at hfor
        cases hfor
      | ok found =>
        rw [hlook] at hfor
        cases hfor
        cases file with
        | none =>
          obtain ⟨rfl, rfl⟩ := Action.ends_pure.1 h
          exact ⟨rfl, rfl⟩
        | some data =>
          simp only
          rw [Action.ends_bind] at h
          rcases h with ⟨name, w₂, hname, h⟩ | ⟨e, hname, rfl⟩
          · obtain ⟨hread, rfl⟩ := Action.ends_ofExcept.1 hname
            rw [← hread]
            simp only
            split at h
            · obtain ⟨rfl, rfl⟩ := Action.ends_fail.1 h
              exact ⟨rfl, by rw [if_pos ‹_›]; rfl⟩
            · rw [if_neg ‹_›]
              exact ends_addReading h
          · obtain ⟨hread, rfl⟩ := Action.ends_ofExcept.1 hname
            rw [← hread]
            exact ⟨rfl, rfl⟩
    · obtain ⟨rfl, hfor⟩ := ends_fileOf hfile
      cases hlook : fileFor w'.files visit with
      | error e =>
        rw [hlook] at hfor
        cases hfor
        exact ⟨rfl, rfl⟩
      | ok found =>
        rw [hlook] at hfor
        cases hfor

theorem ends_entriesReading {readings : Path → Reading} {written : List Entry}
    {visits : List (Except WalkError Visit)}
    {r : Except TransferError (List Entry × Option TransferError)}
    (h : (entriesReading readings base written visits : Action (World π) _).Ends w r w') :
    w' = w ∧ r = .ok (gatheredReading readings w.files base written visits) := by
  induction visits generalizing written with
  | nil =>
    obtain ⟨rfl, rfl⟩ := Action.ends_pure.1 h
    exact ⟨rfl, rfl⟩
  | cons v rest ih =>
    rw [entriesReading, Action.ends_attempt_bind] at h
    obtain ⟨made, w₁, hmade, h⟩ := h
    obtain ⟨rfl, hfor⟩ := ends_entryReading hmade
    rw [gatheredReading, ← hfor]
    rcases made with e | _ | ⟨entry, _ | cause⟩
    · obtain ⟨rfl, rfl⟩ := Action.ends_pure.1 h
      exact ⟨rfl, rfl⟩
    · exact ih h
    · exact ih h
    · obtain ⟨rfl, rfl⟩ := Action.ends_pure.1 h
      exact ⟨rfl, rfl⟩

end gathering

theorem ends_createFile {w w' : World π} {out : Path} {r : Except TransferError Location}
    (h : (createFile out).Ends w r w') :
    (∃ files loc, w.files.create out = .ok (files, loc) ∧ r = .ok loc ∧ w' = { w with files }) ∨
      ∃ e, w.files.create out = .error e ∧ r = .error (.file e) ∧ w' = w := by
  rw [Action.Ends, Action.run, createFile] at h
  split at h
  · next files loc hcreate =>
    obtain ⟨rfl, rfl⟩ := h
    exact Or.inl ⟨files, loc, hcreate, rfl, rfl⟩
  · next e hcreate =>
    obtain ⟨rfl, rfl⟩ := h
    exact Or.inr ⟨e, hcreate, rfl, rfl⟩

/-- Packing ends where the archive cannot be made, or writes what it has gathered, also after a
failure. -/
theorem ends_packReading_cases {readings : Path → Reading} {w w' : World π} {folder out : Path}
    {r : Except TransferError ArchiveSummary}
    (h : (packReading readings folder out).Ends w r w') :
    (∃ e, w.files.create out = .error e ∧ r = .error (.file e) ∧ w' = w) ∨
    ∃ files loc, w.files.create out = .ok (files, loc) ∧
      w' = ⟨files.writeAt loc
        (.archive (gatheredReading readings files (baseOf folder) [] (files.walk folder)).1),
        w.drawn, w.own⟩ ∧
      r = concluded w'.files folder out
        (gatheredReading readings files (baseOf folder) [] (files.walk folder)) := by
  rw [packReading, packWith, Action.ends_report_bind, Action.ends_bind] at h
  rcases h with ⟨loc, w₁, hcreate, h⟩ | ⟨e, hcreate, rfl⟩
  · obtain ⟨files, loc', hmade, hloc, rfl⟩ | ⟨e, -, hr, -⟩ := ends_createFile hcreate
    · cases hloc
      refine Or.inr ⟨files, loc, hmade, ?_⟩
      rw [Action.ends_get_bind, Action.ends_bind] at h
      rcases h with ⟨⟨entries, failure⟩, w₂, hentries, h⟩ | ⟨e, hentries, rfl⟩
      · obtain ⟨rfl, hr⟩ := ends_entriesReading hentries
        injection hr with hr
        simp only at hr
        rw [← hr]
        rw [Action.ends_modify_bind] at h
        cases failure with
        | some e =>
          obtain ⟨rfl, rfl⟩ := Action.ends_fail.1 h
          exact ⟨rfl, rfl⟩
        | none =>
          cases entries with
          | nil =>
            obtain ⟨rfl, rfl⟩ := Action.ends_fail.1 h
            exact ⟨rfl, rfl⟩
          | cons entry more =>
            simp only [List.isEmpty_cons, Bool.false_eq_true, if_false] at h
            rw [Action.ends_bind] at h
            rw [concluded]
            rcases h with ⟨bytes, w₃, hsize, h⟩ | ⟨e, hsize, rfl⟩
            · obtain ⟨hbytes, rfl⟩ := World.ends_inspectFiles_ok.1 hsize
              rw [Action.ends_report_bind, Action.ends_pure] at h
              obtain ⟨rfl, rfl⟩ := h
              rw [hbytes]
              exact ⟨rfl, rfl⟩
            · obtain ⟨hr, rfl⟩ := World.ends_inspectFiles.1 hsize
              refine ⟨rfl, ?_⟩
              simp only at hr
              split
              · next cause hcause =>
                rw [hcause] at hr
                cases hr
                rfl
              · next bytes hbytes =>
                rw [hbytes] at hr
                cases hr
      · obtain ⟨-, hr⟩ := ends_entriesReading hentries
        cases hr
    · cases hr
  · obtain ⟨files, loc, -, hr, -⟩ | ⟨e', hfailed, hr, rfl⟩ := ends_createFile hcreate
    · cases hr
    · cases hr
      exact Or.inl ⟨e', hfailed, rfl, rfl⟩

theorem ends_packFolder_cases {w w' : World π} {folder out : Path}
    {r : Except TransferError ArchiveSummary} (h : (packFolder folder out).Ends w r w') :
    (∃ e, w.files.create out = .error e ∧ r = .error (.file e) ∧ w' = w) ∨
    ∃ files loc, w.files.create out = .ok (files, loc) ∧
      w' = ⟨files.writeAt loc
        (.archive (gathered files (baseOf folder) [] (files.walk folder)).1), w.drawn, w.own⟩ ∧
      r = concluded w'.files folder out
        (gathered files (baseOf folder) [] (files.walk folder)) := by
  rw [← packReading_whole] at h
  simp only [← gatheredReading_whole]
  exact ends_packReading_cases h

section runs
variable {w : World π} {out : Path} {files : FileSystem} {loc : Location}

theorem run_of_create (folder : Path) (h : w.files.create out = .ok (files, loc)) :
    ((packFolder folder out).run w).state.files = files.writeAt loc
        (.archive (gathered files (baseOf folder) [] (files.walk folder)).1) ∧
      ((packFolder folder out).run w).result = concluded ((packFolder folder out).run w).state.files
        folder out (gathered files (baseOf folder) [] (files.walk folder)) := by
  rcases ends_packFolder_cases (Action.ends_run (packFolder folder out) w) with
    ⟨e, hfailed, -⟩ | ⟨made, place, hmade, hstate, hresult⟩
  · cases h.symm.trans hfailed
  · cases h.symm.trans hmade
    exact ⟨by rw [hstate], hresult⟩

theorem run_of_create_error {e : FileError} (folder : Path) (h : w.files.create out = .error e) :
    ((packFolder folder out).run w).state = w ∧
      ((packFolder folder out).run w).result = .error (.file e) := by
  rcases ends_packFolder_cases (Action.ends_run (packFolder folder out) w) with
    ⟨e', hfailed, hresult, hstate⟩ | ⟨made, place, hmade, -⟩
  · cases h.symm.trans hfailed
    exact ⟨hstate, hresult⟩
  · cases h.symm.trans hmade

end runs

end Archive
end SparseTransfer
