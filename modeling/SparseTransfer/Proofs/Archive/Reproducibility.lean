import SparseTransfer.Proofs.Archive.Listing
import SparseTransfer.Proofs.File.Congruence

/- Packing is reproducible: what it comes to depends on the folder and on nothing else. The order in
which directories are listed does not matter, nor what was in the file of the archive before. -/
namespace SparseTransfer
open FileSystem

namespace Archive

/-- At a path there is a file, or one can be made there. -/
def HoldsFile (fs : FileSystem) (out : Path) : Prop :=
  ∃ files loc data, fs.create out = .ok (files, loc) ∧ files.at? loc = some (.file data)

/-- Two file systems in which a folder is the same, and which differ in the file at the path of its
archive: whatever else differs, if the folder and such a file are there, and else if nothing else
differs. -/
inductive Alike (fs fs' : FileSystem) (folder out : Path) : Prop
  | folder (h : SameFolder fs fs' folder) (hout : HoldsFile fs out) (hout' : HoldsFile fs' out)
  | everywhere (h : SameBut fs fs' out)

section findings
variable {fs fs' : FileSystem} {base : Path}

/-- What is found on one visit: nothing, or a file at a path. -/
def finding (fs : FileSystem) : Except WalkError Visit → Except WalkError (Option (Path × FileData))
  | .error e => .error e
  | .ok v =>
    match fileFor fs v with
    | .error e => .error ⟨v.path, e⟩
    | .ok file => .ok (file.map fun data => (v.path, data))

/-- The entry for what was found on a visit. -/
def entryFound (base : Path) (written : List Entry) :
    Except WalkError (Option (Path × FileData)) → Except TransferError (Option Entry)
  | .error e => .error (.walk e)
  | .ok none => .ok none
  | .ok (some (path, data)) =>
    match entryName base path with
    | .error e => .error e
    | .ok name =>
      if written.any (·.name == name) then .error (.archive (.duplicateName name))
      else .ok (some ⟨name, data.permissions &&& 0o777, data.content.bytes⟩)

theorem gathered?_eq (written : List Entry) (v : Except WalkError Visit) :
    gathered? fs base written v = entryFound base written (finding fs v) := by
  cases v with
  | error e => rfl
  | ok v =>
    rw [gathered?, finding]
    cases fileFor fs v with
    | error e => rfl
    | ok file =>
      cases file with
      | none => rfl
      | some data => rfl

/-- Entries are gathered alike where the same is found. -/
theorem gathered_congr {visits visits' : List (Except WalkError Visit)} {written : List Entry}
    (h : visits.map (finding fs) = visits'.map (finding fs')) :
    gathered fs base written visits = gathered fs' base written visits' := by
  induction visits generalizing visits' written with
  | nil =>
    rw [List.map_nil, eq_comm, List.map_eq_nil_iff] at h
    subst h
    rfl
  | cons v rest ih =>
    obtain ⟨v', rest', rfl, hv, hrest⟩ := List.map_eq_cons_iff.1 h.symm
    rw [gathered, gathered, gathered?_eq, gathered?_eq, hv]
    split
    · rfl
    · exact ih hrest.symm
    · exact ih hrest.symm

end findings

section walk
variable {fs fs' : FileSystem} {folder : Path} {root root' : Location}

theorem findings_directory (hroot : fs.stat true folder = .ok (root, .directory)) :
    (fs.walk folder).map (finding fs) =
      .ok none :: (fs.visitsBelow folder root).map (finding fs) := by
  obtain ⟨item, hfile, hwalk⟩ := walk_directory hroot
  rw [hwalk, List.map_cons, finding, hfile]
  rfl

theorem findings_alone {item : Item} (hroot : fs.stat true folder = .ok (root, item))
    (hitem : item ≠ .directory) : (fs.walk folder).map (finding fs) =
      [.ok ((fs.fileBehind folder item).map fun data => (folder, data))] := by
  obtain ⟨own, hfile, hwalk⟩ := walk_alone hroot hitem
  rw [hwalk, List.map_cons, finding, hfile]
  rfl

/-- The same is found on a visit to the same below a folder. -/
theorem finding_below (h : SameFolder fs fs' folder)
    (hroot : fs.stat true folder = .ok (root, .directory))
    (hroot' : fs'.stat true folder = .ok (root', .directory)) {names : Location} {item : Item}
    (hne : names ≠ []) (hitem : fs.at? (root ++ names) = some item) :
    finding fs' (.ok ⟨pathBelow folder names, item⟩) =
      finding fs (.ok ⟨pathBelow folder names, item⟩) := by
  rw [finding, finding]
  cases item with
  | directory | socket | device => rfl
  | link target => simp only [fileFor, h.linked hroot hne hitem]
  | file data =>
    by_cases hp : IsUsable (pathBelow folder names)
    · have hitem' := (h.below hroot hroot' hne).trans hitem
      simp only [fileFor, stat_pathBelow hroot hne hitem hp, stat_pathBelow hroot' hne hitem' hp]
    · simp only [fileFor, FileSystem.stat, lookup_of_not_isUsable fs fs' hp]

theorem findings_below (h : SameFolder fs fs' folder)
    (hroot : fs.stat true folder = .ok (root, .directory))
    (hroot' : fs'.stat true folder = .ok (root', .directory)) :
    (fs'.visitsBelow folder root').map (finding fs') =
      (fs.visitsBelow folder root).map (finding fs) := by
  have hbelow : fs'.below root' = fs.below root := below_congr fun names hne =>
    h.below hroot hroot' hne
  rw [visitsBelow, visitsBelow, hbelow, List.map_flatMap, List.map_flatMap]
  apply List.flatMap_congr
  rintro ⟨names, item⟩ he
  obtain ⟨hne, hitem⟩ := mem_below.1 he
  have hfinding := finding_below h hroot hroot' hne hitem
  simp only [visit]
  split
  · rw [List.map_cons, List.map_cons, hfinding]
    rfl
  · rw [List.map_cons, List.map_cons, hfinding]
    rfl

/-- The same is found on walks through a folder that is the same. -/
theorem findings_walk (h : SameFolder fs fs' folder) :
    (fs'.walk folder).map (finding fs') = (fs.walk folder).map (finding fs) := by
  obtain ⟨root, root', item, hroot, hroot'⟩ := h.found
  by_cases hitem : item = .directory
  · subst hitem
    rw [findings_directory hroot, findings_directory hroot', findings_below h hroot hroot']
  · rw [findings_alone hroot hitem, findings_alone hroot' hitem]
    cases item with
    | link target => exact absurd hroot stat_ne_link
    | directory | file data | socket | device => rfl

/-- Where nothing is found at a path, a file in which two file systems differ is not found
either. -/
theorem walk_of_notFound {loc : Location} (h : SameButFile loc fs fs') {e : FileError}
    (hroot : fs.stat true folder = .error e) :
    ∃ e, fs.walk folder = [.error ⟨folder, e⟩] ∧ fs'.walk folder = [.error ⟨folder, e⟩] := by
  have hroot' : fs'.stat true folder = .error e := by
    rcases h.stat true folder with heq | ⟨data, data', -, -, hstat, -⟩
    · exact heq.trans hroot
    · cases hroot.symm.trans hstat
  have hsame : fs'.stat false folder = fs.stat false folder := by
    rcases h.stat false folder with heq | ⟨data, data', -, -, hstat, -⟩
    · exact heq
    · cases hroot.symm.trans (stat_followed hstat (by simp))
  rw [FileSystem.walk, FileSystem.walk, hsame, hroot, hroot']
  cases hstat : fs.stat false folder with
  | error e' => exact ⟨e', rfl, rfl⟩
  | ok found =>
    obtain ⟨place, item⟩ := found
    cases item with
    | link target => exact ⟨e, rfl, rfl⟩
    | directory | file data | socket | device =>
      cases hroot.symm.trans (stat_followed hstat (by simp))

end walk

section content
variable {out : Path} {fs fs' files files' : FileSystem} {loc loc' : Location}

/-- A path leads to the same in two file systems, or to files with the same content. -/
inductive SameContent (fs fs' : FileSystem) (p : Path) : Prop
  | same (h : fs'.stat true p = fs.stat true p)
  | files {loc loc' : Location} {permissions permissions' : Nat} {content : Content}
      (h : fs.stat true p = .ok (loc, .file ⟨permissions, content⟩))
      (h' : fs'.stat true p = .ok (loc', .file ⟨permissions', content⟩))

theorem SameContent.read {p : Path} (h : SameContent fs fs' p) : fs'.read p = fs.read p := by
  cases h with
  | same h => rw [FileSystem.read, FileSystem.read, h]
  | files h h' => rw [FileSystem.read, FileSystem.read, h, h']

theorem SameContent.sizeOf {p : Path} (h : SameContent fs fs' p) :
    Archive.sizeOf fs' p = Archive.sizeOf fs p := by
  cases h with
  | same h => rw [Archive.sizeOf, Archive.sizeOf, h]
  | files h h' => rw [Archive.sizeOf, Archive.sizeOf, h, h']

theorem concluded_congr (folder : Path) (h : SameContent fs fs' out)
    (found : List Entry × Option TransferError) :
    concluded fs' folder out found = concluded fs folder out found := by
  obtain ⟨entries, failure⟩ := found
  cases failure with
  | some e => rfl
  | none =>
    cases entries with
    | nil => rfl
    | cons entry more => rw [concluded, concluded, h.sizeOf]

theorem content_of_writeAt {content : Content} {data : FileData}
    (h : (fs.writeAt loc content).at? loc = some (.file data)) : data.content = content := by
  rw [writeAt, at?_changeFile_self, Option.map_eq_some_iff] at h
  obtain ⟨old, -, hold⟩ := h
  cases old with
  | file before =>
    cases hold
    rfl
  | directory | link target | socket | device => cases hold

theorem sameContent_of_sameButFile (h : SameButFile loc files files') (content : Content)
    (p : Path) :
    SameContent (files.writeAt loc content) (files'.writeAt loc content) p := by
  rcases (h.writeAt content).stat true p with heq | ⟨data, data', hdata, hdata', hstat, hstat'⟩
  · exact .same heq
  · obtain rfl := content_of_writeAt hdata
    obtain ⟨permissions, content⟩ := data
    obtain ⟨permissions', content'⟩ := data'
    obtain rfl : content' = content := content_of_writeAt hdata'
    exact .files hstat hstat'

theorem stat_of_holdsFile {data : FileData} (h : fs.create out = .ok (files, loc))
    (hdata : files.at? loc = some (.file data)) (content : Content) :
    ∃ permissions, (files.writeAt loc content).stat true out =
      .ok (loc, .file ⟨permissions, content⟩) := by
  obtain ⟨item, hstat⟩ := stat_writeAt h hdata content
  rcases stat_written h rfl hstat with ⟨rfl, -⟩ | ⟨permissions, rfl⟩
  · have hdevice := lookup_at? (stat_eq_ok_iff.1 hstat) (by simp [Place.item?])
    cases hdevice.symm.trans (at?_changeFile files hdata _)
  · exact ⟨permissions, hstat⟩

end content

section order
variable {fs : FileSystem} {folder : Path}

/-- The components of a path, as bytes. -/
def partsOf (p : Path) : List Bytes := (Path.components p).map Path.Component.bytes

theorem partsOf_pathBelow {names : Location} (hfolder : folder ≠ [])
    (h : ∀ n ∈ names, isName n = true) :
    partsOf (pathBelow folder names) = partsOf folder ++ names := by
  rw [partsOf, components_pathBelow hfolder h, List.map_append, List.map_map]
  exact congrArg _ (List.map_id names)

/-- The paths of the files of a folder are in the order of their components. -/
theorem pairwise_partsOf (fs : FileSystem) (folder : Path) : (fs.filesOf folder).Pairwise
    fun f g => partsOf (pathBelow folder f.1) < partsOf (pathBelow folder g.1) := by
  refine (fs.pairwise_filesOf folder).imp_of_mem fun {f g} hf hg hlt => ?_
  obtain ⟨root, item, hroot⟩ := exists_stat_of_filesOf (List.ne_nil_of_mem hf)
  have hfolder := (lookup_eq_ok_iff.1 (stat_eq_ok_iff.1 hroot)).1.ne_nil
  rw [partsOf_pathBelow hfolder (isName_of_mem_filesOf hf),
    partsOf_pathBelow hfolder (isName_of_mem_filesOf hg)]
  exact List.append_left_lt hlt

end order

section reproducible
variable {w w' : World π} {folder out : Path} {files files' : FileSystem} {loc loc' : Location}

/-- Runs come to the same if the same is gathered, and the same is at the path of the archive when
it has been written. -/
theorem runs_alike (h : w.files.create out = .ok (files, loc))
    (h' : w'.files.create out = .ok (files', loc'))
    (hgathered : gathered files' (baseOf folder) [] (files'.walk folder) =
      gathered files (baseOf folder) [] (files.walk folder))
    (hcontent : ∀ content,
      SameContent (files.writeAt loc content) (files'.writeAt loc' content) out) :
    ((packFolder folder out).run w').result = ((packFolder folder out).run w).result ∧
      ((packFolder folder out).run w').state.files.read out =
        ((packFolder folder out).run w).state.files.read out := by
  obtain ⟨hstate, hresult⟩ := run_of_create folder h
  obtain ⟨hstate', hresult'⟩ := run_of_create folder h'
  have hsame := hcontent (.archive (gathered files (baseOf folder) [] (files.walk folder)).1)
  rw [hgathered] at hstate' hresult'
  rw [← hstate, ← hstate'] at hsame
  exact ⟨by rw [hresult, hresult', concluded_congr folder hsame], hsame.read⟩

theorem gathered_of_sameFolder (hapart : Apart w.files folder out)
    (hapart' : Apart w'.files folder out) (hfolder : SameFolder w.files w'.files folder)
    (h : w.files.create out = .ok (files, loc)) (h' : w'.files.create out = .ok (files', loc')) :
    gathered files' (baseOf folder) [] (files'.walk folder) =
      gathered files (baseOf folder) [] (files.walk folder) := by
  obtain ⟨root, root', item, hroot, hroot'⟩ := hfolder.found
  have hkept := (create_spec h).1.sameFolder (leadsTo_of_create h) hapart hroot
  have hkept' := (create_spec h').1.sameFolder (leadsTo_of_create h') hapart' hroot'
  exact gathered_congr (findings_walk (hkept.symm.trans (hfolder.trans hkept')))

theorem alike_of_sameBut (hapart : Apart w.files folder out) (hapart' : Apart w'.files folder out)
    (h : SameBut w.files w'.files out) :
    ((packFolder folder out).run w').result = ((packFolder folder out).run w).result ∧
      ((packFolder folder out).run w').state.files.read out =
        ((packFolder folder out).run w).state.files.read out := by
  rcases h.create with ⟨e, he, he', hstat⟩ | ⟨files, files', loc, hmade, hmade', hfiles⟩
  · obtain ⟨hstate, hresult⟩ := run_of_create_error folder he
    obtain ⟨hstate', hresult'⟩ := run_of_create_error folder he'
    have hsame : SameContent w.files w'.files out := .same hstat
    rw [hstate, hstate', hresult, hresult']
    exact ⟨rfl, hsame.read⟩
  · refine runs_alike hmade hmade' ?_ fun content => sameContent_of_sameButFile hfiles content out
    cases hfound : files.stat true folder with
    | ok found =>
      have hroot := ((create_spec hmade).1.stat_iff fun hthere =>
        hapart.outside (leadsTo_of_create hmade) hthere List.prefix_rfl).1 hfound
      exact gathered_of_sameFolder hapart hapart' (h.sameFolder hapart hroot) hmade hmade'
    | error e =>
      obtain ⟨e', hwalk, hwalk'⟩ := walk_of_notFound hfiles hfound
      rw [hwalk, hwalk']
      rfl

/-- Packing a folder that is the same comes to the same and leaves the same archive, whatever the
order in which its directories are listed and whatever was in the file of the archive before. The
archive has the files in the order of the components of their paths. Of a device nothing can be read
back. -/
theorem packs_reproducibly (hapart : Apart w.files folder out) (hapart' : Apart w'.files folder out)
    (h : Alike w.files w'.files folder out) :
    ((packFolder folder out).run w').result = ((packFolder folder out).run w).result ∧
    ((packFolder folder out).run w').state.files.read out =
      ((packFolder folder out).run w).state.files.read out ∧
    ∀ summary, ((packFolder folder out).run w).result = .ok summary →
      ∃ loc item, ((packFolder folder out).run w).state.files.stat true out = .ok (loc, item) ∧
        (item = .device ∨ ∃ permissions entries, item = .file ⟨permissions, .archive entries⟩ ∧
          entries = ((w.files.filesOf folder).map fun f => entryUnder (ownName folder) f.1 f.2) ∧
          (w.files.filesOf folder).Pairwise fun f g =>
            partsOf (pathBelow folder f.1) < partsOf (pathBelow folder g.1)) := by
  have halike : ((packFolder folder out).run w').result = ((packFolder folder out).run w).result ∧
      ((packFolder folder out).run w').state.files.read out =
        ((packFolder folder out).run w).state.files.read out := by
    cases h with
    | everywhere h => exact alike_of_sameBut hapart hapart' h
    | folder hfolder hout hout' =>
      obtain ⟨files, loc, data, hmade, hdata⟩ := hout
      obtain ⟨files', loc', data', hmade', hdata'⟩ := hout'
      refine runs_alike hmade hmade' (gathered_of_sameFolder hapart hapart' hfolder hmade hmade')
        fun content => ?_
      obtain ⟨permissions, hstat⟩ := stat_of_holdsFile hmade hdata content
      obtain ⟨permissions', hstat'⟩ := stat_of_holdsFile hmade' hdata' content
      exact .files hstat hstat'
  refine ⟨halike.1, halike.2, fun summary hok => ?_⟩
  obtain ⟨loc, item, entries, -, hentries, -, -, hstat, hitem⟩ :=
    ends_packFolder_entries hapart ⟨hok, rfl⟩
  refine ⟨loc, item, hstat, hitem.imp And.left ?_⟩
  rintro ⟨permissions, rfl, -⟩
  exact ⟨permissions, entries, rfl, hentries, pairwise_partsOf w.files folder⟩

end reproducible

/-- A folder `d` with a file `a.b` and a folder `a`, in which there is a file `b`. -/
def listedFolder : FileSystem where
  items := [([[100]], .directory), ([[100], [97, 46, 98]], .file ⟨0o600, .plain [2]⟩),
    ([[100], [97]], .directory), ([[100], [97], [98]], .file ⟨0o644, .plain [1]⟩)]
  cwd := []
  distinct := by decide
  inDirectory := by decide
  named := by decide

/-- The same folder in another order, with a file where the archive is to be. -/
def relistedFolder : FileSystem where
  items := [([[122]], .file ⟨0o600, .plain [3]⟩), ([[100], [97], [98]], .file ⟨0o644, .plain [1]⟩),
    ([[100], [97]], .directory), ([[100], [97, 46, 98]], .file ⟨0o600, .plain [2]⟩),
    ([[100]], .directory)]
  cwd := []
  distinct := by decide
  inDirectory := by decide
  named := by decide

theorem alike_relistedFolder : Alike listedFolder relistedFolder [47, 100] [47, 122] := by
  refine .everywhere ⟨rfl, by decide, fun o => ?_⟩
  by_cases hout : o = [[122]]
  · subst hout
    exact Or.inr ⟨by decide, by decide, by decide⟩
  · left
    by_cases hroot : o = []
    · subst hroot
      rfl
    · apply Option.ext
      intro item
      rw [at?_eq_some_iff hroot, at?_eq_some_iff hroot]
      simp only [listedFolder, relistedFolder, List.mem_cons, Prod.mk.injEq, hout, false_and,
        false_or, List.not_mem_nil, or_false]
      tauto

set_option maxRecDepth 100000 in
/-- What is in `a` comes before `a.b`, though its name as a whole would come after it. -/
theorem packs_reproducibly_relistedFolder :
    (Apart listedFolder [47, 100] [47, 122] ∧ Apart relistedFolder [47, 100] [47, 122] ∧
      Alike listedFolder relistedFolder [47, 100] [47, 122]) ∧
    ((packFolder [47, 100] [47, 122]).run ⟨listedFolder, 0, ()⟩).state.files.read [47, 122] =
      .ok (.archive [⟨"d/a/b", 0o644, [1]⟩, ⟨"d/a.b", 0o600, [2]⟩]) ∧
    ((packFolder [47, 100] [47, 122]).run ⟨relistedFolder, 0, ()⟩).result =
      ((packFolder [47, 100] [47, 122]).run ⟨listedFolder, 0, ()⟩).result ∧
    ((packFolder [47, 100] [47, 122]).run ⟨relistedFolder, 0, ()⟩).state.files.read [47, 122] =
      ((packFolder [47, 100] [47, 122]).run ⟨listedFolder, 0, ()⟩).state.files.read [47, 122] := by
  have hapart : Apart listedFolder [47, 100] [47, 122] := by
    have hout : listedFolder.leadsTo [47, 122] = some [[122]] := by decide
    have hfolder : listedFolder.leadsTo [47, 100] = some [[100]] := by decide
    exact apart_of_noLinks (by simp [listedFolder]) hout hfolder (by decide)
  have hapart' : Apart relistedFolder [47, 100] [47, 122] := by
    have hout : relistedFolder.leadsTo [47, 122] = some [[122]] := by decide
    have hfolder : relistedFolder.leadsTo [47, 100] = some [[100]] := by decide
    exact apart_of_noLinks (by simp [relistedFolder]) hout hfolder (by decide)
  have hsame := @packs_reproducibly _ ⟨listedFolder, 0, ()⟩ ⟨relistedFolder, 0, ()⟩ _ _ hapart
    hapart' alike_relistedFolder
  exact ⟨⟨hapart, hapart', alike_relistedFolder⟩, by cbv, hsame.1, hsame.2.1⟩

end Archive
end SparseTransfer
