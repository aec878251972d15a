import Mathlib
import SparseTransfer.Proofs.Archive.Gathering
import SparseTransfer.Proofs.Archive.Names

/- What an archive of a folder lists: the files of the folder in their order, with their names from
the folder on, their permissions and their content. -/
namespace SparseTransfer
open FileSystem

namespace Archive

/-- What an archive shows of an entry. -/
structure Listed where
  name : String
  mode : Nat
  content : Bytes
  deriving Repr, DecidableEq

/-- The entry that is made for a file of a folder. -/
def entryUnder (own names : Location) (data : FileData) : Entry :=
  ⟨joined (own ++ names), data.permissions &&& 0o777, data.content.bytes⟩

def Entry.listed (e : Entry) : Listed := ⟨e.name, e.mode, e.content⟩

/-- What the archive of a folder is to list, if the last component of its path is `n`. -/
def listing (fs : FileSystem) (folder : Path) (n : Bytes) : List Listed :=
  (fs.filesOf folder).map fun (names, data) =>
    ⟨String.intercalate "/" ((n :: names).map Utf8.shown),
      0o100000 ||| (data.permissions &&& 0o777), data.content.bytes⟩

/-- The entry that is made for a file. -/
def entryOf (n : Bytes) (names : Location) (data : FileData) : Entry :=
  ⟨String.intercalate "/" ((n :: names).map Utf8.shown), data.permissions &&& 0o777,
    data.content.bytes⟩

theorem listed_entryOf (n : Bytes) (names : Location) (data : FileData) :
    (entryOf n names data).listed =
      ⟨String.intercalate "/" ((n :: names).map Utf8.shown),
        0o100000 ||| (data.permissions &&& 0o777), data.content.bytes⟩ := by
  simp only [entryOf, Entry.listed, Entry.mode, Nat.and_assoc, Nat.and_self]

/-- Visits without a failure, and the entries for them. -/
inductive Packed (fs : FileSystem) (base : Path) : List (Except WalkError Visit) → List Entry → Prop
  | nil : Packed fs base [] []
  | skip {v : Visit} {visits : List (Except WalkError Visit)} {entries : List Entry}
      (hfile : fileFor fs v = .ok none) (hrest : Packed fs base visits entries) :
      Packed fs base (.ok v :: visits) entries
  | take {v : Visit} {data : FileData} {name : String} {visits : List (Except WalkError Visit)}
      {entries : List Entry} (hfile : fileFor fs v = .ok (some data))
      (hname : entryName base v.path = .ok name) (hrest : Packed fs base visits entries) :
      Packed fs base (.ok v :: visits)
        (⟨name, data.permissions &&& 0o777, data.content.bytes⟩ :: entries)

/-- What is gathered without a failure are the entries for the visits. -/
theorem packed_of_gathered {fs : FileSystem} {base : Path} {written entries : List Entry}
    {visits : List (Except WalkError Visit)}
    (h : gathered fs base written visits = (entries, none)) :
    ∃ more, entries = written ++ more ∧ Packed fs base visits more := by
  induction visits generalizing written with
  | nil =>
    cases h
    exact ⟨[], by rw [List.append_nil], .nil⟩
  | cons v rest ih =>
    rw [gathered] at h
    cases v with
    | error e => cases h
    | ok v =>
      rw [gathered?] at h
      cases hfile : fileFor fs v with
      | error e =>
        rw [hfile] at h
        cases h
      | ok found =>
        rw [hfile] at h
        cases found with
        | none =>
          obtain ⟨more, hmore, hpacked⟩ := ih h
          exact ⟨more, hmore, .skip hfile hpacked⟩
        | some data =>
          simp only at h
          cases hname : entryName base v.path with
          | error e =>
            rw [hname] at h
            cases h
          | ok name =>
            rw [hname] at h
            simp only at h
            by_cases htaken : written.any (·.name == name) = true
            · rw [if_pos htaken] at h
              cases h
            · rw [if_neg htaken] at h
              obtain ⟨more, hmore, hpacked⟩ := ih h
              rw [List.append_assoc, List.singleton_append] at hmore
              exact ⟨_, hmore, .take hfile hname hpacked⟩

/-- Packing changes only files. If it ends well, the archive holds an entry for every visit to a
file. -/
theorem ends_packFolder {w w' : World π} {folder out : Path}
    {r : Except TransferError ArchiveSummary} (h : (packFolder folder out).Ends w r w') :
    (∃ files, w' = { w with files }) ∧ ∀ summary, r = .ok summary →
      ∃ files loc entries, w.files.create out = .ok (files, loc) ∧
        Packed files (baseOf folder) (files.walk folder) entries ∧ entries ≠ [] ∧
        w'.files = files.writeAt loc (.archive entries) ∧ summary.path = out ∧
        summary.entries = entries.length ∧ sizeOf w'.files out = .ok summary.bytes := by
  obtain ⟨e, -, rfl, rfl⟩ | ⟨files, loc, hcreate, rfl, hr⟩ := ends_packFolder_cases h
  · exact ⟨⟨w'.files, rfl⟩, fun summary hsummary => by cases hsummary⟩
  · refine ⟨⟨_, rfl⟩, fun summary hsummary => ?_⟩
    rw [hsummary] at hr
    cases hgathered : gathered files (baseOf folder) [] (files.walk folder) with
    | mk entries failure =>
      rw [hgathered] at hr
      cases failure with
      | some e => cases hr
      | none =>
        obtain ⟨more, hmore, hpacked⟩ := packed_of_gathered hgathered
        rw [List.nil_append] at hmore
        subst hmore
        cases entries with
        | nil => cases hr
        | cons entry rest =>
          simp only [concluded] at hr
          split at hr
          · cases hr
          · next bytes hbytes =>
            cases hr
            exact ⟨files, loc, _, hcreate, hpacked, by simp, rfl, rfl, rfl, hbytes⟩

section packed
variable {fs : FileSystem} {folder : Path} {n : Bytes} {root : Location}

/-- For an item below the folder, what is looked for is the file for which it stands. -/
theorem fileFor_below (hroot : fs.stat true folder = .ok (root, .directory)) {names : Location}
    (hne : names ≠ []) {item : Item} (hitem : fs.at? (root ++ names) = some item)
    {file : Option FileData} (h : fileFor fs ⟨pathBelow folder names, item⟩ = .ok file) :
    file = fs.fileBehind (pathBelow folder names) item := by
  cases item with
  | file data =>
    simp only [fileFor] at h
    cases hstat : fs.stat false (pathBelow folder names) with
    | error e =>
      rw [hstat] at h
      cases h
    | ok found =>
      have husable := (lookup_eq_ok_iff.1 (stat_eq_ok_iff.1 hstat)).1
      rw [stat_pathBelow hroot hne hitem husable] at h
      cases h
      rfl
  | link target | directory | socket | device =>
    cases h
    rfl

/-- The entries for the items below a folder are those of the files for which the items stand. -/
theorem Packed.entries_below (hroot : fs.stat true folder = .ok (root, .directory))
    {items : List (Location × Item)} (hitems : ∀ e ∈ items, e ∈ fs.below root)
    {entries : List Entry} (h : Packed fs (baseOf folder)
      (items.flatMap fun (names, item) => visit (pathBelow folder names) item) entries) :
    entries = (items.filterMap fun e =>
      (fs.fileBehind (pathBelow folder e.1) e.2).map fun data => (e.1, data)).map
        fun f => entryUnder (ownName folder) f.1 f.2 := by
  have hfolder := (lookup_eq_ok_iff.1 (stat_eq_ok_iff.1 hroot)).1.ne_nil
  induction items generalizing entries with
  | nil =>
    cases h
    rfl
  | cons e rest ih =>
    obtain ⟨names, item⟩ := e
    obtain ⟨hne, hitem⟩ := mem_below.1 (hitems (names, item) (by simp))
    have hnames : ∀ m ∈ names, isName m = true := fun m hm =>
      isName_of_at? hitem (List.mem_append_right _ hm)
    have hrest : ∀ e ∈ rest, e ∈ fs.below root := fun e he => hitems e (List.mem_cons_of_mem _ he)
    rw [List.flatMap_cons] at h
    change Packed fs _ (visit (pathBelow folder names) item ++ _) entries at h
    rw [visit] at h
    split at h
    · cases h with
      | skip _ h => cases h
      | take _ _ h => cases h
    · cases h with
      | skip hfile h =>
        have hnone := fileFor_below hroot hne hitem hfile
        rw [List.filterMap_cons, ← hnone]
        exact ih hrest h
      | take hfile hname h =>
        have hsome := fileFor_below hroot hne hitem hfile
        rw [entryName_pathBelow hfolder hnames] at hname
        cases hname
        rw [List.filterMap_cons, ← hsome, ih hrest h]
        rfl

theorem Packed.entries_alone (hfolder : folder ≠ []) {item : Item} {file : Option FileData}
    (hfile : fileFor fs ⟨folder, item⟩ = .ok file) {entries : List Entry}
    (h : Packed fs (baseOf folder) [.ok ⟨folder, item⟩] entries) :
    entries = (file.map fun data => (([] : Location), data)).toList.map
      fun f => entryUnder (ownName folder) f.1 f.2 := by
  cases h with
  | skip hskip h =>
    cases hfile.symm.trans hskip
    cases h
    rfl
  | take htake hname h =>
    cases hfile.symm.trans htake
    cases h
    have hown : entryName (baseOf folder) folder = .ok (joined (ownName folder ++ [])) :=
      @entryName_pathBelow _ hfolder [] fun m hm => by cases hm
    cases hown.symm.trans hname
    rfl

/-- The entries for the walk through a folder are those of its files. -/
theorem Packed.entries_walk {entries : List Entry}
    (h : Packed fs (baseOf folder) (fs.walk folder) entries) :
    entries = (fs.filesOf folder).map fun f => entryUnder (ownName folder) f.1 f.2 := by
  cases hroot : fs.stat true folder with
  | error e =>
    obtain ⟨e', hwalk⟩ := walk_of_error hroot
    rw [hwalk] at h
    cases h
  | ok found =>
    obtain ⟨root, found⟩ := found
    by_cases hfound : found = .directory
    · subst hfound
      obtain ⟨item, hfile, hwalk⟩ := walk_directory hroot
      rw [hwalk] at h
      rw [filesOf_directory hroot]
      cases h with
      | skip _ h => exact h.entries_below hroot fun e he => he
      | take htake _ _ => cases hfile.symm.trans htake
    · obtain ⟨item, hfile, hwalk⟩ := walk_alone hroot hfound
      rw [hwalk] at h
      rw [filesOf_alone hroot hfound]
      exact h.entries_alone (lookup_eq_ok_iff.1 (stat_eq_ok_iff.1 hroot)).1.ne_nil hfile

end packed

/-- What a successful packing has written, where nothing was in the way of the archive. -/
theorem ends_packFolder_entries {w w' : World π} {folder out : Path} {summary : ArchiveSummary}
    (hapart : Apart w.files folder out) (h : (packFolder folder out).Ends w (.ok summary) w') :
    ∃ loc item entries, entries ≠ [] ∧
      entries = ((w.files.filesOf folder).map fun f => entryUnder (ownName folder) f.1 f.2) ∧
      summary.path = out ∧ summary.entries = entries.length ∧
      w'.files.stat true out = .ok (loc, item) ∧
      ((item = .device ∧ summary.bytes = 0) ∨ ∃ permissions,
        item = .file ⟨permissions, .archive entries⟩ ∧
          summary.bytes = (Content.archive entries).size) := by
  obtain ⟨files, loc, entries, hcreate, hpacked, hne, hfiles, hpath, hcount, hsize⟩ :=
    (ends_packFolder h).2 summary rfl
  have hentries := hpacked.entries_walk
  rw [(create_spec hcreate).1.filesOf (leadsTo_of_create hcreate) hapart] at hentries
  rw [sizeOf] at hsize
  cases hstat : w'.files.stat true out with
  | error e =>
    rw [hstat] at hsize
    cases hsize
  | ok found =>
    obtain ⟨place, item⟩ := found
    refine ⟨place, item, entries, hne, hentries, hpath, hcount, rfl, ?_⟩
    rw [hstat] at hsize
    rcases stat_written hcreate hfiles hstat with ⟨rfl, -⟩ | ⟨permissions, rfl⟩
    · injection hsize with hbytes
      exact Or.inl ⟨rfl, hbytes.symm⟩
    · injection hsize with hbytes
      exact Or.inr ⟨permissions, rfl, hbytes.symm⟩

/-- The entries are named after the last component of the folder's path. -/
theorem ends_packFolder_ok {w w' : World π} {folder out : Path} {n : Bytes}
    {summary : ArchiveSummary} (hn : (Path.components folder).getLast? = some (.name n))
    (hapart : Apart w.files folder out) (h : (packFolder folder out).Ends w (.ok summary) w') :
    ∃ loc item entries, entries ≠ [] ∧
      entries = ((w.files.filesOf folder).map fun f => entryOf n f.1 f.2) ∧
      summary.path = out ∧ summary.entries = entries.length ∧
      w'.files.stat true out = .ok (loc, item) ∧
      ((item = .device ∧ summary.bytes = 0) ∨ ∃ permissions,
        item = .file ⟨permissions, .archive entries⟩ ∧
          summary.bytes = (Content.archive entries).size) := by
  have hentries := ends_packFolder_entries hapart h
  rw [ownName_of_getLast? hn] at hentries
  exact hentries

/-- What is left at the path of an archive that has bytes is the archive. -/
theorem read_of_packed {w w' : World π} {folder out : Path} {n : Bytes} {summary : ArchiveSummary}
    (hn : (Path.components folder).getLast? = some (.name n)) (hapart : Apart w.files folder out)
    (hbytes : summary.bytes ≠ 0) (h : (packFolder folder out).Ends w (.ok summary) w') :
    ∃ entries, entries ≠ [] ∧
      entries = ((w.files.filesOf folder).map fun f => entryOf n f.1 f.2) ∧
      summary.path = out ∧ summary.entries = entries.length ∧
      w'.files.read out = .ok (.archive entries) ∧
      summary.bytes = (Content.archive entries).size := by
  obtain ⟨loc, item, entries, hne, hentries, hpath, hcount, hstat, hitem⟩ :=
    ends_packFolder_ok hn hapart h
  obtain ⟨permissions, rfl, hsize⟩ := hitem.resolve_left fun hdevice => hbytes hdevice.2
  refine ⟨entries, hne, hentries, hpath, hcount, ?_, hsize⟩
  rw [FileSystem.read, hstat]

theorem map_listed_entryOf (fs : FileSystem) (folder : Path) (n : Bytes) :
    ((fs.filesOf folder).map fun f => entryOf n f.1 f.2).map Entry.listed =
      listing fs folder n := by
  rw [List.map_map, listing]
  exact List.map_congr_left fun f _ => listed_entryOf n f.1 f.2

/-- A folder that can be packed is packed into an archive that lists its files: each of them once,
in the order of a walk through the folder that goes into nothing but directories. What was written
to a device cannot be read back, and only the count of the entries speaks of it. -/
theorem archived_listing {w : World π} {folder out : Path} {n : Bytes} {summary : ArchiveSummary}
    (hn : (Path.components folder).getLast? = some (.name n)) (hapart : Apart w.files folder out)
    (h : ((packFolder folder out).run w).result = .ok summary) :
    summary.path = out ∧ summary.entries = (listing w.files folder n).length ∧
      ∃ loc item, ((packFolder folder out).run w).state.files.stat true out = .ok (loc, item) ∧
        ((item = .device ∧ summary.bytes = 0) ∨ ∃ data entries, item = .file data ∧
          data.content = .archive entries ∧
          entries.map Entry.listed = listing w.files folder n ∧
          summary.bytes = data.content.size) := by
  obtain ⟨loc, item, entries, -, hentries, hpath, hcount, hstat, hitem⟩ :=
    ends_packFolder_ok hn hapart ⟨h, rfl⟩
  have hlisted : entries.map Entry.listed = listing w.files folder n := by
    rw [hentries]
    exact map_listed_entryOf w.files folder n
  refine ⟨hpath, ?_, loc, item, hstat, ?_⟩
  · rw [hcount, ← hlisted, List.length_map]
  · rcases hitem with hdevice | ⟨permissions, rfl, hbytes⟩
    · exact Or.inl hdevice
    · exact Or.inr ⟨_, entries, rfl, rfl, hlisted, hbytes⟩

/-- A folder `d` with a file `b`, a link `a` to it, a link `c` that leads nowhere, and a folder `e`
with a file `a`. -/
def nestedFolder : FileSystem where
  items := [([[100]], .directory), ([[100], [98]], .file ⟨0o4755, .plain [1, 2]⟩),
    ([[100], [97]], .link [98]), ([[100], [99]], .link [120]), ([[100], [101]], .directory),
    ([[100], [101], [97]], .file ⟨0o600, .plain [7]⟩)]
  cwd := []
  distinct := by decide
  inDirectory := by decide
  named := by decide

theorem apart_nestedFolder : Apart nestedFolder [47, 100] [47, 122] := by
  have hout : nestedFolder.leadsTo [47, 122] = some [[122]] := by decide
  have hroot : nestedFolder.stat true [47, 100] = .ok ([[100]], .directory) := by decide
  constructor
  · intro place root hplace hfolder
    cases hout.symm.trans hplace
    cases (leadsTo_of_stat hroot).symm.trans hfolder
    decide
  · intro place root names target hplace hfolder hlink
    cases hout.symm.trans hplace
    cases hroot.symm.trans hfolder
    have hmem := mem_of_at? (by simp) hlink
    have hnames : names = [[97]] ∧ target = [98] ∨ names = [[99]] ∧ target = [120] := by
      simpa [nestedFolder] using hmem
    rcases hnames with ⟨rfl, -⟩ | ⟨rfl, -⟩ <;> decide

theorem filesOf_nestedFolder : nestedFolder.filesOf [47, 100] =
    [([[97]], ⟨0o4755, .plain [1, 2]⟩), ([[98]], ⟨0o4755, .plain [1, 2]⟩),
      ([[101], [97]], ⟨0o600, .plain [7]⟩)] := by cbv

set_option maxRecDepth 100000 in
theorem archived_listing_nestedFolder :
    ((packFolder [47, 100] [47, 122]).run ⟨nestedFolder, 0, ()⟩).result = .ok ⟨[47, 122], 3, 292⟩ ∧
      listing nestedFolder [47, 100] [100] = [⟨"d/a", 0o100755, [1, 2]⟩,
        ⟨"d/b", 0o100755, [1, 2]⟩, ⟨"d/e/a", 0o100600, [7]⟩] ∧
      ∃ loc data entries,
        ((packFolder [47, 100] [47, 122]).run ⟨nestedFolder, 0, ()⟩).state.files.stat
          true [47, 122] = .ok (loc, .file data) ∧ data.content = .archive entries ∧
        entries.map Entry.listed = listing nestedFolder [47, 100] [100] ∧
        292 = data.content.size := by
  have hrun : ((packFolder [47, 100] [47, 122]).run ⟨nestedFolder, 0, ()⟩).result =
      .ok ⟨[47, 122], 3, 292⟩ := by cbv
  have hn : (Path.components [47, 100]).getLast? = some (.name [100]) := by decide
  obtain ⟨-, -, loc, item, hstat, hitem⟩ := archived_listing hn apart_nestedFolder hrun
  rcases hitem with ⟨-, hnothing⟩ | ⟨data, entries, rfl, hlisted⟩
  · cases hnothing
  · exact ⟨hrun, by cbv, loc, data, entries, hstat, hlisted⟩

end Archive
end SparseTransfer
