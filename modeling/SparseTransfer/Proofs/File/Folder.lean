import SparseTransfer.Proofs.File.DepthFirst
import SparseTransfer.Proofs.File.Writing

/- The files of a folder: the regular files below it and the regular files to which the links below
it lead, depth first. Writing somewhere else does not change them. -/
namespace SparseTransfer.FileSystem

/-- The file for which an item stands: a regular file for itself, and a link for the regular file to
which its path leads. -/
def fileBehind (fs : FileSystem) (path : Path) : Item → Option FileData
  | .file data => some data
  | .link _ =>
    match fs.stat true path with
    | .ok (_, .file data) => some data
    | _ => none
  | .directory | .socket | .device => none

/-- The files of the folder at a path, each with its names from the folder on. The path may be a
link to a folder, or lead to a file itself. -/
def filesOf (fs : FileSystem) (folder : Path) : List (Location × FileData) :=
  match fs.stat true folder with
  | .ok (root, .directory) =>
    (fs.depthFirst fs.height root).filterMap fun e =>
      (fs.fileBehind (pathBelow folder e.1) e.2).map fun data => (e.1, data)
  | .ok (_, .file data) => [([], data)]
  | _ => []

/-- Whether `out` leads to a place that is neither in the folder nor one to which a link in it
leads. -/
structure Apart (fs : FileSystem) (folder out : Path) : Prop where
  outside : ∀ {place root : Location}, fs.leadsTo out = some place →
    fs.leadsTo folder = some root → ¬ root <+: place
  unlinked : ∀ {place root names : Location} {target : Path}, fs.leadsTo out = some place →
    fs.stat true folder = .ok (root, .directory) → fs.at? (root ++ names) = some (.link target) →
    fs.leadsTo (pathBelow folder names) ≠ some place

/-- Where there are no links, all that is not in a folder is apart from it. -/
theorem apart_of_noLinks {fs : FileSystem} {folder out : Path} {place root : Location}
    (hlinks : ∀ {loc : Location} {target : Path}, (loc, Item.link target) ∉ fs.items)
    (hout : fs.leadsTo out = some place) (hfolder : fs.leadsTo folder = some root)
    (h : ¬ root <+: place) : Apart fs folder out := by
  constructor
  · intro place' root' hplace hroot
    cases hout.symm.trans hplace
    cases hfolder.symm.trans hroot
    exact h
  · intro place' root' names target _ _ hlink
    have hne : root' ++ names ≠ [] := by
      intro hnil
      rw [hnil, at?_root] at hlink
      cases hlink
    exact absurd (mem_of_at? hne hlink) hlinks

theorem fileBehind_link {fs : FileSystem} {path target : Path} {data : FileData} :
    fs.fileBehind path (.link target) = some data ↔
      ∃ loc, fs.stat true path = .ok (loc, .file data) := by
  rw [fileBehind]
  constructor
  · intro h
    split at h
    · next loc found hstat =>
      cases h
      exact ⟨loc, hstat⟩
    · cases h
  · rintro ⟨loc, hstat⟩
    rw [hstat]

theorem below_congr {fs fs' : FileSystem} {root root' : Location}
    (h : ∀ names, names ≠ [] → fs'.at? (root' ++ names) = fs.at? (root ++ names)) :
    fs'.below root' = fs.below root := by
  apply eq_of_pairwise (fs'.pairwise_below root') (fs.pairwise_below root)
  rintro ⟨names, item⟩
  rw [mem_below, mem_below]
  exact and_congr_right fun hne => by rw [h names hne]

section files
variable {fs : FileSystem} {folder : Path} {root names : Location} {data : FileData}

theorem filesOf_directory (hroot : fs.stat true folder = .ok (root, .directory)) :
    fs.filesOf folder = (fs.below root).filterMap fun e =>
      (fs.fileBehind (pathBelow folder e.1) e.2).map fun data => (e.1, data) := by
  rw [filesOf, hroot, below_eq_depthFirst]

theorem filesOf_alone {found : Item} (hroot : fs.stat true folder = .ok (root, found))
    (hfound : found ≠ .directory) : fs.filesOf folder =
      ((fs.fileBehind folder found).map fun data => (([] : Location), data)).toList := by
  rw [filesOf, hroot]
  cases found with
  | directory => exact absurd rfl hfound
  | link target => exact absurd hroot stat_ne_link
  | file data | socket | device => rfl

theorem mem_filesOf (hroot : fs.stat true folder = .ok (root, .directory)) :
    (names, data) ∈ fs.filesOf folder ↔ names ≠ [] ∧ ∃ item, fs.at? (root ++ names) = some item ∧
      fs.fileBehind (pathBelow folder names) item = some data := by
  rw [filesOf_directory hroot, List.mem_filterMap]
  constructor
  · rintro ⟨⟨below, item⟩, hmem, hfile⟩
    obtain ⟨hne, hitem⟩ := mem_below.1 hmem
    obtain ⟨found, hfound, heq⟩ := Option.map_eq_some_iff.1 hfile
    cases heq
    exact ⟨hne, item, hitem, hfound⟩
  · rintro ⟨hne, item, hitem, hfile⟩
    exact ⟨(names, item), mem_below.2 ⟨hne, hitem⟩, by rw [hfile]; rfl⟩

/-- A path that leads to no directory has one file at the most, itself. -/
theorem filesOf_cases (fs : FileSystem) (folder : Path) :
    (∃ root, fs.stat true folder = .ok (root, .directory)) ∨
      fs.filesOf folder = [] ∨ ∃ data, fs.filesOf folder = [([], data)] := by
  rw [filesOf]
  split
  · next root hroot => exact Or.inl ⟨root, hroot⟩
  · exact Or.inr (Or.inr ⟨_, rfl⟩)
  · exact Or.inr (Or.inl rfl)

theorem exists_stat_of_filesOf (h : fs.filesOf folder ≠ []) :
    ∃ loc item, fs.stat true folder = .ok (loc, item) := by
  cases hfound : fs.stat true folder with
  | error e =>
    rw [filesOf, hfound] at h
    exact absurd rfl h
  | ok found => exact ⟨found.1, found.2, rfl⟩

theorem isName_of_mem_filesOf {f : Location × FileData} (h : f ∈ fs.filesOf folder) :
    ∀ n ∈ f.1, isName n = true := by
  rcases filesOf_cases fs folder with ⟨root, hroot⟩ | hnil | ⟨data, hone⟩
  · obtain ⟨-, item, hitem, -⟩ := (mem_filesOf hroot).1 h
    exact fun n hn => isName_of_at? hitem (List.mem_append_right _ hn)
  · rw [hnil] at h
    cases h
  · rw [hone] at h
    cases List.mem_singleton.1 h
    intro n hn
    cases hn

/-- The files of a folder are in the order of their names, from the first on. -/
theorem pairwise_filesOf (fs : FileSystem) (folder : Path) :
    (fs.filesOf folder).Pairwise fun a b => a.1 < b.1 := by
  rcases filesOf_cases fs folder with ⟨root, hroot⟩ | hnil | ⟨data, hone⟩
  · rw [filesOf_directory hroot]
    refine List.pairwise_filterMap.2 ((fs.pairwise_below root).imp ?_)
    intro a b hab f hf g hg
    obtain ⟨_, _, rfl⟩ := Option.map_eq_some_iff.1 hf
    obtain ⟨_, _, rfl⟩ := Option.map_eq_some_iff.1 hg
    exact hab
  · rw [hnil]
    exact .nil
  · rw [hone]
    exact List.pairwise_singleton _ _

end files

section differ
variable {fs fs' : FileSystem} {folder : Path} {place : Location}

theorem DifferAt.fileBehind {path : Path} (h : DifferAt place fs fs') (item : Item)
    (hpath : ∀ target, item = .link target → fs.leadsTo path ≠ some place) :
    fs'.fileBehind path item = fs.fileBehind path item := by
  cases item with
  | link target =>
    apply Option.ext
    intro data
    rw [fileBehind_link, fileBehind_link]
    exact exists_congr fun loc => h.stat_iff (hpath target rfl)
  | file data | directory | socket | device => rfl

/-- What has changed apart from a folder has not changed its files. -/
theorem DifferAt.filesOf {out : Path} (h : DifferAt place fs fs')
    (hout : fs.leadsTo out = some place) (hapart : Apart fs folder out) :
    fs'.filesOf folder = fs.filesOf folder := by
  have hfolder : fs.leadsTo folder ≠ some place := fun hroot =>
    hapart.outside hout hroot List.prefix_rfl
  have hstat {loc : Location} {item : Item} : fs'.stat true folder = .ok (loc, item) ↔
      fs.stat true folder = .ok (loc, item) := h.stat_iff hfolder
  cases hfound : fs.stat true folder with
  | error e =>
    have hnone : ∀ loc item, fs'.stat true folder ≠ .ok (loc, item) := by
      intro loc item hfound'
      rw [hstat, hfound] at hfound'
      cases hfound'
    rw [FileSystem.filesOf, FileSystem.filesOf, hfound]
    split
    · next hfound' => exact absurd hfound' (hnone _ _)
    · next hfound' => exact absurd hfound' (hnone _ _)
    · rfl
  | ok found =>
    obtain ⟨root, item⟩ := found
    rw [FileSystem.filesOf, FileSystem.filesOf, hfound, hstat.2 hfound]
    cases item with
    | directory =>
      have houtside := hapart.outside hout (leadsTo_of_stat hfound)
      have hbelow : fs'.below root = fs.below root := below_congr fun names _ => by
        apply h.same
        rintro rfl
        exact houtside (List.prefix_append _ _)
      simp only [← below_eq_depthFirst, hbelow]
      apply List.filterMap_congr
      rintro ⟨names, item⟩ hmem
      obtain ⟨-, hitem⟩ := mem_below.1 hmem
      rw [h.fileBehind item]
      rintro target rfl
      exact hapart.unlinked hout hfound hitem
    | file data | link target | socket | device => rfl

end differ
end SparseTransfer.FileSystem
