import SparseTransfer.Proofs.File.Lookup

/- Writing a file changes what stands at one place. Paths that lead elsewhere lead where they led,
and no path leads there that did not lead there before. -/
namespace SparseTransfer

/-- What can be written to. -/
def Item.isOutput : Item → Bool
  | .file _ | .device => true
  | .directory | .link _ | .socket => false

theorem Item.isLeaf_of_isOutput {item : Item} (h : item.isOutput = true) : item.isLeaf = true := by
  cases item with
  | directory | link target | socket => cases h
  | file data | device => rfl

namespace FileSystem

/-- The place to which a path leads, also if nothing stands there yet. -/
def leadsTo (fs : FileSystem) (p : Path) : Option Location :=
  match fs.lookup true p with
  | .ok q => some q.loc
  | .error _ => none

theorem leadsTo_of_lookup {fs : FileSystem} {p : Path} {q : Place} (h : fs.lookup true p = .ok q) :
    fs.leadsTo p = some q.loc := by
  rw [leadsTo, h]

theorem leadsTo_of_stat {fs : FileSystem} {p : Path} {loc : Location} {item : Item}
    (h : fs.stat true p = .ok (loc, item)) : fs.leadsTo p = some loc :=
  leadsTo_of_lookup (stat_eq_ok_iff.1 h)

theorem exists_lookup_of_leadsTo {fs : FileSystem} {p : Path} {loc : Location}
    (h : fs.leadsTo p = some loc) : ∃ q, fs.lookup true p = .ok q ∧ q.loc = loc := by
  rw [leadsTo] at h
  split at h
  · next q hq =>
    cases h
    exact ⟨q, hq, rfl⟩
  · cases h

/-- Two file systems that differ at most in the leaf that stands at one place. -/
structure DifferAt (loc : Location) (fs fs' : FileSystem) : Prop where
  cwd : fs'.cwd = fs.cwd
  same : ∀ {o : Location}, o ≠ loc → fs'.at? o = fs.at? o
  leaf : ∀ {item : Item}, fs.at? loc = some item → item.isLeaf = true
  leaf' : ∀ {item : Item}, fs'.at? loc = some item → item.isLeaf = true

namespace DifferAt
variable {loc : Location} {fs fs' fs'' : FileSystem}

theorem symm (h : DifferAt loc fs fs') : DifferAt loc fs' fs :=
  ⟨h.cwd.symm, fun ho => (h.same ho).symm, h.leaf', h.leaf⟩

theorem trans (h : DifferAt loc fs fs') (h' : DifferAt loc fs' fs'') : DifferAt loc fs fs'' :=
  ⟨h'.cwd.trans h.cwd, fun ho => (h'.same ho).trans (h.same ho), h.leaf, h'.leaf'⟩

theorem aside (h : DifferAt loc fs fs') : Aside (· = loc) fs fs' := by
  refine ⟨fun ho => h.same ho, ?_⟩
  rintro o item rfl hitem
  exact h.leaf hitem

theorem agreeOutside (h : DifferAt loc fs fs') : AgreeOutside loc fs fs' := by
  refine ⟨h.cwd, fun {o} ho => h.same ?_⟩
  rintro rfl
  exact ho List.prefix_rfl

/-- What a path that leads elsewhere leads to is the same in both. -/
theorem stat_iff {p : Path} {place : Location} {item : Item} (h : DifferAt loc fs fs')
    (hp : fs.leadsTo p ≠ some loc) :
    fs'.stat true p = .ok (place, item) ↔ fs.stat true p = .ok (place, item) := by
  constructor
  · intro hstat
    rw [stat_eq_ok_iff] at hstat ⊢
    refine lookup_elsewhere h.symm.aside h.symm.cwd hstat ?_
    rintro rfl
    obtain ⟨q, hq, hloc, -⟩ := lookup_there h.symm.aside h.symm.cwd (fun _ => h.leaf) hstat rfl
    exact hp (by rw [leadsTo_of_lookup hq, hloc])
  · intro hstat
    have hplace := leadsTo_of_stat hstat
    rw [stat_eq_ok_iff] at hstat ⊢
    refine lookup_elsewhere h.aside h.cwd hstat ?_
    rintro rfl
    exact hp hplace

end DifferAt

/-- Changing a file leaves everything else that may stand at the place. -/
theorem at?_changeFile_self (fs : FileSystem) (loc : Location) (change : FileData → FileData) :
    (fs.changeFile loc change).at? loc =
      (fs.at? loc).map fun | .file data => .file (change data) | item => item := by
  by_cases hroot : loc = []
  · subst hroot
    simp
  · apply Option.ext
    intro item
    rw [at?_eq_some_iff hroot, Option.map_eq_some_iff]
    constructor
    · intro hmem
      obtain ⟨⟨place, old⟩, hold, heq⟩ := List.mem_map.1 hmem
      have hplace : place = loc := by
        have hfst := changeItem_fst loc change (place, old)
        rw [heq] at hfst
        exact hfst.symm
      subst hplace
      refine ⟨old, at?_eq_some_of_mem hold, ?_⟩
      cases old with
      | file data => simpa [changeItem] using heq
      | directory | link target | socket | device => simpa [changeItem] using heq
    · rintro ⟨old, hold, rfl⟩
      refine List.mem_map.2 ⟨(loc, old), mem_of_at? hroot hold, ?_⟩
      cases old with
      | file data => exact if_pos rfl
      | directory | link target | socket | device => rfl

theorem changeFile_differAt {fs : FileSystem} {loc : Location} (change : FileData → FileData)
    (hleaf : ∀ item, fs.at? loc = some item → item.isLeaf = true) :
    DifferAt loc fs (fs.changeFile loc change) := by
  refine ⟨rfl, fun ho => at?_changeFile_of_ne fs ho change, fun {item} => hleaf item, ?_⟩
  intro item hitem
  rw [at?_changeFile_self, Option.map_eq_some_iff] at hitem
  obtain ⟨old, hold, rfl⟩ := hitem
  cases old with
  | file data => rfl
  | directory | link target | socket | device => exact hleaf _ hold

theorem insert_differAt {fs : FileSystem} {dir : Location} {name : Bytes} {item : Item}
    (hfree : fs.at? (dir ++ [name]) = none) (hleaf : item.isLeaf = true) :
    DifferAt (dir ++ [name]) fs (fs.insert dir name item) := by
  rcases insert_cases fs dir name item with hsame | ⟨hcwd, hat⟩
  · rw [hsame]
    refine ⟨rfl, fun _ => rfl, ?_, ?_⟩ <;>
    · intro old hold
      rw [hfree] at hold
      cases hold
  · refine ⟨hcwd, fun ho => by rw [hat, if_neg ho], ?_, ?_⟩
    · intro old hold
      rw [hfree] at hold
      cases hold
    · intro new hnew
      rw [hat, if_pos rfl] at hnew
      cases hnew
      exact hleaf

/-- Making a file changes what stands at the place to which its path leads, and then a file or a
device stands there, if anything does. -/
theorem create_spec {fs fs' : FileSystem} {out : Path} {loc : Location}
    (h : fs.create out = .ok (fs', loc)) :
    DifferAt loc fs fs' ∧ (∃ q, fs.lookup true out = .ok q ∧ q.loc = loc ∧ q.asked = false ∧
      q.item? ≠ some .directory) ∧ ∀ item, fs'.at? loc = some item → item.isOutput = true := by
  rw [create] at h
  split at h
  · cases h
  · next dir name slash hlook =>
    cases slash with
    | true => cases h
    | false =>
      cases h
      have hfree : fs.at? (dir ++ [name]) = none := lookup_at? hlook (by simp [Place.item?])
      refine ⟨insert_differAt hfree rfl, ⟨_, hlook, rfl, rfl, by simp [Place.item?]⟩,
        fun item hitem => ?_⟩
      rcases insert_cases fs dir name (.file ⟨newFilePermissions, .plain []⟩) with hsame | ⟨-, hat⟩
      · rw [hsame, hfree] at hitem
        cases hitem
      · rw [hat, if_pos rfl] at hitem
        cases hitem
        rfl
  · next place data hlook =>
    cases h
    have hat : fs.at? loc = some (.file data) := lookup_at? hlook (by simp [Place.item?])
    refine ⟨changeFile_differAt _ ?_, ⟨_, hlook, rfl, rfl, by simp [Place.item?]⟩,
      fun item hitem => ?_⟩
    · intro old hold
      rw [hat] at hold
      cases hold
      rfl
    · rw [at?_changeFile _ hat] at hitem
      cases hitem
      rfl
  · next place hlook =>
    cases h
    have hat : fs.at? loc = some .device := lookup_at? hlook (by simp [Place.item?])
    refine ⟨⟨rfl, fun _ => rfl, ?_, ?_⟩, ⟨_, hlook, rfl, rfl, by simp [Place.item?]⟩, ?_⟩ <;>
    · intro item hitem
      rw [hat] at hitem
      cases hitem
      rfl
  · cases h
  · cases h
  · cases h

theorem leadsTo_of_create {fs fs' : FileSystem} {out : Path} {loc : Location}
    (h : fs.create out = .ok (fs', loc)) : fs.leadsTo out = some loc := by
  obtain ⟨-, ⟨q, hq, hloc, -⟩, -⟩ := create_spec h
  rw [leadsTo_of_lookup hq, hloc]

/-- What has been written is in the file, if it is a file that was written to. -/
theorem at?_writeAt {fs : FileSystem} {loc : Location} {content : Content} {item : Item}
    (hout : ∀ old, fs.at? loc = some old → old.isOutput = true)
    (h : (fs.writeAt loc content).at? loc = some item) :
    (item = .device ∧ fs.at? loc = some .device) ∨
      ∃ permissions, item = .file ⟨permissions, content⟩ := by
  rw [writeAt, at?_changeFile_self, Option.map_eq_some_iff] at h
  obtain ⟨old, hold, rfl⟩ := h
  have hold' := hout old hold
  cases old with
  | file data => exact Or.inr ⟨data.permissions, rfl⟩
  | device => exact Or.inl ⟨rfl, hold⟩
  | directory | link target | socket => cases hold'

/-- Where a device stands after a file has been made, it stood before. -/
theorem stat_of_create_device {fs fs' : FileSystem} {out : Path} {loc : Location}
    (h : fs.create out = .ok (fs', loc)) (hdevice : fs'.at? loc = some .device) :
    fs.stat true out = .ok (loc, .device) := by
  rw [create] at h
  split at h
  · cases h
  · next dir name slash hlook =>
    split at h
    · cases h
    · cases h
      have hfree : fs.at? (dir ++ [name]) = none := lookup_at? hlook (by simp [Place.item?])
      rcases insert_cases fs dir name (.file ⟨newFilePermissions, .plain []⟩) with hsame | ⟨-, hat⟩
      · rw [hsame, hfree] at hdevice
        cases hdevice
      · rw [hat, if_pos rfl] at hdevice
        cases hdevice
  · next place data hlook =>
    cases h
    have hat : fs.at? loc = some (.file data) := lookup_at? hlook (by simp [Place.item?])
    rw [at?_changeFile _ hat] at hdevice
    cases hdevice
  · next place hlook =>
    cases h
    exact stat_eq_ok_iff.2 hlook
  · cases h
  · cases h
  · cases h

theorem writeAt_differAt {fs : FileSystem} {loc : Location} (content : Content)
    (hout : ∀ old, fs.at? loc = some old → old.isOutput = true) :
    DifferAt loc fs (fs.writeAt loc content) :=
  changeFile_differAt _ fun old hold => Item.isLeaf_of_isOutput (hout old hold)

/-- A path at which something is found after writing leads to what was written. -/
theorem stat_written {fs fs' fs'' : FileSystem} {out : Path} {loc place : Location} {item : Item}
    {content : Content} (hcreate : fs.create out = .ok (fs', loc))
    (hwritten : fs'' = fs'.writeAt loc content)
    (h : fs''.stat true out = .ok (place, item)) :
    (item = .device ∧ fs.stat true out = .ok (loc, .device)) ∨
      ∃ permissions, item = .file ⟨permissions, content⟩ := by
  obtain ⟨hdiffer, ⟨q, hq, hloc, hasked, hitem⟩, hout⟩ := create_spec hcreate
  have hdiffer'' := hdiffer.trans (writeAt_differAt content hout)
  rw [← hwritten] at hdiffer''
  subst hloc
  obtain ⟨q', hq', hloc', hitem'⟩ := lookup_there hdiffer''.aside hdiffer''.cwd
    (fun _ => hdiffer''.leaf') hq hasked
  rw [stat_eq_ok_iff, hq', Except.ok.injEq] at h
  subst h
  have hat := lookup_at? hq' (hitem' hitem)
  rw [hloc', hwritten] at hat
  rcases at?_writeAt hout hat with ⟨hdevice, hat'⟩ | hfile
  · exact Or.inl ⟨hdevice, stat_of_create_device hcreate hat'⟩
  · exact Or.inr hfile

/-- Something stands where a file has been made, if the path begins in a directory. -/
theorem at?_created {fs fs' : FileSystem} {out : Path} {loc : Location}
    (hstart : fs.at? (fs.start out) = some .directory) (h : fs.create out = .ok (fs', loc)) :
    ∃ item, fs'.at? loc = some item := by
  rw [create] at h
  split at h
  · cases h
  · next dir name slash hlook =>
    obtain ⟨hdir, hfree, hname⟩ := lookup_found_of_start hstart hlook
    split at h
    · cases h
    · cases h
      exact ⟨_, by rw [at?_insert hdir hfree hname, if_pos rfl]⟩
  · next place data hlook =>
    cases h
    exact ⟨_, at?_changeFile _ (lookup_found_of_start hstart hlook) _⟩
  · next place hlook =>
    cases h
    exact ⟨_, lookup_found_of_start hstart hlook⟩
  · cases h
  · cases h
  · cases h

/-- A path at which a file has been made still leads to its place when it has been written. -/
theorem stat_writeAt {fs fs' : FileSystem} {out : Path} {loc : Location} {made : Item}
    (h : fs.create out = .ok (fs', loc)) (hmade : fs'.at? loc = some made) (content : Content) :
    ∃ item, (fs'.writeAt loc content).stat true out = .ok (loc, item) := by
  obtain ⟨hdiffer, ⟨q, hq, rfl, hasked, hitem⟩, hout⟩ := create_spec h
  have hwritten := hdiffer.trans (writeAt_differAt content hout)
  obtain ⟨q', hq', hloc, hitem'⟩ := lookup_there hwritten.aside hwritten.cwd
    (fun _ => hwritten.leaf') hq hasked
  have hat := lookup_at? hq' (hitem' hitem)
  rw [hloc, writeAt, at?_changeFile_self, hmade] at hat
  cases q' with
  | free dir name slash => cases hat
  | occupied place item =>
    refine ⟨item, stat_eq_ok_iff.2 ?_⟩
    rw [hq', ← hloc]
    rfl

/-- After writing, what is found at a path is the device that was there, or a file with what was
written. -/
theorem stat_after_writing {fs fs' : FileSystem} {p : Path} {loc : Location}
    (hstart : fs.at? (fs.start p) = some .directory) (h : fs.create p = .ok (fs', loc))
    (content : Content) : ∃ item, (fs'.writeAt loc content).stat true p = .ok (loc, item) ∧
      (item = .device ∧ fs.stat true p = .ok (loc, .device) ∨
        ∃ permissions, item = .file ⟨permissions, content⟩) := by
  obtain ⟨made, hmade⟩ := at?_created hstart h
  obtain ⟨item, hstat⟩ := stat_writeAt h hmade content
  exact ⟨item, hstat, stat_written h rfl hstat⟩

/-- What has been written is what is read, except from a device. -/
theorem read_written {fs fs' : FileSystem} {p : Path} {content : Content}
    (hstart : fs.at? (fs.start p) = some .directory) (h : fs.write p content = .ok fs') :
    fs'.read p = .ok content ∨ ∃ loc, fs'.stat true p = .ok (loc, .device) := by
  rw [write] at h
  cases hcreate : fs.create p with
  | error e =>
    rw [hcreate] at h
    cases h
  | ok made =>
    obtain ⟨made, loc⟩ := made
    rw [hcreate] at h
    cases h
    obtain ⟨item, hstat, ⟨rfl, -⟩ | ⟨permissions, rfl⟩⟩ := stat_after_writing hstart hcreate content
    · exact Or.inr ⟨loc, hstat⟩
    · left
      rw [read, hstat]

end FileSystem
end SparseTransfer
