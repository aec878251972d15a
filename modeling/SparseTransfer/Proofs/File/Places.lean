import Mathlib.Data.List.Induction
import SparseTransfer.File.Operations

/- What stands where. Everything above an item is a directory; making, changing and removing leave
everything at other places as it was. -/
namespace SparseTransfer.FileSystem

theorem isName_of_at? {fs : FileSystem} {loc : Location} {item : Item} (h : fs.at? loc = some item)
    {name : Bytes} (hn : name ∈ loc) : isName name = true := by
  have hloc : loc ≠ [] := List.ne_nil_of_mem hn
  exact fs.named _ (mem_of_at? hloc h) name hn

theorem at?_directory_of_child {fs : FileSystem} {dir : Location} {name : Bytes} {item : Item}
    (h : fs.at? (dir ++ [name]) = some item) : fs.at? dir = some .directory := by
  have hmem := mem_of_at? (by simp) h
  obtain ⟨_, hdir⟩ := fs.inDirectory _ hmem
  rw [List.dropLast_concat] at hdir
  rcases hdir with rfl | hdir
  · exact at?_root fs
  · exact at?_eq_some_of_mem hdir

/-- Whatever stands somewhere stands in directories all the way up. -/
theorem at?_directory_of_append {fs : FileSystem} {above below : Location} {item : Item}
    (h : fs.at? (above ++ below) = some item) (hbelow : below ≠ []) :
    fs.at? above = some .directory := by
  induction below using List.reverseRec generalizing item with
  | nil => exact absurd rfl hbelow
  | append_singleton rest name ih =>
    rw [← List.append_assoc] at h
    have hdir := at?_directory_of_child h
    by_cases hrest : rest = []
    · subst hrest
      rwa [List.append_nil] at hdir
    · exact ih hdir hrest

/-- Below a place where nothing stands there is nothing. -/
theorem at?_eq_none_below {fs : FileSystem} {above other : Location} (h : fs.at? above = none)
    (hp : above <+: other) : fs.at? other = none := by
  obtain ⟨below, rfl⟩ := hp
  by_cases hbelow : below = []
  · subst hbelow
    rwa [List.append_nil]
  · cases hitem : fs.at? (above ++ below) with
    | none => rfl
    | some item =>
      rw [at?_directory_of_append hitem hbelow] at h
      cases h

theorem mem_names_iff {fs : FileSystem} {dir : Location} {name : Bytes} :
    name ∈ fs.names dir ↔ ∃ item, fs.at? (dir ++ [name]) = some item := by
  have hne : dir ++ [name] ≠ [] := by simp
  simp only [names, List.mem_filterMap, Option.ite_none_right_eq_some, beq_iff_eq]
  constructor
  · rintro ⟨⟨loc, item⟩, hmem, rfl, hlast⟩
    obtain ⟨above, rfl⟩ := List.getLast?_eq_some_iff.1 hlast
    rw [List.dropLast_concat]
    exact ⟨item, at?_eq_some_of_mem hmem⟩
  · rintro ⟨item, hitem⟩
    refine ⟨_, mem_of_at? hne hitem, ?_, ?_⟩ <;> simp

/-- No two entries of a directory have one name. -/
theorem nodup_names (fs : FileSystem) (dir : Location) : (fs.names dir).Nodup := by
  have hplaces : (fs.items.map (·.1)).Nodup := fs.distinct
  rw [List.Nodup, List.pairwise_map] at hplaces
  rw [names, List.Nodup, List.pairwise_filterMap]
  refine hplaces.imp_of_mem ?_
  intro a b _ _ hab n hn m hm heq
  simp only [Option.ite_none_right_eq_some, beq_iff_eq] at hn hm
  subst heq
  obtain ⟨hdir, hlast⟩ := hn
  obtain ⟨hdir', hlast'⟩ := hm
  obtain ⟨above, ha⟩ := List.getLast?_eq_some_iff.1 hlast
  obtain ⟨above', hb⟩ := List.getLast?_eq_some_iff.1 hlast'
  rw [ha, List.dropLast_concat] at hdir
  rw [hb, List.dropLast_concat] at hdir'
  exact hab (by rw [ha, hb, hdir, hdir'])

/-- Two file systems that differ at most at one place and below it. -/
structure AgreeOutside (loc : Location) (fs fs' : FileSystem) : Prop where
  cwd : fs'.cwd = fs.cwd
  at? : ∀ {other : Location}, ¬ loc <+: other → fs'.at? other = fs.at? other

/-- Two file systems in which the same stands at every place. -/
structure Same (fs fs' : FileSystem) : Prop where
  cwd : fs'.cwd = fs.cwd
  at? : ∀ other : Location, fs'.at? other = fs.at? other

namespace AgreeOutside
variable {loc : Location} {fs fs' fs'' : FileSystem}

theorem refl (loc : Location) (fs : FileSystem) : AgreeOutside loc fs fs := ⟨rfl, fun _ => rfl⟩

theorem symm (h : AgreeOutside loc fs fs') : AgreeOutside loc fs' fs :=
  ⟨h.cwd.symm, fun ho => (h.at? ho).symm⟩

theorem trans (h : AgreeOutside loc fs fs') (h' : AgreeOutside loc fs' fs'') :
    AgreeOutside loc fs fs'' :=
  ⟨h'.cwd.trans h.cwd, fun ho => (h'.at? ho).trans (h.at? ho)⟩

/-- What differs only below a place differs only below the places above it. -/
theorem mono {above : Location} (h : AgreeOutside loc fs fs') (hp : above <+: loc) :
    AgreeOutside above fs fs' :=
  ⟨h.cwd, fun ho => h.at? fun hloc => ho (hp.trans hloc)⟩

/-- Where nothing stands in either, nothing is different at all. -/
theorem same (h : AgreeOutside loc fs fs') (hfs : fs.at? loc = none) (hfs' : fs'.at? loc = none) :
    Same fs fs' := by
  refine ⟨h.cwd, fun other => ?_⟩
  by_cases ho : loc <+: other
  · rw [at?_eq_none_below hfs ho, at?_eq_none_below hfs' ho]
  · exact h.at? ho

end AgreeOutside

namespace Same
variable {fs fs' fs'' : FileSystem}

theorem refl (fs : FileSystem) : Same fs fs := ⟨rfl, fun _ => rfl⟩

theorem trans (h : Same fs fs') (h' : Same fs' fs'') : Same fs fs'' :=
  ⟨h'.cwd.trans h.cwd, fun o => (h'.at? o).trans (h.at? o)⟩

end Same

/-- An insertion changes nothing, or only adds the item. -/
theorem insert_cases (fs : FileSystem) (dir : Location) (name : Bytes) (item : Item) :
    fs.insert dir name item = fs ∨
      (fs.insert dir name item).cwd = fs.cwd ∧ ∀ o, (fs.insert dir name item).at? o =
        if o = dir ++ [name] then some item else fs.at? o := by
  by_cases h : fs.at? dir = some .directory ∧ fs.at? (dir ++ [name]) = none ∧ isName name = true
  · exact .inr ⟨by rw [insert, dif_pos h], at?_insert h.1 h.2.1 h.2.2⟩
  · exact .inl (by rw [insert, dif_neg h])

theorem insert_agreeOutside (fs : FileSystem) (dir : Location) (name : Bytes) (item : Item) :
    AgreeOutside (dir ++ [name]) fs (fs.insert dir name item) := by
  rcases insert_cases fs dir name item with hsame | ⟨hcwd, hat⟩
  · rw [hsame]
    exact AgreeOutside.refl _ fs
  · refine ⟨hcwd, fun {other} ho => ?_⟩
    rw [hat, if_neg]
    rintro rfl
    exact ho List.prefix_rfl

theorem remove_agreeOutside (fs : FileSystem) (loc : Location) :
    AgreeOutside loc fs (fs.remove loc) := by
  refine ⟨rfl, fun {other} ho => ?_⟩
  by_cases hroot : other = []
  · subst hroot
    simp
  · have hb : isBelow loc other = false := by
      rw [Bool.eq_false_iff]
      exact fun hb => ho (List.isPrefixOf_iff_prefix.1 hb)
    simp [at?_remove fs loc hroot, hb]

/-- Nothing is left at a removed place. -/
theorem at?_remove_self (fs : FileSystem) {loc : Location} (hloc : loc ≠ []) :
    (fs.remove loc).at? loc = none := by
  have hb : isBelow loc loc = true := List.isPrefixOf_iff_prefix.2 List.prefix_rfl
  simp [at?_remove fs loc hloc, hb]

end SparseTransfer.FileSystem
