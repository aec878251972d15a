import SparseTransfer.Proofs.Archive.Listing

/- Which folders are packed. One that can be read is packed with all its files, unless it has none
or two of them would have one name in the archive: names are shown as text, and different bytes can
be shown alike. -/
namespace SparseTransfer
open FileSystem

namespace Archive

/-- A file can be made at a path, and then something stands there. -/
def Creatable (fs : FileSystem) (out : Path) : Prop :=
  ∃ files loc item, fs.create out = .ok (files, loc) ∧ files.at? loc = some item

/-- A path leads somewhere, and all directories and files that are below it can be opened. -/
structure Readable (fs : FileSystem) (folder : Path) : Prop where
  found : ∃ loc item, fs.stat true folder = .ok (loc, item)
  opened : ∀ {root names : Location} {item : Item}, fs.stat true folder = .ok (root, .directory) →
    names ≠ [] → fs.at? (root ++ names) = some item →
    (item = .directory ∨ ∃ data, item = .file data) →
    ∃ found, fs.stat false (pathBelow folder names) = .ok found

/-- No two files of a folder are shown alike. -/
def Unconfused (fs : FileSystem) (folder : Path) : Prop :=
  ((fs.filesOf folder).map fun f => f.1.map Utf8.decodeLossy).Nodup

section gathered
variable {fs : FileSystem} {base : Path} {visits : List (Except WalkError Visit)}
  {written more : List Entry}

/-- Entries with different names are all gathered. -/
theorem gathered_of_nodup (h : Packed fs base visits more)
    (hnames : ((written ++ more).map Entry.name).Nodup) :
    gathered fs base written visits = (written ++ more, none) := by
  induction h generalizing written with
  | nil => rw [gathered, List.append_nil]
  | skip hfile _ ih =>
    rw [gathered, gathered?, hfile]
    exact ih hnames
  | @take v data name visits entries hfile hname _ ih =>
    have hfree : written.any (·.name == name) = false := by
      rw [List.map_append, List.nodup_append] at hnames
      rw [List.any_eq_false]
      intro e he heq
      exact hnames.2.2 _ (List.mem_map_of_mem he) _ List.mem_cons_self (beq_iff_eq.1 heq)
    rw [gathered, gathered?, hfile]
    simp only [hname, hfree, Bool.false_eq_true, if_false]
    rw [ih (by simpa using hnames), List.append_assoc]
    rfl

/-- If two entries have one name, gathering ends at the first whose name is taken. -/
theorem gathered_of_not_nodup (h : Packed fs base visits more)
    (hwritten : (written.map Entry.name).Nodup)
    (hnames : ¬ ((written ++ more).map Entry.name).Nodup) :
    ∃ before entry after, more = before ++ entry :: after ∧
      ((written ++ before).map Entry.name).Nodup ∧
      entry.name ∈ (written ++ before).map Entry.name ∧
      gathered fs base written visits =
        (written ++ before, some (.archive (.duplicateName entry.name))) := by
  induction h generalizing written with
  | nil =>
    rw [List.append_nil] at hnames
    exact absurd hwritten hnames
  | skip hfile _ ih =>
    rw [gathered, gathered?, hfile]
    exact ih hwritten hnames
  | @take v data name visits entries hfile hname _ ih =>
    rw [gathered, gathered?, hfile]
    simp only [hname]
    by_cases htaken : name ∈ written.map Entry.name
    · have hany : written.any (·.name == name) = true := by
        obtain ⟨e, he, heq⟩ := List.mem_map.1 htaken
        exact List.any_eq_true.2 ⟨e, he, beq_iff_eq.2 heq⟩
      refine ⟨[], _, entries, rfl, by simpa using hwritten, by simpa using htaken, ?_⟩
      rw [if_pos hany, List.append_nil]
    · have hnone : ¬ written.any (·.name == name) = true := by
        intro hany
        obtain ⟨e, he, heq⟩ := List.any_eq_true.1 hany
        exact htaken (List.mem_map.2 ⟨e, he, beq_iff_eq.1 heq⟩)
      rw [if_neg hnone]
      have hnext : (List.map Entry.name
          (written ++ [⟨name, data.permissions &&& 0o777, data.content.bytes⟩])).Nodup := by
        rw [List.map_append]
        refine List.nodup_append.2 ⟨hwritten, by simp, fun a ha b hb heq => htaken ?_⟩
        obtain rfl : b = name := List.mem_singleton.1 hb
        exact heq ▸ ha
      obtain ⟨before, entry, after, rfl, hnodup, hmem, hgathered⟩ :=
        ih hnext (by simpa using hnames)
      exact ⟨_ :: before, entry, after, rfl, by simpa using hnodup, by simpa using hmem,
        by simpa using hgathered⟩

end gathered

section readable
variable {fs : FileSystem} {folder : Path} {root : Location}

theorem exists_packed_alone (hfolder : folder ≠ []) {item : Item} {file : Option FileData}
    (hfile : fileFor fs ⟨folder, item⟩ = .ok file) :
    ∃ entries, Packed fs (baseOf folder) [.ok ⟨folder, item⟩] entries := by
  cases file with
  | none => exact ⟨_, .skip hfile .nil⟩
  | some data =>
    have hown := @entryName_pathBelow folder hfolder [] fun m hm => by cases hm
    exact ⟨_, .take hfile hown .nil⟩

theorem Readable.exists_packed_below (h : Readable fs folder)
    (hroot : fs.stat true folder = .ok (root, .directory)) {items : List (Location × Item)}
    (hitems : ∀ e ∈ items, e ∈ fs.below root) : ∃ entries, Packed fs (baseOf folder)
      (items.flatMap fun (names, item) => visit (pathBelow folder names) item) entries := by
  have hfolder := (lookup_eq_ok_iff.1 (stat_eq_ok_iff.1 hroot)).1.ne_nil
  induction items with
  | nil => exact ⟨[], .nil⟩
  | cons e rest ih =>
    obtain ⟨names, item⟩ := e
    obtain ⟨hne, hitem⟩ := mem_below.1 (hitems (names, item) (by simp))
    have hnames : ∀ m ∈ names, isName m = true := fun m hm =>
      isName_of_at? hitem (List.mem_append_right _ hm)
    obtain ⟨entries, hrest⟩ := ih fun e he => hitems e (List.mem_cons_of_mem _ he)
    have hopened := h.opened hroot hne hitem
    rw [List.flatMap_cons]
    change ∃ entries, Packed fs _ (visit (pathBelow folder names) item ++ _) entries
    rw [visit]
    split
    · next hlong =>
      -- a directory that can be opened has no such long path
      rw [Bool.and_eq_true, decide_eq_true_eq] at hlong
      cases item with
      | directory =>
        obtain ⟨⟨loc, found⟩, hstat⟩ := hopened (Or.inl rfl)
        have hshort := (lookup_eq_ok_iff.1 (stat_eq_ok_iff.1 hstat)).1.short
        omega
      | file data | link target | socket | device => cases hlong.1
    · have hfile : ∃ file, fileFor fs ⟨pathBelow folder names, item⟩ = .ok file := by
        cases item with
        | file data =>
          obtain ⟨⟨loc, found⟩, hstat⟩ := hopened (Or.inr ⟨data, rfl⟩)
          rw [fileFor, hstat]
          cases found <;> exact ⟨_, rfl⟩
        | directory | link target | socket | device => exact ⟨_, rfl⟩
      obtain ⟨file, hfile⟩ := hfile
      cases file with
      | none => exact ⟨_, .skip hfile hrest⟩
      | some data => exact ⟨_, .take hfile (entryName_pathBelow hfolder hnames) hrest⟩

/-- Nothing fails on a walk through a folder that can be read. -/
theorem Readable.exists_packed (h : Readable fs folder) :
    ∃ entries, Packed fs (baseOf folder) (fs.walk folder) entries := by
  obtain ⟨root, found, hroot⟩ := h.found
  by_cases hfound : found = .directory
  · subst hfound
    obtain ⟨item, hfile, hwalk⟩ := walk_directory hroot
    obtain ⟨entries, hpacked⟩ := h.exists_packed_below hroot fun e he => he
    rw [hwalk]
    exact ⟨entries, .skip hfile hpacked⟩
  · obtain ⟨item, hfile, hwalk⟩ := walk_alone hroot hfound
    rw [hwalk]
    exact exists_packed_alone (lookup_eq_ok_iff.1 (stat_eq_ok_iff.1 hroot)).1.ne_nil hfile

/-- What has changed apart from a folder can be read if it could be before. -/
theorem Readable.differ {fs' : FileSystem} {out : Path} {place : Location} (h : Readable fs folder)
    (hdiffer : DifferAt place fs fs') (hout : fs.leadsTo out = some place)
    (hapart : Apart fs folder out) : Readable fs' folder := by
  have hfolder : fs.leadsTo folder ≠ some place := fun hroot =>
    hapart.outside hout hroot List.prefix_rfl
  constructor
  · obtain ⟨loc, item, hfound⟩ := h.found
    exact ⟨loc, item, (hdiffer.stat_iff hfolder).2 hfound⟩
  · intro root names item hroot' hne hitem' hopens
    have hroot := (hdiffer.stat_iff hfolder).1 hroot'
    have hitem : fs.at? (root ++ names) = some item := by
      rw [← hdiffer.same, hitem']
      rintro rfl
      exact hapart.outside hout (leadsTo_of_stat hroot) (List.prefix_append _ _)
    obtain ⟨⟨loc, found⟩, hstat⟩ := h.opened hroot hne hitem hopens
    have husable := (lookup_eq_ok_iff.1 (stat_eq_ok_iff.1 hstat)).1
    exact ⟨_, stat_pathBelow hroot' hne hitem' husable⟩

end readable

section names
variable {fs : FileSystem} {folder : Path}

theorem isPiece_under {f : Location × FileData} (h : f ∈ fs.filesOf folder) :
    ∀ m ∈ ownName folder ++ f.1, IsPiece m := by
  intro m hm
  rcases List.mem_append.1 hm with hm | hm
  · exact isPiece_ownName folder m hm
  · exact isPiece_of_isName (isName_of_mem_filesOf h m hm)

/-- Two files of a folder have one name in its archive if and only if they are shown alike. -/
theorem name_entryUnder_inj {f g : Location × FileData} (hf : f ∈ fs.filesOf folder)
    (hg : g ∈ fs.filesOf folder) :
    (entryUnder (ownName folder) f.1 f.2).name = (entryUnder (ownName folder) g.1 g.2).name ↔
      f.1.map Utf8.decodeLossy = g.1.map Utf8.decodeLossy := by
  rw [entryUnder, entryUnder, joined_inj (isPiece_under hf) (isPiece_under hg), List.map_append,
    List.map_append, List.append_cancel_left_eq]

theorem nodup_names_iff {files : List (Location × FileData)}
    (h : ∀ f ∈ files, f ∈ fs.filesOf folder) :
    ((files.map fun f => entryUnder (ownName folder) f.1 f.2).map Entry.name).Nodup ↔
      (files.map fun f => f.1.map Utf8.decodeLossy).Nodup := by
  rw [List.map_map, List.Nodup, List.Nodup, List.pairwise_map, List.pairwise_map]
  constructor
  · intro hnames
    exact hnames.imp_of_mem fun {f g} hf hg hne heq =>
      hne ((name_entryUnder_inj (h f hf) (h g hg)).2 heq)
  · intro hshown
    exact hshown.imp_of_mem fun {f g} hf hg hne heq =>
      hne ((name_entryUnder_inj (h f hf) (h g hg)).1 heq)

/-- Names that are text are shown as they are, so none are confused. -/
theorem unconfused_of_text
    (h : ∀ f ∈ fs.filesOf folder, ∀ m ∈ f.1, (Utf8.decode? m).isSome = true) :
    Unconfused fs folder := by
  rw [Unconfused, List.Nodup, List.pairwise_map]
  refine (fs.pairwise_filesOf folder).imp_of_mem fun {f g} hf hg hlt heq => ?_
  have hsame : f.1 = g.1 := by
    rw [← map_encode_decodeLossy (h f hf), heq, map_encode_decodeLossy (h g hg)]
  rw [hsame] at hlt
  exact List.lt_irrefl _ hlt

end names

section complete
variable {w : World π} {folder out : Path}

/-- What packing a folder that can be read comes to. -/
theorem run_packFolder (hread : Readable w.files folder) (hcreate : Creatable w.files out)
    (hapart : Apart w.files folder out) : ∃ files loc item,
      w.files.create out = .ok (files, loc) ∧ files.at? loc = some item ∧
      Packed files (baseOf folder) (files.walk folder)
        ((w.files.filesOf folder).map fun f => entryUnder (ownName folder) f.1 f.2) ∧
      ((packFolder folder out).run w).state.files = files.writeAt loc
        (.archive (gathered files (baseOf folder) [] (files.walk folder)).1) ∧
      ((packFolder folder out).run w).result = concluded ((packFolder folder out).run w).state.files
        folder out (gathered files (baseOf folder) [] (files.walk folder)) := by
  obtain ⟨files, loc, item, hmade, hitem⟩ := hcreate
  have hdiffer := (create_spec hmade).1
  have hout := leadsTo_of_create hmade
  obtain ⟨entries, hpacked⟩ := (hread.differ hdiffer hout hapart).exists_packed
  have hentries := hpacked.entries_walk
  rw [hdiffer.filesOf hout hapart] at hentries
  rw [hentries] at hpacked
  obtain ⟨hstate, hresult⟩ := run_of_create folder hmade
  exact ⟨files, loc, item, hmade, hitem, hpacked, hstate, hresult⟩

theorem result_of_noFiles (hread : Readable w.files folder) (hcreate : Creatable w.files out)
    (hapart : Apart w.files folder out) (hnone : w.files.filesOf folder = []) :
    ((packFolder folder out).run w).result = .error (.emptyArchive folder) := by
  obtain ⟨files, loc, item, -, -, hpacked, -, hresult⟩ := run_packFolder hread hcreate hapart
  rw [hnone] at hpacked
  have hgathered := @gathered_of_nodup _ _ _ [] _ hpacked .nil
  rw [hgathered] at hresult
  exact hresult

/-- The files of a folder are packed, each of them once, if no two are shown alike. -/
theorem result_of_unconfused (hread : Readable w.files folder) (hcreate : Creatable w.files out)
    (hapart : Apart w.files folder out) (hsome : w.files.filesOf folder ≠ [])
    (hnames : Unconfused w.files folder) :
    ∃ summary, ((packFolder folder out).run w).result = .ok summary ∧
      summary.entries = (w.files.filesOf folder).length ∧
      ∃ loc item, ((packFolder folder out).run w).state.files.stat true out = .ok (loc, item) ∧
        (item = .device ∨ ∃ permissions entries, item = .file ⟨permissions, .archive entries⟩ ∧
          entries = ((w.files.filesOf folder).map fun f => entryUnder (ownName folder) f.1 f.2) ∧
          (entries.map Entry.name).Nodup) := by
  obtain ⟨files, loc, made, hcreated, hmade, hpacked, hstate, hresult⟩ :=
    run_packFolder hread hcreate hapart
  have hnodup := (nodup_names_iff fun f hf => hf).2 hnames
  have hgathered := @gathered_of_nodup _ _ _ [] _ hpacked hnodup
  rw [List.nil_append] at hgathered
  rw [hgathered] at hstate hresult
  obtain ⟨item, hstat⟩ := stat_writeAt hcreated hmade
    (.archive ((w.files.filesOf folder).map fun f => entryUnder (ownName folder) f.1 f.2))
  rw [← hstate] at hstat
  have hitem := stat_written hcreated hstate hstat
  obtain ⟨f, rest, hfiles⟩ := List.exists_cons_of_ne_nil hsome
  have hsize : ∃ bytes, sizeOf ((packFolder folder out).run w).state.files out = .ok bytes := by
    rw [sizeOf, hstat]
    cases item <;> exact ⟨_, rfl⟩
  obtain ⟨bytes, hbytes⟩ := hsize
  refine ⟨⟨out, (w.files.filesOf folder).length, bytes⟩, ?_, rfl, loc, item, hstat, ?_⟩
  · rw [hresult, hfiles, List.map_cons, concluded, hbytes, List.length_cons, List.length_map,
      List.length_cons]
  · refine hitem.imp And.left ?_
    rintro ⟨permissions, hfile⟩
    exact ⟨permissions, _, hfile, rfl, hnodup⟩

/-- Packing ends at the first file that is shown like one before it. -/
theorem result_of_confused (hread : Readable w.files folder) (hcreate : Creatable w.files out)
    (hapart : Apart w.files folder out) (hnames : ¬ Unconfused w.files folder) :
    ∃ before f after, w.files.filesOf folder = before ++ f :: after ∧
      (before.map fun g => g.1.map Utf8.decodeLossy).Nodup ∧
      f.1.map Utf8.decodeLossy ∈ before.map (fun g => g.1.map Utf8.decodeLossy) ∧
      ((packFolder folder out).run w).result =
        .error (.archive (.duplicateName (joined (ownName folder ++ f.1)))) := by
  obtain ⟨files, loc, item, -, -, hpacked, -, hresult⟩ := run_packFolder hread hcreate hapart
  have hnot : ¬ (List.map Entry.name
      ((w.files.filesOf folder).map fun f => entryUnder (ownName folder) f.1 f.2)).Nodup :=
    fun hnodup => hnames ((nodup_names_iff fun f hf => hf).1 hnodup)
  obtain ⟨entries, entry, entriesAfter, hsplit, hnodup, hmem, hgathered⟩ :=
    @gathered_of_not_nodup _ _ _ [] _ hpacked .nil hnot
  rw [List.nil_append] at hnodup hmem
  obtain ⟨before, rest, hfiles, rfl, hrest⟩ := List.map_eq_append_iff.1 hsplit
  obtain ⟨f, after, rfl, rfl, rfl⟩ := List.map_eq_cons_iff.1 hrest
  have hin {g : Location × FileData} (hg : g ∈ before) : g ∈ w.files.filesOf folder := by
    rw [hfiles]
    exact List.mem_append_left _ hg
  have hf : f ∈ w.files.filesOf folder := by
    rw [hfiles]
    exact List.mem_append_right _ List.mem_cons_self
  refine ⟨before, f, after, hfiles, (nodup_names_iff fun g hg => hin hg).1 hnodup, ?_, ?_⟩
  · obtain ⟨e, he, hname⟩ := List.mem_map.1 hmem
    obtain ⟨g, hg, rfl⟩ := List.mem_map.1 he
    exact List.mem_map.2 ⟨g, hg, (name_entryUnder_inj (hin hg) hf).1 hname⟩
  · rw [hresult, hgathered]
    rfl

/-- A folder that can be read is packed with all its files, each of them once under a name of its
own, unless it has no files, or two files that are shown alike: then packing fails. -/
theorem packs_unless_confused (hread : Readable w.files folder) (hcreate : Creatable w.files out)
    (hapart : Apart w.files folder out) :
    (w.files.filesOf folder = [] →
      ((packFolder folder out).run w).result = .error (.emptyArchive folder)) ∧
    (w.files.filesOf folder ≠ [] → Unconfused w.files folder →
      ∃ summary, ((packFolder folder out).run w).result = .ok summary ∧
        summary.entries = (w.files.filesOf folder).length ∧
        ∃ loc item, ((packFolder folder out).run w).state.files.stat true out = .ok (loc, item) ∧
          (item = .device ∨ ∃ permissions entries, item = .file ⟨permissions, .archive entries⟩ ∧
            entries = ((w.files.filesOf folder).map fun f => entryUnder (ownName folder) f.1 f.2) ∧
            (entries.map Entry.name).Nodup)) ∧
    (¬ Unconfused w.files folder → ∃ before f after,
      w.files.filesOf folder = before ++ f :: after ∧
      (before.map fun g => g.1.map Utf8.decodeLossy).Nodup ∧
      f.1.map Utf8.decodeLossy ∈ before.map (fun g => g.1.map Utf8.decodeLossy) ∧
      ((packFolder folder out).run w).result =
        .error (.archive (.duplicateName (joined (ownName folder ++ f.1))))) ∧
    ((∀ f ∈ w.files.filesOf folder, ∀ m ∈ f.1, (Utf8.decode? m).isSome = true) →
      Unconfused w.files folder) :=
  ⟨result_of_noFiles hread hcreate hapart, result_of_unconfused hread hcreate hapart,
    result_of_confused hread hcreate hapart, unconfused_of_text⟩

end complete

theorem readable_nestedFolder : Readable nestedFolder [47, 100] := by
  have hroot : nestedFolder.stat true [47, 100] = .ok ([[100]], .directory) := by decide
  refine ⟨⟨_, _, hroot⟩, ?_⟩
  intro root names item hfolder hne hitem hopens
  cases hroot.symm.trans hfolder
  have hmem := mem_of_at? (by simp) hitem
  have hnames : names = [[98]] ∨ names = [[101]] ∨ names = [[101], [97]] := by
    simp [nestedFolder, hne] at hmem
    rcases hmem with ⟨h, -⟩ | ⟨-, rfl⟩ | ⟨-, rfl⟩ | ⟨h, -⟩ | ⟨h, -⟩
    · exact Or.inl h
    · simp at hopens
    · simp at hopens
    · exact Or.inr (Or.inl h)
    · exact Or.inr (Or.inr h)
  rcases hnames with rfl | rfl | rfl
  · exact ⟨([[100], [98]], .file ⟨0o4755, .plain [1, 2]⟩), by decide +kernel⟩
  · exact ⟨([[100], [101]], .directory), by decide +kernel⟩
  · exact ⟨([[100], [101], [97]], .file ⟨0o600, .plain [7]⟩), by decide +kernel⟩

theorem packs_unless_confused_nestedFolder :
    (Readable nestedFolder [47, 100] ∧ Creatable nestedFolder [47, 122] ∧
      Apart nestedFolder [47, 100] [47, 122]) ∧
    ∃ summary, ((packFolder [47, 100] [47, 122]).run ⟨nestedFolder, 0, ()⟩).result = .ok summary ∧
      summary.entries = (nestedFolder.filesOf [47, 100]).length ∧
      ∃ loc item, ((packFolder [47, 100] [47, 122]).run ⟨nestedFolder, 0, ()⟩).state.files.stat true
          [47, 122] = .ok (loc, item) ∧
        (item = .device ∨ ∃ permissions entries, item = .file ⟨permissions, .archive entries⟩ ∧
          entries = ((nestedFolder.filesOf [47, 100]).map fun f =>
            entryUnder (ownName [47, 100]) f.1 f.2) ∧ (entries.map Entry.name).Nodup) := by
  have hcreate : Creatable nestedFolder [47, 122] := ⟨_, _, _, rfl, rfl⟩
  have hnames : Unconfused nestedFolder [47, 100] := by
    rw [Unconfused, filesOf_nestedFolder]
    decide
  exact ⟨⟨readable_nestedFolder, hcreate, apart_nestedFolder⟩,
    (packs_unless_confused (w := ⟨nestedFolder, 0, ()⟩) readable_nestedFolder hcreate
      apart_nestedFolder).2.1 (by rw [filesOf_nestedFolder]; simp) hnames⟩

/-- A folder `d` with two files whose names are no text. -/
def confusedFolder : FileSystem where
  items := [([[100]], .directory), ([[100], [0xFE]], .file ⟨0o644, .plain [2]⟩),
    ([[100], [0xFF]], .file ⟨0o644, .plain [1]⟩)]
  cwd := []
  distinct := by decide
  inDirectory := by decide
  named := by decide

theorem readable_confusedFolder : Readable confusedFolder [47, 100] := by
  have hroot : confusedFolder.stat true [47, 100] = .ok ([[100]], .directory) := by decide
  refine ⟨⟨_, _, hroot⟩, ?_⟩
  intro root names item hfolder hne hitem _
  cases hroot.symm.trans hfolder
  have hmem := mem_of_at? (by simp) hitem
  have hnames : names = [[0xFE]] ∨ names = [[0xFF]] := by
    simp [confusedFolder, hne] at hmem
    exact hmem.imp And.left And.left
  rcases hnames with rfl | rfl
  · exact ⟨([[100], [0xFE]], .file ⟨0o644, .plain [2]⟩), by decide +kernel⟩
  · exact ⟨([[100], [0xFF]], .file ⟨0o644, .plain [1]⟩), by decide +kernel⟩

theorem apart_confusedFolder : Apart confusedFolder [47, 100] [47, 122] := by
  have hout : confusedFolder.leadsTo [47, 122] = some [[122]] := by decide
  have hfolder : confusedFolder.leadsTo [47, 100] = some [[100]] := by decide
  exact apart_of_noLinks (by simp [confusedFolder]) hout hfolder (by decide)

set_option maxRecDepth 100000 in
/-- Its files can be read and an archive can be made, but both files are shown alike. -/
theorem confused_refused : Readable confusedFolder [47, 100] ∧ Creatable confusedFolder [47, 122] ∧
    Apart confusedFolder [47, 100] [47, 122] ∧
    confusedFolder.filesOf [47, 100] =
      [([[0xFE]], ⟨0o644, .plain [2]⟩), ([[0xFF]], ⟨0o644, .plain [1]⟩)] ∧
    ((packFolder [47, 100] [47, 122]).run ⟨confusedFolder, 0, ()⟩).result =
      .error (.archive (.duplicateName "d/\uFFFD")) :=
  ⟨readable_confusedFolder, ⟨_, _, _, rfl, rfl⟩, apart_confusedFolder, by cbv, by cbv⟩

end Archive
end SparseTransfer
