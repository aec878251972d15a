import SparseTransfer.Proofs.Archive.Completeness

/- What packing leaves when it fails. Whatever it fails at, the files that have been added are the
first of the folder, and at most one entry has been begun after them; all of that is in the
archive. -/
namespace SparseTransfer
open FileSystem

namespace Archive

/-- The entries for some files of a folder. -/
def entriesUnder (folder : Path) (files : List (Location × FileData)) : List Entry :=
  files.map fun f => entryUnder (ownName folder) f.1 f.2

/-- The files for which some items below a folder stand. -/
def filesAmong (fs : FileSystem) (folder : Path) (items : List (Location × Item)) :
    List (Location × FileData) :=
  items.filterMap fun e => (fs.fileBehind (pathBelow folder e.1) e.2).map fun data => (e.1, data)

/-- Files that are all added: each is read to its end, and no two have one name. -/
structure AllAdded (readings : Path → Reading) (folder : Path)
    (files : List (Location × FileData)) : Prop where
  whole : ∀ f ∈ files, readings (pathBelow folder f.1) = .whole
  names : ((entriesUnder folder files).map Entry.name).Nodup

/-- How packing breaks off when the files `before` have been added and the files `after` have not:
the error, and the entry that was begun. -/
inductive BrokeOff (readings : Path → Reading) (fs : FileSystem) (folder : Path) :
    (before after : List (Location × FileData)) → TransferError → List Entry → Prop
  /-- There is nothing at the path of the folder. -/
  | missing {cause : FileError} (hmissing : ∀ found, fs.stat true folder ≠ .ok found) :
      BrokeOff readings fs folder [] [] (.walk ⟨folder, cause⟩) []
  /-- A directory or a file cannot be opened. It comes after what has been added. -/
  | unopened {before after : List (Location × FileData)} {root names : Location} {item : Item}
      {cause : FileError} (hroot : fs.stat true folder = .ok (root, .directory))
      (hitem : fs.at? (root ++ names) = some item)
      (hopens : item = .directory ∨ ∃ data, item = .file data)
      (hunusable : ¬ IsUsable (pathBelow folder names)) (hbefore : ∀ f ∈ before, f.1 < names)
      (hafter : ∀ f ∈ after, names ≤ f.1) :
      BrokeOff readings fs folder before after (.walk ⟨pathBelow folder names, cause⟩) []
  /-- The next file has a name that is taken. -/
  | duplicate {before after : List (Location × FileData)} {f : Location × FileData}
      (htaken : joined (ownName folder ++ f.1) ∈ (entriesUnder folder before).map Entry.name) :
      BrokeOff readings fs folder before (f :: after)
        (.archive (.duplicateName (joined (ownName folder ++ f.1)))) []
  /-- The next file is not read to its end. -/
  | reading {before after : List (Location × FileData)} {f : Location × FileData} {length : Nat}
      {cause : FileError}
      (hfree : joined (ownName folder ++ f.1) ∉ (entriesUnder folder before).map Entry.name)
      (hbroken : readings (pathBelow folder f.1) = .broken length cause) :
      BrokeOff readings fs folder before (f :: after) (.file cause)
        [(entryUnder (ownName folder) f.1 f.2).cut length]
  /-- There are no files. -/
  | empty : BrokeOff readings fs folder [] [] (.emptyArchive folder) []

section step
variable {readings : Path → Reading} {fs : FileSystem} {folder : Path}
  {before : List (Location × FileData)} {f : Location × FileData}

theorem entriesUnder_concat : entriesUnder folder (before ++ [f]) =
    entriesUnder folder before ++ [entryUnder (ownName folder) f.1 f.2] := by
  rw [entriesUnder, entriesUnder, List.map_append]
  rfl

theorem AllAdded.nil : AllAdded readings folder [] := by
  constructor
  · intro f hf
    cases hf
  · exact List.nodup_nil

theorem AllAdded.concat (h : AllAdded readings folder before)
    (hfree : joined (ownName folder ++ f.1) ∉ (entriesUnder folder before).map Entry.name)
    (hwhole : readings (pathBelow folder f.1) = .whole) :
    AllAdded readings folder (before ++ [f]) := by
  constructor
  · intro g hg
    rcases List.mem_append.1 hg with hg | hg
    · exact h.whole g hg
    · rwa [List.mem_singleton.1 hg]
  · rw [entriesUnder_concat, List.map_append]
    refine List.nodup_append.2 ⟨h.names, List.nodup_singleton _, fun a ha b hb heq => hfree ?_⟩
    rw [List.mem_singleton.1 hb] at heq
    rwa [heq] at ha

/-- A visit to a file adds it, or packing breaks off there. -/
theorem gatheredReading_file (hfolder : folder ≠ []) (hnames : ∀ m ∈ f.1, isName m = true)
    {item : Item} (hfile : fileFor fs ⟨pathBelow folder f.1, item⟩ = .ok (some f.2))
    (hadded : AllAdded readings folder before) (rest : List (Except WalkError Visit)) :
    (∃ e begun, gatheredReading readings fs (baseOf folder) (entriesUnder folder before)
        (.ok ⟨pathBelow folder f.1, item⟩ :: rest) = (entriesUnder folder before ++ begun, some e) ∧
      ∀ after, BrokeOff readings fs folder before (f :: after) e begun) ∨
    AllAdded readings folder (before ++ [f]) ∧
      gatheredReading readings fs (baseOf folder) (entriesUnder folder before)
        (.ok ⟨pathBelow folder f.1, item⟩ :: rest) =
      gatheredReading readings fs (baseOf folder) (entriesUnder folder (before ++ [f])) rest := by
  have htaken : (entriesUnder folder before).any (·.name == joined (ownName folder ++ f.1)) = true ↔
      joined (ownName folder ++ f.1) ∈ (entriesUnder folder before).map Entry.name := by
    rw [List.any_eq_true, List.mem_map]
    simp only [beq_iff_eq]
  rw [gatheredReading, gathered?, hfile]
  simp only [entryName_pathBelow hfolder hnames, visitedPath]
  by_cases hname : joined (ownName folder ++ f.1) ∈ (entriesUnder folder before).map Entry.name
  · left
    rw [if_pos (htaken.2 hname)]
    exact ⟨_, [], by rw [List.append_nil]; rfl, fun after => .duplicate hname⟩
  · rw [if_neg fun hany => hname (htaken.1 hany)]
    cases hread : readings (pathBelow folder f.1) with
    | broken length cause => exact Or.inl ⟨_, _, rfl, fun after => .reading hname hread⟩
    | whole =>
      rw [entriesUnder_concat]
      exact Or.inr ⟨hadded.concat hname hread, rfl⟩

end step

/-- What gathering the files of a folder comes to. -/
inductive Gathered (readings : Path → Reading) (fs : FileSystem) (folder : Path) :
    List Entry × Option TransferError → Prop
  | all (hadded : AllAdded readings folder (fs.filesOf folder)) :
      Gathered readings fs folder (entriesUnder folder (fs.filesOf folder), none)
  | broken {before after : List (Location × FileData)} {e : TransferError} {begun : List Entry}
      (hfiles : fs.filesOf folder = before ++ after) (hadded : AllAdded readings folder before)
      (hbroke : BrokeOff readings fs folder before after e begun) :
      Gathered readings fs folder (entriesUnder folder before ++ begun, some e)

section walk
variable {readings : Path → Reading} {fs : FileSystem} {folder : Path} {root : Location}
  {items done : List (Location × Item)}

theorem filesAmong_append : filesAmong fs folder (done ++ items) =
    filesAmong fs folder done ++ filesAmong fs folder items := List.filterMap_append

theorem filesAmong_cons {names : Location} {item : Item} {file : Option FileData}
    (hfile : file = fs.fileBehind (pathBelow folder names) item) :
    filesAmong fs folder ((names, item) :: items) =
      (file.map fun data => (names, data)).toList ++ filesAmong fs folder items := by
  rw [filesAmong, List.filterMap_cons, ← hfile]
  cases file <;> rfl

theorem filesAmong_concat {names : Location} {item : Item} {file : Option FileData}
    (hfile : file = fs.fileBehind (pathBelow folder names) item) :
    filesAmong fs folder (done ++ [(names, item)]) =
      filesAmong fs folder done ++ (file.map fun data => (names, data)).toList := by
  have hnil : filesAmong fs folder [] = [] := rfl
  rw [filesAmong_append, filesAmong_cons hfile, hnil, List.append_nil]

theorem filesOf_split (hroot : fs.stat true folder = .ok (root, .directory))
    (hbelow : fs.below root = done ++ items) :
    fs.filesOf folder = filesAmong fs folder done ++ filesAmong fs folder items := by
  rw [filesOf_directory hroot, hbelow, ← filesAmong_append]
  rfl

theorem exists_of_mem_filesAmong {f : Location × FileData} (h : f ∈ filesAmong fs folder items) :
    ∃ item, (f.1, item) ∈ items := by
  obtain ⟨⟨names, item⟩, hmem, hfile⟩ := List.mem_filterMap.1 h
  obtain ⟨data, -, rfl⟩ := Option.map_eq_some_iff.1 hfile
  exact ⟨item, hmem⟩

/-- Packing breaks off at an item that cannot be opened, with what was added before it. -/
theorem gathered_unopened (hroot : fs.stat true folder = .ok (root, .directory)) {names : Location}
    {item : Item} (hbelow : fs.below root = done ++ (names, item) :: items)
    (hadded : AllAdded readings folder (filesAmong fs folder done))
    (hopens : item = .directory ∨ ∃ data, item = .file data)
    (hunusable : ¬ IsUsable (pathBelow folder names)) (cause : FileError) :
    Gathered readings fs folder
      (entriesUnder folder (filesAmong fs folder done),
        some (.walk ⟨pathBelow folder names, cause⟩)) := by
  have hitem : (names, item) ∈ fs.below root := by
    rw [hbelow]
    exact List.mem_append_right _ List.mem_cons_self
  have hsorted := fs.pairwise_below root
  rw [hbelow, List.pairwise_append, List.pairwise_cons] at hsorted
  obtain ⟨-, ⟨hrest, -⟩, hdone⟩ := hsorted
  have hbroke : BrokeOff readings fs folder (filesAmong fs folder done)
      (filesAmong fs folder ((names, item) :: items))
      (.walk ⟨pathBelow folder names, cause⟩) [] := by
    refine .unopened hroot (mem_below.1 hitem).2 hopens hunusable (fun f hf => ?_) fun f hf => ?_
    · obtain ⟨found, hmem⟩ := exists_of_mem_filesAmong hf
      exact hdone _ hmem _ List.mem_cons_self
    · obtain ⟨found, hmem⟩ := exists_of_mem_filesAmong hf
      rcases List.mem_cons.1 hmem with heq | hmem
      · rw [(Prod.mk.inj heq).1]
        exact List.le_refl _
      · exact List.le_of_lt (hrest _ hmem)
  have hgathered := Gathered.broken (filesOf_split hroot hbelow) hadded hbroke
  rwa [List.append_nil] at hgathered

/-- What cannot be opened below a folder is a file whose path cannot be looked up. -/
theorem unusable_of_error (hroot : fs.stat true folder = .ok (root, .directory))
    {names : Location} (hne : names ≠ []) {item : Item} (hitem : fs.at? (root ++ names) = some item)
    {cause : FileError} (hfile : fileFor fs ⟨pathBelow folder names, item⟩ = .error cause) :
    ∃ data, item = .file data ∧ ¬ IsUsable (pathBelow folder names) := by
  cases item with
  | directory | link target | socket | device => cases hfile
  | file data =>
    refine ⟨data, rfl, fun husable => ?_⟩
    rw [fileFor, stat_pathBelow hroot hne hitem husable] at hfile
    cases hfile

/-- From any item below a folder on, the files for which the items stand are added until packing
breaks off. -/
theorem gathered_below (hroot : fs.stat true folder = .ok (root, .directory))
    (hbelow : fs.below root = done ++ items)
    (hadded : AllAdded readings folder (filesAmong fs folder done)) :
    Gathered readings fs folder (gatheredReading readings fs (baseOf folder)
      (entriesUnder folder (filesAmong fs folder done))
      (items.flatMap fun (names, item) => visit (pathBelow folder names) item)) := by
  have hfolder := (lookup_eq_ok_iff.1 (stat_eq_ok_iff.1 hroot)).1.ne_nil
  induction items generalizing done with
  | nil =>
    have hall := (filesOf_split hroot hbelow).trans (List.append_nil _)
    rw [← hall] at hadded ⊢
    exact .all hadded
  | cons e rest ih =>
    obtain ⟨names, item⟩ := e
    have hmem : (names, item) ∈ fs.below root := by
      rw [hbelow]
      exact List.mem_append_right _ List.mem_cons_self
    obtain ⟨hne, hitem⟩ := mem_below.1 hmem
    have hnames : ∀ m ∈ names, isName m = true := fun m hm =>
      isName_of_at? hitem (List.mem_append_right _ hm)
    have hnext : fs.below root = (done ++ [(names, item)]) ++ rest := by
      rw [hbelow, List.append_assoc]
      rfl
    rw [List.flatMap_cons]
    change Gathered _ _ _ (gatheredReading _ _ _ _ (visit (pathBelow folder names) item ++ _))
    rw [visit]
    split
    · next hlong =>
      -- a directory is visited before it turns out that its path is too long
      rw [Bool.and_eq_true, decide_eq_true_eq] at hlong
      have hunusable : ¬ IsUsable (pathBelow folder names) := fun husable => by
        have hshort := husable.short
        omega
      cases item with
      | directory => exact gathered_unopened hroot hbelow hadded (Or.inl rfl) hunusable _
      | file data | link target | socket | device => cases hlong.1
    · rw [List.singleton_append]
      cases hfile : fileFor fs ⟨pathBelow folder names, item⟩ with
      | error cause =>
        obtain ⟨data, hdata, hunusable⟩ := unusable_of_error hroot hne hitem hfile
        rw [gatheredReading, gathered?, hfile]
        exact gathered_unopened hroot hbelow hadded (Or.inr ⟨data, hdata⟩) hunusable cause
      | ok file =>
        have hbehind := fileFor_below hroot hne hitem hfile
        have hdone := @filesAmong_concat fs folder done _ _ _ hbehind
        cases file with
        | none =>
          rw [Option.map_none, Option.toList_none, List.append_nil] at hdone
          rw [gatheredReading, gathered?, hfile, ← hdone]
          rw [← hdone] at hadded
          exact ih hnext hadded
        | some data =>
          rw [Option.map_some, Option.toList_some] at hdone
          rcases gatheredReading_file (f := (names, data)) hfolder hnames hfile hadded _ with
            ⟨e, begun, hgathered, hbroke⟩ | ⟨hmore, hgathered⟩
          · have hfiles := filesOf_split hroot hbelow
            rw [filesAmong_cons hbehind] at hfiles
            rw [hgathered]
            exact .broken hfiles hadded (hbroke _)
          · rw [hgathered]
            rw [← hdone] at hmore ⊢
            exact ih hnext hmore

theorem gathered_walk (readings : Path → Reading) (fs : FileSystem) (folder : Path) :
    Gathered readings fs folder
      (gatheredReading readings fs (baseOf folder) [] (fs.walk folder)) := by
  cases hroot : fs.stat true folder with
  | error cause =>
    obtain ⟨cause, hwalk⟩ := walk_of_error hroot
    have hfiles : fs.filesOf folder = [] ++ [] := by
      rw [filesOf, hroot]
      rfl
    rw [hwalk]
    refine .broken hfiles .nil (.missing fun found hfound => ?_)
    cases hroot.symm.trans hfound
  | ok found =>
    obtain ⟨root, found⟩ := found
    by_cases hfound : found = .directory
    · subst hfound
      obtain ⟨item, hfile, hwalk⟩ := walk_directory hroot
      rw [hwalk, gatheredReading, gathered?, hfile]
      exact @gathered_below readings fs folder root _ [] hroot rfl .nil
    · obtain ⟨item, hfile, hwalk⟩ := walk_alone hroot hfound
      have hfolder := (lookup_eq_ok_iff.1 (stat_eq_ok_iff.1 hroot)).1.ne_nil
      have hfiles := filesOf_alone hroot hfound
      have hadded : AllAdded readings folder [] := .nil
      rw [hwalk]
      cases hbehind : fs.fileBehind folder found with
      | none =>
        rw [hbehind] at hfile hfiles
        have hnone : fs.filesOf folder = [] := hfiles
        rw [gatheredReading, gathered?, hfile]
        rw [← hnone] at hadded
        have hall := Gathered.all hadded
        rw [hnone] at hall
        exact hall
      | some data =>
        rw [hbehind] at hfile hfiles
        have hone : fs.filesOf folder = [] ++ [([], data)] := hfiles
        rcases gatheredReading_file (f := ([], data)) hfolder (fun m hm => by cases hm)
          hfile hadded [] with ⟨e, begun, hgathered, hbroke⟩ | ⟨hmore, hgathered⟩
        · have hbroken := Gathered.broken hone hadded (hbroke [])
          rw [← hgathered] at hbroken
          exact hbroken
        · rw [← hone] at hmore hgathered
          have hall := Gathered.all hmore
          rw [gatheredReading] at hgathered
          rw [← hgathered] at hall
          exact hall

end walk

section differ
variable {readings : Path → Reading} {fs fs' : FileSystem} {folder out : Path} {place : Location}

/-- Packing breaks off as it would have before something changed apart from the folder. -/
theorem BrokeOff.differ {before after : List (Location × FileData)} {e : TransferError}
    {begun : List Entry} (h : BrokeOff readings fs' folder before after e begun)
    (hdiffer : DifferAt place fs fs') (hout : fs.leadsTo out = some place)
    (hapart : Apart fs folder out) : BrokeOff readings fs folder before after e begun := by
  have hfolder : fs.leadsTo folder ≠ some place := fun hroot =>
    hapart.outside hout hroot List.prefix_rfl
  cases h with
  | missing hmissing =>
    exact .missing fun found hfound => hmissing found ((hdiffer.stat_iff hfolder).2 hfound)
  | @unopened _ _ root names _ _ hroot' hitem' hopens hunusable hbefore hafter =>
    have hroot := (hdiffer.stat_iff hfolder).1 hroot'
    refine .unopened hroot ?_ hopens hunusable hbefore hafter
    rw [← hdiffer.same, hitem']
    intro heq
    exact hapart.outside hout (leadsTo_of_stat hroot) (heq ▸ List.prefix_append _ _)
  | duplicate htaken => exact .duplicate htaken
  | reading hfree hbroken => exact .reading hfree hbroken
  | empty => exact .empty

theorem Gathered.differ {gathered : List Entry × Option TransferError}
    (h : Gathered readings fs' folder gathered) (hdiffer : DifferAt place fs fs')
    (hout : fs.leadsTo out = some place) (hapart : Apart fs folder out) :
    Gathered readings fs folder gathered := by
  have hfiles := hdiffer.filesOf hout hapart
  cases h with
  | all hadded =>
    rw [hfiles] at hadded ⊢
    exact .all hadded
  | broken hsplit hadded hbroke =>
    rw [hfiles] at hsplit
    exact .broken hsplit hadded (hbroke.differ hdiffer hout hapart)

/-- If gathering broke off or there was nothing to gather, that is the error. -/
theorem Gathered.exists_brokeOff {gathered : List Entry × Option TransferError} {e : TransferError}
    {bytes : Nat} (h : Gathered readings fs folder gathered)
    (hresult : concluded fs' folder out gathered = .error e) (hsize : sizeOf fs' out = .ok bytes) :
    ∃ before after begun, fs.filesOf folder = before ++ after ∧ AllAdded readings folder before ∧
      BrokeOff readings fs folder before after e begun ∧
      gathered.1 = entriesUnder folder before ++ begun := by
  cases h with
  | broken hfiles hadded hbroke =>
    cases hresult
    exact ⟨_, _, _, hfiles, hadded, hbroke, rfl⟩
  | all hadded =>
    cases hfiles : fs.filesOf folder with
    | nil =>
      rw [hfiles] at hresult
      cases hresult
      exact ⟨[], [], [], rfl, .nil, .empty, rfl⟩
    | cons f rest =>
      rw [hfiles, entriesUnder, List.map_cons, concluded, hsize] at hresult
      cases hresult

end differ

section written
variable {fs fs' fs'' : FileSystem} {out : Path} {place : Location} {content : Content}

/-- What has been written can be read, unless it was written to a device. -/
theorem read_of_create (hstart : fs.at? (fs.start out) = some .directory)
    (hcreate : fs.create out = .ok (fs', place)) (hwritten : fs'' = fs'.writeAt place content) :
    (∃ bytes, sizeOf fs'' out = .ok bytes) ∧
      (fs''.read out = .ok content ∨ fs.stat true out = .ok (place, .device)) := by
  obtain ⟨item, hstat, hitem⟩ := stat_after_writing hstart hcreate content
  rw [← hwritten] at hstat
  constructor
  · rw [sizeOf, hstat]
    cases item <;> exact ⟨_, rfl⟩
  · rcases hitem with ⟨-, hdevice⟩ | ⟨permissions, rfl⟩
    · exact Or.inr hdevice
    · left
      rw [FileSystem.read, hstat]

end written

/-- When packing fails, either the archive could not be made and nothing has changed, or nothing has
changed but the archive. It can then be read, unless it is a device, and lists the first files of
the folder, all that were added, and at most one entry more, of the file at which packing broke
off. -/
theorem packing_failure_leaves {readings : Path → Reading} {w : World π} {folder out : Path}
    {e : TransferError} (hstart : w.files.at? (w.files.start out) = some .directory)
    (hapart : Apart w.files folder out)
    (h : ((packReading readings folder out).run w).result = .error e) :
    (packReading (fun _ => .whole) folder : Path → Action (World π) _) = packFolder folder ∧
    ((∃ cause, w.files.create out = .error cause ∧ e = .file cause ∧
      ((packReading readings folder out).run w).state = w) ∨
    ∃ made files place before after begun, w.files.create out = .ok (made, place) ∧
      ((packReading readings folder out).run w).state = { w with files } ∧
      DifferAt place w.files files ∧
      w.files.filesOf folder = before ++ after ∧ AllAdded readings folder before ∧
      BrokeOff readings w.files folder before after e begun ∧
      (files.read out = .ok (.archive (entriesUnder folder before ++ begun)) ∨
        w.files.stat true out = .ok (place, .device))) := by
  refine ⟨packReading_whole folder, ?_⟩
  obtain ⟨cause, hcreate, hr, hstate⟩ | ⟨made, place, hcreate, hstate, hr⟩ :=
    ends_packReading_cases (Action.ends_run (packReading readings folder out) w)
  · rw [h] at hr
    cases hr
    exact Or.inl ⟨cause, hcreate, rfl, hstate⟩
  · right
    obtain ⟨hmade, -, hout⟩ := create_spec hcreate
    have hgathered :=
      (gathered_walk readings made folder).differ hmade (leadsTo_of_create hcreate) hapart
    generalize gatheredReading readings made (baseOf folder) [] (made.walk folder) = gathered at *
    obtain ⟨⟨bytes, hsize⟩, hread⟩ := read_of_create hstart hcreate (congrArg World.files hstate)
    rw [h] at hr
    obtain ⟨before, after, begun, hfiles, hadded, hbroke, hentries⟩ :=
      hgathered.exists_brokeOff hr.symm hsize
    rw [hstate, hentries] at hread
    refine ⟨made, _, place, before, after, begun, hcreate, hstate, ?_, hfiles, hadded, hbroke, ?_⟩
    · exact hmade.trans (writeAt_differAt _ hout)
    · rwa [hentries]

/-- The reading of `/d/b` breaks off after one byte. -/
def brokenReadings (path : Path) : Reading :=
  if path = [47, 100, 47, 98] then .broken 1 (.os ⟨5⟩) else .whole

set_option maxRecDepth 100000 in
theorem packing_failure_leaves_nestedFolder :
    ((packReading brokenReadings [47, 100] [47, 122]).run ⟨nestedFolder, 0, ()⟩).result =
        .error (.file (.os ⟨5⟩)) ∧
      ∃ files before after begun,
        ((packReading brokenReadings [47, 100] [47, 122]).run ⟨nestedFolder, 0, ()⟩).state =
          ⟨files, 0, ()⟩ ∧
        nestedFolder.filesOf [47, 100] = before ++ after ∧
        BrokeOff brokenReadings nestedFolder [47, 100] before after
          (.file (.os ⟨5⟩)) begun ∧
        files.read [47, 122] = .ok (.archive (entriesUnder [47, 100] before ++ begun)) ∧
        entriesUnder [47, 100] before ++ begun = [⟨"d/a", 0o755, [1, 2]⟩, ⟨"d/b", 0o755, [1]⟩] := by
  have hresult :
      ((packReading brokenReadings [47, 100] [47, 122]).run ⟨nestedFolder, 0, ()⟩).result =
        .error (.file (.os ⟨5⟩)) := by cbv
  obtain ⟨-, ⟨cause, hcreate, -⟩ | ⟨_, files, place, before, after, begun, -, hstate, -, hfiles, -,
    hbroke, hread | hdevice⟩⟩ := packing_failure_leaves (by decide) apart_nestedFolder hresult
  · have hmade : ∃ made, nestedFolder.create [47, 122] = .ok made := ⟨_, rfl⟩
    obtain ⟨made, hmade⟩ := hmade
    cases hmade.symm.trans hcreate
  · have hlisted : ((packReading brokenReadings [47, 100] [47, 122]).run
        ⟨nestedFolder, 0, ()⟩).state.files.read [47, 122] =
          .ok (.archive [⟨"d/a", 0o755, [1, 2]⟩, ⟨"d/b", 0o755, [1]⟩]) := by cbv
    rw [hstate] at hlisted
    injection hread.symm.trans hlisted with hcontent
    injection hcontent with hentries
    exact ⟨hresult, files, before, after, begun, hstate, hfiles, hbroke, hread, hentries⟩
  · have hfree : nestedFolder.stat true [47, 122] = .error (.os .notFound) := by decide
    cases hfree.symm.trans hdevice

/-- A folder `d` without files, and a device `n`. -/
def deviceFolder : FileSystem where
  items := [([[100]], .directory), ([[110]], .device)]
  cwd := []
  distinct := by decide
  inDirectory := by decide
  named := by decide

/-- Packing into the device fails after it has been opened, and no archive can be read from it. -/
theorem device_left_without_archive : Apart deviceFolder [47, 100] [47, 110] ∧
    (∃ made, deviceFolder.create [47, 110] = .ok made) ∧
    ((packFolder [47, 100] [47, 110]).run ⟨deviceFolder, 0, ()⟩).result =
      .error (.emptyArchive [47, 100]) ∧
    ((packFolder [47, 100] [47, 110]).run ⟨deviceFolder, 0, ()⟩).state.files.read [47, 110] =
      .ok (.plain []) := by
  have hout : deviceFolder.leadsTo [47, 110] = some [[110]] := by decide
  have hfolder : deviceFolder.leadsTo [47, 100] = some [[100]] := by decide
  refine ⟨apart_of_noLinks (by simp [deviceFolder]) hout hfolder (by decide), ⟨_, rfl⟩, ?_, ?_⟩
  · cbv
  · cbv

end Archive
end SparseTransfer
