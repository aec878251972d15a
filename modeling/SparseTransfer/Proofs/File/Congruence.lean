import SparseTransfer.Proofs.File.Folder

/- File systems in which the same stands, whatever the order in which it is listed. A path is looked
up alike in both, with the same failure if it fails. If they differ in the file at one place, only a
path that leads there can tell. -/
namespace SparseTransfer.FileSystem

section same
variable {fs fs' : FileSystem}

namespace Same

theorem meet (h : Same fs fs') (dir : Location) (name : Bytes) :
    fs'.meet dir name = fs.meet dir name := by
  rw [FileSystem.meet, FileSystem.meet, h.at?]

theorem descend (h : Same fs fs') (follow slash : Bool) (dir : Location) (names : List Bytes) :
    fs'.descend follow slash dir names = fs.descend follow slash dir names := by
  induction names generalizing dir with
  | nil => rfl
  | cons name rest ih =>
    rw [descend_cons, descend_cons, h.meet]
    cases fs.meet dir name with
    | error e => rfl
    | ok met =>
      cases met with
      | directory loc => exact ih loc
      | nothing | link target | other item => rfl

theorem descendThrough (h : Same fs fs') (follow : Bool) (links : Nat) (slash : Bool)
    (dir : Location) (names : List Bytes) :
    fs'.descendThrough follow links slash dir names =
      fs.descendThrough follow links slash dir names := by
  induction links generalizing slash dir names with
  | zero => rw [FileSystem.descendThrough, FileSystem.descendThrough, h.descend]
  | succ links ih =>
    rw [FileSystem.descendThrough, FileSystem.descendThrough, h.descend]
    split
    · rfl
    · rfl
    · exact ih _ _ _

theorem lookup (h : Same fs fs') (follow : Bool) (p : Path) :
    fs'.lookup follow p = fs.lookup follow p := by
  rw [FileSystem.lookup, FileSystem.lookup, h.cwd, h.descendThrough]

theorem stat (h : Same fs fs') (follow : Bool) (p : Path) :
    fs'.stat follow p = fs.stat follow p := by
  rw [FileSystem.stat, FileSystem.stat, h.lookup]

theorem asksDirectory (h : Same fs fs') (links : Nat) (slash : Bool) (dir : Location)
    (names : List Bytes) :
    fs'.asksDirectory links slash dir names = fs.asksDirectory links slash dir names := by
  induction links generalizing slash dir names with
  | zero =>
    cases slash with
    | false => rfl
    | true => rw [FileSystem.asksDirectory, FileSystem.asksDirectory, h.descendThrough]
  | succ links ih =>
    cases slash with
    | false =>
      rw [FileSystem.asksDirectory, FileSystem.asksDirectory, h.descendThrough]
      split
      · exact ih _ _ _
      · rfl
    | true => rw [FileSystem.asksDirectory, FileSystem.asksDirectory, h.descendThrough]

theorem insert (h : Same fs fs') (dir : Location) (name : Bytes) (item : Item) :
    Same (fs.insert dir name item) (fs'.insert dir name item) := by
  by_cases hfree : fs.at? dir = some .directory ∧ fs.at? (dir ++ [name]) = none ∧
      isName name = true
  · have hfree' := hfree
    rw [← h.at?, ← h.at?] at hfree'
    refine ⟨?_, fun o => ?_⟩
    · rw [FileSystem.insert, FileSystem.insert, dif_pos hfree, dif_pos hfree']
      exact h.cwd
    · rw [at?_insert hfree.1 hfree.2.1 hfree.2.2, at?_insert hfree'.1 hfree'.2.1 hfree'.2.2, h.at?]
  · have hfree' := hfree
    rw [← h.at?, ← h.at?] at hfree'
    rw [FileSystem.insert, FileSystem.insert, dif_neg hfree, dif_neg hfree']
    exact h

theorem changeFile (h : Same fs fs') (loc : Location) (change : FileData → FileData) :
    Same (fs.changeFile loc change) (fs'.changeFile loc change) := by
  refine ⟨h.cwd, fun o => ?_⟩
  by_cases ho : o = loc
  · subst ho
    rw [at?_changeFile_self, at?_changeFile_self, h.at?]
  · rw [at?_changeFile_of_ne fs' ho, at?_changeFile_of_ne fs ho, h.at?]

/-- Where the same stands the same can be made, and where nothing can be made the reason is the
same. -/
theorem create (h : Same fs fs') (out : Path) :
    (∃ e, fs.create out = .error e ∧ fs'.create out = .error e) ∨
      ∃ files files' loc, fs.create out = .ok (files, loc) ∧ fs'.create out = .ok (files', loc) ∧
        Same files files' := by
  rw [FileSystem.create, FileSystem.create, h.lookup]
  cases fs.lookup true out with
  | error e =>
    refine Or.inl ⟨fs.refusal out e, rfl, ?_⟩
    cases e with
    | os e => simp only [refusal, h.asksDirectory, h.cwd]
    | _ => rfl
  | ok q =>
    cases q with
    | free dir name slash =>
      cases slash with
      | true => exact Or.inl ⟨_, rfl, rfl⟩
      | false => exact Or.inr ⟨_, _, _, rfl, rfl, h.insert dir name _⟩
    | occupied loc item =>
      cases item with
      | file data => exact Or.inr ⟨_, _, _, rfl, rfl, h.changeFile loc _⟩
      | device => exact Or.inr ⟨_, _, _, rfl, rfl, h⟩
      | directory | link target | socket => exact Or.inl ⟨_, rfl, rfl⟩

end Same

end same

section differ
variable {fs fs' : FileSystem} {loc : Location}

/-- A look-up has led to a place, and to what stands there. -/
structure LeadsAt (fs : FileSystem) (loc : Location) (q : Place) : Prop where
  place : q.loc = loc
  asked : q.asked = false
  item : q.item? = fs.at? loc

/-- What the look-ups of a path can come to in two file systems that differ at one place: the same,
or that place, or one of them fails since nothing stands there in one of the two. -/
inductive Parted (fs fs' : FileSystem) (loc : Location) (result : Place → α) :
    Except ε α → Except ε α → Prop
  | same (r : Except ε α) : Parted fs fs' loc result r r
  | there {q q' : Place} (h : LeadsAt fs loc q) (h' : LeadsAt fs' loc q') :
      Parted fs fs' loc result (.ok (result q)) (.ok (result q'))
  | fails {r r' : Except ε α} (hnone : fs.at? loc = none ∨ fs'.at? loc = none)
      (hfails : (∃ e, r = .error e) ∨ ∃ e, r' = .error e) : Parted fs fs' loc result r r'

theorem Parted.mapError {r r' : Except ε Place} (h : Parted fs fs' loc id r r') (f : ε → ε') :
    Parted fs fs' loc id (r.mapError f) (r'.mapError f) := by
  cases h with
  | same => exact .same _
  | there h h' => exact .there h h'
  | fails hnone hfails =>
    refine .fails hnone (hfails.imp ?_ ?_) <;>
    · rintro ⟨e, rfl⟩
      exact ⟨f e, rfl⟩

/-- Goes on where a look-up has reached a link. -/
def onward (next : Location → Path → List Bytes → Except OsError Place) :
    Except OsError Reached → Except OsError Place
  | .error e => .error e
  | .ok (.place q) => .ok q
  | .ok (.link dir target rest) => next dir target rest

theorem Parted.onward {r r' : Except OsError Reached}
    {next next' : Location → Path → List Bytes → Except OsError Place}
    (h : Parted fs fs' loc Reached.place r r')
    (hnext : ∀ dir target rest,
      Parted fs fs' loc id (next dir target rest) (next' dir target rest)) :
    Parted fs fs' loc id (onward next r) (onward next' r') := by
  cases h with
  | same =>
    cases r with
    | error e => exact .same _
    | ok reached =>
      cases reached with
      | place q => exact .same _
      | link dir target rest => exact hnext dir target rest
  | there h h' => exact .there h h'
  | fails hnone hfails =>
    refine .fails hnone (hfails.imp ?_ ?_) <;>
    · rintro ⟨e, rfl⟩
      exact ⟨e, rfl⟩

section last
variable {name : Bytes} {dir : Location}

/-- A last name leads to its place if nothing or a leaf stands there. -/
theorem descend_last (follow : Bool)
    (hmeet : fs.meet dir name = .ok (Met.of (dir ++ [name]) (fs.at? (dir ++ [name]))))
    (hleaf : ∀ {item : Item}, fs.at? (dir ++ [name]) = some item → item.isLeaf = true) :
    ∃ q, fs.descend follow false dir [name] = .ok (.place q) ∧ LeadsAt fs (dir ++ [name]) q := by
  rw [descend_cons, hmeet]
  cases hfound : fs.at? (dir ++ [name]) with
  | none => exact ⟨_, rfl, rfl, rfl, hfound.symm⟩
  | some item =>
    rw [Met.of_eq_other.2 ⟨rfl, hleaf hfound⟩]
    exact ⟨_, rfl, rfl, rfl, hfound.symm⟩

/-- Nothing is looked up beyond a leaf. -/
theorem descend_beyond {slash : Bool} {rest : List Bytes} {item : Item} (follow : Bool)
    (hmeet : fs.meet dir name = .ok (Met.of (dir ++ [name]) (some item)))
    (hleaf : item.isLeaf = true) (hgo : ¬ (rest = [] ∧ slash = false)) :
    fs.descend follow slash dir (name :: rest) = .error .notADirectory := by
  rw [Met.of_eq_other.2 ⟨rfl, hleaf⟩] at hmeet
  rw [descend_cons, hmeet]
  exact if_neg (by simpa using hgo)

end last

namespace DifferAt

theorem meet (h : DifferAt loc fs fs') (dir : Location) (name : Bytes) :
    fs'.meet dir name = fs.meet dir name ∨ dir ++ [name] = loc ∧
      fs.meet dir name = .ok (Met.of loc (fs.at? loc)) ∧
      fs'.meet dir name = .ok (Met.of loc (fs'.at? loc)) := by
  rcases meet_cases dir name with ⟨r, hr⟩ | hat
  · exact Or.inl ((hr fs').trans (hr fs).symm)
  · rw [hat, hat]
    by_cases ho : dir ++ [name] = loc
    · rw [ho]
      exact Or.inr ⟨rfl, rfl, rfl⟩
    · rw [h.same ho]
      exact Or.inl rfl

theorem descend (h : DifferAt loc fs fs') (follow slash : Bool) (dir : Location)
    (names : List Bytes) : Parted fs fs' loc Reached.place (fs.descend follow slash dir names)
      (fs'.descend follow slash dir names) := by
  induction names generalizing dir with
  | nil => exact .same _
  | cons name rest ih =>
    rcases h.meet dir name with heq | ⟨rfl, hmeet, hmeet'⟩
    · rw [descend_cons, descend_cons, heq]
      cases fs.meet dir name with
      | error e => exact .same _
      | ok met =>
        cases met with
        | directory loc => exact ih loc
        | nothing | link target | other item => exact .same _
    · by_cases hend : rest = [] ∧ slash = false
      · obtain ⟨rfl, rfl⟩ := hend
        obtain ⟨q, hq, hat⟩ := descend_last follow hmeet h.leaf
        obtain ⟨q', hq', hat'⟩ := descend_last follow hmeet' h.leaf'
        rw [hq, hq']
        exact .there hat hat'
      · cases hfound : fs.at? (dir ++ [name]) with
        | none =>
          cases hfound' : fs'.at? (dir ++ [name]) with
          | none =>
            rw [descend_cons, descend_cons, hmeet, hmeet', hfound, hfound']
            exact .same _
          | some item =>
            rw [hfound'] at hmeet'
            exact .fails (Or.inl hfound)
              (Or.inr ⟨_, descend_beyond follow hmeet' (h.leaf' hfound') hend⟩)
        | some item =>
          rw [hfound] at hmeet
          have hbeyond := descend_beyond follow hmeet (h.leaf hfound) hend
          cases hfound' : fs'.at? (dir ++ [name]) with
          | none => exact .fails (Or.inr hfound') (Or.inl ⟨_, hbeyond⟩)
          | some item' =>
            rw [hfound'] at hmeet'
            rw [hbeyond, descend_beyond follow hmeet' (h.leaf' hfound') hend]
            exact .same _

theorem descendThrough (h : DifferAt loc fs fs') (follow : Bool) (links : Nat) (slash : Bool)
    (dir : Location) (names : List Bytes) :
    Parted fs fs' loc id (fs.descendThrough follow links slash dir names)
      (fs'.descendThrough follow links slash dir names) := by
  induction links generalizing slash dir names with
  | zero =>
    rw [FileSystem.descendThrough, FileSystem.descendThrough]
    exact (h.descend follow slash dir names).onward fun _ _ _ => .same (.error OsError.tooManyLinks)
  | succ links ih =>
    rw [FileSystem.descendThrough, FileSystem.descendThrough]
    exact (h.descend follow slash dir names).onward fun _ _ _ => ih _ _ _

theorem lookup (h : DifferAt loc fs fs') (follow : Bool) (p : Path) :
    Parted fs fs' loc id (fs.lookup follow p) (fs'.lookup follow p) := by
  rw [FileSystem.lookup, FileSystem.lookup, h.cwd]
  split
  · exact .same _
  · split
    · exact .same _
    · split
      · exact .same _
      · exact (h.descendThrough _ _ _ _ _).mapError _

end DifferAt

theorem LeadsAt.occupied {q : Place} {item : Item} (h : LeadsAt fs loc q)
    (hitem : fs.at? loc = some item) : q = .occupied loc item := by
  obtain ⟨rfl, -, hfound⟩ := h
  cases q with
  | occupied place found =>
    cases hfound.trans hitem
    rfl
  | free dir name slash => cases hfound.trans hitem

/-- A file can be made where nothing stands, or a file, if that place is in a directory. -/
theorem LeadsAt.create {out : Path} {q : Place} (h : LeadsAt fs loc q)
    (hlook : fs.lookup true out = .ok q) (hfile : (fs.at? loc).all Item.isFile = true)
    (hdir : ∀ dir name, loc = dir ++ [name] → fs.at? dir = some .directory ∧ isName name = true) :
    ∃ files data, fs.create out = .ok (files, loc) ∧ files.at? loc = some (.file data) := by
  rw [FileSystem.create, hlook]
  cases hfound : fs.at? loc with
  | none =>
    obtain ⟨hloc, hasked, hitem⟩ := h
    rw [hfound] at hitem
    cases q with
    | occupied place item => cases hitem
    | free dir name slash =>
      cases hasked
      subst hloc
      obtain ⟨hdir, hname⟩ := hdir dir name rfl
      exact ⟨_, _, rfl, by rw [at?_insert hdir hfound hname]; exact if_pos rfl⟩
  | some item =>
    rw [hfound] at hfile
    rw [h.occupied hfound]
    cases item with
    | file data => exact ⟨_, _, rfl, at?_changeFile fs hfound _⟩
    | directory | link target | socket | device => cases hfile

/-- If a file stands at the place in one of the two, a file can stand there in both. -/
theorem DifferAt.makeable (h : DifferAt loc fs fs') (hne : fs'.at? loc ≠ fs.at? loc)
    {dir : Location} {name : Bytes} (hloc : loc = dir ++ [name]) :
    fs.at? dir = some .directory ∧ fs'.at? dir = some .directory ∧ isName name = true := by
  subst hloc
  have hdir : fs'.at? dir = fs.at? dir := h.same (by simp)
  cases hfound : fs.at? (dir ++ [name]) with
  | some item =>
    have hparent := at?_directory_of_child hfound
    exact ⟨hparent, hdir.trans hparent, isName_of_at? hfound (by simp)⟩
  | none =>
    rw [hfound] at hne
    obtain ⟨item, hitem⟩ := Option.ne_none_iff_exists'.1 hne
    have hparent := at?_directory_of_child hitem
    exact ⟨hdir.symm.trans hparent, hparent, isName_of_at? hitem (by simp)⟩

/-- The same stands everywhere in two file systems, or everywhere but at a place at which both have
a file. -/
def SameButFile (loc : Location) (fs fs' : FileSystem) : Prop :=
  Same fs fs' ∨ DifferAt loc fs fs' ∧ (∃ data, fs.at? loc = some (.file data)) ∧
    ∃ data, fs'.at? loc = some (.file data)

/-- Only a path that leads to a file in which two file systems differ can tell them apart. -/
theorem SameButFile.stat (h : SameButFile loc fs fs') (follow : Bool) (p : Path) :
    fs'.stat follow p = fs.stat follow p ∨ ∃ data data', fs.at? loc = some (.file data) ∧
      fs'.at? loc = some (.file data') ∧ fs.stat follow p = .ok (loc, .file data) ∧
      fs'.stat follow p = .ok (loc, .file data') := by
  rcases h with hsame | ⟨hdiffer, ⟨data, hdata⟩, data', hdata'⟩
  · exact Or.inl (hsame.stat follow p)
  · have hlook := hdiffer.lookup follow p
    rw [FileSystem.stat, FileSystem.stat]
    generalize fs.lookup follow p = r at hlook ⊢
    generalize fs'.lookup follow p = r' at hlook ⊢
    cases hlook with
    | same => exact Or.inl rfl
    | there h h' =>
      rw [h.occupied hdata, h'.occupied hdata']
      exact Or.inr ⟨data, data', hdata, hdata', rfl, rfl⟩
    | fails hnone _ =>
      rw [hdata, hdata'] at hnone
      rcases hnone with hnone | hnone <;> cases hnone

theorem SameButFile.writeAt (h : SameButFile loc fs fs') (content : Content) :
    SameButFile loc (fs.writeAt loc content) (fs'.writeAt loc content) := by
  rcases h with hsame | ⟨hdiffer, ⟨data, hdata⟩, data', hdata'⟩
  · exact Or.inl (hsame.changeFile loc _)
  · have hchanged := changeFile_differAt (fun data => { data with content }) fun _ => hdiffer.leaf
    have hchanged' := changeFile_differAt (fun data => { data with content }) fun _ => hdiffer.leaf'
    exact Or.inr ⟨hchanged.symm.trans (hdiffer.trans hchanged'), ⟨_, at?_changeFile fs hdata _⟩,
      _, at?_changeFile fs' hdata' _⟩

/-- Nothing differs in two file systems but the file to which a path leads, if one is there. -/
structure SameBut (fs fs' : FileSystem) (out : Path) : Prop where
  cwd : fs'.cwd = fs.cwd
  leadsTo : fs'.leadsTo out = fs.leadsTo out
  at? : ∀ o, fs'.at? o = fs.at? o ∨ fs.leadsTo out = some o ∧
    (fs.at? o).all Item.isFile = true ∧ (fs'.at? o).all Item.isFile = true

namespace SameBut
variable {out : Path}

theorem same_or (h : SameBut fs fs' out) : Same fs fs' ∨ ∃ loc, fs.leadsTo out = some loc ∧
    DifferAt loc fs fs' ∧ fs'.at? loc ≠ fs.at? loc ∧ (fs.at? loc).all Item.isFile = true ∧
    (fs'.at? loc).all Item.isFile = true := by
  by_cases hall : ∀ o, fs'.at? o = fs.at? o
  · exact Or.inl ⟨h.cwd, hall⟩
  · obtain ⟨loc, hloc⟩ := not_forall.1 hall
    obtain ⟨hout, hfile, hfile'⟩ := (h.at? loc).resolve_left hloc
    have hleaf {found : Option Item} (hfound : found.all Item.isFile = true) {item : Item}
        (hitem : found = some item) : item.isLeaf = true := by
      subst hitem
      cases item with
      | file data | socket | device => rfl
      | directory | link target => cases hfound
    refine Or.inr ⟨loc, hout, ⟨h.cwd, fun {o} ho => ?_, hleaf hfile, hleaf hfile'⟩, hloc, hfile,
      hfile'⟩
    refine (h.at? o).resolve_right fun hthere => ho ?_
    exact Option.some.inj (hthere.1.symm.trans hout)

/-- A file can be made at the path in both, or for the same reason in none of them. -/
theorem create (h : SameBut fs fs' out) :
    (∃ e, fs.create out = .error e ∧ fs'.create out = .error e ∧
      fs'.stat true out = fs.stat true out) ∨
    ∃ files files' loc, fs.create out = .ok (files, loc) ∧ fs'.create out = .ok (files', loc) ∧
      SameButFile loc files files' := by
  rcases h.same_or with hsame | ⟨loc, hout, hdiffer, hne, hfile, hfile'⟩
  · rcases hsame.create out with ⟨e, he, he'⟩ | ⟨files, files', loc, hmade, hmade', hfiles⟩
    · exact Or.inl ⟨e, he, he', hsame.stat true out⟩
    · exact Or.inr ⟨files, files', loc, hmade, hmade', Or.inl hfiles⟩
  · obtain ⟨q, hfound, hloc⟩ := exists_lookup_of_leadsTo hout
    obtain ⟨q', hfound', -⟩ := exists_lookup_of_leadsTo (h.leadsTo.trans hout)
    have hlook := hdiffer.lookup true out
    rw [hfound, hfound'] at hlook
    cases hlook with
    | same =>
      -- only a directory is found without a look at what differs
      have hdirectory : q.item? = some .directory := by
        by_contra hitem
        have hat := lookup_at? hfound hitem
        have hat' := lookup_at? hfound' hitem
        rw [hloc] at hat hat'
        exact hne (hat'.trans hat.symm)
      cases q with
      | free dir name slash => cases hdirectory
      | occupied place item =>
        cases hdirectory
        refine Or.inl ⟨.os .isADirectory, ?_, ?_, ?_⟩
        · rw [FileSystem.create, hfound]
        · rw [FileSystem.create, hfound']
        · rw [FileSystem.stat, FileSystem.stat, hfound, hfound']
    | there hat hat' =>
      obtain ⟨files, data, hmade, hdata⟩ := hat.create hfound hfile fun dir name hloc =>
        ⟨(hdiffer.makeable hne hloc).1, (hdiffer.makeable hne hloc).2.2⟩
      obtain ⟨files', data', hmade', hdata'⟩ := hat'.create hfound' hfile' fun dir name hloc =>
        (hdiffer.makeable hne hloc).2
      have hfiles := (create_spec hmade).1.symm.trans (hdiffer.trans (create_spec hmade').1)
      exact Or.inr ⟨files, files', loc, hmade, hmade',
        Or.inr ⟨hfiles, ⟨data, hdata⟩, data', hdata'⟩⟩
    | fails _ hfails => rcases hfails with ⟨e, he⟩ | ⟨e, he⟩ <;> cases he

end SameBut

end differ

section folder
variable {fs fs' fs'' : FileSystem} {folder out : Path}

/-- The same is found at a folder in two file systems: the same stands below it, and links in it
lead to the same files. The folder need not be at the same place. -/
structure SameFolder (fs fs' : FileSystem) (folder : Path) : Prop where
  found : ∃ root root' item, fs.stat true folder = .ok (root, item) ∧
    fs'.stat true folder = .ok (root', item)
  below : ∀ {root root' names : Location}, fs.stat true folder = .ok (root, .directory) →
    fs'.stat true folder = .ok (root', .directory) → names ≠ [] →
    fs'.at? (root' ++ names) = fs.at? (root ++ names)
  linked : ∀ {root names : Location} {target : Path}, fs.stat true folder = .ok (root, .directory) →
    names ≠ [] → fs.at? (root ++ names) = some (.link target) →
    fs'.fileBehind (pathBelow folder names) (.link target) =
      fs.fileBehind (pathBelow folder names) (.link target)

namespace SameFolder

theorem directory_of (h : SameFolder fs fs' folder) {root : Location}
    (hroot : fs'.stat true folder = .ok (root, .directory)) :
    ∃ root', fs.stat true folder = .ok (root', .directory) := by
  obtain ⟨place, place', item, hplace, hplace'⟩ := h.found
  cases hroot.symm.trans hplace'
  exact ⟨place, hplace⟩

theorem symm (h : SameFolder fs fs' folder) : SameFolder fs' fs folder := by
  obtain ⟨root, root', item, hroot, hroot'⟩ := h.found
  constructor
  · exact ⟨root', root, item, hroot', hroot⟩
  · exact fun hplace' hplace hne => (h.below hplace hplace' hne).symm
  · intro place' names target hplace' hne hlink
    obtain ⟨place, hplace⟩ := h.directory_of hplace'
    exact (h.linked hplace hne ((h.below hplace hplace' hne).symm.trans hlink)).symm

theorem trans (h : SameFolder fs fs' folder) (h' : SameFolder fs' fs'' folder) :
    SameFolder fs fs'' folder := by
  obtain ⟨root, root', item, hroot, hroot'⟩ := h.found
  obtain ⟨place', place'', item', hplace', hplace''⟩ := h'.found
  cases hroot'.symm.trans hplace'
  constructor
  · exact ⟨root, place'', item, hroot, hplace''⟩
  · intro dir dir'' names hdir hdir'' hne
    obtain ⟨dir', hdir'⟩ := h'.directory_of hdir''
    exact (h'.below hdir' hdir'' hne).trans (h.below hdir hdir' hne)
  · intro dir names target hdir hne hlink
    obtain ⟨dir', hdir'⟩ := h.symm.directory_of hdir
    have hlink' := (h.below hdir hdir' hne).trans hlink
    exact (h'.linked hdir' hne hlink').trans (h.linked hdir hne hlink)

end SameFolder

/-- What has changed apart from a folder has not changed it. -/
theorem DifferAt.sameFolder {loc root : Location} {item : Item} (h : DifferAt loc fs fs')
    (hout : fs.leadsTo out = some loc) (hapart : Apart fs folder out)
    (hfound : fs.stat true folder = .ok (root, item)) : SameFolder fs fs' folder := by
  have hfolder : fs.leadsTo folder ≠ some loc := fun hroot =>
    hapart.outside hout hroot List.prefix_rfl
  refine ⟨⟨root, root, item, hfound, (h.stat_iff hfolder).2 hfound⟩, ?_, ?_⟩
  · intro dir dir' names hdir hdir' _
    cases hdir.symm.trans ((h.stat_iff hfolder).1 hdir')
    apply h.same
    rintro rfl
    exact hapart.outside hout (leadsTo_of_stat hdir) (List.prefix_append _ _)
  · intro dir names target hdir _ hlink
    exact h.fileBehind _ fun _ _ => hapart.unlinked hout hdir hlink

theorem SameBut.sameFolder {root : Location} {item : Item} (h : SameBut fs fs' out)
    (hapart : Apart fs folder out) (hfound : fs.stat true folder = .ok (root, item)) :
    SameFolder fs fs' folder := by
  rcases h.same_or with hsame | ⟨loc, hout, hdiffer, -⟩
  · refine ⟨⟨root, root, item, hfound, by rw [hsame.stat, hfound]⟩, ?_, ?_⟩
    · intro dir dir' names hdir hdir' _
      rw [hsame.stat] at hdir'
      cases hdir.symm.trans hdir'
      exact hsame.at? _
    · intro dir names target _ _ _
      simp only [fileBehind, hsame.stat]
  · exact hdiffer.sameFolder hout hapart hfound

end folder

end SparseTransfer.FileSystem
