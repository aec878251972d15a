import SparseTransfer.Proofs.File.Resolution

/- Looking up whole paths. A path below another is looked up from the directory to which that one
leads, and a look-up that leads elsewhere does not notice what changes aside. -/
namespace SparseTransfer.FileSystem
open SparseTransfer.Path

/-- Where the look-up of a path begins. -/
def start (fs : FileSystem) (p : Path) : Location := if isAbsolute p then [] else fs.cwd

/-- What can be looked up at all. -/
structure IsUsable (p : Path) : Prop where
  noNul : 0 ∉ p
  ne_nil : p ≠ []
  short : p.length < maxPath

theorem lookup_eq_ok_iff {fs : FileSystem} {follow : Bool} {p : Path} {q : Place} :
    fs.lookup follow p = .ok q ↔ IsUsable p ∧
      Resolves fs follow maxLinks (endsInSlash p) (fs.start p) (namesOf p) q := by
  rw [resolves_iff, lookup, ← start]
  constructor
  · intro h
    split at h
    · cases h
    · next hnul =>
      split at h
      · cases h
      · next hempty =>
        split at h
        · cases h
        · next hlong =>
          refine ⟨⟨by simpa using hnul, by simpa using hempty, by omega⟩, ?_⟩
          cases hfound : fs.descendThrough follow maxLinks (endsInSlash p) (fs.start p)
            (namesOf p) with
          | error e =>
            rw [hfound] at h
            cases h
          | ok place =>
            rw [hfound] at h
            cases h
            rfl
  · rintro ⟨⟨hnul, hempty, hshort⟩, hfound⟩
    rw [if_neg (by simpa using hnul), if_neg (by simpa using hempty), if_neg (by omega), hfound]
    rfl

/-- Why a path cannot be looked up at all is the same everywhere. -/
theorem lookup_of_not_isUsable (fs fs' : FileSystem) {p : Path} (h : ¬ IsUsable p) (follow : Bool) :
    fs'.lookup follow p = fs.lookup follow p := by
  rw [lookup, lookup]
  split
  · rfl
  · next hnul =>
    split
    · rfl
    · next hempty =>
      rw [if_pos, if_pos]
      all_goals
        by_contra hlong
        exact h ⟨by simpa using hnul, by simpa using hempty, by omega⟩

theorem stat_eq_ok_iff {fs : FileSystem} {follow : Bool} {p : Path} {loc : Location} {item : Item} :
    fs.stat follow p = .ok (loc, item) ↔ fs.lookup follow p = .ok (.occupied loc item) := by
  rw [stat]
  constructor
  · intro h
    split at h
    · cases h
    · next hlook =>
      cases h
      exact hlook
    · cases h
  · intro h
    rw [h]

/-- The ordinary components of a path that leads somewhere can name entries of directories. -/
theorem isName_of_mem_components {fs : FileSystem} {follow : Bool} {p : Path}
    {q : Place} {n : Bytes} (h : fs.lookup follow p = .ok q)
    (hn : Component.name n ∈ components p) : isName n = true := by
  have hinner := mem_innerParts_of_name hn
  obtain ⟨hne, hslash, hdot, hdots⟩ := Component.isInner_of_mem_inner hinner
  have hmem : n ∈ namesOf p := by
    obtain ⟨piece, hpiece, hc⟩ := List.mem_filterMap.1 hinner
    obtain rfl : piece = n := by
      cases piece with
      | nil => cases hc
      | cons b rest =>
        simp only [Component.ofPiece] at hc
        split at hc
        · cases hc
        · split at hc <;> cases hc
          rfl
    exact List.mem_filter.2 ⟨hpiece, by simpa using hne⟩
  exact isName_iff.2 ⟨hne, hslash, hdot, hdots, (lookup_eq_ok_iff.1 h).2.short n hmem⟩

theorem lookup_at? {fs : FileSystem} {follow : Bool} {p : Path} {q : Place}
    (h : fs.lookup follow p = .ok q) (hq : q.item? ≠ some .directory) : fs.at? q.loc = q.item? :=
  (lookup_eq_ok_iff.1 h).2.at? hq

/-- A path that begins in a directory tells what stands at the place to which it leads. -/
theorem lookup_found_of_start {fs : FileSystem} {follow : Bool} {p : Path} {q : Place}
    (hstart : fs.at? (fs.start p) = some .directory) (h : fs.lookup follow p = .ok q) :
    Found fs q := by
  obtain ⟨-, hresolves⟩ := lookup_eq_ok_iff.1 h
  exact hresolves.found hstart fun n hn => isPiece_of_mem_namesOf hn

theorem at?_start_of_isAbsolute {p : Path} (hp : isAbsolute p = true) (fs : FileSystem) :
    fs.at? (fs.start p) = some .directory := by
  rw [start, if_pos hp]
  exact at?_root fs

theorem lookup_found {fs : FileSystem} {follow : Bool} {p : Path} {q : Place}
    (hp : isAbsolute p = true) (h : fs.lookup follow p = .ok q) : Found fs q :=
  lookup_found_of_start (at?_start_of_isAbsolute hp fs) h

/-- What is found without following the last link and is no link is found with following too. -/
theorem stat_followed {fs : FileSystem} {p : Path} {loc : Location} {item : Item}
    (h : fs.stat false p = .ok (loc, item)) (hitem : ∀ target, item ≠ .link target) :
    fs.stat true p = .ok (loc, item) := by
  rw [stat_eq_ok_iff, lookup_eq_ok_iff] at h ⊢
  refine ⟨h.1, h.2.followed fun l target heq => ?_⟩
  cases heq
  exact hitem target rfl

/-- At a path that leads to something stands that or a link. -/
theorem stat_unfollowed_or {fs : FileSystem} {p : Path} {loc : Location} {item : Item}
    (h : fs.stat true p = .ok (loc, item)) : fs.stat false p = .ok (loc, item) ∨
      ∃ loc' target, fs.stat false p = .ok (loc', .link target) := by
  rw [stat_eq_ok_iff, lookup_eq_ok_iff] at h
  simp only [stat_eq_ok_iff, lookup_eq_ok_iff]
  exact h.2.unfollowed_place.imp (fun hfound => ⟨h.1, hfound⟩)
    fun ⟨loc', target, hfound⟩ => ⟨loc', target, h.1, hfound⟩

/-- At a path that leads to a directory stands a directory or a link. -/
theorem stat_unfollowed {fs : FileSystem} {p : Path} {d : Location}
    (h : fs.stat true p = .ok (d, .directory)) :
    ∃ loc item, fs.stat false p = .ok (loc, item) ∧ item.isLeaf = false := by
  rw [stat_eq_ok_iff, lookup_eq_ok_iff] at h
  obtain ⟨loc, item, hfound, hitem⟩ := h.2.unfollowed (endsInSlash p)
  refine ⟨loc, item, ?_, hitem⟩
  rw [stat_eq_ok_iff, lookup_eq_ok_iff]
  exact ⟨h.1, hfound⟩

theorem stat_ne_link {fs : FileSystem} {p : Path} {loc : Location} {target : Path} :
    fs.stat true p ≠ .ok (loc, .link target) := by
  rw [ne_eq, stat_eq_ok_iff, lookup_eq_ok_iff]
  exact fun h => h.2.ne_link loc target rfl

theorem isDirectory_iff {fs : FileSystem} {p : Path} :
    fs.isDirectory p = true ↔ ∃ loc, fs.stat true p = .ok (loc, .directory) := by
  rw [isDirectory]
  constructor
  · intro h
    split at h
    · next loc item hstat =>
      cases item with
      | directory => exact ⟨loc, hstat⟩
      | file data | link target | socket | device => cases h
    · cases h
  · rintro ⟨loc, hstat⟩
    rw [hstat]
    rfl

/-- A path that goes on from another with some names. -/
structure Extends (base p : Path) (names : List Bytes) : Prop where
  isAbsolute : isAbsolute p = isAbsolute base
  namesOf : namesOf p = namesOf base ++ names
  ne_nil : names ≠ []
  isPrefix : base <+: p

section extension
variable {fs : FileSystem} {follow : Bool} {base p : Path} {names : List Bytes} {d : Location}
  {q : Place}

theorem Extends.start (h : Extends base p names) (fs : FileSystem) :
    fs.start p = fs.start base := by
  rw [FileSystem.start, FileSystem.start, h.isAbsolute]

theorem Extends.isUsable (h : Extends base p names) (hbase : base ≠ []) (hp : IsUsable p) :
    IsUsable base :=
  ⟨fun hmem => hp.noNul (h.isPrefix.subset hmem), hbase,
    Nat.lt_of_le_of_lt h.isPrefix.length_le hp.short⟩

/-- A path below a directory leads to where its names lead from there. -/
theorem Extends.lookup (h : Extends base p names) (hbase : fs.stat true base = .ok (d, .directory))
    (hp : IsUsable p) (hq : Descends fs follow (endsInSlash p) d names (.place q)) :
    fs.lookup follow p = .ok q := by
  obtain ⟨_, hresolves⟩ := lookup_eq_ok_iff.1 (stat_eq_ok_iff.1 hbase)
  obtain ⟨_, hgo⟩ := (hresolves.directory true).append rfl h.ne_nil
  rw [lookup_eq_ok_iff, h.start, h.namesOf]
  exact ⟨hp, hgo q (.place hq)⟩

/-- A path below another leads nowhere if that one does not lead to a directory. -/
theorem Extends.of_lookup (h : Extends base p names) (hbase : base ≠ [])
    (hq : fs.lookup follow p = .ok q) :
    ∃ d links, fs.stat true base = .ok (d, .directory) ∧
      Resolves fs follow links (endsInSlash p) d names q := by
  obtain ⟨hp, hresolves⟩ := lookup_eq_ok_iff.1 hq
  rw [h.start, h.namesOf] at hresolves
  obtain ⟨d, links, hfirst, hrest⟩ := hresolves.of_append h.ne_nil
  refine ⟨d, links, ?_, hrest⟩
  rw [stat_eq_ok_iff, lookup_eq_ok_iff]
  exact ⟨h.isUsable hbase hp, hfirst.directory _⟩

end extension

theorem namesOf_ne_nil {p : Path} (hp : isAbsolute p = false) (hne : p ≠ []) :
    namesOf p ≠ [] := by
  obtain ⟨b, rest, rfl⟩ := List.exists_cons_of_ne_nil hne
  have hb : (b == slash) = false := by simpa [isAbsolute] using hp
  obtain ⟨piece, more, hsplit⟩ := List.exists_cons_of_ne_nil
    (Text.split_ne_nil (· == slash) rest)
  simp [namesOf, Text.split, hb, hsplit]

theorem extends_append {base p : Path} (hbase : base ≠ []) (hp : isAbsolute p = false)
    (hne : p ≠ []) : Extends base (append base p) (namesOf p) := by
  refine ⟨isAbsolute_append hbase hp, namesOf_append base hp, namesOf_ne_nil hp hne, ?_⟩
  obtain ⟨front, happ, hfront⟩ := append_of_relative hbase hp
  rw [happ]
  rcases hfront with rfl | rfl
  · exact List.prefix_append _ _
  · exact ⟨p, by simp⟩

/-- A name at the end of a path does not change where the look-up begins. -/
theorem start_append_name (fs : FileSystem) {base : Path} {n : Bytes} (hn : isName n = true) :
    fs.start (append base n) = fs.start base := by
  have hrelative := isAbsolute_of_isName hn
  by_cases hbase : base = []
  · subst hbase
    rw [append_nil_left, start, start, hrelative]
    rfl
  · rw [start, start, isAbsolute_append hbase hrelative]

theorem endsInSlash_append {base p : Path} (hbase : base ≠ []) (hp : isAbsolute p = false)
    (hne : p ≠ []) : endsInSlash (append base p) = endsInSlash p := by
  obtain ⟨b, rest, rfl⟩ := List.exists_cons_of_ne_nil hne
  obtain ⟨front, happ, _⟩ := append_of_relative hbase hp
  rw [happ]
  simp [endsInSlash, List.getLast?_append, List.getLast?_cons]

theorem endsInSlash_of_isName {n : Bytes} (hn : isName n = true) : endsInSlash n = false := by
  rw [endsInSlash, beq_eq_false_iff_ne]
  intro hlast
  exact (isName_iff.1 hn).2.1 (List.mem_of_getLast? hlast)

theorem endsInSlash_append_name {base : Path} {n : Bytes} (hbase : base ≠ [])
    (hn : isName n = true) : endsInSlash (append base n) = false := by
  rw [endsInSlash_append hbase (isAbsolute_of_isName hn) (isName_iff.1 hn).1]
  exact endsInSlash_of_isName hn

theorem withoutSlashes_of_endsInSlash {p : Path} (h : endsInSlash p = false) :
    withoutSlashes p = p := by
  by_cases hp : p = []
  · subst hp
    rfl
  · rw [← List.dropLast_append_getLast hp] at h ⊢
    have hlast : (p.getLast hp == slash) = false := by simpa [endsInSlash] using h
    simp [withoutSlashes, hlast]

theorem pathBelow_concat (dir : Path) (names : Location) (n : Bytes) :
    pathBelow dir (names ++ [n]) = append (pathBelow dir names) n := by
  rw [pathBelow, List.foldl_append]
  rfl

section pathBelow
variable {dir : Path} {names : Location}

theorem prefix_pathBelow (hdir : dir ≠ []) (h : ∀ n ∈ names, isName n = true) :
    dir <+: pathBelow dir names := by
  induction names generalizing dir with
  | nil => exact List.prefix_rfl
  | cons n rest ih =>
    have hn := h n (by simp)
    have hstep := extends_append hdir (isAbsolute_of_isName hn) (isName_iff.1 hn).1
    exact hstep.isPrefix.trans
      (ih (append_ne_nil hdir n) fun m hm => h m (List.mem_cons_of_mem _ hm))

theorem extends_pathBelow (hdir : dir ≠ []) (hne : names ≠ []) (h : ∀ n ∈ names, isName n = true) :
    Extends dir (pathBelow dir names) names :=
  ⟨isAbsolute_pathBelow hdir h, namesOf_pathBelow h, hne, prefix_pathBelow hdir h⟩

theorem endsInSlash_pathBelow (hdir : dir ≠ []) (hne : names ≠ [])
    (h : ∀ n ∈ names, isName n = true) : endsInSlash (pathBelow dir names) = false := by
  rw [← List.dropLast_append_getLast hne, pathBelow_concat]
  exact endsInSlash_append_name (pathBelow_ne_nil hdir) (h _ (List.getLast_mem hne))

/-- A path from a directory down leads to what stands there. -/
theorem stat_pathBelow {fs : FileSystem} {root : Location} {item : Item}
    (hroot : fs.stat true dir = .ok (root, .directory)) (hne : names ≠ [])
    (hitem : fs.at? (root ++ names) = some item) (hp : IsUsable (pathBelow dir names)) :
    fs.stat false (pathBelow dir names) = .ok (root ++ names, item) := by
  have hdir := (lookup_eq_ok_iff.1 (stat_eq_ok_iff.1 hroot)).1.ne_nil
  have hnames : ∀ n ∈ names, isName n = true := fun n hn =>
    isName_of_at? hitem (List.mem_append_right _ hn)
  rw [stat_eq_ok_iff]
  apply (extends_pathBelow hdir hne hnames).lookup hroot hp
  rw [endsInSlash_pathBelow hdir hne hnames]
  exact .of_at? (at?_directory_of_append hitem hne) hitem (Or.inr ⟨rfl, Or.inl rfl⟩)

end pathBelow

section change
variable {fs fs' : FileSystem} {follow : Bool} {p : Path} {q : Place}

/-- A look-up that leads elsewhere does not notice what has changed aside. -/
theorem lookup_elsewhere {away : Location → Prop} (ha : Aside away fs fs') (hcwd : fs'.cwd = fs.cwd)
    (h : fs.lookup follow p = .ok q) (hq : ¬ away q.loc) : fs'.lookup follow p = .ok q := by
  obtain ⟨hp, hresolves⟩ := lookup_eq_ok_iff.1 h
  rw [lookup_eq_ok_iff, start, hcwd]
  exact ⟨hp, hresolves.elsewhere ha hq⟩

theorem lookup_there (ha : Aside (· = q.loc) fs fs') (hcwd : fs'.cwd = fs.cwd)
    (hleaf : ∀ item, fs'.at? q.loc = some item → item.isLeaf = true)
    (h : fs.lookup follow p = .ok q) (hasked : q.asked = false) :
    ∃ q', fs'.lookup follow p = .ok q' ∧ q'.loc = q.loc ∧
      (q.item? ≠ some .directory → q'.item? ≠ some .directory) := by
  obtain ⟨hp, hresolves⟩ := lookup_eq_ok_iff.1 h
  obtain ⟨q', hresolves', hloc, -, hitem⟩ := hresolves.there ha hleaf hasked
  refine ⟨q', ?_, hloc, hitem⟩
  rw [lookup_eq_ok_iff, start, hcwd]
  exact ⟨hp, hresolves'⟩

/-- A path that led to a free place leads to the directory that has been made there. -/
theorem lookup_filled {place : Location} {n : Bytes} {asked : Bool}
    (ha : Aside (place ++ [n] <+: ·) fs fs') (hcwd : fs'.cwd = fs.cwd)
    (hnow : fs'.at? (place ++ [n]) = some .directory)
    (h : fs.lookup follow p = .ok (.free place n asked)) :
    fs'.lookup follow p = .ok (.occupied (place ++ [n]) .directory) := by
  obtain ⟨hp, hresolves⟩ := lookup_eq_ok_iff.1 h
  rw [lookup_eq_ok_iff, start, hcwd]
  exact ⟨hp, hresolves.filled ha hnow⟩

/-- Where nothing stands, whatever is made later is aside. -/
theorem AgreeOutside.aside {loc : Location} (h : AgreeOutside loc fs fs')
    (hnone : fs.at? loc = none) : Aside (loc <+: ·) fs fs' := by
  refine ⟨fun ho => h.at? ho, fun {o item} ho hitem => ?_⟩
  rw [at?_eq_none_below hnone ho] at hitem
  cases hitem

end change

end SparseTransfer.FileSystem
