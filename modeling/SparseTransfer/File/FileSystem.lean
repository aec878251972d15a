import SparseTransfer.Archive.Image
import SparseTransfer.File.Path

/- A file system: what stands at each place, and the directory in which relative paths begin. -/
namespace SparseTransfer

/-- A place, as the names from the root down to it. -/
abbrev Location := List Bytes

/-- What is in a file: bytes, or an archive that was written into it. -/
inductive Content where
  | plain (bytes : Bytes)
  | archive (entries : List Archive.Entry)
  deriving Repr, DecidableEq

namespace Content

def bytes : Content → Bytes
  | .plain b => b
  | .archive entries => Archive.image entries

def size (c : Content) : Nat := c.bytes.length

end Content

structure FileData where
  permissions : Nat
  content : Content
  deriving Repr, DecidableEq

inductive Item where
  /-- A directory can be listed by everybody. -/
  | directory
  | file (data : FileData)
  | link (target : Path)
  | socket
  /-- A device that takes everything and gives nothing. -/
  | device
  deriving Repr, DecidableEq

namespace Item

def isDirectory : Item → Bool
  | .directory => true
  | _ => false

def isFile : Item → Bool
  | .file _ => true
  | _ => false

end Item

/-- Names may have this many bytes. -/
def FileSystem.maxName : Nat := 255

/-- What can name an entry of a directory. Paths that hold the byte that ends names are refused
where they are looked up. -/
def FileSystem.isName (n : Bytes) : Bool :=
  !n.isEmpty && !n.contains Path.slash && n != [Path.dot] && n != [Path.dot, Path.dot] &&
    decide (n.length ≤ maxName)

/-- The root is a directory that is always there and is not listed. -/
structure FileSystem where
  items : List (Location × Item)
  /-- Where relative paths begin. -/
  cwd : Location
  distinct : (items.map (·.1)).Nodup
  /-- Everything stands in a directory. -/
  inDirectory : ∀ e ∈ items, e.1 ≠ [] ∧
    (e.1.dropLast = [] ∨ (e.1.dropLast, Item.directory) ∈ items)
  named : ∀ e ∈ items, ∀ name ∈ e.1, FileSystem.isName name = true

namespace FileSystem

def empty : FileSystem := ⟨[], [], by simp, by simp, by simp⟩

/-- What stands at a place. -/
def at? (fs : FileSystem) (loc : Location) : Option Item :=
  if loc = [] then some .directory else (fs.items.find? (·.1 == loc)).map (·.2)

def names (fs : FileSystem) (dir : Location) : List Bytes :=
  fs.items.filterMap fun e => if e.1.dropLast == dir then e.1.getLast? else none

@[simp] theorem at?_root (fs : FileSystem) : fs.at? [] = some .directory := by simp [at?]

theorem mem_of_at? {fs : FileSystem} {loc : Location} {item : Item} (hloc : loc ≠ [])
    (h : fs.at? loc = some item) : (loc, item) ∈ fs.items := by
  simp only [at?, hloc, if_false, Option.map_eq_some_iff] at h
  obtain ⟨e, he, rfl⟩ := h
  have hl : e.1 = loc := by simpa using List.find?_some he
  have := List.mem_of_find?_eq_some he
  rw [← hl]
  exact this

theorem not_mem_of_at?_eq_none {fs : FileSystem} {loc : Location} (h : fs.at? loc = none) :
    loc ∉ fs.items.map (·.1) := by
  have hloc : loc ≠ [] := by
    rintro rfl
    simp at h
  simp only [at?, hloc, if_false, Option.map_eq_none_iff, List.find?_eq_none] at h
  intro hm
  obtain ⟨e, he, hel⟩ := List.mem_map.1 hm
  exact h e he (by simp [hel])

/-- Puts an item into a directory, where nothing of that name is yet. -/
def insert (fs : FileSystem) (dir : Location) (name : Bytes) (item : Item) : FileSystem :=
  if h : fs.at? dir = some .directory ∧ fs.at? (dir ++ [name]) = none ∧ isName name = true then
    { fs with
      items := (dir ++ [name], item) :: fs.items
      distinct := List.nodup_cons.2 ⟨not_mem_of_at?_eq_none h.2.1, fs.distinct⟩
      inDirectory := by
        intro e he
        rcases List.mem_cons.1 he with rfl | he
        · refine ⟨by simp, ?_⟩
          by_cases hd : dir = []
          · left
            simp [hd]
          · right
            simp [mem_of_at? hd h.1]
        · obtain ⟨hne, hp⟩ := fs.inDirectory e he
          exact ⟨hne, hp.imp_right fun hp => List.mem_cons_of_mem _ hp⟩
      named := by
        intro e he n hn
        rcases List.mem_cons.1 he with rfl | he
        · rcases List.mem_append.1 hn with hn | hn
          · have hd : dir ≠ [] := List.ne_nil_of_mem hn
            exact fs.named _ (mem_of_at? hd h.1) n hn
          · rw [List.mem_singleton.1 hn]
            exact h.2.2
        · exact fs.named e he n hn }
  else fs

/-- An item after the regular file at `loc` has changed. -/
def changeItem (loc : Location) (change : FileData → FileData) (e : Location × Item) :
    Location × Item :=
  match e with
  | (l, .file data) => if l = loc then (l, .file (change data)) else (l, .file data)
  | e => e

@[simp] theorem changeItem_fst (loc : Location) (change : FileData → FileData)
    (e : Location × Item) : (changeItem loc change e).1 = e.1 := by
  obtain ⟨l, item⟩ := e
  cases item <;> simp only [changeItem]
  split <;> rfl

theorem changeItem_of_ne {loc : Location} {e : Location × Item} (h : e.1 ≠ loc)
    (change : FileData → FileData) : changeItem loc change e = e := by
  obtain ⟨l, item⟩ := e
  cases item <;> simp only [changeItem]
  exact if_neg h

/-- A directory is no regular file. -/
theorem changeItem_directory (loc l : Location) (change : FileData → FileData) :
    changeItem loc change (l, .directory) = (l, .directory) := rfl

def changeFile (fs : FileSystem) (loc : Location) (change : FileData → FileData) : FileSystem :=
  { fs with
    items := fs.items.map (changeItem loc change)
    distinct := by
      have : (fs.items.map (changeItem loc change)).map (·.1) = fs.items.map (·.1) := by
        simp [List.map_map, Function.comp_def]
      rw [this]
      exact fs.distinct
    inDirectory := by
      intro e' he'
      obtain ⟨e, he, rfl⟩ := List.mem_map.1 he'
      obtain ⟨hne, hp⟩ := fs.inDirectory e he
      rw [changeItem_fst]
      exact ⟨hne, hp.imp_right fun hp =>
        List.mem_map.2 ⟨_, hp, changeItem_directory loc _ change⟩⟩
    named := by
      intro e' he'
      obtain ⟨e, he, rfl⟩ := List.mem_map.1 he'
      rw [changeItem_fst]
      exact fs.named e he }

/-- Whether a place is `loc` or below it. -/
def isBelow (loc other : Location) : Bool := loc.isPrefixOf other

/-- Takes away what stands at a place, and all below it. The root stays. -/
def remove (fs : FileSystem) (loc : Location) : FileSystem :=
  { fs with
    items := fs.items.filter fun e => !isBelow loc e.1
    distinct := fs.distinct.sublist (List.filter_sublist.map _)
    inDirectory := by
      intro e he
      obtain ⟨he, hb⟩ := List.mem_filter.1 he
      obtain ⟨hne, hp⟩ := fs.inDirectory e he
      refine ⟨hne, hp.imp_right fun hp => List.mem_filter.2 ⟨hp, ?_⟩⟩
      cases hpar : isBelow loc e.1.dropLast with
      | false => simp
      | true =>
        have hpre : loc <+: e.1 :=
          (List.isPrefixOf_iff_prefix.1 hpar).trans (List.dropLast_prefix e.1)
        have : isBelow loc e.1 = true := List.isPrefixOf_iff_prefix.2 hpre
        simp [this] at hb
    named := fun e he => fs.named e (List.mem_filter.1 he).1 }

/-- What stands at the place of an item is that item. -/
theorem at?_eq_some_of_mem {fs : FileSystem} {loc : Location} {item : Item}
    (h : (loc, item) ∈ fs.items) : fs.at? loc = some item := by
  have hloc : loc ≠ [] := (fs.inDirectory _ h).1
  have hfind : ∀ items : List (Location × Item), (items.map (·.1)).Nodup → (loc, item) ∈ items →
      items.find? (·.1 == loc) = some (loc, item) := by
    intro items hn hm
    induction items with
    | nil => cases hm
    | cons e rest ih =>
      rw [List.map_cons, List.nodup_cons] at hn
      rcases List.mem_cons.1 hm with rfl | hm
      · simp
      · have hne : e.1 ≠ loc := by
          rintro rfl
          exact hn.1 (List.mem_map.2 ⟨_, hm, rfl⟩)
        rw [List.find?_cons_of_neg (by simpa using hne)]
        exact ih hn.2 hm
  simp [at?, hloc, hfind fs.items fs.distinct h]

theorem at?_eq_some_iff {fs : FileSystem} {loc : Location} {item : Item} (hloc : loc ≠ []) :
    fs.at? loc = some item ↔ (loc, item) ∈ fs.items :=
  ⟨mem_of_at? hloc, at?_eq_some_of_mem⟩

theorem items_insert {fs : FileSystem} {dir : Location} {name : Bytes} {item : Item}
    (hdir : fs.at? dir = some .directory) (hfree : fs.at? (dir ++ [name]) = none)
    (hname : isName name = true) :
    (fs.insert dir name item).items = (dir ++ [name], item) :: fs.items := by
  simp [insert, hdir, hfree, hname]

/-- A new item stands at its place, and nothing else changes. -/
theorem at?_insert {fs : FileSystem} {dir : Location} {name : Bytes} {item : Item}
    (hdir : fs.at? dir = some .directory) (hfree : fs.at? (dir ++ [name]) = none)
    (hname : isName name = true) (loc : Location) :
    (fs.insert dir name item).at? loc = if loc = dir ++ [name] then some item else fs.at? loc := by
  by_cases hroot : loc = []
  · subst hroot
    simp
  · simp only [at?, hroot, if_false, items_insert hdir hfree hname, List.find?_cons]
    by_cases h : loc = dir ++ [name]
    · simp [h]
    · have : (dir ++ [name] == loc) = false := by simpa using Ne.symm h
      simp [h, this]

/-- After a removal nothing stands at the place or below it, and nothing else changes. -/
theorem at?_remove (fs : FileSystem) (loc : Location) {other : Location} (h : other ≠ []) :
    (fs.remove loc).at? other = if isBelow loc other then none else fs.at? other := by
  apply Option.ext
  intro item
  rw [at?_eq_some_iff h]
  by_cases hb : isBelow loc other
  · simp [remove, hb]
  · simp [remove, hb, at?_eq_some_iff h]

/-- Changing a file changes nothing else. -/
theorem at?_changeFile_of_ne (fs : FileSystem) {loc other : Location} (h : other ≠ loc)
    (change : FileData → FileData) : (fs.changeFile loc change).at? other = fs.at? other := by
  by_cases hroot : other = []
  · subst hroot
    simp
  · apply Option.ext
    intro item
    rw [at?_eq_some_iff hroot, at?_eq_some_iff hroot]
    constructor
    · intro hm
      obtain ⟨e, he, heq⟩ := List.mem_map.1 hm
      have hne : e.1 ≠ loc := by
        rw [← changeItem_fst loc change e, heq]
        exact h
      rw [changeItem_of_ne hne] at heq
      rw [← heq]
      exact he
    · intro hm
      exact List.mem_map.2 ⟨_, hm, changeItem_of_ne h change⟩

/-- A changed file holds what the change made of it. -/
theorem at?_changeFile (fs : FileSystem) {loc : Location} {data : FileData}
    (h : fs.at? loc = some (.file data)) (change : FileData → FileData) :
    (fs.changeFile loc change).at? loc = some (.file (change data)) := by
  have hroot : loc ≠ [] := by
    rintro rfl
    simp at h
  apply at?_eq_some_of_mem
  exact List.mem_map.2 ⟨_, mem_of_at? hroot h, if_pos rfl⟩

end FileSystem
end SparseTransfer
