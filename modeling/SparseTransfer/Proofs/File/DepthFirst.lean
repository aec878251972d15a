import Mathlib.Data.List.Sort
import SparseTransfer.File.Walk
import SparseTransfer.Proofs.File.Places

/- The order of walks. What is below a place is listed depth first, the entries of each directory in
the order of their names, and nothing but a directory is gone into. -/
namespace SparseTransfer.FileSystem

/-- The names in a directory, in their order as bytes. -/
def sortedNames (fs : FileSystem) (dir : Location) : List Bytes :=
  (fs.names dir).mergeSort fun a b => decide (a ≤ b)

/-- An entry of a directory, if there is one, and what is in it if it is a directory itself. -/
def withContent (name : Bytes) (content : List (Location × Item)) :
    Option Item → List (Location × Item)
  | none => []
  | some .directory => ([name], .directory) :: content.map fun e => (name :: e.1, e.2)
  | some item => [([name], item)]

/-- Everything below a place, down to some level, with its names from there on: the entries one
after the other, each before what is in it. -/
def depthFirst (fs : FileSystem) : (levels : Nat) → Location → List (Location × Item)
  | 0, _ => []
  | levels + 1, loc =>
    (fs.sortedNames loc).flatMap fun name =>
      withContent name (depthFirst fs levels (loc ++ [name])) (fs.at? (loc ++ [name]))

/-- How deep the deepest item stands. -/
def height (fs : FileSystem) : Nat := (fs.items.map (·.1.length)).foldr max 0

theorem mem_withContent {name : Bytes} {content : List (Location × Item)} {found : Option Item}
    {names : Location} {item : Item} :
    (names, item) ∈ withContent name content found ↔ (names = [name] ∧ found = some item) ∨
      found = some .directory ∧ ∃ rest, names = name :: rest ∧ (rest, item) ∈ content := by
  rcases found with _ | (_ | _ | _ | _ | _) <;> simp [withContent, and_comm, eq_comm]

theorem mem_depthFirst {fs : FileSystem} {levels : Nat} {loc names : Location} {item : Item} :
    (names, item) ∈ fs.depthFirst levels loc ↔
      names ≠ [] ∧ names.length ≤ levels ∧ fs.at? (loc ++ names) = some item := by
  induction levels generalizing loc names with
  | zero =>
    constructor
    · intro h
      cases h
    · rintro ⟨hne, hlen, -⟩
      exact absurd (List.length_eq_zero_iff.1 (Nat.le_zero.1 hlen)) hne
  | succ levels ih =>
    simp only [depthFirst, List.mem_flatMap, mem_withContent, ih]
    constructor
    · rintro ⟨name, -, ⟨rfl, hitem⟩ | ⟨-, rest, rfl, hrest, hlen, hitem⟩⟩
      · exact ⟨by simp, by simp, hitem⟩
      · rw [List.append_cons]
        exact ⟨by simp, by simpa using hlen, hitem⟩
    · rintro ⟨hne, hlen, hitem⟩
      obtain ⟨name, rest, rfl⟩ := List.exists_cons_of_ne_nil hne
      rw [List.append_cons] at hitem
      by_cases hrest : rest = []
      · subst hrest
        rw [List.append_nil] at hitem
        exact ⟨name, List.mem_mergeSort.2 (mem_names_iff.2 ⟨item, hitem⟩), Or.inl ⟨rfl, hitem⟩⟩
      · have hdir := at?_directory_of_append hitem hrest
        exact ⟨name, List.mem_mergeSort.2 (mem_names_iff.2 ⟨_, hdir⟩),
          Or.inr ⟨hdir, rest, rfl, hrest, by simpa using hlen, hitem⟩⟩

theorem pairwise_sortedNames (fs : FileSystem) (dir : Location) :
    (fs.sortedNames dir).Pairwise (· < ·) := by
  have hle : (fs.sortedNames dir).Pairwise fun a b => decide (a ≤ b) = true :=
    List.pairwise_mergeSort (fun a b c => by simpa using Std.le_trans) (fun a b => by
      simpa using Std.le_total) _
  have hne : (fs.sortedNames dir).Nodup :=
    (List.mergeSort_perm _ _).nodup_iff.2 (fs.nodup_names dir)
  refine (hle.and hne).imp fun {a b} h => Std.lt_of_le_of_ne (by simpa using h.1) h.2

theorem pairwise_withContent {name : Bytes} {content : List (Location × Item)} {found : Option Item}
    (hsorted : content.Pairwise fun a b => a.1 < b.1) (hne : ∀ e ∈ content, e.1 ≠ []) :
    (withContent name content found).Pairwise fun a b => a.1 < b.1 := by
  rcases found with _ | (_ | _ | _ | _ | _)
  · exact .nil
  · refine List.pairwise_cons.2 ⟨?_, List.pairwise_map.2 (hsorted.imp fun h => ?_)⟩
    · intro e he
      obtain ⟨inner, hinner, rfl⟩ := List.mem_map.1 he
      obtain ⟨n, rest, hn⟩ := List.exists_cons_of_ne_nil (hne inner hinner)
      rw [hn]
      exact List.cons_lt_cons_iff.2 (Or.inr ⟨rfl, List.nil_lt_cons _ _⟩)
    · exact List.cons_lt_cons_iff.2 (Or.inr ⟨rfl, h⟩)
  all_goals exact List.pairwise_singleton _ _

/-- The order is that of the names, from the first on. -/
theorem pairwise_depthFirst (fs : FileSystem) (levels : Nat) (loc : Location) :
    (fs.depthFirst levels loc).Pairwise fun a b => a.1 < b.1 := by
  induction levels generalizing loc with
  | zero => exact .nil
  | succ levels ih =>
    refine List.pairwise_flatMap.2 ⟨fun name _ => ?_, ?_⟩
    · exact pairwise_withContent (ih _) fun e he => (mem_depthFirst.1 he).1
    · refine (fs.pairwise_sortedNames loc).imp fun {n m} hnm a ha b hb => ?_
      have hfirst {name : Bytes} {content : List (Location × Item)} {found : Option Item}
          {e : Location × Item} (he : e ∈ withContent name content found) :
          ∃ rest, e.1 = name :: rest := by
        rcases mem_withContent.1 he with ⟨h, -⟩ | ⟨-, rest, h, -⟩
        · exact ⟨[], h⟩
        · exact ⟨rest, h⟩
      obtain ⟨rest, hrest⟩ := hfirst ha
      obtain ⟨rest', hrest'⟩ := hfirst hb
      rw [hrest, hrest']
      exact List.cons_lt_cons_iff.2 (Or.inl hnm)

theorem length_le_height {fs : FileSystem} {loc : Location} {item : Item}
    (h : fs.at? loc = some item) : loc.length ≤ fs.height := by
  by_cases hloc : loc = []
  · subst hloc
    exact Nat.zero_le _
  · have hmem : loc.length ∈ fs.items.map (·.1.length) :=
      List.mem_map.2 ⟨_, mem_of_at? hloc h, rfl⟩
    have hmax (ns : List Nat) (n : Nat) (hn : n ∈ ns) : n ≤ ns.foldr max 0 := by
      induction ns with
      | nil => cases hn
      | cons m rest ih =>
        rcases List.mem_cons.1 hn with rfl | hn
        · exact Nat.le_max_left _ _
        · exact (ih hn).trans (Nat.le_max_right _ _)
    exact hmax _ _ hmem

theorem mem_below {fs : FileSystem} {loc names : Location} {item : Item} :
    (names, item) ∈ fs.below loc ↔ names ≠ [] ∧ fs.at? (loc ++ names) = some item := by
  simp only [below, List.mem_mergeSort, List.mem_map, List.mem_filter, Bool.and_eq_true, bne_iff_ne,
    isBelow, List.isPrefixOf_iff_prefix]
  constructor
  · rintro ⟨⟨place, found⟩, ⟨hmem, ⟨rest, rfl⟩, hne⟩, hcut⟩
    rw [List.drop_left] at hcut
    cases hcut
    exact ⟨fun hnil => hne (by simp [hnil]), at?_eq_some_of_mem hmem⟩
  · rintro ⟨hne, hitem⟩
    refine ⟨(loc ++ names, item),
      ⟨mem_of_at? (by simp [hne]) hitem, List.prefix_append _ _, ?_⟩, ?_⟩
    · simpa using hne
    · rw [List.drop_left]

theorem pairwise_below (fs : FileSystem) (loc : Location) :
    (fs.below loc).Pairwise fun a b => a.1 < b.1 := by
  have hle : (fs.below loc).Pairwise fun a b => decide (a.1 ≤ b.1) = true :=
    List.pairwise_mergeSort (fun a b c => by simpa using Std.le_trans) (fun a b => by
      simpa using Std.le_total) _
  have hne : (fs.below loc).Pairwise fun a b => a.1 ≠ b.1 := by
    refine ((List.mergeSort_perm _ _).pairwise_iff fun h => Ne.symm h).2 (List.pairwise_map.2 ?_)
    have hplaces : fs.items.Pairwise fun a b => a.1 ≠ b.1 := List.pairwise_map.1 fs.distinct
    refine (hplaces.filter _).imp_of_mem fun {a b} ha hb hab heq => hab ?_
    -- both places begin with that of the directory
    have hsplit (e : Location × Item) (he : isBelow loc e.1 = true) :
        e.1 = loc ++ e.1.drop loc.length := by
      obtain ⟨rest, hrest⟩ := List.isPrefixOf_iff_prefix.1 he
      rw [← hrest, List.drop_left]
    have ha' := (Bool.and_eq_true_iff.1 (List.mem_filter.1 ha).2).1
    have hb' := (Bool.and_eq_true_iff.1 (List.mem_filter.1 hb).2).1
    rw [hsplit a ha', hsplit b hb']
    exact congrArg (loc ++ ·) heq
  exact (hle.and hne).imp fun {a b} h => Std.lt_of_le_of_ne (by simpa using h.1) h.2

/-- Lists in one order with the same members are equal. -/
theorem eq_of_pairwise {xs ys : List (Location × Item)} (hxs : xs.Pairwise fun a b => a.1 < b.1)
    (hys : ys.Pairwise fun a b => a.1 < b.1) (h : ∀ e, e ∈ xs ↔ e ∈ ys) : xs = ys := by
  have _ : Std.Irrefl fun a b : Location × Item => a.1 < b.1 := ⟨fun a => List.lt_irrefl a.1⟩
  have _ : Std.Antisymm fun a b : Location × Item => a.1 < b.1 :=
    ⟨fun a b hab hba => absurd hba (List.lt_asymm hab)⟩
  exact hxs.eq_of_mem_iff hys h

/-- A walk through a directory goes depth first. -/
theorem below_eq_depthFirst (fs : FileSystem) (loc : Location) :
    fs.below loc = fs.depthFirst fs.height loc := by
  apply eq_of_pairwise (fs.pairwise_below loc) (fs.pairwise_depthFirst _ loc)
  rintro ⟨names, item⟩
  rw [mem_below, mem_depthFirst]
  constructor
  · rintro ⟨hne, hitem⟩
    have hlen := length_le_height hitem
    rw [List.length_append] at hlen
    exact ⟨hne, by omega, hitem⟩
  · rintro ⟨hne, -, hitem⟩
    exact ⟨hne, hitem⟩

end SparseTransfer.FileSystem
