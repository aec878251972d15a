import SparseTransfer.Archive.Folder
import SparseTransfer.Proofs.File.Resolution
import SparseTransfer.Proofs.Text.Utf8

/- The names of entries. They can be cut at their slashes into the shown names of a path again, so
two files have one name only if all names on their paths are shown alike. -/
namespace SparseTransfer
open FileSystem

namespace Archive

/-- The shown names in order, with slashes between them. -/
def joined (names : Location) : String := String.intercalate "/" (names.map Utf8.shown)

/-- The name with which the entries of a folder begin: its last component, if it has one. -/
def ownName (folder : Path) : Location :=
  match (Path.components folder).getLast? with
  | none | some .root => []
  | some c => [c.bytes]

section names
variable {folder : Path} {n : Bytes} {xs ys : Location}

theorem ownName_of_getLast? (hn : (Path.components folder).getLast? = some (.name n)) :
    ownName folder = [n] := by
  rw [ownName, hn]
  rfl

/-- The name of an entry: the last component of the folder and the names from there on. -/
theorem entryName_pathBelow (hfolder : folder ≠ []) {names : Location}
    (hnames : ∀ m ∈ names, isName m = true) :
    entryName (baseOf folder) (pathBelow folder names) =
      .ok (joined (ownName folder ++ names)) := by
  have hparts := components_pathBelow hfolder hnames
  -- what the base leaves of the folder is its own name
  have hown : ∃ own, Path.components folder = Path.components (baseOf folder) ++ own ∧
      own.map Path.Component.bytes = ownName folder := by
    rw [baseOf, Path.parent?, ownName]
    cases hlast : (Path.components folder).getLast? with
    | none => exact ⟨[], by rw [List.append_nil]; rfl, rfl⟩
    | some c =>
      have hcut : Path.components folder =
          Path.components (Path.ofComponents (Path.components folder).dropLast) ++ [c] := by
        obtain ⟨front, hfront⟩ := List.getLast?_eq_some_iff.1 hlast
        rw [Path.components_ofComponents_dropLast, hfront, List.dropLast_concat]
      cases c with
      | root => exact ⟨[], by rw [List.append_nil]; rfl, rfl⟩
      | here | parent | name m => exact ⟨_, hcut, rfl⟩
  obtain ⟨own, hsplit, hbytes⟩ := hown
  rw [hsplit, List.append_assoc] at hparts
  have hpre : (Path.components (baseOf folder)).isPrefixOf
      (Path.components (baseOf folder) ++ (own ++ names.map Path.Component.name)) = true :=
    List.isPrefixOf_iff_prefix.2 (List.prefix_append _ _)
  simp only [entryName, hparts, hpre, if_true, List.drop_left, joined, ← hbytes, List.map_append,
    List.map_map]
  rfl

theorem isPiece_of_isName (h : isName n = true) : IsPiece n :=
  ⟨(isName_iff.1 h).1, (isName_iff.1 h).2.1⟩

theorem isPiece_ownName (folder : Path) : ∀ m ∈ ownName folder, IsPiece m := by
  intro m hm
  rw [ownName] at hm
  cases hlast : (Path.components folder).getLast? with
  | none =>
    rw [hlast] at hm
    cases hm
  | some c =>
    rw [hlast] at hm
    have hmem := List.mem_of_getLast? hlast
    cases c with
    | root => cases hm
    | here =>
      rw [List.mem_singleton.1 hm]
      exact ⟨by decide, by decide⟩
    | parent =>
      rw [List.mem_singleton.1 hm]
      exact ⟨by decide, by decide⟩
    | name last =>
      rw [List.mem_singleton.1 hm]
      have hinner := Path.mem_innerParts_of_name hmem
      exact ⟨(Path.Component.bytes_ne (Path.Component.isInner_of_mem_inner hinner)).1,
        Path.Component.slash_not_mem_bytes (Path.Component.isInner_of_mem_inner hinner)⟩

theorem toList_joined (names : Location) :
    (joined names).toList = ['/'].intercalate (names.map Utf8.decodeLossy) := by
  rw [joined, String.toList_intercalate, List.map_map]
  congr 1
  exact List.map_congr_left fun n _ => String.toList_ofList

theorem slash_notMem_decodeLossy (h : Path.slash ∉ n) : '/' ∉ Utf8.decodeLossy n := by
  intro hmem
  exact h (Utf8.mem_of_mem_decodeLossy (by decide) hmem (by decide))

/-- Between the slashes of a name stand the shown names. -/
theorem splitOn_joined (hne : xs ≠ []) (h : ∀ m ∈ xs, IsPiece m) :
    (joined xs).toList.splitOn '/' = xs.map Utf8.decodeLossy := by
  rw [toList_joined]
  apply List.splitOn_intercalate
  · intro piece hpiece
    obtain ⟨m, hm, rfl⟩ := List.mem_map.1 hpiece
    exact slash_notMem_decodeLossy (h m hm).2
  · simpa using hne

theorem joined_eq_empty_iff (h : ∀ m ∈ xs, IsPiece m) : joined xs = joined [] ↔ xs = [] := by
  constructor
  · intro heq
    by_contra hne
    have hsplit := splitOn_joined hne h
    rw [heq] at hsplit
    have hone : xs.map Utf8.decodeLossy = [[]] := hsplit.symm
    obtain ⟨m, rest, rfl⟩ := List.exists_cons_of_ne_nil hne
    exact (h m (by simp)).1 (Utf8.decodeLossy_eq_nil (List.cons.inj hone).1)
  · rintro rfl
    rfl

/-- Names are equal if and only if the same is shown for each of their parts. -/
theorem joined_inj (hxs : ∀ m ∈ xs, IsPiece m) (hys : ∀ m ∈ ys, IsPiece m) :
    joined xs = joined ys ↔ xs.map Utf8.decodeLossy = ys.map Utf8.decodeLossy := by
  constructor
  · intro heq
    by_cases hx : xs = []
    · subst hx
      rw [(joined_eq_empty_iff hys).1 heq.symm]
    · by_cases hy : ys = []
      · subst hy
        exact absurd ((joined_eq_empty_iff hxs).1 heq) hx
      · rw [← splitOn_joined hx hxs, heq, splitOn_joined hy hys]
  · intro heq
    rw [← String.toList_inj, toList_joined, toList_joined, heq]

/-- What is shown of names that are text gives them back. -/
theorem map_encode_decodeLossy (h : ∀ m ∈ xs, (Utf8.decode? m).isSome = true) :
    (xs.map Utf8.decodeLossy).map Utf8.encode = xs := by
  rw [List.map_map]
  conv_rhs => rw [← List.map_id xs]
  exact List.map_congr_left fun m hm => Utf8.encode_decodeLossy (h m hm)

end names

end Archive
end SparseTransfer
