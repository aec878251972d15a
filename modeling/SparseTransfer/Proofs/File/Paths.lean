import Mathlib.Data.List.Basic
import SparseTransfer.File.Walk

/- The names and the components of paths that are put together from others, or taken apart. -/
namespace SparseTransfer
open Text

namespace Path

/-- What the components begin with before the first name. -/
def leading (p : Path) : List Component :=
  if isAbsolute p then [.root]
  else if (split (· == slash) p).head? = some [dot] then [.here]
  else []

/-- The components that count wherever they stand. -/
def innerParts (p : Path) : List Component := (split (· == slash) p).filterMap Component.ofPiece

theorem components_eq (p : Path) : components p = leading p ++ innerParts p := rfl

theorem append_of_relative {base p : Path} (hbase : base ≠ []) (hp : isAbsolute p = false) :
    ∃ front, append base p = front ++ slash :: p ∧ (base = front ∨ base = front ++ [slash]) := by
  by_cases hlast : base.getLast? = some slash
  · obtain ⟨front, rfl⟩ := List.getLast?_eq_some_iff.1 hlast
    exact ⟨front, by simp [append, hp], Or.inr rfl⟩
  · exact ⟨base, by simp [append, hp, hbase, hlast], Or.inl rfl⟩

theorem ne_nil_of_isAbsolute {p : Path} (h : isAbsolute p = true) : p ≠ [] := by
  rintro rfl
  cases h

theorem append_nil_left {p : Path} : append [] p = p := by
  simp [append]

theorem append_ne_nil {base : Path} (hbase : base ≠ []) (p : Path) : append base p ≠ [] := by
  by_cases hp : isAbsolute p = true
  · rw [append, if_pos hp]
    exact ne_nil_of_isAbsolute hp
  · rw [Bool.not_eq_true] at hp
    obtain ⟨front, happ, _⟩ := append_of_relative hbase hp
    rw [happ]
    simp

/-- Empty pieces apart, the pieces of a path below another are those of both. -/
theorem filterMap_split_append {f : Bytes → Option β} (hf : f [] = none) (base : Path) {p : Path}
    (hp : isAbsolute p = false) :
    (split (· == slash) (append base p)).filterMap f =
      (split (· == slash) base).filterMap f ++ (split (· == slash) p).filterMap f := by
  by_cases hbase : base = []
  · subst hbase
    simp [append_nil_left, split, hf]
  · obtain ⟨front, happ, hfront⟩ := append_of_relative hbase hp
    rw [happ, split_append_cons (by simp), List.filterMap_append]
    rcases hfront with rfl | rfl
    · rfl
    · rw [split_append_cons (by simp)]
      simp [split, hf]

theorem inner_append (base : Path) {p : Path} (hp : isAbsolute p = false) :
    innerParts (append base p) = innerParts base ++ innerParts p :=
  filterMap_split_append rfl base hp

theorem isAbsolute_append {base p : Path} (hbase : base ≠ []) (hp : isAbsolute p = false) :
    isAbsolute (append base p) = isAbsolute base := by
  obtain ⟨front, happ, hfront⟩ := append_of_relative hbase hp
  rw [happ]
  rcases hfront with rfl | rfl
  · cases base with
    | nil => exact absurd rfl hbase
    | cons b rest => rfl
  · cases front <;> rfl

theorem leading_append {base p : Path} (hbase : base ≠ []) (hp : isAbsolute p = false) :
    leading (append base p) = leading base := by
  have hhead (xs ys : List Bytes) (hxs : xs ≠ []) : (xs ++ ys).head? = xs.head? := by
    cases xs with
    | nil => exact absurd rfl hxs
    | cons x xs => rfl
  have hpieces : (split (· == slash) (append base p)).head? = (split (· == slash) base).head? := by
    obtain ⟨front, happ, hfront⟩ := append_of_relative hbase hp
    rw [happ, split_append_cons (by simp), hhead _ _ (split_ne_nil _ _)]
    rcases hfront with rfl | rfl
    · rfl
    · rw [split_append_cons (by simp), hhead _ _ (split_ne_nil _ _)]
  rw [leading, leading, isAbsolute_append hbase hp, hpieces]

theorem components_append {base p : Path} (hbase : base ≠ []) (hp : isAbsolute p = false) :
    components (append base p) = components base ++ innerParts p := by
  rw [components_eq, components_eq, leading_append hbase hp, inner_append base hp,
    List.append_assoc]

/-- A component that stands for itself between slashes. -/
def Component.IsInner : Component → Prop
  | .parent => True
  | .name n => n ≠ [] ∧ slash ∉ n ∧ n ≠ [dot] ∧ n ≠ [dot, dot]
  | _ => False

theorem Component.isInner_of_mem_inner {p : Path} {c : Component} (h : c ∈ innerParts p) :
    c.IsInner := by
  obtain ⟨piece, hpiece, hc⟩ := List.mem_filterMap.1 h
  have hslash : slash ∉ piece := by
    intro hmem
    have := sep_eq_false_of_mem_split hpiece hmem
    simp at this
  cases piece with
  | nil => cases hc
  | cons b rest =>
    simp only [ofPiece] at hc
    split at hc
    · cases hc
    · next hdot =>
      split at hc
      · cases hc
        trivial
      · next hdots =>
        cases hc
        exact ⟨by simp, hslash, hdot, hdots⟩

theorem Component.ofPiece_bytes {c : Component} (h : c.IsInner) : ofPiece c.bytes = some c := by
  cases c with
  | root => exact h.elim
  | here => exact h.elim
  | parent => rfl
  | name n =>
    obtain ⟨hne, -, hdot, hdots⟩ := h
    cases n with
    | nil => exact absurd rfl hne
    | cons b rest => simp [ofPiece, bytes, hdot, hdots]

theorem Component.slash_not_mem_bytes {c : Component} (h : c.IsInner) : slash ∉ c.bytes := by
  cases c with
  | root => exact h.elim
  | here => exact h.elim
  | parent => decide
  | name n => exact h.2.1

theorem Component.bytes_ne {c : Component} (h : c.IsInner) : c.bytes ≠ [] ∧ c.bytes ≠ [dot] := by
  cases c with
  | root => exact h.elim
  | here => exact h.elim
  | parent => decide
  | name n => exact ⟨h.1, h.2.2.1⟩

theorem head?_split_of_isAbsolute {p : Path} (h : isAbsolute p = true) :
    (split (· == slash) p).head? = some [] := by
  cases p with
  | nil => cases h
  | cons b rest =>
    have hb : b = slash := by simpa [isAbsolute] using h
    subst hb
    simp [split]

theorem split_join_bytes {cs : List Component} (h : ∀ c ∈ cs, c.IsInner) (hne : cs ≠ []) :
    split (· == slash) (join [slash] (cs.map Component.bytes)) = cs.map Component.bytes := by
  apply split_join (by simpa using hne)
  intro piece hpiece
  obtain ⟨c, hc, rfl⟩ := List.mem_map.1 hpiece
  exact Component.slash_not_mem_bytes (h c hc)

theorem filterMap_ofPiece_bytes {cs : List Component} (h : ∀ c ∈ cs, c.IsInner) :
    (cs.map Component.bytes).filterMap Component.ofPiece = cs := by
  have hsome : cs.filterMap (Component.ofPiece ∘ Component.bytes) = cs.filterMap some :=
    List.filterMap_congr fun c hc => Component.ofPiece_bytes (h c hc)
  rw [List.filterMap_map, hsome, List.filterMap_some]

theorem inner_join {cs : List Component} (h : ∀ c ∈ cs, c.IsInner) :
    innerParts (join [slash] (cs.map Component.bytes)) = cs := by
  by_cases hne : cs = []
  · subst hne
    rfl
  · rw [innerParts, split_join_bytes h hne, filterMap_ofPiece_bytes h]

theorem leading_join {cs : List Component} (h : ∀ c ∈ cs, c.IsInner) :
    leading (join [slash] (cs.map Component.bytes)) = [] := by
  cases cs with
  | nil => rfl
  | cons c more =>
    obtain ⟨hempty, hdot⟩ := Component.bytes_ne (h c (by simp))
    have hhead : (split (· == slash) (join [slash] ((c :: more).map Component.bytes))).head? =
        some c.bytes := by
      rw [split_join_bytes h (by simp)]
      rfl
    have habs : isAbsolute (join [slash] ((c :: more).map Component.bytes)) = false := by
      rw [Bool.eq_false_iff]
      intro habs
      rw [head?_split_of_isAbsolute habs, Option.some.injEq] at hhead
      exact hempty hhead.symm
    rw [leading, habs, hhead, if_neg (by simp), if_neg (by simpa using hdot)]

/-- Components that came from a path, all or without the last, are those of the path they write. -/
theorem components_ofComponents {lead cs : List Component} (h : ∀ c ∈ cs, c.IsInner)
    (hlead : lead = [] ∨ lead = [.root] ∨ lead = [.here]) :
    components (ofComponents (lead ++ cs)) = lead ++ cs := by
  rcases hlead with rfl | rfl | rfl
  · have hof : ofComponents cs = join [slash] (cs.map Component.bytes) := by
      cases cs with
      | nil => rfl
      | cons c more =>
        have hc := h c (by simp)
        cases c with
        | root => exact hc.elim
        | here | parent | name n => rfl
    rw [List.nil_append, components_eq, hof, leading_join h, inner_join h, List.nil_append]
  · have hof : ofComponents ([.root] ++ cs) = slash :: join [slash] (cs.map Component.bytes) := rfl
    have hinner : innerParts (slash :: join [slash] (cs.map Component.bytes)) = cs := by
      rw [innerParts, split, if_pos (by simp), List.filterMap_cons_none rfl]
      exact inner_join h
    rw [components_eq, hof, hinner]
    rfl
  · have hof : ofComponents ([.here] ++ cs) =
        join [slash] ([dot] :: cs.map Component.bytes) := rfl
    have hsplit : split (· == slash) (join [slash] ([dot] :: cs.map Component.bytes)) =
        [dot] :: cs.map Component.bytes := by
      apply split_join (by simp)
      intro piece hpiece
      rcases List.mem_cons.1 hpiece with rfl | hpiece
      · decide
      · obtain ⟨c, hc, rfl⟩ := List.mem_map.1 hpiece
        exact Component.slash_not_mem_bytes (h c hc)
    have habs : isAbsolute (join [slash] ([dot] :: cs.map Component.bytes)) = false := by
      cases cs <;> rfl
    rw [components_eq, hof, leading, innerParts, habs, hsplit, List.filterMap_cons_none rfl,
      filterMap_ofPiece_bytes h]
    rfl

theorem leading_cases (p : Path) : leading p = [] ∨ leading p = [.root] ∨ leading p = [.here] := by
  simp only [leading]
  split
  · exact Or.inr (Or.inl rfl)
  · split
    · exact Or.inr (Or.inr rfl)
    · exact Or.inl rfl

theorem mem_innerParts_of_name {p : Path} {n : Bytes} (h : Component.name n ∈ components p) :
    Component.name n ∈ innerParts p := by
  rw [components_eq] at h
  refine (List.mem_append.1 h).resolve_left fun hlead => ?_
  rcases leading_cases p with heq | heq | heq <;> rw [heq] at hlead <;> simp at hlead

/-- The path without its last component has the components without the last. -/
theorem components_ofComponents_dropLast (p : Path) :
    components (ofComponents (components p).dropLast) = (components p).dropLast := by
  rw [components_eq p]
  by_cases hinner : innerParts p = []
  · rw [hinner, List.append_nil]
    have hnil : (leading p).dropLast = [] := by
      rcases leading_cases p with h | h | h <;> rw [h] <;> rfl
    rw [hnil]
    rfl
  · rw [List.dropLast_append_of_ne_nil hinner]
    exact components_ofComponents
      (fun c hc => Component.isInner_of_mem_inner (List.dropLast_subset _ hc)) (leading_cases p)

end Path

namespace FileSystem
open SparseTransfer.Path

theorem isName_iff {n : Bytes} :
    isName n = true ↔ n ≠ [] ∧ slash ∉ n ∧ n ≠ [dot] ∧ n ≠ [dot, dot] ∧ n.length ≤ maxName := by
  simp [isName, and_assoc]

theorem isAbsolute_of_isName {n : Bytes} (h : isName n = true) : isAbsolute n = false := by
  rw [Bool.eq_false_iff]
  intro habs
  cases n with
  | nil => cases habs
  | cons b rest =>
    have hb : b = slash := by simpa [isAbsolute] using habs
    exact (isName_iff.1 h).2.1 (by simp [hb])

theorem split_of_isName {n : Bytes} (h : isName n = true) : split (· == slash) n = [n] := by
  apply split_eq_singleton
  intro b hb
  rw [beq_eq_false_iff_ne]
  rintro rfl
  exact (isName_iff.1 h).2.1 hb

theorem namesOf_of_isName {n : Bytes} (h : isName n = true) : namesOf n = [n] := by
  rw [namesOf, split_of_isName h]
  simp [(isName_iff.1 h).1]

theorem inner_of_isName {n : Bytes} (h : isName n = true) : innerParts n = [.name n] := by
  obtain ⟨hne, hslash, hdot, hdots, -⟩ := isName_iff.1 h
  rw [innerParts, split_of_isName h]
  have hpiece : Component.ofPiece n = some (.name n) :=
    Component.ofPiece_bytes (c := .name n) ⟨hne, hslash, hdot, hdots⟩
  simp [hpiece]

theorem namesOf_append (base : Path) {p : Path} (hp : isAbsolute p = false) :
    namesOf (append base p) = namesOf base ++ namesOf p := by
  simp only [namesOf, ← List.filterMap_eq_filter]
  exact filterMap_split_append rfl base hp

theorem namesOf_append_name (base : Path) {n : Bytes} (h : isName n = true) :
    namesOf (append base n) = namesOf base ++ [n] := by
  rw [namesOf_append base (isAbsolute_of_isName h), namesOf_of_isName h]

theorem components_append_name {base : Path} (hbase : base ≠ []) {n : Bytes}
    (h : isName n = true) : components (append base n) = components base ++ [.name n] := by
  rw [components_append hbase (isAbsolute_of_isName h), inner_of_isName h]

section pathBelow
variable {dir : Path} {names : Location}

theorem pathBelow_ne_nil (hdir : dir ≠ []) : pathBelow dir names ≠ [] := by
  induction names generalizing dir with
  | nil => exact hdir
  | cons n rest ih => exact ih (append_ne_nil hdir n)

theorem isAbsolute_pathBelow (hdir : dir ≠ []) (h : ∀ n ∈ names, isName n = true) :
    isAbsolute (pathBelow dir names) = isAbsolute dir := by
  induction names generalizing dir with
  | nil => rfl
  | cons n rest ih =>
    have hrest := ih (append_ne_nil hdir n) fun m hm => h m (List.mem_cons_of_mem _ hm)
    exact hrest.trans (isAbsolute_append hdir (isAbsolute_of_isName (h n (by simp))))

theorem namesOf_pathBelow (h : ∀ n ∈ names, isName n = true) :
    namesOf (pathBelow dir names) = namesOf dir ++ names := by
  induction names generalizing dir with
  | nil => simp [pathBelow]
  | cons n rest ih =>
    have hrest := @ih (append dir n) fun m hm => h m (List.mem_cons_of_mem _ hm)
    rw [namesOf_append_name dir (h n (by simp)), List.append_assoc] at hrest
    exact hrest

theorem inner_pathBelow (h : ∀ n ∈ names, isName n = true) :
    innerParts (pathBelow dir names) = innerParts dir ++ names.map Component.name := by
  induction names generalizing dir with
  | nil => simp [pathBelow]
  | cons n rest ih =>
    have hn := h n (by simp)
    have hrest := @ih (append dir n) fun m hm => h m (List.mem_cons_of_mem _ hm)
    rw [inner_append dir (isAbsolute_of_isName hn), inner_of_isName hn, List.append_assoc] at hrest
    exact hrest

theorem components_pathBelow (hdir : dir ≠ []) (h : ∀ n ∈ names, isName n = true) :
    components (pathBelow dir names) = components dir ++ names.map Component.name := by
  induction names generalizing dir with
  | nil => simp [pathBelow]
  | cons n rest ih =>
    have hrest := ih (append_ne_nil hdir n) fun m hm => h m (List.mem_cons_of_mem _ hm)
    rw [components_append_name hdir (h n (by simp)), List.append_assoc] at hrest
    exact hrest

end pathBelow

end FileSystem
end SparseTransfer
