import SparseTransfer.Proofs.File.Paths
import SparseTransfer.Proofs.Text.Ascii
import SparseTransfer.Settings.Validation

/- Which paths are accepted as relative, said of their text, and where an accepted path leads from a
directory: down, over the names that stand between its slashes. -/
namespace SparseTransfer
open Text SparseTransfer.Path

namespace Path

/-- What stands between the slashes of a path. -/
def partsOfText (text : List Char) : List (List Char) := split (· == '/') text

/-- Empty parts and single dots lead nowhere. -/
def Leads (part : List Char) : Prop := part ≠ [] ∧ part ≠ ['.']

instance (part : List Char) : Decidable (Leads part) :=
  inferInstanceAs (Decidable (part ≠ [] ∧ part ≠ ['.']))

/-- The parts of a path that lead somewhere, spelled. -/
def namesOfText (text : List Char) : List Bytes :=
  ((partsOfText text).filter fun part => Leads part).map Utf8.encode

section text
variable {text : String} {part : List Char}

theorem split_ofText (text : String) :
    split (· == slash) (ofText text) = (partsOfText text.toList).map Utf8.encode :=
  Utf8.split_encode (a := '/') (by decide) text.toList

theorem isAbsolute_ofText : isAbsolute (ofText text) = true ↔ text.toList.head? = some '/' := by
  rw [isAbsolute, beq_iff_eq]
  exact Utf8.head?_encode (a := '/') (by decide)

theorem encode_eq_nil : Utf8.encode part = [] ↔ part = [] :=
  Utf8.encode_eq_ascii (t := []) (by simp)

theorem encode_eq_dot : Utf8.encode part = [dot] ↔ part = ['.'] :=
  Utf8.encode_eq_ascii (t := ['.']) (by simp)

theorem encode_eq_dots : Utf8.encode part = [dot, dot] ↔ part = ['.', '.'] :=
  Utf8.encode_eq_ascii (t := ['.', '.']) (by simp)

theorem ofPiece_of_not_leads (h : ¬ Leads part) :
    Component.ofPiece (Utf8.encode part) = none := by
  rcases not_and_or.1 h with hnil | hdot
  · rw [not_not.1 hnil]
    rfl
  · rw [not_not.1 hdot]
    rfl

theorem ofPiece_of_leads (h : Leads part) : Component.ofPiece (Utf8.encode part) =
    some (if part = ['.', '.'] then .parent else .name (Utf8.encode part)) := by
  have hdots := @encode_eq_dots part
  cases hbytes : Utf8.encode part with
  | nil => exact absurd (encode_eq_nil.1 hbytes) h.1
  | cons b rest =>
    have hdot : b :: rest ≠ [dot] := by
      rw [← hbytes, Ne, encode_eq_dot]
      exact h.2
    rw [hbytes] at hdots
    simp only [Component.ofPiece, hdot, if_false, hdots]
    split <;> rfl

theorem innerParts_ofText (text : String) : innerParts (ofText text) =
    ((partsOfText text.toList).filter fun part => Leads part).map fun part =>
      if part = ['.', '.'] then .parent else .name (Utf8.encode part) := by
  rw [innerParts, split_ofText]
  induction partsOfText text.toList with
  | nil => rfl
  | cons part rest ih =>
    rw [List.map_cons]
    by_cases h : Leads part
    · rw [List.filterMap_cons_some (ofPiece_of_leads h), List.filter_cons_of_pos (by simpa using h),
        List.map_cons, ih]
    · rw [List.filterMap_cons_none (ofPiece_of_not_leads h),
        List.filter_cons_of_neg (by simpa using h), ih]

theorem parent_mem_innerParts :
    .parent ∈ innerParts (ofText text) ↔ ['.', '.'] ∈ partsOfText text.toList := by
  rw [innerParts_ofText, List.mem_map]
  constructor
  · rintro ⟨part, hpart, heq⟩
    split at heq
    · next hdots => exact hdots ▸ (List.mem_filter.1 hpart).1
    · cases heq
  · exact fun h => ⟨_, List.mem_filter.2 ⟨h, by decide⟩, rfl⟩

end text

/-- How many parts of a path count whatever they are: a dot counts where a path begins, and only
there. -/
def fixedParts (base : Path) : Nat := if base = [] then 1 else 0

/-- The parts of a relative path that count when it is put behind another. -/
def countedParts (base : Path) (parts : List (List Char)) : List (List Char) :=
  parts.take (fixedParts base) ++ (parts.drop (fixedParts base)).filter fun part => Leads part

section counted
variable {base : Path} {parts : List (List Char)}

theorem length_countedParts :
    (countedParts base parts).length = parts.length ↔
      ∀ part ∈ parts.drop (fixedParts base), Leads part := by
  have hparts : parts.length =
      (parts.take (fixedParts base)).length + (parts.drop (fixedParts base)).length := by
    rw [← List.length_append, List.take_append_drop]
  rw [countedParts, List.length_append, hparts, Nat.add_left_cancel_iff,
    List.length_filter_eq_length_iff]
  simp only [decide_eq_true_eq]

theorem countedParts_eq_self :
    countedParts base parts = parts ↔ ∀ part ∈ parts.drop (fixedParts base), Leads part := by
  refine ⟨fun heq => length_countedParts.1 (congrArg List.length heq), fun hall => ?_⟩
  rw [countedParts, List.filter_eq_self.2 (by simpa using hall), List.take_append_drop]

theorem countedParts_append_nil (hne : parts ≠ []) (n : Nat) :
    countedParts base (parts ++ List.replicate n []) = countedParts base parts := by
  have hfixed : fixedParts base ≤ parts.length := by
    have hpos := List.length_pos_iff.2 hne
    rw [fixedParts]
    split <;> omega
  have hnone : (List.replicate n []).filter (fun part => Leads part) = [] := by
    rw [List.filter_replicate_of_neg (by decide)]
  rw [countedParts, List.take_append_of_le_length hfixed, List.drop_append_of_le_length hfixed,
    List.filter_append, hnone, List.append_nil]
  rfl

end counted
end Path

section rules
variable {field value : String}

/-- Of the components that can stand between slashes, only the one above is against a rule. -/
theorem Rules.findSome?_componentRule {cs : List Component} (h : ∀ c ∈ cs, c.IsInner) :
    cs.findSome? componentRule = if .parent ∈ cs then some .pathParent else none := by
  induction cs with
  | nil => rfl
  | cons c rest ih =>
    have hc := h c List.mem_cons_self
    rw [List.findSome?_cons, ih fun c hc => h c (List.mem_cons_of_mem _ hc)]
    cases c with
    | root | here => exact hc.elim
    | parent => rfl
    | name n => simp [componentRule]

/-- The rules of a relative path, in the order in which they are checked. -/
theorem Rules.checkRelativePath_eq (field value : String) : checkRelativePath field value =
    if value = "" then .error (.invalidValue field value .pathEmpty)
    else if '\x00' ∈ value.toList then .error (.invalidValue field value .pathNul)
    else if value.toList.head? = some '/' then .error (.invalidValue field value .pathAbsolute)
    else if ['.', '.'] ∈ partsOfText value.toList then
      .error (.invalidValue field value .pathParent)
    else .ok () := by
  have hrest : (innerParts (ofText value)).findSome? componentRule =
      if ['.', '.'] ∈ partsOfText value.toList then some .pathParent else none := by
    rw [findSome?_componentRule fun c hc => Component.isInner_of_mem_inner hc]
    simp only [parent_mem_innerParts]
  have hrule : (components (ofText value)).findSome? componentRule =
      if value.toList.head? = some '/' then some .pathAbsolute
      else if ['.', '.'] ∈ partsOfText value.toList then some .pathParent else none := by
    rw [components_eq, List.findSome?_append, hrest]
    by_cases habs : isAbsolute (ofText value) = true
    · rw [if_pos (isAbsolute_ofText.1 habs), leading, if_pos habs]
      rfl
    · rw [if_neg fun h => habs (isAbsolute_ofText.2 h), leading, if_neg habs]
      split <;> rfl
  rw [checkRelativePath, hrule]
  refine if_congr String.isEmpty_iff rfl (if_congr List.contains_iff_mem rfl ?_)
  by_cases habs : value.toList.head? = some '/'
  · rw [if_pos habs, if_pos habs]
  · rw [if_neg habs, if_neg habs]
    by_cases hdots : ['.', '.'] ∈ partsOfText value.toList
    · rw [if_pos hdots, if_pos hdots]
    · rw [if_neg hdots, if_neg hdots]

/-- What an accepted path is made of: characters that a path can have, and parts that do not lead
up. -/
structure IsBelow (value : String) : Prop where
  ne_empty : value ≠ ""
  noNul : '\x00' ∉ value.toList
  relative : value.toList.head? ≠ some '/'
  down : ['.', '.'] ∉ partsOfText value.toList

/-- The rule that a refused path breaks first. A slash at its beginning comes before all its
parts. -/
inductive FirstBroken (value : String) : BrokenRule → Prop
  | empty (h : value = "") : FirstBroken value .pathEmpty
  | nul (h : '\x00' ∈ value.toList) : FirstBroken value .pathNul
  | absolute (hnul : '\x00' ∉ value.toList) (h : value.toList.head? = some '/') :
      FirstBroken value .pathAbsolute
  | parent (hnul : '\x00' ∉ value.toList) (hrel : value.toList.head? ≠ some '/')
      (h : ['.', '.'] ∈ partsOfText value.toList) : FirstBroken value .pathParent

/-- A path that is not accepted breaks a rule, and the first is named. -/
theorem Rules.checkRelativePath_cases (field value : String) :
    IsBelow value ∧ checkRelativePath field value = .ok () ∨
      ∃ rule, FirstBroken value rule ∧
        checkRelativePath field value = .error (.invalidValue field value rule) := by
  rw [checkRelativePath_eq]
  by_cases hempty : value = ""
  · exact Or.inr ⟨_, .empty hempty, if_pos hempty⟩
  rw [if_neg hempty]
  by_cases hnul : '\x00' ∈ value.toList
  · exact Or.inr ⟨_, .nul hnul, if_pos hnul⟩
  rw [if_neg hnul]
  by_cases habs : value.toList.head? = some '/'
  · exact Or.inr ⟨_, .absolute hnul habs, if_pos habs⟩
  rw [if_neg habs]
  by_cases hdots : ['.', '.'] ∈ partsOfText value.toList
  · exact Or.inr ⟨_, .parent hnul habs hdots, if_pos hdots⟩
  · exact Or.inl ⟨⟨hempty, hnul, habs, hdots⟩, if_neg hdots⟩

theorem Rules.checkRelativePath_eq_ok_iff :
    checkRelativePath field value = .ok () ↔ IsBelow value := by
  constructor
  · intro h
    rcases checkRelativePath_cases field value with ⟨hbelow, -⟩ | ⟨rule, -, herror⟩
    · exact hbelow
    · cases h.symm.trans herror
  · rintro ⟨hempty, hnul, habs, hdots⟩
    rw [checkRelativePath_eq, if_neg hempty, if_neg hnul, if_neg habs, if_neg hdots]

theorem Rules.checkRelativePath_of_firstBroken {rule : BrokenRule} (h : FirstBroken value rule) :
    checkRelativePath field value = .error (.invalidValue field value rule) := by
  have hnonempty {c : Char} (hc : c ∈ value.toList) : value ≠ "" := by
    rintro rfl
    cases hc
  rw [checkRelativePath_eq]
  cases h with
  | empty h => rw [if_pos h]
  | nul h => rw [if_neg (hnonempty h), if_pos h]
  | absolute hnul h => rw [if_neg (hnonempty (List.mem_of_head? h)), if_neg hnul, if_pos h]
  | parent hnul hrel h =>
    have hempty : value ≠ "" := by
      rintro rfl
      exact absurd h (by decide)
    rw [if_neg hempty, if_neg hnul, if_neg hrel, if_pos h]

theorem Rules.checkRelativePath_eq_error_iff {e : TransferError} :
    checkRelativePath field value = .error e ↔
      ∃ rule, FirstBroken value rule ∧ e = .invalidValue field value rule := by
  constructor
  · intro h
    rcases checkRelativePath_cases field value with ⟨-, hok⟩ | ⟨rule, hrule, herror⟩
    · cases h.symm.trans hok
    · cases h.symm.trans herror
      exact ⟨rule, hrule, rfl⟩
  · rintro ⟨rule, hrule, rfl⟩
    exact checkRelativePath_of_firstBroken hrule

end rules

section below
variable {value : String} {base : Path}

theorem IsBelow.innerParts_eq (h : IsBelow value) :
    innerParts (ofText value) = (namesOfText value.toList).map Component.name := by
  rw [innerParts_ofText, namesOfText, List.map_map]
  refine List.map_congr_left fun part hpart => if_neg ?_
  rintro rfl
  exact h.down (List.mem_filter.1 hpart).1

theorem IsBelow.isAbsolute_eq (h : IsBelow value) : isAbsolute (ofText value) = false := by
  rw [Bool.eq_false_iff, Ne, isAbsolute_ofText]
  exact h.relative

/-- An accepted path leads down from a directory, over its names. -/
theorem IsBelow.components_append (h : IsBelow value) (hbase : base ≠ []) :
    components (append base (ofText value)) =
      components base ++ (namesOfText value.toList).map Component.name := by
  rw [Path.components_append hbase h.isAbsolute_eq, h.innerParts_eq]

theorem IsBelow.isInner (h : IsBelow value) {n : Bytes} (hn : n ∈ namesOfText value.toList) :
    Component.IsInner (.name n) := by
  refine Component.isInner_of_mem_inner (p := ofText value) ?_
  rw [h.innerParts_eq]
  exact List.mem_map_of_mem hn

/-- What stands before the first slash of an accepted path is not empty. -/
theorem IsBelow.partsOfText_cons (h : IsBelow value) :
    ∃ first rest, partsOfText value.toList = first :: rest ∧ first ≠ [] := by
  have hjoined := join_split '/' value.toList
  cases hsplit : split (· == '/') value.toList with
  | nil => exact absurd hsplit (split_ne_nil _ _)
  | cons first rest =>
    refine ⟨first, rest, hsplit, ?_⟩
    rintro rfl
    rw [hsplit] at hjoined
    cases rest with
    | nil => exact h.ne_empty (String.toList_eq_nil_iff.1 hjoined.symm)
    | cons part more => exact h.relative (by rw [← hjoined]; rfl)

theorem IsBelow.components_ofText (h : IsBelow value) :
    (components (ofText value)).map Component.bytes =
      (countedParts [] (partsOfText value.toList)).map Utf8.encode := by
  obtain ⟨first, rest, hparts, hfirst⟩ := h.partsOfText_cons
  have hcounted : countedParts [] (first :: rest) = first :: rest.filter fun part => Leads part :=
    rfl
  have hbytes (names : List Bytes) : (names.map Component.name).map Component.bytes = names := by
    rw [List.map_map]
    exact List.map_id names
  have hleading : leading (ofText value) = if first = ['.'] then [.here] else [] := by
    rw [leading, h.isAbsolute_eq, split_ofText, hparts]
    simp only [List.map_cons, List.head?_cons, Option.some.injEq, encode_eq_dot, Bool.false_eq_true,
      if_false]
  rw [components_eq, h.innerParts_eq, List.map_append, hbytes, hleading, namesOfText,
    hparts, hcounted]
  by_cases hdot : first = ['.']
  · subst hdot
    rfl
  · rw [if_neg hdot, List.filter_cons_of_pos (by simpa using ⟨hfirst, hdot⟩)]
    rfl

/-- An accepted path leads from any directory over those of its parts that count. -/
theorem IsBelow.exists_below (h : IsBelow value) (base : Path) :
    ∃ below, components (append base (ofText value)) = components base ++ below ∧
      below.map Component.bytes =
        (countedParts base (partsOfText value.toList)).map Utf8.encode := by
  by_cases hbase : base = []
  · subst hbase
    exact ⟨_, by rw [append_nil_left]; rfl, h.components_ofText⟩
  · refine ⟨_, h.components_append hbase, ?_⟩
    rw [countedParts, fixedParts, if_neg hbase, List.map_map]
    exact List.map_id _

end below

/-- Paths are accepted for what they are as texts, and refused for the first rule that they break.
From a directory whose path does not lead up, an accepted path leads to a place at or below it. -/
theorem relativePath_accepted_iff (field value : String) :
    (Rules.checkRelativePath field value = .ok () ↔ value ≠ "" ∧ '\x00' ∉ value.toList ∧
      value.toList.head? ≠ some '/' ∧ ['.', '.'] ∉ partsOfText value.toList) ∧
    (∀ {base : Path}, Rules.checkRelativePath field value = .ok () → isAbsolute base = true →
      .parent ∉ components base →
      components (append base (ofText value)) =
          components base ++ (namesOfText value.toList).map Component.name ∧
        (∀ n ∈ namesOfText value.toList, n ≠ [] ∧ slash ∉ n ∧ n ≠ [dot] ∧ n ≠ [dot, dot]) ∧
        .parent ∉ components (append base (ofText value))) ∧
    ∀ {e : TransferError}, Rules.checkRelativePath field value = .error e ↔
      ∃ rule, FirstBroken value rule ∧ e = .invalidValue field value rule := by
  refine ⟨?_, fun {base} haccepted hbase hup => ?_, Rules.checkRelativePath_eq_error_iff⟩
  · rw [Rules.checkRelativePath_eq_ok_iff]
    constructor
    · exact fun h => ⟨h.ne_empty, h.noNul, h.relative, h.down⟩
    · exact fun ⟨hempty, hnul, hrel, hdown⟩ => ⟨hempty, hnul, hrel, hdown⟩
  · have hbelow := Rules.checkRelativePath_eq_ok_iff.1 haccepted
    have hcomponents := hbelow.components_append (ne_nil_of_isAbsolute hbase)
    refine ⟨hcomponents, fun n hn => hbelow.isInner hn, ?_⟩
    rw [hcomponents, List.mem_append, List.mem_map]
    rintro (hmem | ⟨n, -, heq⟩)
    · exact hup hmem
    · cases heq

/-- Dots in a name are part of it; those of the parts that lead nowhere are not. -/
theorem relativePath_accepted_iff_dotted :
    Rules.checkRelativePath "dir_path" "./a//..b/" = .ok () ∧ isAbsolute [47, 119] = true ∧
      .parent ∉ components [47, 119] ∧ components (append [47, 119] (ofText "./a//..b/")) =
        [.root, .name [119], .name [97], .name [46, 46, 98]] := by
  have haccepted : Rules.checkRelativePath "dir_path" "./a//..b/" = .ok () := by decide +kernel
  have hbelow := (relativePath_accepted_iff "dir_path" "./a//..b/").2.1 haccepted
    (show isAbsolute [47, 119] = true by decide) (by decide +kernel)
  refine ⟨haccepted, by decide, by decide +kernel, hbelow.1.trans ?_⟩
  decide +kernel

end SparseTransfer
