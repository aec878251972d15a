import Mathlib.Data.List.Perm.Basic
import SparseTransfer.Proofs.Toml.Keys

/- The strings of a document, told apart by where they begin. -/
namespace SparseTransfer.Toml

theorem sizeOf_value_lt {e : Key × Node} {span : Span} {kind : TableKind}
    {entries : List (Key × Node)} (h : e ∈ entries) :
    sizeOf e.2 < sizeOf (Node.table span kind entries) := by
  have hlt := List.sizeOf_lt_of_mem h
  obtain ⟨key, n⟩ := e
  simp only [Prod.mk.sizeOf_spec, Node.table.sizeOf_spec] at hlt ⊢
  omega

/-- Where the strings in a node begin. -/
def Node.starts : Node → List Nat
  | .string span _ => [span.start]
  | .array _ _ items => items.flatMap starts
  | .table _ _ entries => entries.flatMap fun e => e.2.starts
  | .integer .. | .float .. | .boolean .. | .datetime .. => []
decreasing_by
  · decreasing_tactic
  · exact sizeOf_value_lt ‹_›

/-- The node with another text in place of the string that begins at `start`. -/
def Node.retext (start : Nat) (text : String) : Node → Node
  | .string span old => .string span (if span.start = start then text else old)
  | .array span kind items => .array span kind (items.map (retext start text))
  | .table span kind entries => .table span kind (entries.map fun e => (e.1, e.2.retext start text))
  | .integer span n => .integer span n
  | .float span n => .float span n
  | .boolean span b => .boolean span b
  | .datetime span => .datetime span
decreasing_by
  · decreasing_tactic
  · exact sizeOf_value_lt ‹_›

theorem Node.retext_of_notMem {start : Nat} {text : String} : (n : Node) → (h : start ∉ n.starts) →
    n.retext start text = n
  | .string span old, h => by
    rw [starts, List.mem_singleton] at h
    rw [retext, if_neg (Ne.symm h)]
  | .array span kind items, h => by
    rw [starts, List.mem_flatMap] at h
    rw [retext]
    congr 1
    conv_rhs => rw [← List.map_id items]
    exact List.map_congr_left fun n hn => n.retext_of_notMem fun hmem => h ⟨n, hn, hmem⟩
  | .table span kind entries, h => by
    rw [starts, List.mem_flatMap] at h
    rw [retext]
    congr 1
    conv_rhs => rw [← List.map_id entries]
    exact List.map_congr_left fun e he =>
      congrArg (Prod.mk e.1) (e.2.retext_of_notMem fun hmem => h ⟨e, he, hmem⟩)
  | .integer .., _ | .float .., _ | .boolean .., _ | .datetime .., _ => by rw [retext]
decreasing_by
  · decreasing_tactic
  · exact sizeOf_value_lt ‹_›

namespace Entries
variable {entries entries' : Entries} {start : Nat} {text name : String}

def starts (entries : Entries) : List Nat := entries.flatMap fun e => e.2.starts

def retext (start : Nat) (text : String) (entries : Entries) : Entries :=
  entries.map fun e => (e.1, e.2.retext start text)

theorem starts_append (es es' : Entries) : starts (es ++ es') = es.starts ++ es'.starts :=
  List.flatMap_append

theorem starts_cons (e : Key × Node) (es : Entries) : starts (e :: es) = e.2.starts ++ es.starts :=
  List.flatMap_cons

theorem starts_nil : starts [] = [] := rfl

theorem starts_table {span : Span} {kind : TableKind} :
    (Node.table span kind entries).starts = entries.starts := by
  rw [Node.starts, starts]

theorem starts_array {span : Span} {kind : ArrayKind} {items : List Node} :
    (Node.array span kind items).starts = items.flatMap Node.starts := by
  rw [Node.starts]

/-- In a table without repeated keys, what is done at a key is done at one place. -/
theorem Distinct.exists_split {node : Node} (h : entries.Distinct)
    (hfind : entries.find? name = some node) : ∃ (before : Entries) (key : Key) (after : Entries),
      entries = before ++ (key, node) :: after ∧ entries.erase name = before ++ after ∧
        ∀ node', entries.replace name node' = before ++ (key, node') :: after := by
  obtain ⟨key, hmem, rfl⟩ := mem_of_find? hfind
  obtain ⟨before, after, rfl⟩ := List.append_of_mem hmem
  have hnames := h.names
  rw [List.map_append, List.map_cons, List.nodup_append, List.nodup_cons] at hnames
  obtain ⟨-, ⟨hafter, -⟩, hbefore⟩ := hnames
  have hne : ∀ e ∈ before ++ after, e.1.name ≠ key.name := by
    intro e he
    rcases List.mem_append.1 he with he | he
    · exact hbefore _ (List.mem_map_of_mem he) _ (List.mem_cons_self ..)
    · intro heq
      exact hafter (heq ▸ List.mem_map_of_mem (f := fun e => e.1.name) he)
  have hbefore {e : Key × Node} (he : e ∈ before) := hne e (List.mem_append_left _ he)
  have hafter {e : Key × Node} (he : e ∈ after) := hne e (List.mem_append_right _ he)
  refine ⟨before, key, after, rfl, ?_, fun node' => ?_⟩
  · rw [Entries.erase, List.filter_append, List.filter_cons_of_neg (by simp),
      List.filter_eq_self.2 fun e he => by simpa using hbefore he,
      List.filter_eq_self.2 fun e he => by simpa using hafter he]
  · rw [Entries.replace, List.map_append, List.map_cons, if_pos (by simp)]
    have hkeep {es : Entries} (hes : ∀ e ∈ es, e.1.name ≠ key.name) :
        es.map (fun e => if e.1.name == key.name then (e.1, node') else e) = es := by
      refine (List.map_congr_left fun e he => ?_).trans (List.map_id es)
      rw [if_neg (by simpa using hes e he), id]
    rw [hkeep fun e he => hbefore he, hkeep fun e he => hafter he]

/-- What is new in one part of a list may as well stand at its end. -/
theorem perm_new (before after : List Nat) {part part' new : List Nat}
    (h : part'.Perm (part ++ new)) :
    (before ++ (part' ++ after)).Perm (before ++ (part ++ (after ++ new))) := by
  refine List.Perm.append_left before ((h.append_right after).trans ?_)
  rw [List.append_assoc]
  exact List.perm_append_comm.append_left part

theorem starts_change {dotted : Bool} {f : TableKind → Entries → Option Entries} (new : List Nat)
    (hf : ∀ {kind es es'}, Distinct es → f kind es = some es' → es'.starts.Perm (es.starts ++ new))
    {path : List Key} {kind : TableKind} (h : entries.Distinct)
    (hchange : Entries.change dotted f path kind entries = some entries') :
    entries'.starts.Perm (entries.starts ++ new) := by
  induction path generalizing kind entries entries' with
  | nil => exact hf h hchange
  | cons key path ih =>
    rw [Entries.change] at hchange
    split at hchange
    · obtain ⟨sub, hsub, rfl⟩ := Option.map_eq_some_iff.1 hchange
      have hnew := ih distinct_nil hsub
      rw [starts_append, starts_cons, starts_nil, starts_table, List.append_nil]
      exact hnew.append_left _
    · next span kind' sub hfind =>
      split at hchange
      · cases hchange
      · obtain ⟨sub', hsub, rfl⟩ := Option.map_eq_some_iff.1 hchange
        have hnew := ih (distinct_of_table (h.find? hfind)) hsub
        obtain ⟨before, key', after, rfl, -, hreplace⟩ := h.exists_split hfind
        rw [hreplace]
        simp only [starts_append, starts_cons, starts_table, List.append_assoc]
        exact perm_new _ _ hnew
    · next span items hfind =>
      split at hchange
      · next last kind' sub _ hlast =>
        obtain ⟨sub', hsub, rfl⟩ := Option.map_eq_some_iff.1 hchange
        have hitems : ∀ n ∈ items, n.Distinct := by
          cases h.find? hfind with
          | array hitems => exact hitems
        have hnew := ih (distinct_of_table (hitems _ (List.mem_of_getLast? hlast))) hsub
        obtain ⟨before, key', after, rfl, -, hreplace⟩ := h.exists_split hfind
        obtain ⟨items, rfl⟩ := List.getLast?_eq_some_iff.1 hlast
        rw [hreplace, List.dropLast_concat]
        simp only [starts_append, starts_cons, starts_array, starts_table, List.flatMap_append,
          List.flatMap_cons, List.flatMap_nil, List.append_assoc, List.nil_append]
        have hnew' := perm_new (before.starts ++ items.flatMap Node.starts) after.starts hnew
        simpa only [List.append_assoc] using hnew'
      · cases hchange
    · cases hchange

theorem starts_assign {path : List Key} {key : Key} {node : Node} {kind : TableKind}
    (h : entries.Distinct) (hassign : entries.assign path key node kind = some entries') :
    entries'.starts.Perm (entries.starts ++ node.starts) := by
  refine starts_change _ (fun {kind es es'} _ hadd => ?_) h hassign
  split at hadd
  · cases hadd
  · cases hadd
    rw [starts_append, starts_cons, starts_nil, List.append_nil]

theorem starts_openTable {path : List Key} {key : Key} {span : Span} (h : entries.Distinct)
    (hopen : entries.openTable path key span = some entries') :
    entries'.starts.Perm entries.starts := by
  have hnew := starts_change [] (fun {kind es es'} hes hadd => ?_) h hopen
  · rwa [List.append_nil] at hnew
  rw [List.append_nil]
  split at hadd
  · cases hadd
    rw [starts_append, starts_cons, starts_table, starts_nil, List.append_nil, List.append_nil]
  · next sub hfind =>
    cases hadd
    obtain ⟨before, key', after, rfl, herase, -⟩ := hes.exists_split hfind
    rw [herase]
    simp only [starts_append, starts_cons, starts_table, starts_nil, List.append_nil,
      List.append_assoc]
    exact List.perm_append_comm.append_left _
  · cases hadd

theorem starts_openElement {path : List Key} {key : Key} {span : Span} (h : entries.Distinct)
    (hopen : entries.openElement path key span = some entries') :
    entries'.starts.Perm entries.starts := by
  have hnew := starts_change [] (fun {kind es es'} hes hadd => ?_) h hopen
  · rwa [List.append_nil] at hnew
  rw [List.append_nil]
  split at hadd
  · cases hadd
    simp [starts_append, starts_cons, starts_array, starts_table, starts_nil]
  · next first items hfind =>
    cases hadd
    obtain ⟨before, key', after, rfl, -, hreplace⟩ := hes.exists_split hfind
    rw [hreplace]
    simp [starts_append, starts_cons, starts_array, starts_table, starts_nil]
  · cases hadd

theorem retext_append (es es' : Entries) :
    retext start text (es ++ es') = es.retext start text ++ es'.retext start text :=
  List.map_append

theorem retext_table {span : Span} {kind : TableKind} :
    (Node.table span kind entries).retext start text =
      .table span kind (entries.retext start text) := by
  rw [Node.retext, retext]

theorem retext_singleton (key : Key) (node : Node) :
    retext start text [(key, node)] = [(key, node.retext start text)] := rfl

theorem find?_retext : (entries.retext start text).find? name =
    (entries.find? name).map (Node.retext start text) := by
  rw [find?, find?, retext, List.find?_map, Option.map_map, Option.map_map]
  rfl

theorem replace_retext (node : Node) :
    (entries.retext start text).replace name (node.retext start text) =
      (entries.replace name node).retext start text := by
  rw [replace, replace, retext, retext, List.map_map, List.map_map]
  refine List.map_congr_left fun e _ => ?_
  simp only [Function.comp_apply]
  split <;> rfl

theorem erase_retext :
    (entries.retext start text).erase name = (entries.erase name).retext start text := by
  rw [erase, erase, retext, retext, List.filter_map]
  rfl

theorem change_retext {dotted : Bool} {f f' : TableKind → Entries → Option Entries}
    (hf : ∀ kind es, f' kind (retext start text es) = (f kind es).map (retext start text))
    (path : List Key) (kind : TableKind) (entries : Entries) :
    change dotted f' path kind (entries.retext start text) =
      (change dotted f path kind entries).map (retext start text) := by
  induction path generalizing kind entries with
  | nil => exact hf kind entries
  | cons key path ih =>
    rw [Entries.change, Entries.change, find?_retext]
    cases hfind : entries.find? key.name with
    | none =>
      dsimp only [Option.map_none]
      have hnew := ih (if dotted then .dotted else .implied) []
      rw [show retext start text [] = [] from rfl] at hnew
      rw [hnew, Option.map_map, Option.map_map]
      refine congrArg (Option.map · _) (funext fun sub => ?_)
      simp only [Function.comp_apply, retext_append, retext_singleton, retext_table]
    | some node =>
      cases node with
      | table span kind' sub =>
        rw [Option.map_some, retext_table]
        dsimp only
        split
        · rfl
        · rw [ih, Option.map_map, Option.map_map]
          refine congrArg (Option.map · _) (funext fun sub' => ?_)
          simp only [Function.comp_apply]
          rw [← replace_retext, retext_table]
      | array span kind' items =>
        rw [Option.map_some, Node.retext]
        cases kind' with
        | inline => rfl
        | tables =>
        dsimp only
        rw [List.getLast?_map]
        cases dotted with
        | true => rfl
        | false =>
        cases hlast : items.getLast? with
        | none => rfl
        | some last =>
        cases last with
        | table lastSpan lastKind sub =>
          rw [Option.map_some, retext_table]
          dsimp only
          rw [ih, Option.map_map, Option.map_map]
          refine congrArg (Option.map · _) (funext fun sub' => ?_)
          simp only [Function.comp_apply]
          rw [← replace_retext, Node.retext, List.map_append, List.map_dropLast, List.map_singleton,
            retext_table]
        | _ =>
          rw [Option.map_some, Node.retext]
          rfl
      | _ =>
        rw [Option.map_some, Node.retext]
        rfl

variable {path : List Key} {key : Key} {span : Span}

theorem assign_retext (node : Node) (kind : TableKind) :
    (entries.retext start text).assign path key (node.retext start text) kind =
      (entries.assign path key node kind).map (retext start text) := by
  refine change_retext (fun kind es => ?_) path kind entries
  rw [find?_retext, Option.isSome_map]
  split
  · rfl
  · rw [Option.map_some, retext_append, retext_singleton]

theorem openTable_retext : (entries.retext start text).openTable path key span =
    (entries.openTable path key span).map (retext start text) := by
  refine change_retext (fun kind es => ?_) path .header entries
  rw [find?_retext]
  cases hfind : es.find? key.name with
  | none =>
    rw [Option.map_none]
    dsimp only
    rw [Option.map_some, retext_append, retext_singleton, retext_table]
    rfl
  | some node =>
    cases node with
    | table span' kind sub =>
      rw [Option.map_some, retext_table]
      cases kind with
      | implied =>
        dsimp only
        rw [Option.map_some, erase_retext, retext_append, retext_singleton, retext_table]
      | _ => rfl
    | _ =>
      rw [Option.map_some, Node.retext]
      rfl

theorem openElement_retext : (entries.retext start text).openElement path key span =
    (entries.openElement path key span).map (retext start text) := by
  refine change_retext (fun kind es => ?_) path .header entries
  rw [find?_retext]
  cases hfind : es.find? key.name with
  | none =>
    rw [Option.map_none]
    dsimp only
    rw [Option.map_some, retext_append, retext_singleton, Node.retext,
      List.map_singleton, retext_table]
    rfl
  | some node =>
    cases node with
    | array first kind items =>
      rw [Option.map_some, Node.retext]
      cases kind with
      | tables =>
        dsimp only
        rw [Option.map_some, ← replace_retext, Node.retext, List.map_append,
          List.map_singleton, retext_table]
        rfl
      | inline => rfl
    | _ =>
      rw [Option.map_some, Node.retext]
      rfl

end Entries
end SparseTransfer.Toml
