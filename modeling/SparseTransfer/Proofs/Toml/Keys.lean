import Mathlib.Data.List.Nodup
import SparseTransfer.Proofs.Toml.Steps

/- The tables of a document. However a table comes to be, it is given each of its keys once. -/
namespace SparseTransfer.Toml

/-- No table in a tree has a key twice. -/
inductive Node.Distinct : Node → Prop
  | string (span : Span) (text : String) : Distinct (.string span text)
  | integer (span : Span) (number : Int) : Distinct (.integer span number)
  | float (span : Span) (number : FloatNumber) : Distinct (.float span number)
  | boolean (span : Span) (value : Bool) : Distinct (.boolean span value)
  | datetime (span : Span) : Distinct (.datetime span)
  | array {span : Span} {kind : ArrayKind} {items : List Node} (h : ∀ n ∈ items, Distinct n) :
      Distinct (.array span kind items)
  | table {span : Span} {kind : TableKind} {entries : List (Key × Node)}
      (hnames : (entries.map fun e => e.1.name).Nodup) (h : ∀ e ∈ entries, Distinct e.2) :
      Distinct (.table span kind entries)

namespace Entries

structure Distinct (entries : Entries) : Prop where
  names : (entries.map fun e => e.1.name).Nodup
  nodes : ∀ e ∈ entries, e.2.Distinct

variable {entries entries' : Entries} {name : String} {node : Node} {key : Key}

theorem distinct_of_table {span : Span} {kind : TableKind}
    (h : (Node.table span kind entries).Distinct) : entries.Distinct := by
  cases h with
  | table hnames h => exact ⟨hnames, h⟩

theorem Distinct.table (h : entries.Distinct) (span : Span) (kind : TableKind) :
    (Node.table span kind entries).Distinct := .table h.names h.nodes

theorem distinct_nil : Distinct [] := ⟨List.nodup_nil, by simp⟩

theorem mem_of_find? (h : entries.find? name = some node) : ∃ key : Key, (key, node) ∈ entries ∧
    key.name = name := by
  obtain ⟨⟨key, n⟩, hfind, rfl⟩ := Option.map_eq_some_iff.1 h
  exact ⟨key, List.mem_of_find?_eq_some hfind, by simpa using List.find?_some hfind⟩

theorem find?_eq_none : entries.find? name = none ↔ ∀ e ∈ entries, e.1.name ≠ name := by
  simp [find?]

theorem Distinct.find? (h : entries.Distinct) (hfind : entries.find? name = some node) :
    node.Distinct := by
  obtain ⟨key, hmem, -⟩ := mem_of_find? hfind
  exact h.nodes _ hmem

/-- In a table without repeated keys a key has the one value that stands at it. -/
theorem Distinct.find?_eq_some_iff (h : entries.Distinct) :
    entries.find? name = some node ↔ ∃ key : Key, (key, node) ∈ entries ∧ key.name = name := by
  refine ⟨mem_of_find?, fun ⟨key, hmem, hname⟩ => ?_⟩
  cases hfind : entries.find? name with
  | none => exact absurd hname (find?_eq_none.1 hfind _ hmem)
  | some node' =>
    obtain ⟨key', hmem', hname'⟩ := mem_of_find? hfind
    have heq := List.inj_on_of_nodup_map h.names hmem hmem' (hname.trans hname'.symm)
    rw [(Prod.mk.inj heq).2]

theorem Distinct.append (h : entries.Distinct) (hnew : entries.find? key.name = none)
    (hnode : node.Distinct) : Distinct (entries ++ [(key, node)]) := by
  constructor
  · rw [List.map_append, List.nodup_append]
    refine ⟨h.names, by simp, fun n hn m hm => ?_⟩
    obtain ⟨e, he, rfl⟩ := List.mem_map.1 hn
    obtain rfl : m = key.name := by simpa using hm
    exact find?_eq_none.1 hnew e he
  · intro e he
    rcases List.mem_append.1 he with he | he
    · exact h.nodes e he
    · rw [List.mem_singleton.1 he]
      exact hnode

theorem Distinct.replace (h : entries.Distinct) (hnode : node.Distinct) :
    Distinct (entries.replace name node) := by
  constructor
  · have hnames : (entries.replace name node).map (fun e => e.1.name) =
        entries.map fun e => e.1.name := by
      rw [Entries.replace, List.map_map]
      refine List.map_congr_left fun e _ => ?_
      rw [Function.comp_apply]
      split <;> rfl
    rw [hnames]
    exact h.names
  · intro e he
    obtain ⟨e', he', rfl⟩ := List.mem_map.1 he
    split
    · exact hnode
    · exact h.nodes e' he'

theorem Distinct.erase (h : entries.Distinct) : Distinct (entries.erase name) where
  names := h.names.sublist (List.filter_sublist.map _)
  nodes e he := h.nodes e (List.mem_filter.1 he).1

theorem find?_erase_self : (entries.erase name).find? name = none := by
  rw [find?_eq_none]
  intro e he
  simpa using (List.mem_filter.1 he).2

/-- What keeps keys apart in one table keeps them apart at the end of a path. -/
theorem Distinct.change {dotted : Bool} {f : TableKind → Entries → Option Entries}
    (hf : ∀ {kind es es'}, Distinct es → f kind es = some es' → Distinct es') {path : List Key}
    {kind : TableKind} (h : entries.Distinct)
    (hchange : Entries.change dotted f path kind entries = some entries') : entries'.Distinct := by
  induction path generalizing kind entries entries' with
  | nil => exact hf h hchange
  | cons key path ih =>
    rw [Entries.change] at hchange
    split at hchange
    · next hfind =>
      obtain ⟨sub, hsub, rfl⟩ := Option.map_eq_some_iff.1 hchange
      exact h.append hfind ((ih distinct_nil hsub).table _ _)
    · next span kind' sub hfind =>
      split at hchange
      · cases hchange
      · obtain ⟨sub', hsub, rfl⟩ := Option.map_eq_some_iff.1 hchange
        exact h.replace ((ih (distinct_of_table (h.find? hfind)) hsub).table _ _)
    · next span items hfind =>
      split at hchange
      · next last kind' sub _ hlast =>
        obtain ⟨sub', hsub, rfl⟩ := Option.map_eq_some_iff.1 hchange
        have hitems : ∀ n ∈ items, n.Distinct := by
          cases h.find? hfind with
          | array hitems => exact hitems
        have hsub' := ih (distinct_of_table (hitems _ (List.mem_of_getLast? hlast))) hsub
        refine h.replace (.array fun n hn => ?_)
        rcases List.mem_append.1 hn with hn | hn
        · exact hitems n ((List.dropLast_sublist items).mem hn)
        · rw [List.mem_singleton.1 hn]
          exact hsub'.table _ _
      · cases hchange
    · cases hchange

theorem Distinct.assign {path : List Key} {kind : TableKind} (h : entries.Distinct)
    (hnode : node.Distinct) (hassign : entries.assign path key node kind = some entries') :
    entries'.Distinct := by
  refine h.change (fun {kind es es'} hes hadd => ?_) hassign
  split at hadd
  · cases hadd
  · next hnew =>
    cases hadd
    rw [Bool.or_eq_true, not_or, Option.not_isSome_iff_eq_none] at hnew
    exact hes.append hnew.2 hnode

theorem Distinct.openTable {path : List Key} {span : Span} (h : entries.Distinct)
    (hopen : entries.openTable path key span = some entries') : entries'.Distinct := by
  refine h.change (fun {kind es es'} hes hadd => ?_) hopen
  split at hadd
  · next hnew =>
    cases hadd
    exact hes.append hnew (distinct_nil.table _ _)
  · next sub hfind =>
    cases hadd
    exact hes.erase.append find?_erase_self ((distinct_of_table (hes.find? hfind)).table _ _)
  · cases hadd

theorem Distinct.openElement {path : List Key} {span : Span} (h : entries.Distinct)
    (hopen : entries.openElement path key span = some entries') : entries'.Distinct := by
  refine h.change (fun {kind es es'} hes hadd => ?_) hopen
  split at hadd
  · next hnew =>
    cases hadd
    exact hes.append hnew (.array (by simpa using distinct_nil.table _ _))
  · next first items hfind =>
    cases hadd
    refine hes.replace (.array fun n hn => ?_)
    rcases List.mem_append.1 hn with hn | hn
    · cases hes.find? hfind with
      | array hitems => exact hitems n hn
    · rw [List.mem_singleton.1 hn]
      exact distinct_nil.table _ _
  · cases hadd

end Entries

theorem distinct_scalar (span : Span) (s : Scalar) : (s.node span).Distinct := by
  cases s <;> constructor

/-- A value is read with its keys apart, and so are the items of an array and the entries of a
table. -/
theorem distinct_read (fuel : Nat) :
    (∀ {depth : Nat} {c next : Cursor} {n : Node},
      readValue fuel depth c = some (n, next) → n.Distinct) ∧
    (∀ {depth : Nat} {c next : Cursor} {items : List Node},
      readItems fuel depth c = some (items, next) → ∀ n ∈ items, n.Distinct) ∧
    (∀ {depth : Nat} {es es' : Entries} {c next : Cursor}, es.Distinct →
      readPairs fuel depth es c = some (es', next) → es'.Distinct) := by
  induction fuel with
  | zero =>
    refine ⟨fun h => ?_, fun h => ?_, fun _ h => ?_⟩
    · rw [readValue] at h
      cases h
    · rw [readItems] at h
      cases h
    · rw [readPairs] at h
      cases h
  | succ fuel ih =>
    obtain ⟨hvalues, hitems, hpairs⟩ := ih
    have hentry {depth path key n} {es es' : Entries} {c next : Cursor} (hes : es.Distinct)
        (hpair : PairStep (fun _ => fuel) depth c path key n next)
        (hassign : es.assign path key n .inline = some es') : es'.Distinct := by
      obtain ⟨-, -, hvalue⟩ := hpair
      exact hes.assign (hvalues hvalue) hassign
    refine ⟨fun h => ?_, fun h => ?_, fun hes h => ?_⟩
    · cases readValue_iff.1 h with
      | text _ hread =>
        obtain ⟨_, -, heq⟩ := Option.map_eq_some_iff.1 hread
        cases heq
        exact .string _ _
      | array hread => exact .array (hitems hread)
      | table hread => exact (hpairs Entries.distinct_nil hread).table _ _
      | scalar _ hread =>
        obtain ⟨_, -, heq⟩ := Option.map_eq_some_iff.1 hread
        cases heq
        exact distinct_scalar _ _
    · cases readItems_iff.1 h with
      | close => exact fun _ hn => absurd hn List.not_mem_nil
      | more _ _ hitem _ _ hread => exact List.forall_mem_cons.2 ⟨hvalues hitem, hitems hread⟩
      | last _ _ hitem => exact List.forall_mem_singleton.2 (hvalues hitem)
    · cases readPairs_iff.1 h with
      | close => exact hes
      | more _ _ hpair hassign _ _ hread => exact hpairs (hentry hes hpair hassign) hread
      | last _ _ hpair hassign => exact hentry hes hpair hassign

variable {d d' : Draft} {c next : Cursor}

theorem distinct_readBrackets {opening close : List Char}
    {open? : List Key → Key → Span → Entries → Option Entries}
    (hopens : ∀ {path key span es es'}, Entries.Distinct es →
      open? path key span es = some es' → es'.Distinct)
    (h : d.root.Distinct) (hread : readBrackets opening close open? d c = some (d', next)) :
    d'.root.Distinct := by
  unfold readBrackets at hread
  split at hread
  · cases hread
  split at hread
  · obtain ⟨root, hroot, heq⟩ := Option.map_eq_some_iff.1 hread
    cases heq
    exact hopens h hroot
  · cases hread

theorem distinct_readHeader (h : d.root.Distinct) (hread : readHeader d c = some (d', next)) :
    d'.root.Distinct := by
  rw [readHeader_eq] at hread
  split at hread
  · exact distinct_readBrackets Entries.Distinct.openElement h hread
  · exact distinct_readBrackets Entries.Distinct.openTable h hread

theorem distinct_of_pair {fuel : Cursor → Nat} {depth : Nat} {path : List Key}
    {key : Key} {n : Node} (h : PairStep fuel depth c path key n next) : n.Distinct := by
  obtain ⟨-, -, hvalue⟩ := h
  exact (distinct_read _).1 hvalue

theorem distinct_readPair (h : d.root.Distinct) (hread : readPair d c = some (d', next)) :
    d'.root.Distinct := by
  obtain ⟨path, key, n, hpair, hassign⟩ := readPair_eq_some_iff.1 hread
  obtain ⟨root, hchange, rfl⟩ := Option.map_eq_some_iff.1 hassign
  exact h.change (fun hes hadd => hes.assign (distinct_of_pair hpair) hadd) hchange

theorem distinct_readLine (h : d.root.Distinct) (hread : readLine d c = some (d', next)) :
    d'.root.Distinct := by
  unfold readLine at hread
  split at hread
  case h_5 => exact distinct_readHeader h hread
  case h_6 => exact distinct_readPair h hread
  all_goals
    cases hread
    exact h

theorem distinct_readLines {fuel : Nat} (h : d.root.Distinct)
    (hread : readLines fuel d c = some d') : d'.root.Distinct := by
  induction fuel generalizing d c with
  | zero =>
    rw [readLines] at hread
    cases hread
  | succ fuel ih =>
    cases readLines_iff.1 hread with
    | last hline => exact distinct_readLine h hline
    | more hline _ hlines => exact ih (distinct_readLine h hline) hlines

/-- No table of a document has a key twice. -/
theorem distinct_of_parse {text : String} {entries : Entries} (h : parse text = some entries) :
    entries.Distinct := by
  obtain ⟨d, hread, rfl⟩ := Option.map_eq_some_iff.1 h
  exact distinct_readLines Entries.distinct_nil hread

end SparseTransfer.Toml
