import SparseTransfer.Proofs.Toml.Keys

/- What a tree says, whichever way it is written: the values at its keys. -/
namespace SparseTransfer.Toml

namespace Node

def IsText (n : Node) : Prop := ∃ span text, n = .string span text

def IsSwitch (n : Node) : Prop := ∃ span value, n = .boolean span value

/-- A table, however it is written, that is as `fits` says. -/
def IsTable (fits : Entries → Prop) (n : Node) : Prop :=
  ∃ span kind entries, n = .table span kind entries ∧ fits entries

def IsArray (n : Node) : Prop := ∃ span kind items, n = .array span kind items

instance : DecidablePred IsArray
  | .array span kind items => .isTrue ⟨span, kind, items, rfl⟩
  | .string .. | .integer .. | .float .. | .boolean .. | .datetime .. | .table .. =>
    .isFalse (by simp [IsArray])

def text? : Node → Option String
  | .string _ text => some text
  | _ => none

def switch? : Node → Option Bool
  | .boolean _ value => some value
  | _ => none

def entries : Node → Entries
  | .table _ _ entries => entries
  | _ => []

/-- Nodes have the same value: the same text, number or truth value, the same items in order, or the
same values at the same keys, wherever and in whatever order these are written. Dates and times are
not told apart. -/
inductive SameValue : Node → Node → Prop
  | string (span span' : Span) (text : String) : SameValue (.string span text) (.string span' text)
  | integer (span span' : Span) (n : Int) : SameValue (.integer span n) (.integer span' n)
  | float (span span' : Span) {x y : FloatNumber} (h : x.shown = y.shown) :
      SameValue (.float span x) (.float span' y)
  | boolean (span span' : Span) (value : Bool) :
      SameValue (.boolean span value) (.boolean span' value)
  | datetime (span span' : Span) : SameValue (.datetime span) (.datetime span')
  | array (span span' : Span) (kind kind' : ArrayKind) {items items' : List Node}
      (h : List.Forall₂ SameValue items items') :
      SameValue (.array span kind items) (.array span' kind' items')
  | table (span span' : Span) (kind kind' : TableKind) {entries entries' : Entries}
      (h : ∀ name, Option.Rel SameValue (entries.find? name) (entries'.find? name)) :
      SameValue (.table span kind entries) (.table span' kind' entries')

end Node

namespace Entries

/-- Tables have the same values at the same keys. -/
def SameTree (entries entries' : Entries) : Prop :=
  ∀ name, Option.Rel Node.SameValue (entries.find? name) (entries'.find? name)

/-- The text at a key. -/
def text? (entries : Entries) (name : String) : Option String :=
  (entries.find? name).bind Node.text?

/-- The truth value at a key. -/
def switch? (entries : Entries) (name : String) : Option Bool :=
  (entries.find? name).bind Node.switch?

/-- The entries of the table at a key; a table that is not there is as good as an empty one. -/
def tableAt (entries : Entries) (name : String) : Entries :=
  ((entries.find? name).map Node.entries).getD []

/-- Every key is known, and its value is of the kind that goes with it. -/
def Knows (known : List (String × (Node → Prop))) (entries : Entries) : Prop :=
  ∀ e ∈ entries, ∃ kind, (e.1.name, kind) ∈ known ∧ kind e.2

end Entries

namespace Entries
variable {e : Key × Node} {es : Entries} {name : String}

theorem find?_cons :
    Entries.find? (e :: es) name = if e.1.name = name then some e.2 else es.find? name := by
  by_cases h : e.1.name = name
  · simp [find?, h]
  · simp [find?, h]

theorem text?_cons :
    text? (e :: es) name = if e.1.name = name then e.2.text? else es.text? name := by
  rw [text?, find?_cons]
  split <;> rfl

theorem switch?_cons :
    switch? (e :: es) name = if e.1.name = name then e.2.switch? else es.switch? name := by
  rw [switch?, find?_cons]
  split <;> rfl

theorem tableAt_cons :
    tableAt (e :: es) name = if e.1.name = name then e.2.entries else es.tableAt name := by
  rw [tableAt, find?_cons]
  split <;> rfl

/-- The order of entries does not matter where no key comes twice. -/
theorem Distinct.find?_perm {entries entries' : Entries} (h : entries.Distinct)
    (hperm : entries.Perm entries') (name : String) : entries.find? name = entries'.find? name := by
  have h' : entries'.Distinct :=
    ⟨(hperm.map _).nodup_iff.1 h.names, fun e he => h.nodes e (hperm.mem_iff.2 he)⟩
  refine Option.ext fun n => ?_
  rw [h.find?_eq_some_iff, h'.find?_eq_some_iff]
  simp only [hperm.mem_iff]

end Entries

section same
variable {n n' : Node} {es es' : Entries} {known : List (String × (Node → Prop))}

theorem Node.SameValue.text? (h : n.SameValue n') : n.text? = n'.text? := by
  cases h <;> rfl

theorem Node.SameValue.switch? (h : n.SameValue n') : n.switch? = n'.switch? := by
  cases h <;> rfl

theorem Node.SameValue.isText_iff (h : n.SameValue n') : n.IsText ↔ n'.IsText := by
  cases h <;> simp [IsText]

theorem Node.SameValue.isSwitch_iff (h : n.SameValue n') : n.IsSwitch ↔ n'.IsSwitch := by
  cases h <;> simp [IsSwitch]

theorem Node.SameValue.isArray_iff (h : n.SameValue n') : n.IsArray ↔ n'.IsArray := by
  cases h <;> simp [IsArray]

theorem Node.SameValue.entries (h : n.SameValue n') : n.entries.SameTree n'.entries := by
  cases h with
  | table span span' kind kind' h => exact h
  | _ => exact fun _ => .none

theorem Entries.SameTree.text? (h : es.SameTree es') (name : String) :
    es.text? name = es'.text? name := by
  have hrel := h name
  rw [Entries.text?, Entries.text?]
  generalize es.find? name = a, es'.find? name = b at hrel
  cases hrel with
  | none => rfl
  | some hn => exact hn.text?

theorem Entries.SameTree.switch? (h : es.SameTree es') (name : String) :
    es.switch? name = es'.switch? name := by
  have hrel := h name
  rw [Entries.switch?, Entries.switch?]
  generalize es.find? name = a, es'.find? name = b at hrel
  cases hrel with
  | none => rfl
  | some hn => exact hn.switch?

theorem Entries.SameTree.tableAt (h : es.SameTree es') (name : String) :
    (es.tableAt name).SameTree (es'.tableAt name) := by
  have hrel := h name
  rw [Entries.tableAt, Entries.tableAt]
  generalize es.find? name = a, es'.find? name = b at hrel
  cases hrel with
  | none => exact fun _ => .none
  | some hn => exact hn.entries

theorem Entries.Distinct.knows_iff (h : es.Distinct) : es.Knows known ↔
    ∀ name n, es.find? name = some n → ∃ kind, (name, kind) ∈ known ∧ kind n := by
  constructor
  · intro hknows name n hfind
    obtain ⟨key, hmem, rfl⟩ := mem_of_find? hfind
    exact hknows _ hmem
  · exact fun hall e he => hall _ _ (h.find?_eq_some_iff.2 ⟨e.1, he, rfl⟩)

/-- Tables with the same values hold the same known keys, if a kind does not tell such values
apart. -/
theorem Entries.SameTree.knows_iff (h : es.SameTree es') (hes : es.Distinct) (hes' : es'.Distinct)
    (hkinds : ∀ k ∈ known, ∀ {n n' : Node}, n.Distinct → n'.Distinct → n.SameValue n' →
      (k.2 n ↔ k.2 n')) : es.Knows known ↔ es'.Knows known := by
  rw [hes.knows_iff, hes'.knows_iff]
  refine forall_congr' fun name => ?_
  have hrel := h name
  have hnode (n : Node) (hfind : es.find? name = some n) := hes.find? hfind
  have hnode' (n : Node) (hfind : es'.find? name = some n) := hes'.find? hfind
  generalize es.find? name = a, es'.find? name = b at hrel hnode hnode' ⊢
  cases hrel with
  | none => rfl
  | @some n n' hn =>
    simp only [Option.some.injEq, forall_eq']
    exact exists_congr fun kind => and_congr_right fun hkind =>
      hkinds _ hkind (hnode n rfl) (hnode' n' rfl) hn

theorem Node.SameValue.isTable_iff {fits : Entries → Prop} (h : n.SameValue n') (hn : n.Distinct)
    (hn' : n'.Distinct)
    (hfits : ∀ {es es' : Entries}, es.Distinct → es'.Distinct → es.SameTree es' →
      (fits es ↔ fits es')) : n.IsTable fits ↔ n'.IsTable fits := by
  cases h with
  | table span span' kind kind' h =>
    have hiff := hfits (Entries.distinct_of_table hn) (Entries.distinct_of_table hn') h
    simpa [IsTable] using hiff
  | _ => simp [IsTable]

end same
end SparseTransfer.Toml
