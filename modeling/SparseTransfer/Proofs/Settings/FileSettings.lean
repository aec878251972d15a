import SparseTransfer.Proofs.Action
import SparseTransfer.Proofs.Toml.Trees
import SparseTransfer.Settings.FileSettings

/- What a configuration file comes to. A document is accepted exactly if it has no keys but the
known ones, each with a value of its kind; then every setting is the value at its key. -/
namespace SparseTransfer
open Toml

def repositoryKeys : List (String × (Node → Prop)) :=
  [("url", Node.IsText), ("branch", Node.IsText), ("dir_path", Node.IsText)]

def storageKeys : List (String × (Node → Prop)) :=
  [("endpoint", Node.IsText), ("access_key", Node.IsText), ("secret_key", Node.IsText),
    ("target", Node.IsText), ("secure", Node.IsSwitch), ("region", Node.IsText)]

def sectionKeys : List (String × (Node → Prop)) :=
  [("repository", Node.IsTable (Entries.Knows repositoryKeys)),
    ("storage", Node.IsTable (Entries.Knows storageKeys))]

/-- The settings that stand in a table. -/
def RepositorySettings.inTable (entries : Entries) : RepositorySettings where
  url := entries.text? "url"
  branch := entries.text? "branch"
  dirPath := entries.text? "dir_path"

def StorageOverrides.inTable (entries : Entries) : StorageOverrides where
  endpoint := entries.text? "endpoint"
  accessKey := entries.text? "access_key"
  secretKey := entries.text? "secret_key"
  target := entries.text? "target"
  secure := entries.switch? "secure"
  region := entries.text? "region"

def FileSettings.inTree (entries : Entries) : FileSettings where
  repository := .inTable (entries.tableAt "repository")
  storage := .inTable (entries.tableAt "storage")

namespace Shape
variable {α : Type} {shape : Shape α}

theorem insertByName_perm (entry : Key × Node) (es : Entries) :
    (insertByName entry es).Perm (entry :: es) := by
  induction es with
  | nil => exact .refl _
  | cons other rest ih =>
    rw [insertByName]
    split
    · exact .refl _
    · exact (ih.cons other).trans (.swap entry other rest)

theorem sortByName_perm (entries : Entries) : (sortByName entries).Perm entries := by
  have hfold (rest sorted : Entries) :
      (rest.foldl (fun sorted e => insertByName e sorted) sorted).Perm (rest ++ sorted) := by
    induction rest generalizing sorted with
    | nil => exact .refl _
    | cons e rest ih =>
      exact (ih _).trans (((insertByName_perm e sorted).append_left rest).trans List.perm_middle)
  have hsorted := hfold entries []
  rwa [List.append_nil] at hsorted

/-- A shape takes entries with known keys, one by one, into what they come to together: the last one
taken decides what stands at its key. -/
structure Gathers (shape : Shape α) (known : List (String × (Node → Prop)))
    (gathered : Entries → α) (P : Node → Prop) : Prop where
  names : known.map (·.1) = shape.fieldNames
  step : ∀ {es : Entries} {key : Key} {n : Node} {y : α}, P n → key.name ∈ known.map (·.1) →
    (shape.readEntry (gathered es) (key, n) = .ok y ↔
      (∃ kind, (key.name, kind) ∈ known ∧ kind n) ∧ y = gathered ((key, n) :: es))
  congr : ∀ {es es' : Entries}, (∀ name, es.find? name = es'.find? name) →
    gathered es = gathered es'

variable {known : List (String × (Node → Prop))} {gathered : Entries → α} {P : Node → Prop}

theorem readEntry_of_unknown {e : Key × Node} (h : e.1.name ∉ shape.fieldNames) (x : α) :
    shape.readEntry x e = .error ⟨e.1.span, .unknownField e.1.name shape.fieldNames⟩ := by
  have hnone : shape.fields.find? (·.1 == e.1.name) = none := by
    rw [List.find?_eq_none]
    intro field hfield heq
    exact h (List.mem_map.2 ⟨field, hfield, by simpa using heq⟩)
  rw [readEntry, hnone]

theorem Gathers.readEntry_iff (h : shape.Gathers known gathered P) {es : Entries} {e : Key × Node}
    {y : α} (hP : e.1.name ∈ known.map (·.1) → P e.2) : shape.readEntry (gathered es) e = .ok y ↔
      (∃ kind, (e.1.name, kind) ∈ known ∧ kind e.2) ∧ y = gathered (e :: es) := by
  by_cases hname : e.1.name ∈ known.map (·.1)
  · exact h.step (hP hname) hname
  · have hunknown := readEntry_of_unknown (by rwa [← h.names]) (gathered es)
    refine iff_of_false (fun hok => ?_) fun ⟨⟨_, hkind, _⟩, _⟩ => hname (List.mem_map_of_mem hkind)
    cases hok.symm.trans hunknown

theorem Gathers.foldlM (h : shape.Gathers known gathered P) {rest done : Entries} {y : α}
    (hP : ∀ e ∈ rest, e.1.name ∈ known.map (·.1) → P e.2) :
    rest.foldlM shape.readEntry (gathered done) = .ok y ↔
      Entries.Knows known rest ∧ y = gathered (rest.reverse ++ done) := by
  induction rest generalizing done with
  | nil => simp [Entries.Knows, pure, Except.pure, eq_comm]
  | cons e rest ih =>
    obtain ⟨he, hrest⟩ := List.forall_mem_cons.1 hP
    rw [List.foldlM_cons, Entries.Knows, List.forall_mem_cons, List.reverse_cons, List.append_assoc,
      List.singleton_append, and_assoc]
    constructor
    · intro hread
      obtain ⟨x, hx, hread⟩ := ok_of_bind hread
      obtain ⟨hknown, rfl⟩ := (h.readEntry_iff he).1 hx
      exact ⟨hknown, (ih hrest).1 hread⟩
    · rintro ⟨hknown, hread⟩
      rw [(h.readEntry_iff he).2 ⟨hknown, rfl⟩]
      exact (ih hrest).2 hread

theorem Gathers.readEntries (h : shape.Gathers known gathered P) {entries : Entries} {y : α}
    (hentries : entries.Distinct) (hP : ∀ e ∈ entries, e.1.name ∈ known.map (·.1) → P e.2) :
    shape.readEntries (gathered []) entries = .ok y ↔
      entries.Knows known ∧ y = gathered entries := by
  have hperm := sortByName_perm entries
  have hreverse : entries.Perm ((sortByName entries).reverse ++ []) := by
    rw [List.append_nil]
    exact (((sortByName entries).reverse_perm).trans hperm).symm
  rw [Shape.readEntries, h.foldlM fun e he => hP e (hperm.mem_iff.1 he),
    h.congr (hentries.find?_perm hreverse)]
  exact and_congr_left fun _ => forall_congr' fun e => imp_congr_left hperm.mem_iff

end Shape

section fields
variable {α : Type} {n : Node} {g y : α}

/-- A text is read and put where it belongs; nothing else can stand there. -/
theorem map_readText {put : String → α} (hput : ∀ v, n.text? = some v → put v = g) :
    (readText n).map put = .ok y ↔ n.IsText ∧ y = g := by
  cases n with
  | string span text =>
    rw [← hput text rfl]
    simp [readText, Node.IsText, Except.map, eq_comm]
  | _ => simp [readText, Node.IsText, Except.map]

theorem map_readSwitch {put : Bool → α} (hput : ∀ v, n.switch? = some v → put v = g) :
    (readSwitch n).map put = .ok y ↔ n.IsSwitch ∧ y = g := by
  cases n with
  | boolean span value =>
    rw [← hput value rfl]
    simp [readSwitch, Node.IsSwitch, Except.map, eq_comm]
  | _ => simp [readSwitch, Node.IsSwitch, Except.map]

end fields

theorem RepositorySettings.gathers :
    shape.Gathers repositoryKeys inTable fun _ => True where
  names := rfl
  step {es key n y} _ hname := by
    obtain ⟨name, span⟩ := key
    have hcases : name = "url" ∨ name = "branch" ∨ name = "dir_path" := by
      simpa [repositoryKeys] using hname
    have hkind : (∃ kind, (name, kind) ∈ repositoryKeys ∧ kind n) ↔ n.IsText := by
      rcases hcases with rfl | rfl | rfl <;> simp [repositoryKeys]
    rw [hkind]
    rcases hcases with rfl | rfl | rfl <;>
    · exact map_readText fun v hv => by simp [inTable, Entries.text?_cons, hv]
  congr h := by simp only [inTable, Entries.text?, h]

theorem StorageOverrides.gathers :
    shape.Gathers storageKeys inTable fun _ => True where
  names := rfl
  step {es key n y} _ hname := by
    obtain ⟨name, span⟩ := key
    have hcases : name = "secure" ∨ name = "endpoint" ∨ name = "access_key" ∨ name = "secret_key" ∨
        name = "target" ∨ name = "region" := by
      simp only [storageKeys, List.map_cons, List.map_nil, List.mem_cons, List.not_mem_nil] at hname
      tauto
    rcases hcases with rfl | htext
    · rw [show (∃ kind, ("secure", kind) ∈ storageKeys ∧ kind n) ↔ n.IsSwitch by simp [storageKeys]]
      exact map_readSwitch fun v hv => by
        simp [inTable, Entries.text?_cons, Entries.switch?_cons, hv]
    · have hkind : (∃ kind, (name, kind) ∈ storageKeys ∧ kind n) ↔ n.IsText := by
        rcases htext with rfl | rfl | rfl | rfl | rfl <;> simp [storageKeys]
      rw [hkind]
      rcases htext with rfl | rfl | rfl | rfl | rfl <;>
      · exact map_readText fun v hv => by
          simp [inTable, Entries.text?_cons, Entries.switch?_cons, hv]
  congr h := by simp only [inTable, Entries.text?, Entries.switch?, h]

section sections
variable {α β : Type} {shape : Shape α} {known : List (String × (Node → Prop))}
  {gathered : Entries → α} {n : Node}

/-- A section that is no array is read if it is a table of what is known. -/
theorem Shape.Gathers.map_read (h : shape.Gathers known gathered fun _ => True) (hn : n.Distinct)
    (harray : ¬ n.IsArray) {put : α → β} {y g : β} (hput : put (gathered n.entries) = g) :
    (shape.read (gathered []) n).map put = .ok y ↔ n.IsTable (Entries.Knows known) ∧ y = g := by
  cases n with
  | table span kind entries =>
    have hread (x : α) := h.readEntries (y := x) (Entries.distinct_of_table hn) fun _ _ _ => trivial
    rw [← hput]
    constructor
    · intro hok
      obtain ⟨x, hx, rfl⟩ := ok_of_map hok
      obtain ⟨hknows, rfl⟩ := (hread x).1 hx
      exact ⟨⟨_, _, _, rfl, hknows⟩, rfl⟩
    · rintro ⟨⟨_, _, _, ⟨⟩, hknows⟩, rfl⟩
      rw [Shape.read, (hread _).2 ⟨hknows, rfl⟩]
      rfl
  | array span kind items => exact absurd ⟨_, _, _, rfl⟩ harray
  | _ => simp [Shape.read, Except.map, Node.IsTable]

end sections

theorem FileSettings.gathers :
    shape.Gathers sectionKeys inTree fun n => n.Distinct ∧ ¬ n.IsArray where
  names := rfl
  step {es key n y} hn hname := by
    obtain ⟨name, span⟩ := key
    obtain ⟨hdistinct, harray⟩ := hn
    have hcases : name = "repository" ∨ name = "storage" := by
      simpa [sectionKeys] using hname
    rcases hcases with rfl | rfl
    · rw [show (∃ kind, ("repository", kind) ∈ sectionKeys ∧ kind n) ↔
        n.IsTable (Entries.Knows repositoryKeys) by simp [sectionKeys]]
      exact RepositorySettings.gathers.map_read hdistinct harray
        (by simp [inTree, Entries.tableAt_cons])
    · rw [show (∃ kind, ("storage", kind) ∈ sectionKeys ∧ kind n) ↔
        n.IsTable (Entries.Knows storageKeys) by simp [sectionKeys]]
      exact StorageOverrides.gathers.map_read hdistinct harray
        (by simp [inTree, Entries.tableAt_cons])
  congr h := by simp only [inTree, Entries.tableAt, h]

/-- Neither section of a document is written as an array. -/
def PlainSections (entries : Entries) : Prop :=
  ∀ name ∈ FileSettings.shape.fieldNames, ∀ n ∈ entries.find? name, ¬ n.IsArray

instance (entries : Entries) : Decidable (PlainSections entries) :=
  inferInstanceAs (Decidable (∀ name ∈ FileSettings.shape.fieldNames, ∀ n ∈ entries.find? name,
    ¬ n.IsArray))

theorem FileSettings.ofEntries_eq_ok_iff {entries : Entries} (hentries : entries.Distinct)
    (hplain : PlainSections entries) {s : FileSettings} :
    ofEntries entries = .ok s ↔ entries.Knows sectionKeys ∧ s = inTree entries := by
  refine gathers.readEntries hentries fun e he hname => ⟨hentries.nodes e he, ?_⟩
  exact hplain e.1.name (by rwa [← gathers.names]) e.2
    (hentries.find?_eq_some_iff.2 ⟨e.1, he, rfl⟩)

section same
variable {es es' : Entries}

theorem knows_repositoryKeys_iff (hes : es.Distinct) (hes' : es'.Distinct) (h : es.SameTree es') :
    es.Knows repositoryKeys ↔ es'.Knows repositoryKeys := by
  refine h.knows_iff hes hes' fun k hk n n' _ _ hsame => ?_
  simp only [repositoryKeys, List.mem_cons, List.not_mem_nil, or_false] at hk
  rcases hk with rfl | rfl | rfl <;> exact hsame.isText_iff

theorem knows_storageKeys_iff (hes : es.Distinct) (hes' : es'.Distinct) (h : es.SameTree es') :
    es.Knows storageKeys ↔ es'.Knows storageKeys := by
  refine h.knows_iff hes hes' fun k hk n n' _ _ hsame => ?_
  simp only [storageKeys, List.mem_cons, List.not_mem_nil, or_false] at hk
  rcases hk with rfl | rfl | rfl | rfl | rfl | rfl
  case inr.inr.inr.inr.inl => exact hsame.isSwitch_iff
  all_goals exact hsame.isText_iff

theorem knows_sectionKeys_iff (hes : es.Distinct) (hes' : es'.Distinct) (h : es.SameTree es') :
    es.Knows sectionKeys ↔ es'.Knows sectionKeys := by
  refine h.knows_iff hes hes' fun k hk n n' hn hn' hsame => ?_
  simp only [sectionKeys, List.mem_cons, List.not_mem_nil, or_false] at hk
  rcases hk with rfl | rfl
  · exact hsame.isTable_iff hn hn' knows_repositoryKeys_iff
  · exact hsame.isTable_iff hn hn' knows_storageKeys_iff

theorem RepositorySettings.inTable_congr (h : es.SameTree es') : inTable es = inTable es' := by
  simp only [inTable, h.text?]

theorem StorageOverrides.inTable_congr (h : es.SameTree es') : inTable es = inTable es' := by
  simp only [inTable, h.text?, h.switch?]

theorem FileSettings.inTree_congr (h : es.SameTree es') : inTree es = inTree es' := by
  rw [inTree, inTree, RepositorySettings.inTable_congr (h.tableAt _),
    StorageOverrides.inTable_congr (h.tableAt _)]

theorem PlainSections.congr (h : PlainSections es) (hsame : es.SameTree es') :
    PlainSections es' := by
  intro name hname n' hfind'
  have hrel := hsame name
  have hnode (n : Node) := h name hname n
  rw [hfind'] at hrel
  generalize es.find? name = a at hrel hnode
  cases hrel with
  | some hn => exact fun harray => hnode _ rfl (hn.isArray_iff.2 harray)

end same

namespace FileSettings
variable {text : String} {entries : Entries} {s : FileSettings}

theorem ofText_eq_ok_iff (hparse : parse text = some entries) :
    ofText text = .ok s ↔ ofEntries entries = .ok s := by
  simp only [ofText, hparse]
  cases ofEntries entries <;> simp

theorem ofText_of_misfit {misfit : Misfit} (hparse : parse text = some entries)
    (h : ofEntries entries = .error misfit) :
    ofText text = .error (.config (.toml (misfit.report text))) := by
  simp only [ofText, hparse, h]

/-- A document whose sections are no arrays is read exactly if it has no keys but the known ones,
each with a value of its kind. Its settings are then the values at their keys, so that documents
with the same values at the same keys, however these are written, come to the same. -/
theorem ofText_reads_tree (hparse : parse text = some entries) (hplain : PlainSections entries) :
    (∀ s, ofText text = .ok s ↔ entries.Knows sectionKeys ∧ s = inTree entries) ∧
      (¬ entries.Knows sectionKeys → ∃ fault : ConfigFault, ofText text = .error (.config fault) ∧
        "TOML parsing error: ".toList <+: fault.message.toList) ∧
      ∀ text' entries', parse text' = some entries' → entries.SameTree entries' →
        ∀ s, ofText text = .ok s ↔ ofText text' = .ok s := by
  have hdistinct := distinct_of_parse hparse
  have hread (s : FileSettings) :
      ofText text = .ok s ↔ entries.Knows sectionKeys ∧ s = inTree entries :=
    (ofText_eq_ok_iff hparse).trans (ofEntries_eq_ok_iff hdistinct hplain)
  refine ⟨hread, fun hunknown => ?_, fun text' entries' hparse' hsame s => ?_⟩
  · cases hentries : ofEntries entries with
    | ok s => exact absurd ((ofEntries_eq_ok_iff hdistinct hplain).1 hentries).1 hunknown
    | error misfit =>
      exact ⟨_, ofText_of_misfit hparse hentries, _, String.toList_append.symm⟩
  · have hdistinct' := distinct_of_parse hparse'
    rw [hread, ofText_eq_ok_iff hparse', ofEntries_eq_ok_iff hdistinct' (hplain.congr hsame),
      knows_sectionKeys_iff hdistinct hdistinct' hsame, inTree_congr hsame]

theorem ofText_reads_tree_dotted : ∃ entries,
    parse "storage.secure = true\nrepository = \x7burl = 'u'\x7d" = some entries ∧
      PlainSections entries ∧ entries.Knows sectionKeys ∧
      inTree entries =
        { repository := { url := some "u" }, storage := { secure := some true } } := by
  have hplain : (parse "storage.secure = true\nrepository = \x7burl = 'u'\x7d").any
      (fun entries => decide (PlainSections entries)) = true := by decide +kernel
  have hread : ofText "storage.secure = true\nrepository = \x7burl = 'u'\x7d" =
      .ok { repository := { url := some "u" }, storage := { secure := some true } } := by
    decide +kernel
  obtain ⟨entries, hparse, hentries⟩ := (Option.any_eq_true _ _).1 hplain
  have hentries := of_decide_eq_true hentries
  obtain ⟨hknows, hs⟩ := ((ofText_reads_tree hparse hentries).1 _).1 hread
  exact ⟨entries, hparse, hentries, hknows, hs.symm⟩

end FileSettings
end SparseTransfer
