import SparseTransfer.Proofs.Settings.FileSettings
import SparseTransfer.Proofs.Toml.Exchange
import SparseTransfer.Proofs.Toml.Report

/- The secret key in a configuration file. It decides neither whether the file is accepted nor what
is shown of the settings, but a report on a mistake shows it if it stands on the line of the
mistake. -/
namespace SparseTransfer
namespace Toml

/-- The node with another text, if it is one. -/
def Node.withText (text : String) : Node → Node
  | .string span _ => .string span text
  | n => n

/-- A section with another secret, if it gives one. -/
def Node.withSecret (key : String) : Node → Node
  | .table span kind entries =>
    .table span kind (entries.map fun e =>
      if e.1.name = "secret_key" then (e.1, e.2.withText key) else e)
  | .array span kind items => .array span kind (items.modify 2 (Node.withText key))
  | n => n

def Entries.withSecret (key : String) (entries : Entries) : Entries :=
  entries.map fun e => if e.1.name = "storage" then (e.1, e.2.withSecret key) else e

end Toml

open Toml

/-- The settings with another secret, if they have one. -/
def StorageOverrides.rekey (key : String) (s : StorageOverrides) : StorageOverrides :=
  { s with secretKey := s.secretKey.map fun _ => key }

def FileSettings.rekey (key : String) (s : FileSettings) : FileSettings :=
  { s with storage := s.storage.rekey key }

theorem StorageOverrides.inspect_rekey (key : String) (s : StorageOverrides) :
    (s.rekey key).inspect = s.inspect := by
  obtain ⟨endpoint, accessKey, secretKey, target, secure, region⟩ := s
  cases secretKey <;> rfl

theorem FileSettings.inspect_rekey (key : String) (s : FileSettings) :
    (s.rekey key).inspect = s.inspect := by
  unfold inspect
  simp only [rekey, StorageOverrides.inspect_rekey]

namespace Shape
variable {α : Type} {shape : Shape α} {f : α → α} {g : Key × Node → Key × Node}

theorem insertByName_map (hg : ∀ e, (g e).1 = e.1) (entry : Key × Node) (es : Entries) :
    insertByName (g entry) (es.map g) = (insertByName entry es).map g := by
  induction es with
  | nil => rfl
  | cons other rest ih =>
    rw [List.map_cons, insertByName, insertByName, hg, hg]
    split
    · rfl
    · rw [ih, List.map_cons]

theorem sortByName_map (hg : ∀ e, (g e).1 = e.1) (entries : Entries) :
    sortByName (entries.map g) = (sortByName entries).map g := by
  have hfold (rest sorted : Entries) :
      (rest.map g).foldl (fun sorted e => insertByName e sorted) (sorted.map g) =
        (rest.foldl (fun sorted e => insertByName e sorted) sorted).map g := by
    induction rest generalizing sorted with
    | nil => rfl
    | cons e rest ih =>
      rw [List.map_cons, List.foldl_cons, List.foldl_cons, insertByName_map hg, ih]
  exact hfold entries []

/-- Changing entries changes what is read as changing each alone does. -/
theorem readEntries_map (hg : ∀ e, (g e).1 = e.1)
    (hread : ∀ x e, shape.readEntry (f x) (g e) = (shape.readEntry x e).map f) (x : α)
    (entries : Entries) :
    shape.readEntries (f x) (entries.map g) = (shape.readEntries x entries).map f := by
  have hfold (es : Entries) (x : α) :
      (es.map g).foldlM shape.readEntry (f x) = (es.foldlM shape.readEntry x).map f := by
    induction es generalizing x with
    | nil => rfl
    | cons e es ih =>
      rw [List.map_cons, List.foldlM_cons, List.foldlM_cons, hread]
      cases shape.readEntry x e with
      | error misfit => rfl
      | ok y => exact ih y
  rw [readEntries, readEntries, sortByName_map hg, hfold]

variable {span : Span} {length : Nat} {field : String × (Node → α → Except Misfit α)}
  {fields : List (String × (Node → α → Except Misfit α))} {n n' : Node} {items items' : List Node}

theorem readItems_cons_map (hfield : ∀ x, field.2 n' (f x) = (field.2 n x).map f)
    (hfields : ∀ x, shape.readItems span length fields items' (f x) =
      (shape.readItems span length fields items x).map f) (x : α) :
    shape.readItems span length (field :: fields) (n' :: items') (f x) =
      (shape.readItems span length (field :: fields) (n :: items) x).map f := by
  rw [readItems, readItems, hfield]
  cases field.2 n x with
  | error misfit => rfl
  | ok y => exact hfields y

theorem readItems_map (hput : ∀ field ∈ fields, ∀ n x, field.2 n (f x) = (field.2 n x).map f)
    (items : List Node) (x : α) : shape.readItems span length fields items (f x) =
      (shape.readItems span length fields items x).map f := by
  induction fields generalizing items x with
  | nil => rfl
  | cons field fields ih =>
    obtain ⟨hfield, hfields⟩ := List.forall_mem_cons.1 hput
    cases items with
    | nil => rfl
    | cons item items => exact readItems_cons_map (hfield item) (ih hfields items) x

end Shape

namespace StorageOverrides
variable {key : String}

theorem readText_withText (n : Node) :
    readText (n.withText key) = (readText n).map fun _ => key := by
  cases n <;> rfl

theorem put_rekey {field : String × (Node → StorageOverrides → Except Misfit StorageOverrides)}
    (hfield : field ∈ shape.fields) (hname : field.1 ≠ "secret_key") (n : Node)
    (s : StorageOverrides) : field.2 n (s.rekey key) = (field.2 n s).map (·.rekey key) := by
  simp only [shape, List.mem_cons, List.not_mem_nil, or_false] at hfield
  rcases hfield with rfl | rfl | rfl | rfl | rfl | rfl
  case inr.inr.inl => exact absurd rfl hname
  case inr.inr.inr.inr.inl => dsimp only; cases readSwitch n <;> rfl
  all_goals dsimp only; cases readText n <;> rfl

/-- A secret is read as any text is, and stands where it is put. -/
theorem put_withText (n : Node) (s : StorageOverrides) :
    ((readText (n.withText key)).map fun v => { s.rekey key with secretKey := some v }) =
      ((readText n).map fun v => { s with secretKey := some v }).map (·.rekey key) := by
  rw [readText_withText]
  cases readText n <;> rfl

theorem readEntry_withSecret (s : StorageOverrides) (e : Key × Node) :
    shape.readEntry (s.rekey key) (if e.1.name = "secret_key" then (e.1, e.2.withText key) else e) =
      (shape.readEntry s e).map (·.rekey key) := by
  obtain ⟨⟨name, span⟩, n⟩ := e
  by_cases hname : name = "secret_key"
  · subst hname
    exact put_withText n s
  · rw [if_neg hname, Shape.readEntry, Shape.readEntry]
    cases hfield : shape.fields.find? (·.1 == name) with
    | none => rfl
    | some field =>
      refine put_rekey (List.mem_of_find?_eq_some hfield) ?_ n s
      have hsame := List.find?_some hfield
      rwa [beq_iff_eq.1 hsame]

/-- The secret is the third of the fields. -/
theorem readItems_withSecret {span : Span} {length : Nat} (items : List Node)
    (s : StorageOverrides) :
    shape.readItems span length shape.fields (items.modify 2 (Node.withText key)) (s.rekey key) =
      (shape.readItems span length shape.fields items s).map (·.rekey key) := by
  have hfirst := @put_rekey key shape.fields[0] (by simp [shape]) (by simp [shape])
  have hsecond := @put_rekey key shape.fields[1] (by simp [shape]) (by simp [shape])
  have hnames : ∀ field ∈ shape.fields.drop 3, field.1 ≠ "secret_key" := by simp [shape]
  rcases items with _ | ⟨a, _ | ⟨b, _ | ⟨c, items⟩⟩⟩
  · rfl
  · exact Shape.readItems_cons_map (hfirst a) (fun _ => rfl) s
  · exact Shape.readItems_cons_map (hfirst a)
      (Shape.readItems_cons_map (hsecond b) fun _ => rfl) s
  · refine Shape.readItems_cons_map (hfirst a) (Shape.readItems_cons_map (hsecond b)
      (Shape.readItems_cons_map (put_withText c)
        (Shape.readItems_map (fun field hfield => ?_) items))) s
    exact put_rekey (List.mem_of_mem_drop (l := shape.fields) (i := 3) hfield) (hnames field hfield)

theorem read_withSecret (n : Node) :
    shape.read {} (n.withSecret key) = (shape.read {} n).map (·.rekey key) := by
  cases n with
  | table span kind entries =>
    refine Shape.readEntries_map (f := rekey key) (fun e => ?_) readEntry_withSecret {} entries
    split <;> rfl
  | array span kind items =>
    rw [Node.withSecret, Shape.read, List.length_modify]
    exact readItems_withSecret items {}
  | _ => rfl

end StorageOverrides

theorem FileSettings.ofEntries_withSecret (key : String) (entries : Entries) :
    ofEntries (entries.withSecret key) = (ofEntries entries).map (·.rekey key) := by
  refine Shape.readEntries_map (f := rekey key) (fun e => ?_) (fun s e => ?_) {} entries
  · split <;> rfl
  · obtain ⟨⟨name, span⟩, n⟩ := e
    by_cases hname : name = "storage"
    · subst hname
      change (StorageOverrides.shape.read {} (n.withSecret key)).map _ = _
      rw [StorageOverrides.read_withSecret]
      change _ = ((StorageOverrides.shape.read {} n).map _).map _
      cases StorageOverrides.shape.read {} n <;> rfl
    · rw [if_neg hname, Shape.readEntry, Shape.readEntry]
      cases hfield : shape.fields.find? (·.1 == name) with
      | none => rfl
      | some field =>
        have hsame := List.find?_some hfield
        have hmem := List.mem_of_find?_eq_some hfield
        simp only [shape, List.mem_cons, List.not_mem_nil, or_false] at hmem
        rcases hmem with rfl | rfl
        · dsimp only
          cases RepositorySettings.shape.read {} n <;> rfl
        · exact absurd (beq_iff_eq.1 hsame).symm hname

namespace Toml

def Node.textSpan? : Node → Option Span
  | .string span _ => some span
  | _ => none

/-- Where the secret stands, if a section gives one. -/
def Node.secretSpan? : Node → Option Span
  | .table _ _ entries => (Entries.find? entries "secret_key").bind Node.textSpan?
  | .array _ _ items => items[2]?.bind Node.textSpan?
  | _ => none

def Entries.secretSpan? (entries : Entries) : Option Span :=
  (entries.find? "storage").bind Node.secretSpan?

variable {entries : Entries} {name key : String} {n : Node} {span : Span}

theorem Node.of_textSpan? (key : String) (h : n.textSpan? = some span) : span.start ∈ n.starts ∧
    n.retext span.start key = n.withText key := by
  cases n with
  | string span' text =>
    obtain rfl := Option.some.inj h
    rw [starts, retext, if_pos rfl]
    exact ⟨List.mem_singleton_self _, rfl⟩
  | _ => cases h

/-- A place that is in one part of a list without repetitions is in no other. -/
theorem notMem_of_nodup_flatMap {α : Type} {f : α → List Nat} {before after : List α}
    {part : α} {place : Nat} (h : ((before ++ part :: after).flatMap f).Nodup)
    (hin : place ∈ f part) {other : α} (hother : other ∈ before ++ after) : place ∉ f other := by
  intro hplace
  rw [List.flatMap_append, List.flatMap_cons, List.nodup_append, List.nodup_append] at h
  obtain ⟨-, ⟨-, -, hafter⟩, hbefore⟩ := h
  rcases List.mem_append.1 hother with hother | hother
  · exact hbefore place (List.mem_flatMap.2 ⟨other, hother, hplace⟩) place
      (List.mem_append_left _ hin) rfl
  · exact hafter place hin place (List.mem_flatMap.2 ⟨other, hother, hplace⟩) rfl

/-- A string that stands at one key is exchanged by a change at that key. -/
theorem Entries.retext_at {f : Node → Node} (h : entries.Distinct) (hstarts : entries.starts.Nodup)
    (hfind : entries.find? name = some n) (hin : span.start ∈ n.starts)
    (hf : n.retext span.start key = f n) :
    entries.retext span.start key =
      entries.map fun e => if e.1.name = name then (e.1, f e.2) else e := by
  obtain ⟨found, hmem, hname⟩ := mem_of_find? hfind
  refine List.map_congr_left fun e he => ?_
  split
  · next hsame =>
    have hsame := (h.find?_eq_some_iff.2 ⟨e.1, he, hsame⟩).symm.trans hfind
    rw [Option.some.inj hsame, hf]
  · next hother =>
    have hne : e ≠ (found, n) := by
      rintro rfl
      exact hother hname
    obtain ⟨before, after, rfl⟩ := List.append_of_mem hmem
    have hrest : e ∈ before ++ after := by
      simp only [List.mem_append, List.mem_cons] at he ⊢
      tauto
    rw [e.2.retext_of_notMem (notMem_of_nodup_flatMap hstarts hin hrest)]

/-- The string that the secret stands in is exchanged by giving another secret. -/
theorem Node.of_secretSpan? (key : String) (h : n.secretSpan? = some span) (hn : n.Distinct)
    (hstarts : n.starts.Nodup) :
    span.start ∈ n.starts ∧ n.retext span.start key = n.withSecret key := by
  cases n with
  | table _ _ entries =>
    rw [Entries.starts_table] at hstarts ⊢
    obtain ⟨secret, hfind, hsecret⟩ := Option.bind_eq_some_iff.1 h
    obtain ⟨hin, htext⟩ := Node.of_textSpan? key hsecret
    obtain ⟨found, hmem, -⟩ := Entries.mem_of_find? hfind
    refine ⟨List.mem_flatMap.2 ⟨_, hmem, hin⟩, ?_⟩
    rw [Entries.retext_table, Entries.retext_at (Entries.distinct_of_table hn) hstarts hfind hin
      htext, withSecret]
  | array _ _ items =>
    rw [Entries.starts_array] at hstarts ⊢
    obtain ⟨secret, hitem, hsecret⟩ := Option.bind_eq_some_iff.1 h
    obtain ⟨hin, htext⟩ := Node.of_textSpan? key hsecret
    refine ⟨List.mem_flatMap.2 ⟨_, List.mem_of_getElem? hitem, hin⟩, ?_⟩
    match items, hitem with
    | first :: second :: _ :: rest, rfl =>
      replace hstarts : (([first, second] ++ secret :: rest).flatMap starts).Nodup := hstarts
      have hout {other : Node} (hother : other ∈ [first, second] ++ rest) :=
        notMem_of_nodup_flatMap hstarts hin hother
      have hrest : rest.map (retext span.start key) = rest :=
        (List.map_congr_left fun n hn => n.retext_of_notMem (hout (by simp [hn]))).trans
          (List.map_id rest)
      rw [retext, withSecret]
      simp only [List.map_cons, htext, hrest]
      rw [first.retext_of_notMem (hout (by simp)), second.retext_of_notMem (hout (by simp))]
      rfl
  | _ => cases h

theorem Entries.of_secretSpan? (key : String) (h : entries.secretSpan? = some span)
    (hentries : entries.Distinct) (hstarts : entries.starts.Nodup) :
    span.start ∈ entries.starts ∧ entries.retext span.start key = entries.withSecret key := by
  obtain ⟨section', hfind, hsecret⟩ := Option.bind_eq_some_iff.1 h
  obtain ⟨found, hmem, -⟩ := Entries.mem_of_find? hfind
  obtain ⟨hin, hsection⟩ := Node.of_secretSpan? key hsecret (hentries.find? hfind)
    ((List.nodup_flatMap.1 hstarts).1 _ hmem)
  exact ⟨List.mem_flatMap.2 ⟨_, hmem, hin⟩, Entries.retext_at hentries hstarts hfind hin hsection⟩

end Toml

/-- The document `before ++ literal ++ after` gives its secret in `literal`, and `other` gives
another one, as long and in the same quotes, without moving a line end. -/
structure SecretLiteral (before literal other after : List Char) (entries : Entries) : Prop where
  parse : Toml.parse (String.ofList (before ++ (literal ++ after))) = some entries
  span : entries.secretSpan? = some ⟨before.length, before.length + literal.length⟩
  reads : ∃ secret, readString (literal ++ after) = some (secret, after)
  reads_other : ∃ secret, readString (other ++ after) = some (secret, after)
  quote : (other ++ after).head? = (literal ++ after).head?
  lines : SameLines literal other

namespace SecretLiteral
variable {before literal other after : List Char} {entries : Entries}

theorem sameLines (h : SecretLiteral before literal other after entries) :
    SameLines (before ++ (literal ++ after)) (before ++ (other ++ after)) := by
  have hlines := h.lines
  rw [SameLines] at hlines ⊢
  simp only [List.map_append, hlines]

/-- The other document has the same tree, but for the secret. -/
theorem parse_other (h : SecretLiteral before literal other after entries) : ∃ key,
    Toml.parse (String.ofList (before ++ (other ++ after))) = some (entries.withSecret key) := by
  obtain ⟨key, hkey⟩ := h.reads_other
  let x : Toml.Exchange :=
    { start := before.length
      old := literal ++ after
      new := other ++ after
      text := key
      after := after
      reads_old := h.reads
      reads_new := hkey
      length_new := by rw [List.length_append, List.length_append, h.lines.length]
      quote := h.quote }
  obtain ⟨hin, hexchange⟩ := Entries.of_secretSpan? (String.ofList key) h.span
    (distinct_of_parse h.parse) (nodup_starts_of_parse h.parse)
  refine ⟨String.ofList key, ?_⟩
  rw [← hexchange]
  exact x.parse_exchange rfl h.parse hin

end SecretLiteral

namespace FileSettings
variable {before literal other after : List Char} {entries : Entries}

theorem message_inj {report report' : String} :
    (TransferError.config (.toml report')).message = (TransferError.config (.toml report)).message ↔
      report' = report := by
  refine ⟨fun heq => ?_, fun heq => by rw [heq]⟩
  replace heq : "Configuration error: " ++ ("TOML parsing error: " ++ report') =
    "Configuration error: " ++ ("TOML parsing error: " ++ report) := heq
  rwa [String.append_right_inj, String.append_right_inj] at heq

theorem report_infix_message (report : String) :
    report.toList <:+: (TransferError.config (.toml report)).message.toList := by
  change _ <:+: ("Configuration error: " ++ ("TOML parsing error: " ++ report)).toList
  rw [← String.append_assoc, String.toList_append]
  exact (List.suffix_append _ _).isInfix

/-- Documents that differ in the secret only are both accepted, with settings that are shown alike,
or both rejected for the same mistake. What is said of the mistake then differs exactly if its
excerpt of the text does: it does so if the line of the mistake differs, and does not if this line
and the part complained of are the same in both. -/
theorem secret_shown_iff (h : SecretLiteral before literal other after entries) :
    (∀ s, ofText (String.ofList (before ++ (literal ++ after))) = .ok s →
      ∃ s', ofText (String.ofList (before ++ (other ++ after))) = .ok s' ∧ s'.inspect = s.inspect) ∧
    ∀ e, ofText (String.ofList (before ++ (literal ++ after))) = .error e →
      ∃ (misfit : Misfit) (e' : TransferError), ofEntries entries = .error misfit ∧
        ofText (String.ofList (before ++ (other ++ after))) = .error e' ∧
        let line := lineAround (before ++ (literal ++ after)) misfit.span.start
        (e'.message = e.message ↔
          misfit.excerpt (before ++ (other ++ after)) =
            misfit.excerpt (before ++ (literal ++ after))) ∧
        (line.of (before ++ (other ++ after)) ≠ line.of (before ++ (literal ++ after)) →
          e'.message ≠ e.message) ∧
        (line.of (before ++ (other ++ after)) = line.of (before ++ (literal ++ after)) →
          misfit.span.of (before ++ (other ++ after)) =
            misfit.span.of (before ++ (literal ++ after)) → e'.message = e.message) := by
  obtain ⟨key, hother⟩ := h.parse_other
  have hread := ofEntries_withSecret key entries
  refine ⟨fun s hs => ?_, fun e he => ?_⟩
  · rw [(ofText_eq_ok_iff h.parse).1 hs] at hread
    exact ⟨s.rekey key, (ofText_eq_ok_iff hother).2 hread, inspect_rekey key s⟩
  · cases hentries : ofEntries entries with
    | ok s =>
      rw [(ofText_eq_ok_iff h.parse).2 hentries] at he
      cases he
    | error misfit =>
      rw [hentries] at hread
      rw [ofText_of_misfit h.parse hentries] at he
      cases he
      have hiff := message_inj.trans (misfit.report_eq_iff h.sameLines)
      exact ⟨misfit, _, rfl, ofText_of_misfit hother hread, hiff,
        fun hline heq => hline (misfit.line_of_excerpt h.sameLines (hiff.1 heq)),
        fun hline hspan => hiff.2 (misfit.excerpt_of_sameLines h.sameLines hline hspan)⟩

/-- The mistake is on another line than the secret. -/
theorem secret_shown_iff_elsewhere : ∃ entries e e',
    SecretLiteral "storage.secret_key = ".toList "'a'".toList "'b'".toList
        "\nx = 1".toList entries ∧
      ofText "storage.secret_key = 'a'\nx = 1" = .error e ∧
      ofText "storage.secret_key = 'b'\nx = 1" = .error e' ∧ e'.message = e.message := by
  have hparse : (parse "storage.secret_key = 'a'\nx = 1").any (fun entries =>
      decide (entries.secretSpan? = some ⟨21, 24⟩ ∧
        ofEntries entries = .error ⟨⟨25, 26⟩, .unknownField "x" shape.fieldNames⟩)) = true := by
          decide +kernel
  obtain ⟨entries, hparse, hholds⟩ := (Option.any_eq_true _ _).1 hparse
  obtain ⟨hspan, hread⟩ := of_decide_eq_true hholds
  have h : SecretLiteral "storage.secret_key = ".toList "'a'".toList "'b'".toList
      "\nx = 1".toList entries :=
    { parse := hparse
      span := hspan
      reads := ⟨['a'], by decide +kernel⟩
      reads_other := ⟨['b'], by decide +kernel⟩
      quote := by decide +kernel
      lines := by decide +kernel }
  have he := ofText_of_misfit hparse hread
  obtain ⟨misfit, e', hmisfit, he', -, -, hsame⟩ := (secret_shown_iff h).2 _ he
  obtain rfl := Except.error.inj (hread.symm.trans hmisfit)
  exact ⟨entries, _, e', h, he, he', hsame (by decide +kernel) (by decide +kernel)⟩

/-- The mistake is on the line of the secret, so that the report on it shows the secret. -/
theorem secret_told : ∃ entries e e',
    SecretLiteral "storage = \x7bsecret_key = ".toList "\"hunter2\"".toList "\"hunter3\"".toList
        ", x = 1\x7d\n".toList entries ∧
      ofText "storage = \x7bsecret_key = \"hunter2\", x = 1\x7d\n" = .error e ∧
      ofText "storage = \x7bsecret_key = \"hunter3\", x = 1\x7d\n" = .error e' ∧
        e'.message ≠ e.message ∧
      "hunter2".toList <:+: e.message.toList := by
  have hparse : (parse "storage = \x7bsecret_key = \"hunter2\", x = 1\x7d\n").any (fun entries =>
      decide (entries.secretSpan? = some ⟨24, 33⟩ ∧ ofEntries entries =
        .error ⟨⟨35, 36⟩, .unknownField "x" StorageOverrides.shape.fieldNames⟩)) = true := by
          decide +kernel
  obtain ⟨entries, hparse, hholds⟩ := (Option.any_eq_true _ _).1 hparse
  obtain ⟨hspan, hread⟩ := of_decide_eq_true hholds
  have h : SecretLiteral "storage = \x7bsecret_key = ".toList "\"hunter2\"".toList
      "\"hunter3\"".toList ", x = 1\x7d\n".toList entries :=
    { parse := hparse
      span := hspan
      reads := ⟨"hunter2".toList, by decide +kernel⟩
      reads_other := ⟨"hunter3".toList, by decide +kernel⟩
      quote := by decide +kernel
      lines := by decide +kernel }
  obtain ⟨key, hother⟩ := h.parse_other
  have hread' := ofEntries_withSecret key entries
  rw [hread] at hread'
  refine ⟨entries, _, _, h, ofText_of_misfit hparse hread, ofText_of_misfit hother hread', ?_, ?_⟩
  · exact (message_inj.trans (Misfit.report_eq_iff h.sameLines _)).not.2 (by decide +kernel)
  · refine List.IsInfix.trans ?_ ((Misfit.excerpt_infix _ _).trans (report_infix_message _))
    decide +kernel

end FileSettings
end SparseTransfer
