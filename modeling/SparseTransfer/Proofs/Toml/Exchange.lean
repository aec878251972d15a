import SparseTransfer.Proofs.Toml.Starts

/- Exchanging one string of a document for another leaves the rest of its tree as it is. -/
namespace SparseTransfer.Toml

/-- A string in a text is exchanged for another of the same length, in the same quotes. -/
structure Exchange where
  /-- How many characters come before the string. -/
  start : Nat
  /-- The text from the string on. -/
  old : List Char
  new : List Char
  /-- What the new string says. -/
  text : List Char
  /-- The text behind the string. -/
  after : List Char
  reads_old : ∃ text, readString old = some (text, after)
  reads_new : readString new = some (text, after)
  length_new : new.length = old.length
  quote : new.head? = old.head?

namespace Exchange
variable (x : Exchange) {c c' : Cursor}

/-- Cursors in the old and in the new text that have come equally far, unless into the string. -/
inductive Beside : Cursor → Cursor → Prop
  | before (pos : Nat) (w : List Char) (h : pos + w.length = x.start) :
      Beside ⟨pos, w ++ x.old⟩ ⟨pos, w ++ x.new⟩
  | behind (c : Cursor) (h : x.start < c.pos) : Beside c c

variable {x}

theorem exists_quote (x : Exchange) : ∃ (quote : Char) (s s' : List Char),
    (quote = '"' ∨ quote = '\'') ∧ x.old = quote :: s ∧ x.new = quote :: s' := by
  obtain ⟨text, hold⟩ := x.reads_old
  have hnew := x.quote
  cases hstart : x.old with
  | nil =>
    rw [hstart] at hold
    cases hold
  | cons quote s =>
    rw [hstart] at hold hnew
    have hquote : quote = '"' ∨ quote = '\'' := by
      unfold readString at hold
      split at hold
      case h_1 heq => exact .inl (List.cons.inj heq).1
      case h_2 heq => exact .inr (List.cons.inj heq).1
      case h_3 heq => exact .inl (List.cons.inj heq).1
      case h_4 heq => exact .inr (List.cons.inj heq).1
      case h_5 => cases hold
    cases hstart' : x.new with
    | nil =>
      rw [hstart'] at hnew
      cases hnew
    | cons quote' s' =>
      rw [hstart'] at hnew
      obtain rfl := Option.some.inj hnew
      exact ⟨quote', s, s', hquote, rfl, rfl⟩

theorem twin (x : Exchange) : Twin x.old x.new := by
  obtain ⟨quote, s, s', hquote, hold, hnew⟩ := x.exists_quote
  have hlength := x.length_new
  rw [hold, hnew] at hlength ⊢
  exact ⟨[], quote, s, s', hquote, Nat.succ.inj hlength, rfl, rfl⟩

theorem Beside.pos (h : x.Beside c c') : c'.pos = c.pos := by
  cases h <;> rfl

theorem Beside.length (h : x.Beside c c') : c'.rest.length = c.rest.length := by
  cases h with
  | before pos w h => simp [x.length_new]
  | behind => rfl

/-- What a reader does that stays before the string, or is behind it. -/
theorem Beside.reads {β : Type} {R : Cursor → Option (β × Cursor)} (hR : Cursor.Reads R) {v : β}
    {next : Cursor} (h : x.Beside c c') (hread : R c = some (v, next))
    (hclear : next.pos ≤ x.start ∨ x.start < c.pos) :
    ∃ next', x.Beside next next' ∧ R c' = some (v, next') := by
  cases h with
  | before pos w h =>
    obtain ⟨u, r, hrest, rfl, hread'⟩ := hR hread
    have hu : u.length ≤ w.length := by
      dsimp only at hclear
      omega
    obtain ⟨w, rfl⟩ : u <+: w :=
      List.prefix_of_prefix_length_le ⟨r, hrest.symm⟩ (List.prefix_append w x.old) hu
    rw [List.append_assoc] at hrest
    obtain rfl := List.append_cancel_left hrest
    refine ⟨⟨pos + u.length, w ++ x.new⟩, ?_, ?_⟩
    · exact .before _ _ (by rw [← h, List.length_append, Nat.add_assoc])
    · rw [List.append_assoc]
      exact hread' _ (x.twin.append w)
  | behind _ h =>
    obtain ⟨u, r, hrest, rfl, -⟩ := hR hread
    exact ⟨_, .behind _ (by dsimp only; omega), hread⟩

theorem Beside.skips {R : Cursor → Option Cursor} (hR : Cursor.Skips R) {next : Cursor}
    (h : x.Beside c c') (hskip : R c = some next) (hclear : next.pos ≤ x.start ∨ x.start < c.pos) :
    ∃ next', x.Beside next next' ∧ R c' = some next' := by
  have hreads : Cursor.Reads fun c => (R c).map (Prod.mk ()) := by
    intro pos s _ next hmap
    obtain ⟨_, hskip, heq⟩ := Option.map_eq_some_iff.1 hmap
    cases heq
    obtain ⟨u, r, rfl, rfl, hskip'⟩ := hR hskip
    exact ⟨u, r, rfl, rfl, fun r' hr => congrArg (Option.map (Prod.mk ())) (hskip' r' hr)⟩
  obtain ⟨next', hnext, hmap⟩ := h.reads hreads (congrArg (Option.map (Prod.mk ())) hskip) hclear
  obtain ⟨_, hskip', heq⟩ := Option.map_eq_some_iff.1 hmap
  cases heq
  exact ⟨_, hnext, hskip'⟩

theorem Beside.skipBlanks (h : x.Beside c c')
    (hclear : c.skipBlanks.pos ≤ x.start ∨ x.start < c.pos) :
    x.Beside c.skipBlanks c'.skipBlanks := by
  have hskips : Cursor.Skips fun c => some c.skipBlanks := by
    intro pos s next hnext
    cases hnext
    obtain ⟨u, r, rfl, hblanks, hblanks'⟩ := Cursor.skipBlanks_local pos s
    exact ⟨u, r, rfl, hblanks, fun r' hr => congrArg some (hblanks' r' hr)⟩
  obtain ⟨_, hnext, heq⟩ := h.skips hskips rfl hclear
  cases heq
  exact hnext

theorem Beside.expect_eq_none (h : x.Beside c c') {char : Char} (hnone : c.expect char = none) :
    c'.expect char = none := by
  cases h with
  | before pos w h => exact Cursor.expect_eq_none hnone (x.twin.append w)
  | behind => exact hnone

/-- The tree with the new text in place of the old one. -/
def node (x : Exchange) (n : Node) : Node := n.retext x.start (String.ofList x.text)

def entries (x : Exchange) (es : Entries) : Entries := es.retext x.start (String.ofList x.text)

theorem node_of_notMem {n : Node} (h : x.start ∉ n.starts) : x.node n = n := n.retext_of_notMem h

theorem assign_entries (x : Exchange) {es es' : Entries} {path : List Key} {key : Key} {n : Node}
    {kind : TableKind} (h : es.assign path key n kind = some es') :
    (x.entries es).assign path key (x.node n) kind = some (x.entries es') := by
  rw [entries, node, Entries.assign_retext, h]
  rfl

theorem Beside.skip (pos : Nat) (char : Char) (w : List Char)
    (h : pos + (char :: w).length = x.start) :
    x.Beside ⟨pos + 1, w ++ x.old⟩ ⟨pos + 1, w ++ x.new⟩ :=
  .before _ _ (by rw [← h, List.length_cons]; omega)

/-- Where the string stands, the new one is read. -/
theorem read_string (x : Exchange) {fuel depth pos : Nat} {n : Node} {next : Cursor}
    (hpos : pos + ([] : List Char).length = x.start)
    (h : readValue (fuel + 1) depth ⟨pos, [] ++ x.old⟩ = some (n, next)) :
    ∃ next', x.Beside next next' ∧
      readValue (fuel + 1) depth ⟨pos, [] ++ x.new⟩ = some (x.node n, next') := by
  obtain ⟨quote, s, s', hquote, hold, hnew⟩ := x.exists_quote
  obtain ⟨text, hread⟩ := x.reads_old
  obtain ⟨u, hu, hlength, -⟩ := local_readString hread
  have hmove : (Cursor.mk pos x.new).moveTo x.after = (Cursor.mk pos x.old).moveTo x.after := by
    rw [Cursor.moveTo, Cursor.moveTo, x.length_new]
  have hmove' : (Cursor.mk pos x.old).moveTo x.after = ⟨pos + u.length, x.after⟩ := by
    rw [hu, Cursor.moveTo_append]
  rw [List.nil_append, hold, readValue_text hquote, ← hold, readText?, hread, Option.map_some] at h
  rw [List.nil_append, hnew, readValue_text hquote, ← hnew, readText?, x.reads_new, Option.map_some]
  cases h
  refine ⟨_, .behind _ ?_, ?_⟩
  · rw [hmove', ← hpos, List.length_nil]
    dsimp only
    omega
  · simp only [hmove, node, Node.retext, ← hpos, List.length_nil, Nat.add_zero, if_true]

section read
variable {fuel depth : Nat} {next : Cursor} {n : Node} {items : List Node} {es es' : Entries}

/-- With this fuel, what is read before the string or behind it is read as before, and a value that
the string is in with the new one in its place. -/
def ValuesBeside (x : Exchange) (fuel : Nat) : Prop :=
  ∀ ⦃depth c c' n next⦄, x.Beside c c' → readValue fuel depth c = some (n, next) →
    next.pos ≤ x.start ∨ x.start < c.pos ∨ x.start ∈ n.starts →
    ∃ next', x.Beside next next' ∧ readValue fuel depth c' = some (x.node n, next')

def ItemsBeside (x : Exchange) (fuel : Nat) : Prop :=
  ∀ ⦃depth c c' items next⦄, x.Beside c c' → readItems fuel depth c = some (items, next) →
    next.pos ≤ x.start ∨ x.start < c.pos ∨ x.start ∈ items.flatMap Node.starts →
    ∃ next', x.Beside next next' ∧ readItems fuel depth c' = some (items.map x.node, next')

def PairsBeside (x : Exchange) (fuel : Nat) : Prop :=
  ∀ ⦃depth es es' c c' next⦄, es.Distinct → x.Beside c c' →
    readPairs fuel depth es c = some (es', next) →
    next.pos ≤ x.start ∨ x.start < c.pos ∨ (x.start ∈ es'.starts ∧ x.start ∉ es.starts) →
    ∃ next', x.Beside next next' ∧
      readPairs fuel depth (x.entries es) c' = some (x.entries es', next')

theorem values_beside (hitems : x.ItemsBeside fuel) (hpairs : x.PairsBeside fuel) :
    x.ValuesBeside (fuel + 1) := by
  intro depth c c' n next hc h hclear
  cases hc with
  | behind c hpos =>
    obtain ⟨hnext, hstarts⟩ := (starts_read _).1 h
    refine ⟨next, .behind next (by omega), ?_⟩
    rw [x.node_of_notMem fun hin => by have := hstarts.bounds _ hin; omega]
    exact h
  | before pos w hpos =>
    cases w with
    | nil => exact x.read_string hpos h
    | cons char w =>
    have hc := Beside.before (x := x) pos (char :: w) hpos
    rw [List.cons_append] at h ⊢
    rw [List.length_cons] at hpos
    cases readValue_iff.1 h with
    | text hquote hread =>
      have hout : x.start ∉ n.starts := by
        rw [starts_of_readText? hread, List.mem_singleton]
        dsimp only
        omega
      obtain ⟨next', hnext, hread'⟩ := hc.reads reads_readText? hread (by tauto)
      rw [x.node_of_notMem hout]
      exact ⟨next', hnext, readValue_iff.2 (.text hquote hread')⟩
    | array hread =>
      rw [Entries.starts_array] at hclear
      obtain ⟨next', hnext, hread'⟩ := hitems (Beside.skip pos '[' w hpos) hread
        (hclear.imp_right (Or.imp_left Nat.lt_succ_of_lt))
      refine ⟨next', hnext, ?_⟩
      rw [readValue_iff, node, Node.retext, ← hnext.pos]
      exact .array hread'
    | table hread =>
      rw [Entries.starts_table] at hclear
      obtain ⟨next', hnext, hread'⟩ :=
        hpairs Entries.distinct_nil (Beside.skip pos '{' w hpos) hread
        (hclear.imp_right (Or.imp Nat.lt_succ_of_lt fun hin => ⟨hin, List.not_mem_nil⟩))
      refine ⟨next', hnext, ?_⟩
      rw [readValue_iff, node, Entries.retext_table, ← hnext.pos]
      exact .table hread'
    | scalar hother hread =>
      have hout : x.start ∉ n.starts := by
        rw [starts_of_readScalar? hread]
        exact List.not_mem_nil
      obtain ⟨next', hnext, hread'⟩ := hc.reads reads_readScalar? hread (by tauto)
      rw [x.node_of_notMem hout]
      exact ⟨next', hnext, readValue_iff.2 (.scalar hother hread')⟩

theorem items_beside (hvalues : x.ValuesBeside fuel) (hitems : x.ItemsBeside fuel) :
    x.ItemsBeside (fuel + 1) := by
  intro depth c c' items next hc h hclear
  cases readItems_iff.1 h with
  | close hlines hclose =>
    have h₁ := Cursor.skips_skipLines.pos_le hlines
    have h₂ := (Cursor.skips_expect ']').pos_le hclose
    have hwhere := hclear.imp_right fun h => h.resolve_right List.not_mem_nil
    obtain ⟨c₁', hc₁, hlines'⟩ := hc.skips Cursor.skips_skipLines hlines (by omega)
    obtain ⟨next', hnext, hclose'⟩ := hc₁.skips (Cursor.skips_expect ']') hclose (by omega)
    exact ⟨next', hnext, readItems_iff.2 (.close hlines' hclose')⟩
  | @more c₁ c₂ c₃ c₄ _ item items hlines hopen hitem hlines₂ hcomma hread =>
    have h₁ := Cursor.skips_skipLines.pos_le hlines
    obtain ⟨h₂, hstarts⟩ := (starts_read _).1 hitem
    have h₃ := Cursor.skips_skipLines.pos_le hlines₂
    have h₄ := (Cursor.skips_expect ',').pos_le hcomma
    obtain ⟨h₅, hstarts'⟩ := (starts_read _).2.1 hread
    rw [List.flatMap_cons, List.mem_append] at hclear
    have hin := hstarts.bounds x.start
    have hin' := hstarts'.bounds x.start
    have hwhere : next.pos ≤ x.start ∨ x.start < c.pos ∨ (c₁.pos ≤ x.start ∧ x.start < c₂.pos) ∨
        (c₄.pos ≤ x.start ∧ x.start < next.pos) :=
      hclear.imp_right (Or.imp_right (Or.imp hin hin'))
    obtain ⟨c₁', hc₁, hlines'⟩ := hc.skips Cursor.skips_skipLines hlines (by omega)
    obtain ⟨c₂', hc₂, hitem'⟩ := hvalues hc₁ hitem (by
      rcases hclear with h | h | h | h
      · omega
      · omega
      · exact .inr (.inr h)
      · have := hin' h
        omega)
    obtain ⟨c₃', hc₃, hlines₂'⟩ := hc₂.skips Cursor.skips_skipLines hlines₂ (by omega)
    obtain ⟨c₄', hc₄, hcomma'⟩ := hc₃.skips (Cursor.skips_expect ',') hcomma (by omega)
    obtain ⟨next', hnext, hread'⟩ := hitems hc₄ hread (by
      rcases hclear with h | h | h | h
      · exact .inl h
      · omega
      · have := hin h
        omega
      · exact .inr (.inr h))
    exact ⟨next', hnext,
      readItems_iff.2 (.more hlines' (hc₁.expect_eq_none hopen) hitem' hlines₂' hcomma' hread')⟩
  | last hlines hopen hitem hlines₂ hcomma hclose =>
    have h₁ := Cursor.skips_skipLines.pos_le hlines
    obtain ⟨h₂, hstarts⟩ := (starts_read _).1 hitem
    have h₃ := Cursor.skips_skipLines.pos_le hlines₂
    have h₄ := (Cursor.skips_expect ']').pos_le hclose
    rw [List.flatMap_singleton] at hclear
    have hwhere := hclear.imp_right (Or.imp_right (hstarts.bounds x.start))
    obtain ⟨c₁', hc₁, hlines'⟩ := hc.skips Cursor.skips_skipLines hlines (by omega)
    obtain ⟨c₂', hc₂, hitem'⟩ := hvalues hc₁ hitem (by
      rcases hclear with h | h | h
      · omega
      · omega
      · exact .inr (.inr h))
    obtain ⟨c₃', hc₃, hlines₂'⟩ := hc₂.skips Cursor.skips_skipLines hlines₂ (by omega)
    obtain ⟨next', hnext, hclose'⟩ := hc₃.skips (Cursor.skips_expect ']') hclose (by omega)
    exact ⟨next', hnext, readItems_iff.2 (.last hlines' (hc₁.expect_eq_none hopen) hitem' hlines₂'
      (hc₃.expect_eq_none hcomma) hclose')⟩

theorem pair_beside {fuel : Cursor → Nat} {path : List Key} {key : Key}
    (hc : x.Beside c c') (h : PairStep fuel depth c path key n next)
    (hfuel : ∀ {c c'}, x.Beside c c' → fuel c' = fuel c) (hvalues : ∀ c, x.ValuesBeside (fuel c))
    (hclear : next.pos ≤ x.start ∨ x.start < c.pos ∨ x.start ∈ n.starts) :
    ∃ next', x.Beside next next' ∧ PairStep fuel depth c' path key (x.node n) next' := by
  obtain @⟨c₁, c₂, hpath, hequals, hvalue⟩ := h
  have h₁ := (Cursor.reads_readPath _).pos_le hpath
  have h₂ := (Cursor.skips_expect '=').pos_le hequals
  have h₃ := Cursor.pos_le_skipBlanks c₂
  obtain ⟨h₄, hstarts⟩ := (starts_read _).1 hvalue
  have hwhere := hclear.imp_right (Or.imp_right (hstarts.bounds x.start))
  obtain ⟨c₁', hc₁, hpath'⟩ := hc.reads (Cursor.reads_readPath _) hpath (by omega)
  obtain ⟨c₂', hc₂, hequals'⟩ := hc₁.skips (Cursor.skips_expect '=') hequals (by omega)
  obtain ⟨next', hnext, hvalue'⟩ := hvalues _ (hc₂.skipBlanks (by omega)) hvalue
    (hclear.imp_right (Or.imp_left fun h => by omega))
  refine ⟨next', hnext, ?_, hequals', ?_⟩
  · rwa [hc.length]
  · rwa [hfuel hc₂]

theorem pairs_beside (hvalues : x.ValuesBeside fuel) (hpairs : x.PairsBeside fuel) :
    x.PairsBeside (fuel + 1) := by
  intro depth es es' c c' next hes hc h hclear
  cases readPairs_iff.1 h with
  | close hlines hclose =>
    have h₁ := Cursor.skips_skipLines.pos_le hlines
    have h₂ := (Cursor.skips_expect '}').pos_le hclose
    have hwhere := hclear.imp_right fun h => h.resolve_right fun hnew => hnew.2 hnew.1
    obtain ⟨c₁', hc₁, hlines'⟩ := hc.skips Cursor.skips_skipLines hlines (by omega)
    obtain ⟨next', hnext, hclose'⟩ := hc₁.skips (Cursor.skips_expect '}') hclose (by omega)
    exact ⟨next', hnext, readPairs_iff.2 (.close hlines' hclose')⟩
  | @more c₁ c₂ c₃ c₄ _ path key n es₁ _ hlines hopen hentry hassign hlines₂ hcomma hread =>
    have h₁ := Cursor.skips_skipLines.pos_le hlines
    obtain ⟨h₂, hstarts⟩ := starts_pair (starts_read _).1 hentry
    have h₃ := Cursor.skips_skipLines.pos_le hlines₂
    have h₄ := (Cursor.skips_expect ',').pos_le hcomma
    have hes₁ := hes.assign (distinct_of_pair hentry) hassign
    have hnew := Entries.starts_assign hes hassign
    obtain ⟨h₅, new, hperm, hbounds⟩ := (starts_read _).2.2 hes₁ hread
    -- The string is in this entry or in one of those behind it, but not in both.
    have hsplit : next.pos ≤ x.start ∨ x.start < c.pos ∨ x.start ∈ n.starts ∨
        (x.start ∈ new ∧ x.start ∈ es'.starts ∧ x.start ∉ es₁.starts) := by
      refine hclear.imp_right (Or.imp_right fun hadded => ?_)
      obtain ⟨hin, hout⟩ := hadded
      have hin' := hperm.mem_iff.1 hin
      rw [List.mem_append, hnew.mem_iff, List.mem_append] at hin'
      rw [hnew.mem_iff, List.mem_append]
      tauto
    have hin := hstarts.bounds x.start
    have hin' := hbounds.bounds x.start
    have hwhere : next.pos ≤ x.start ∨ x.start < c.pos ∨ (c₁.pos ≤ x.start ∧ x.start < c₂.pos) ∨
        (c₄.pos ≤ x.start ∧ x.start < next.pos) :=
      hsplit.imp_right (Or.imp_right (Or.imp hin fun h => hin' h.1))
    obtain ⟨c₁', hc₁, hlines'⟩ := hc.skips Cursor.skips_skipLines hlines (by omega)
    obtain ⟨c₂', hc₂, hentry'⟩ := pair_beside hc₁ hentry (fun _ => rfl) (fun _ => hvalues) (by
      rcases hsplit with h | h | h | h
      · omega
      · omega
      · exact .inr (.inr h)
      · have := hin' h.1
        omega)
    obtain ⟨c₃', hc₃, hlines₂'⟩ := hc₂.skips Cursor.skips_skipLines hlines₂ (by omega)
    obtain ⟨c₄', hc₄, hcomma'⟩ := hc₃.skips (Cursor.skips_expect ',') hcomma (by omega)
    obtain ⟨next', hnext, hread'⟩ := hpairs hes₁ hc₄ hread (by
      rcases hsplit with h | h | h | h
      · exact .inl h
      · omega
      · have := hin h
        omega
      · exact .inr (.inr h.2))
    exact ⟨next', hnext, readPairs_iff.2 (.more hlines' (hc₁.expect_eq_none hopen) hentry'
      (x.assign_entries hassign) hlines₂' hcomma' hread')⟩
  | last hlines hopen hentry hassign hlines₂ hcomma hclose =>
    have h₁ := Cursor.skips_skipLines.pos_le hlines
    obtain ⟨h₂, hstarts⟩ := starts_pair (starts_read _).1 hentry
    have h₃ := Cursor.skips_skipLines.pos_le hlines₂
    have h₄ := (Cursor.skips_expect '}').pos_le hclose
    have hsplit := hclear.imp_right (Or.imp_right (mem_added (Entries.starts_assign hes hassign)))
    have hwhere := hsplit.imp_right (Or.imp_right (hstarts.bounds x.start))
    obtain ⟨c₁', hc₁, hlines'⟩ := hc.skips Cursor.skips_skipLines hlines (by omega)
    obtain ⟨c₂', hc₂, hentry'⟩ := pair_beside hc₁ hentry (fun _ => rfl) (fun _ => hvalues) (by
      rcases hsplit with h | h | h
      · omega
      · omega
      · exact .inr (.inr h))
    obtain ⟨c₃', hc₃, hlines₂'⟩ := hc₂.skips Cursor.skips_skipLines hlines₂ (by omega)
    obtain ⟨next', hnext, hclose'⟩ := hc₃.skips (Cursor.skips_expect '}') hclose (by omega)
    exact ⟨next', hnext, readPairs_iff.2 (.last hlines' (hc₁.expect_eq_none hopen) hentry'
      (x.assign_entries hassign) hlines₂' (hc₃.expect_eq_none hcomma) hclose')⟩

theorem read_beside (x : Exchange) (fuel : Nat) :
    x.ValuesBeside fuel ∧ x.ItemsBeside fuel ∧ x.PairsBeside fuel := by
  induction fuel with
  | zero =>
    refine ⟨fun _ _ _ _ _ _ h => ?_, fun _ _ _ _ _ _ h => ?_, fun _ _ _ _ _ _ _ _ h => ?_⟩
    · rw [readValue] at h
      cases h
    · rw [readItems] at h
      cases h
    · rw [readPairs] at h
      cases h
  | succ fuel ih =>
    obtain ⟨hvalues, hitems, hpairs⟩ := ih
    exact ⟨values_beside hitems hpairs, items_beside hvalues hitems, pairs_beside hvalues hpairs⟩

end read

/-- The draft with the new text in place of the old one. -/
def draft (x : Exchange) (d : Draft) : Draft := { d with root := x.entries d.root }

theorem Beside.rest (h : x.Beside c c') : c'.rest = c.rest ∨ Twin c.rest c'.rest := by
  cases h with
  | before pos w h => exact .inr (x.twin.append w)
  | behind => exact .inl rfl

theorem Beside.head? (h : x.Beside c c') : c'.rest.head? = c.rest.head? := by
  rcases h.rest with heq | htwin
  · rw [heq]
  · exact htwin.head?

theorem Beside.isPrefixOf (h : x.Beside c c') {u : List Char}
    (hu : ∀ char ∈ u, char ≠ '"' ∧ char ≠ '\'') : u.isPrefixOf c'.rest = u.isPrefixOf c.rest := by
  rcases h.rest with heq | htwin
  · rw [heq]
  · exact htwin.isPrefixOf hu

/-- Passing over characters that are no quotes does not lead into the string. -/
theorem Beside.skip_prefix (h : x.Beside c c') {u : List Char}
    (hbegins : u.isPrefixOf c.rest = true) (hu : ∀ char ∈ u, char ≠ '"' ∧ char ≠ '\'') :
    x.Beside (c.skip u.length) (c'.skip u.length) := by
  induction u generalizing c c' with
  | nil => exact h
  | cons char u ih =>
    obtain ⟨hchar, hu⟩ := List.forall_mem_cons.1 hu
    have hstep : x.Beside (c.skip 1) (c'.skip 1) := by
      cases h with
      | before pos w hpos =>
        cases w with
        | nil =>
          obtain ⟨quote, s, s', hquote, hold, -⟩ := x.exists_quote
          rw [List.nil_append, hold, List.isPrefixOf, Bool.and_eq_true, beq_iff_eq] at hbegins
          rw [← hbegins.1] at hquote
          exact absurd hquote (not_or.2 hchar)
        | cons char w => exact Beside.skip pos char w hpos
      | behind c hpos => exact .behind _ (Nat.lt_add_right 1 hpos)
    have hskip (c : Cursor) : c.skip (u.length + 1) = (c.skip 1).skip u.length := by
      rw [Cursor.skip, Cursor.skip, Cursor.skip, List.drop_drop, Nat.add_comm 1, Nat.add_assoc,
        Nat.add_comm 1]
    rw [List.length_cons, hskip, hskip]
    refine ih hstep ?_ hu
    obtain ⟨pos, rest⟩ := c
    cases rest with
    | nil => cases hbegins
    | cons c rest =>
      rw [List.isPrefixOf, Bool.and_eq_true] at hbegins
      exact hbegins.2

variable {d d' : Draft} {next : Cursor}

theorem assign_draft {path : List Key} {key : Key} {n : Node} (h : d.assign path key n = some d') :
    (x.draft d).assign path key (x.node n) = some (x.draft d') := by
  obtain ⟨root, hroot, rfl⟩ := Option.map_eq_some_iff.1 h
  have hchange : Entries.change false (fun kind es => es.assign path key (x.node n) kind)
      d.header .header (x.entries d.root) =
        (Entries.change false (fun kind es => es.assign path key n kind) d.header .header
          d.root).map x.entries :=
    Entries.change_retext (fun kind es => Entries.assign_retext n kind) d.header .header d.root
  rw [hroot] at hchange
  exact congrArg (Option.map _) hchange

theorem readPair_beside (hd : d.root.Distinct) (hc : x.Beside c c')
    (h : readPair d c = some (d', next))
    (hclear : next.pos ≤ x.start ∨ x.start < c.pos ∨
      (x.start ∈ d'.root.starts ∧ x.start ∉ d.root.starts)) :
    ∃ next', x.Beside next next' ∧ readPair (x.draft d) c' = some (x.draft d', next') := by
  obtain ⟨path, key, n, hpair, hassign⟩ := readPair_eq_some_iff.1 h
  have hfuel {c c' : Cursor} (hc : x.Beside c c') : valueFuel c' = valueFuel c := by
    rw [valueFuel, valueFuel, hc.length]
  obtain ⟨next', hnext, hpair'⟩ :=
    pair_beside hc hpair hfuel (fun c => (x.read_beside (valueFuel c)).1)
    (hclear.imp_right (Or.imp_right (mem_added (starts_draft hd hassign))))
  exact ⟨next', hnext, readPair_eq_some_iff.2 ⟨path, key, x.node n, hpair', assign_draft hassign⟩⟩

theorem readBrackets_beside {opening close : List Char}
    {open? : List Key → Key → Span → Entries → Option Entries}
    (hopens : ∀ path key span es,
      open? path key span (x.entries es) = (open? path key span es).map x.entries)
    (hopening : ∀ char ∈ opening, char ≠ '"' ∧ char ≠ '\'')
    (hclose : ∀ char ∈ close, char ≠ '"' ∧ char ≠ '\'') (hbegins : opening.isPrefixOf c.rest = true)
    (hc : x.Beside c c') (h : readBrackets opening close open? d c = some (d', next))
    (hclear : next.pos ≤ x.start ∨ x.start < c.pos) :
    ∃ next', x.Beside next next' ∧
      readBrackets opening close open? (x.draft d) c' = some (x.draft d', next') := by
  unfold readBrackets at h
  split at h
  · cases h
  next path key c₁ hpath =>
  split at h
  · next hclosed =>
    obtain ⟨root, hroot, heq⟩ := Option.map_eq_some_iff.1 h
    cases heq
    have h₀ : c.pos ≤ (c.skip opening.length).pos := Nat.le_add_right ..
    have h₁ := (Cursor.reads_readPath _).pos_le hpath
    have h₂ : c₁.pos ≤ (c₁.skip close.length).pos := Nat.le_add_right ..
    have hc₀ := hc.skip_prefix hbegins hopening
    obtain ⟨c₁', hc₁, hpath'⟩ := hc₀.reads (Cursor.reads_readPath _) hpath (by omega)
    have hnext := hc₁.skip_prefix hclosed hclose
    refine ⟨_, hnext, ?_⟩
    unfold readBrackets
    simp only [hc.length, hpath', hc₁.isPrefixOf hclose, hclosed, if_true]
    have hroot' := hopens path key ⟨c.pos, (c₁.skip close.length).pos⟩ d.root
    rw [hroot] at hroot'
    simp only [draft, hc.pos, hnext.pos, hroot', Option.map_some]
  · cases h

theorem readHeader_beside (hopen : c.rest.head? = some '[') (hc : x.Beside c c')
    (h : readHeader d c = some (d', next)) (hclear : next.pos ≤ x.start ∨ x.start < c.pos) :
    ∃ next', x.Beside next next' ∧ readHeader (x.draft d) c' = some (x.draft d', next') := by
  rw [readHeader_eq] at h ⊢
  rw [hc.isPrefixOf (u := ['[', '[']) (by simp)]
  split at h
  · next hdouble =>
    rw [if_pos hdouble]
    exact readBrackets_beside (fun _ _ _ _ => Entries.openElement_retext) (by simp)
      (by simp) hdouble hc h hclear
  · next hdouble =>
    rw [if_neg hdouble]
    refine readBrackets_beside (fun _ _ _ _ => Entries.openTable_retext) (by simp)
      (by simp) ?_ hc h hclear
    cases hrest : c.rest with
    | nil =>
      rw [hrest] at hopen
      cases hopen
    | cons char rest =>
      rw [hrest] at hopen
      obtain rfl := Option.some.inj hopen
      rfl

theorem readLine_beside (hd : d.root.Distinct) (hc : x.Beside c c')
    (h : readLine d c = some (d', next))
    (hclear : next.pos ≤ x.start ∨ x.start < c.pos ∨
      (x.start ∈ d'.root.starts ∧ x.start ∉ d.root.starts)) :
    ∃ next', x.Beside next next' ∧ readLine (x.draft d) c' = some (x.draft d', next') := by
  unfold readLine at h ⊢
  rw [hc.head?]
  split at h
  case h_5 hopen =>
    obtain ⟨-, hperm⟩ := starts_readHeader hd h
    exact readHeader_beside hopen hc h
      (hclear.imp_right fun h => h.resolve_right fun hnew => hnew.2 (hperm.mem_iff.1 hnew.1))
  case h_6 => exact readPair_beside hd hc h hclear
  all_goals
    cases h
    exact ⟨c', hc, rfl⟩

theorem Beside.eq_of_lt (h : x.Beside c c') (hpos : x.start < c.pos) : c' = c := by
  cases h with
  | before pos w h =>
    dsimp only at hpos
    omega
  | behind => rfl

/-- A document in which the string stands is read with the new string in its place. -/
theorem readLines_beside {fuel : Nat} (hd : d.root.Distinct) (hc : x.Beside c c')
    (h : readLines fuel d c = some d')
    (hclear : x.start < c.pos ∨ (x.start ∈ d'.root.starts ∧ x.start ∉ d.root.starts)) :
    readLines fuel (x.draft d) c' = some (x.draft d') := by
  induction fuel generalizing d c c' with
  | zero =>
    rw [readLines] at h
    cases h
  | succ fuel ih =>
    have h₀ := Cursor.pos_le_skipBlanks c
    rw [readLines_iff]
    cases readLines_iff.1 h with
    | last hline hend =>
      obtain ⟨h₁, new, hperm, hnew⟩ := starts_readLine hd hline
      have hwhere := hclear.imp_right fun hadded => hnew.bounds _ (mem_added hperm hadded)
      obtain ⟨c₁', hc₁, hline'⟩ := readLine_beside hd (hc.skipBlanks (by omega)) hline
        (.inr (hclear.imp_left h₀.trans_lt'))
      -- The string is on this line or before it.
      obtain rfl := hc₁.eq_of_lt (by omega)
      exact .last hline' hend
    | @more d₁ _ c₁ c₂ hline hend hlines =>
      obtain ⟨h₁, new, hperm, hnew⟩ := starts_readLine hd hline
      have hd₁ := distinct_readLine hd hline
      have h₂ := skips_endLine.pos_le hend
      obtain ⟨new', high, hperm', hhigh, hnew'⟩ := starts_readLines hd₁ hlines
      have hin : x.start ∈ d₁.root.starts ∧ x.start ∉ d.root.starts →
          c.skipBlanks.pos ≤ x.start ∧ x.start < c₁.pos := fun hadded =>
        hnew.bounds _ (mem_added hperm hadded)
      have hsplit : x.start < c.pos ∨ (x.start ∈ d₁.root.starts ∧ x.start ∉ d.root.starts) ∨
          (x.start ∈ new' ∧ x.start ∈ d'.root.starts ∧ x.start ∉ d₁.root.starts) := by
        refine hclear.imp_right fun hadded => ?_
        have hin' := List.mem_append.1 (hperm'.mem_iff.1 hadded.1)
        tauto
      have hwhere : x.start < c.pos ∨ (c.skipBlanks.pos ≤ x.start ∧ x.start < c₁.pos) ∨
          c₂.pos ≤ x.start :=
        hsplit.imp_right (Or.imp hin fun h => (hnew'.bounds _ h.1).1)
      obtain ⟨c₁', hc₁, hline'⟩ := readLine_beside hd (hc.skipBlanks (by omega)) hline (by
        rcases hsplit with h | h | h
        · omega
        · exact .inr (.inr h)
        · have := (hnew'.bounds _ h.1).1
          omega)
      obtain ⟨c₂', hc₂, hend'⟩ := hc₁.skips skips_endLine hend (by omega)
      refine .more hline' hend' (ih hd₁ hc₂ hlines ?_)
      rcases hsplit with h | h | h
      · omega
      · have := hin h
        omega
      · exact .inr h.2

/-- A document with another string of the same length in place of one of its strings has the same
tree but for the text of that string. -/
theorem parse_exchange (x : Exchange) {before : List Char} {es : Entries}
    (hbefore : before.length = x.start) (hparse : parse (String.ofList (before ++ x.old)) = some es)
    (hstart : x.start ∈ es.starts) :
    parse (String.ofList (before ++ x.new)) = some (x.entries es) := by
  have hc : x.Beside ⟨0, before ++ x.old⟩ ⟨0, before ++ x.new⟩ := .before 0 before (by omega)
  obtain ⟨d, hread, rfl⟩ := Option.map_eq_some_iff.1 hparse
  unfold parse
  simp only [String.toList_ofList] at hread ⊢
  have hlength := hc.length
  dsimp only at hlength
  rw [hc.head?, hlength]
  have hread' {c c' : Cursor} (hc : x.Beside c c')
      (hread : readLines ((before ++ x.old).length + 1) ⟨[], []⟩ c = some d) :
      (readLines ((before ++ x.old).length + 1) ⟨[], []⟩ c').map (·.root) =
        some (x.entries d.root) :=
    congrArg (Option.map (·.root)) (readLines_beside (d := ⟨[], []⟩) Entries.distinct_nil hc hread
      (.inr ⟨hstart, List.not_mem_nil⟩))
  split at hread
  · next hmark =>
    rw [if_pos hmark]
    refine hread' (hc.skip_prefix (u := [byteOrderMark]) ?_ (by simp [byteOrderMark])) hread
    dsimp only at hmark ⊢
    cases hrest : before ++ x.old with
    | nil =>
      rw [hrest] at hmark
      cases hmark
    | cons char rest =>
      rw [hrest] at hmark
      obtain rfl := Option.some.inj hmark
      rfl
  · next hmark =>
    rw [if_neg hmark]
    exact hread' hc hread

end Exchange

end SparseTransfer.Toml
