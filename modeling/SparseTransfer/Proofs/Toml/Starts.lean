import SparseTransfer.Proofs.Toml.Cursor
import SparseTransfer.Proofs.Toml.Literals

/- Where the strings of a document begin: in the order in which they are read, each at a place of
its own. -/
namespace SparseTransfer.Toml

section starts

/-- Different places, all of them from `low` on and before `high`. -/
structure Within (low high : Nat) (places : List Nat) : Prop where
  nodup : places.Nodup
  bounds : ∀ place ∈ places, low ≤ place ∧ place < high

theorem Within.nil (low high : Nat) : Within low high [] := ⟨List.nodup_nil, by simp⟩

theorem Within.mono {low low' high high' : Nat} {places : List Nat} (h : Within low high places)
    (hlow : low' ≤ low) (hhigh : high ≤ high') : Within low' high' places where
  nodup := h.nodup
  bounds place hplace := by
    obtain ⟨hfrom, hto⟩ := h.bounds place hplace
    omega

theorem Within.append {low middle high : Nat} {places places' : List Nat}
    (h : Within low middle places) (h' : Within middle high places') (hlow : low ≤ middle)
    (hhigh : middle ≤ high) : Within low high (places ++ places') where
  nodup := by
    rw [List.nodup_append]
    refine ⟨h.nodup, h'.nodup, fun place hplace place' hplace' heq => ?_⟩
    have hto := (h.bounds place hplace).2
    have hfrom := (h'.bounds place' hplace').1
    omega
  bounds place hplace := by
    rcases List.mem_append.1 hplace with hplace | hplace
    · exact (h.mono le_rfl hhigh).bounds place hplace
    · exact (h'.mono hlow le_rfl).bounds place hplace

theorem reads_readText? : Cursor.Reads readText? := by
  intro pos s node next h
  obtain ⟨⟨text, rest⟩, hread, heq⟩ := Option.map_eq_some_iff.1 h
  obtain ⟨u, rfl, -, hread'⟩ := local_readString hread
  cases heq
  dsimp only
  rw [Cursor.moveTo_append]
  refine ⟨u, rest, rfl, rfl, fun r' hr => ?_⟩
  rw [readText?, hread' r' hr, Option.map_some]
  simp only [Cursor.moveTo_append]

theorem reads_readScalar? : Cursor.Reads readScalar? := by
  intro pos s node next h
  obtain ⟨⟨scalar, rest⟩, hread, heq⟩ := Option.map_eq_some_iff.1 h
  obtain ⟨u, rfl, hread'⟩ := local_readScalar hread
  cases heq
  dsimp only
  rw [Cursor.moveTo_append]
  refine ⟨u, rest, rfl, rfl, fun r' hr => ?_⟩
  rw [readScalar?, hread' r' hr, Option.map_some]
  simp only [Cursor.moveTo_append]

theorem skips_endLine : Cursor.Skips endLine := by
  intro pos s next h
  obtain ⟨u₁, s, rfl, hblanks, hblanks'⟩ := Cursor.skipBlanks_local pos s
  unfold endLine at h
  rw [hblanks] at h
  obtain ⟨rest, hcomment, hend⟩ := Option.bind_eq_some_iff.1 h
  obtain ⟨rest', hrest, rfl⟩ := Option.map_eq_some_iff.1 hend
  obtain ⟨u₂, rfl, hcomment'⟩ := passes_skipComment hcomment
  obtain ⟨u₃, rfl, hend'⟩ := passes_skipLineEnd hrest
  have hmove (r : List Char) := Cursor.moveTo_append pos (u₁ ++ (u₂ ++ u₃)) r
  simp only [List.append_assoc] at hmove
  refine ⟨u₁ ++ (u₂ ++ u₃), rest', by simp, hmove rest', fun r' hr => ?_⟩
  have h₃ := hr.append u₃
  simp only [List.append_assoc]
  unfold endLine
  rw [hblanks' _ (h₃.append u₂)]
  simp only [hcomment' _ h₃, Option.bind_some, hend' _ hr, Option.map_some, hmove]

theorem starts_scalar (span : Span) (s : Scalar) : (s.node span).starts = [] := by
  cases s <;> rw [Scalar.node, Node.starts]

theorem Within.perm {low high : Nat} {places places' : List Nat} (h : Within low high places)
    (hperm : places.Perm places') : Within low high places' where
  nodup := hperm.nodup_iff.1 h.nodup
  bounds place hplace := h.bounds place (hperm.mem_iff.2 hplace)

variable {c next : Cursor} {node : Node}

theorem starts_of_readText? (h : readText? c = some (node, next)) : node.starts = [c.pos] := by
  obtain ⟨_, -, heq⟩ := Option.map_eq_some_iff.1 h
  cases heq
  rw [Node.starts]

theorem starts_readText? (h : readText? c = some (node, next)) :
    c.pos ≤ next.pos ∧ Within c.pos next.pos node.starts := by
  obtain ⟨⟨text, rest⟩, hread, heq⟩ := Option.map_eq_some_iff.1 h
  obtain ⟨pos, s⟩ := c
  obtain ⟨u, rfl, hlength, -⟩ := local_readString hread
  cases heq
  dsimp only
  rw [Cursor.moveTo_append, Node.starts]
  refine ⟨Nat.le_add_right .., List.nodup_singleton _, fun place hplace => ?_⟩
  rw [List.mem_singleton.1 hplace]
  dsimp only
  omega

theorem starts_of_readScalar? (h : readScalar? c = some (node, next)) : node.starts = [] := by
  obtain ⟨_, -, heq⟩ := Option.map_eq_some_iff.1 h
  cases heq
  exact starts_scalar _ _

theorem starts_readScalar? (h : readScalar? c = some (node, next)) :
    c.pos ≤ next.pos ∧ Within c.pos next.pos node.starts := by
  rw [starts_of_readScalar? h]
  exact ⟨reads_readScalar?.pos_le h, .nil _ _⟩

theorem starts_pair {fuel : Cursor → Nat} {depth : Nat} {path : List Key} {key : Key}
    (hvalues : ∀ {c c' next : Cursor} {n : Node}, readValue (fuel c) depth c' = some (n, next) →
      c'.pos ≤ next.pos ∧ Within c'.pos next.pos n.starts)
    (h : PairStep fuel depth c path key node next) :
    c.pos ≤ next.pos ∧ Within c.pos next.pos node.starts := by
  obtain ⟨hpath, hequals, hvalue⟩ := h
  have h₁ := (Cursor.reads_readPath _).pos_le hpath
  have h₂ := (Cursor.skips_expect '=').pos_le hequals
  have h₃ := h₂.trans (Cursor.pos_le_skipBlanks _)
  obtain ⟨h₄, hstarts⟩ := hvalues hvalue
  exact ⟨by omega, hstarts.mono (by omega) le_rfl⟩

/-- The strings of a value begin in the stretch of text that it is read from, no two at one
place. -/
theorem starts_read (fuel : Nat) :
    (∀ {depth : Nat} {c next : Cursor} {n : Node}, readValue fuel depth c = some (n, next) →
      c.pos ≤ next.pos ∧ Within c.pos next.pos n.starts) ∧
    (∀ {depth : Nat} {c next : Cursor} {items : List Node},
      readItems fuel depth c = some (items, next) → c.pos ≤ next.pos ∧
      Within c.pos next.pos (items.flatMap Node.starts)) ∧
    (∀ {depth : Nat} {es es' : Entries} {c next : Cursor}, es.Distinct →
      readPairs fuel depth es c = some (es', next) → c.pos ≤ next.pos ∧
        ∃ new, es'.starts.Perm (es.starts ++ new) ∧ Within c.pos next.pos new) := by
  induction fuel with
  | zero =>
    refine ⟨fun h => ?_, fun h => ?_, fun _ h => ?_⟩
    · rw [readValue] at h
      cases h
    · rw [readItems] at h
      cases h
    · rw [readPairs] at h
      cases h
  | succ fuel ih =>
    obtain ⟨hvalues, hitems, hpairs⟩ := ih
    refine ⟨fun h => ?_, fun h => ?_, fun hes h => ?_⟩
    · cases readValue_iff.1 h with
      | text _ hread => exact starts_readText? hread
      | @array _ pos _ _ _ hread =>
        obtain ⟨hpos, hstarts⟩ := hitems hread
        rw [Entries.starts_array]
        exact ⟨(Nat.le_succ pos).trans hpos, hstarts.mono (Nat.le_succ pos) le_rfl⟩
      | @table _ pos _ _ _ hread =>
        obtain ⟨hpos, new, hperm, hnew⟩ := hpairs Entries.distinct_nil hread
        rw [Entries.starts_table]
        exact ⟨(Nat.le_succ pos).trans hpos, (hnew.mono (Nat.le_succ pos) le_rfl).perm hperm.symm⟩
      | scalar _ hread => exact starts_readScalar? hread
    · cases readItems_iff.1 h with
      | close hlines hclose =>
        have h₁ := Cursor.skips_skipLines.pos_le hlines
        have h₂ := (Cursor.skips_expect ']').pos_le hclose
        exact ⟨by omega, .nil _ _⟩
      | more hlines _ hitem hlines' hcomma hread =>
        have h₁ := Cursor.skips_skipLines.pos_le hlines
        obtain ⟨h₂, hstarts⟩ := hvalues hitem
        have h₃ := Cursor.skips_skipLines.pos_le hlines'
        have h₄ := (Cursor.skips_expect ',').pos_le hcomma
        obtain ⟨h₅, hstarts'⟩ := hitems hread
        rw [List.flatMap_cons]
        exact ⟨by omega, (hstarts.mono h₁ (by omega)).append hstarts' (by omega) h₅⟩
      | last hlines _ hitem hlines' _ hclose =>
        have h₁ := Cursor.skips_skipLines.pos_le hlines
        obtain ⟨h₂, hstarts⟩ := hvalues hitem
        have h₃ := Cursor.skips_skipLines.pos_le hlines'
        have h₄ := (Cursor.skips_expect ']').pos_le hclose
        rw [List.flatMap_singleton]
        exact ⟨by omega, hstarts.mono h₁ (by omega)⟩
    · cases readPairs_iff.1 h with
      | close hlines hclose =>
        have h₁ := Cursor.skips_skipLines.pos_le hlines
        have h₂ := (Cursor.skips_expect '}').pos_le hclose
        exact ⟨by omega, [], by simp, .nil _ _⟩
      | @more _ _ _ _ _ _ _ n _ _ hlines _ hpair hassign hlines' hcomma hread =>
        have h₁ := Cursor.skips_skipLines.pos_le hlines
        obtain ⟨h₂, hstarts⟩ := starts_pair hvalues hpair
        have h₃ := Cursor.skips_skipLines.pos_le hlines'
        have h₄ := (Cursor.skips_expect ',').pos_le hcomma
        obtain ⟨h₅, new, hperm, hnew⟩ := hpairs (hes.assign (distinct_of_pair hpair) hassign) hread
        refine ⟨by omega, n.starts ++ new, ?_,
          (hstarts.mono h₁ (by omega)).append hnew (by omega) h₅⟩
        rw [← List.append_assoc]
        exact hperm.trans ((Entries.starts_assign hes hassign).append_right new)
      | @last _ _ _ _ _ _ n _ hlines _ hpair hassign hlines' _ hclose =>
        have h₁ := Cursor.skips_skipLines.pos_le hlines
        obtain ⟨h₂, hstarts⟩ := starts_pair hvalues hpair
        have h₃ := Cursor.skips_skipLines.pos_le hlines'
        have h₄ := (Cursor.skips_expect '}').pos_le hclose
        exact ⟨by omega, n.starts, Entries.starts_assign hes hassign, hstarts.mono h₁ (by omega)⟩

theorem starts_readBrackets {opening close : List Char}
    {open? : List Key → Key → Span → Entries → Option Entries}
    (hstarts : ∀ {path key span es es'}, Entries.Distinct es → open? path key span es = some es' →
      es'.starts.Perm es.starts) {d d' : Draft} (hd : d.root.Distinct)
    (h : readBrackets opening close open? d c = some (d', next)) :
    c.pos ≤ next.pos ∧ d'.root.starts.Perm d.root.starts := by
  unfold readBrackets at h
  split at h
  · cases h
  next path key c₁ hpath =>
  split at h
  · obtain ⟨root, hroot, heq⟩ := Option.map_eq_some_iff.1 h
    cases heq
    have hpos := (Cursor.reads_readPath _).pos_le hpath
    refine ⟨?_, hstarts hd hroot⟩
    simp only [Cursor.skip] at hpos ⊢
    omega
  · cases h

theorem starts_readHeader {d d' : Draft} (hd : d.root.Distinct)
    (h : readHeader d c = some (d', next)) :
    c.pos ≤ next.pos ∧ d'.root.starts.Perm d.root.starts := by
  rw [readHeader_eq] at h
  split at h
  · exact starts_readBrackets Entries.starts_openElement hd h
  · exact starts_readBrackets Entries.starts_openTable hd h

/-- What is gathered in addition. -/
theorem mem_added {place : Nat} {places places' new : List Nat} (h : places'.Perm (places ++ new))
    (hadded : place ∈ places' ∧ place ∉ places) : place ∈ new :=
  (List.mem_append.1 (h.mem_iff.1 hadded.1)).resolve_left hadded.2

theorem starts_draft {d d' : Draft} {path : List Key} {key : Key} (hd : d.root.Distinct)
    (h : d.assign path key node = some d') :
    d'.root.starts.Perm (d.root.starts ++ node.starts) := by
  obtain ⟨root, hroot, rfl⟩ := Option.map_eq_some_iff.1 h
  exact Entries.starts_change _ (fun hes hadd => Entries.starts_assign hes hadd) hd hroot

theorem starts_readPair {d d' : Draft} (hd : d.root.Distinct) (h : readPair d c = some (d', next)) :
    c.pos ≤ next.pos ∧ ∃ new, d'.root.starts.Perm (d.root.starts ++ new) ∧
      Within c.pos next.pos new := by
  obtain ⟨path, key, n, hpair, hassign⟩ := readPair_eq_some_iff.1 h
  obtain ⟨hpos, hstarts⟩ := starts_pair (starts_read _).1 hpair
  exact ⟨hpos, n.starts, starts_draft hd hassign, hstarts⟩

theorem starts_readLine {d d' : Draft} (hd : d.root.Distinct) (h : readLine d c = some (d', next)) :
    c.pos ≤ next.pos ∧ ∃ new, d'.root.starts.Perm (d.root.starts ++ new) ∧
      Within c.pos next.pos new := by
  have hsame (h : some (d, c) = some (d', next)) : c.pos ≤ next.pos ∧
      ∃ new, d'.root.starts.Perm (d.root.starts ++ new) ∧ Within c.pos next.pos new := by
    cases h
    exact ⟨le_rfl, [], by simp, .nil _ _⟩
  unfold readLine at h
  split at h
  · exact hsame h
  · exact hsame h
  · exact hsame h
  · exact hsame h
  · obtain ⟨hpos, hperm⟩ := starts_readHeader hd h
    exact ⟨hpos, [], by simpa using hperm, .nil _ _⟩
  · exact starts_readPair hd h

theorem starts_readLines {fuel : Nat} {d d' : Draft} (hd : d.root.Distinct)
    (h : readLines fuel d c = some d') : ∃ new high, d'.root.starts.Perm (d.root.starts ++ new) ∧
      c.pos ≤ high ∧ Within c.pos high new := by
  induction fuel generalizing d c with
  | zero =>
    rw [readLines] at h
    cases h
  | succ fuel ih =>
    have h₀ := Cursor.pos_le_skipBlanks c
    cases readLines_iff.1 h with
    | last hline =>
      obtain ⟨h₁, new, hperm, hnew⟩ := starts_readLine hd hline
      exact ⟨new, _, hperm, h₀.trans h₁, hnew.mono h₀ le_rfl⟩
    | more hline hend hlines =>
      obtain ⟨h₁, new, hperm, hnew⟩ := starts_readLine hd hline
      have h₂ := skips_endLine.pos_le hend
      obtain ⟨new', high, hperm', hhigh, hnew'⟩ := ih (distinct_readLine hd hline) hlines
      refine ⟨new ++ new', high, ?_, by omega, (hnew.mono h₀ h₂).append hnew' (by omega) hhigh⟩
      rw [← List.append_assoc]
      exact hperm'.trans (hperm.append_right new')

end starts

/-- No two strings of a document begin at one place. -/
theorem nodup_starts_of_parse {text : String} {entries : Entries} (h : parse text = some entries) :
    entries.starts.Nodup := by
  obtain ⟨d, hread, rfl⟩ := Option.map_eq_some_iff.1 h
  obtain ⟨new, high, hperm, -, hnew⟩ := starts_readLines Entries.distinct_nil hread
  exact hperm.nodup_iff.2 hnew.nodup

end SparseTransfer.Toml
