import SparseTransfer.Toml.Document

/- What the readers of a document do in one step, and what each leaves to the others. -/
namespace SparseTransfer.Toml

/-- A string as a value. -/
def readText? (c : Cursor) : Option (Node × Cursor) :=
  (readString c.rest).map fun (text, rest) =>
    let next := c.moveTo rest
    (.string ⟨c.pos, next.pos⟩ (String.ofList text), next)

def readScalar? (c : Cursor) : Option (Node × Cursor) :=
  (readScalar c.rest).map fun (scalar, rest) =>
    let next := c.moveTo rest
    (scalar.node ⟨c.pos, next.pos⟩, next)

/-- A value begins with a quote, a bracket, a brace or none of these. -/
inductive ValueStep (fuel : Nat) : (depth : Nat) → Cursor → Node → Cursor → Prop
  | text {depth pos : Nat} {quote : Char} {rest : List Char} {n : Node} {next : Cursor}
      (hquote : quote = '"' ∨ quote = '\'')
      (hread : readText? ⟨pos, quote :: rest⟩ = some (n, next)) :
      ValueStep fuel depth ⟨pos, quote :: rest⟩ n next
  | array {depth pos : Nat} {rest : List Char} {items : List Node} {next : Cursor}
      (hitems : readItems fuel depth ⟨pos + 1, rest⟩ = some (items, next)) :
      ValueStep fuel (depth + 1) ⟨pos, '[' :: rest⟩ (.array ⟨pos, next.pos⟩ .inline items) next
  | table {depth pos : Nat} {rest : List Char} {es : Entries} {next : Cursor}
      (hpairs : readPairs fuel depth [] ⟨pos + 1, rest⟩ = some (es, next)) :
      ValueStep fuel (depth + 1) ⟨pos, '{' :: rest⟩ (.table ⟨pos, next.pos⟩ .inline es) next
  | scalar {depth : Nat} {c : Cursor} {n : Node} {next : Cursor}
      (hother : ∀ char ∈ c.rest.head?, (char ≠ '"' ∧ char ≠ '\'') ∧ char ≠ '[' ∧ char ≠ '{')
      (hread : readScalar? c = some (n, next)) : ValueStep fuel depth c n next

/-- After the items of an array comes its bracket, after an item another or the bracket. -/
inductive ItemsStep (fuel depth : Nat) (c : Cursor) : List Node → Cursor → Prop
  | close {c₁ next : Cursor} (hlines : c.skipLines = some c₁) (hclose : c₁.expect ']' = some next) :
      ItemsStep fuel depth c [] next
  | more {c₁ c₂ c₃ c₄ next : Cursor} {item : Node} {items : List Node}
    (hlines : c.skipLines = some c₁)
      (hopen : c₁.expect ']' = none) (hitem : readValue fuel depth c₁ = some (item, c₂))
      (hlines' : c₂.skipLines = some c₃) (hcomma : c₃.expect ',' = some c₄)
      (hitems : readItems fuel depth c₄ = some (items, next)) :
      ItemsStep fuel depth c (item :: items) next
  | last {c₁ c₂ c₃ next : Cursor} {item : Node} (hlines : c.skipLines = some c₁)
      (hopen : c₁.expect ']' = none) (hitem : readValue fuel depth c₁ = some (item, c₂))
      (hlines' : c₂.skipLines = some c₃) (hcomma : c₃.expect ',' = none)
      (hclose : c₃.expect ']' = some next) : ItemsStep fuel depth c [item] next

/-- A key, an equals sign and a value, which is read with the fuel for what is left of the text. -/
inductive PairStep (fuel : Cursor → Nat) (depth : Nat) (c : Cursor) (path : List Key)
    (key : Key) (n : Node) (next : Cursor) : Prop
  | mk {c₁ c₂ : Cursor} (hpath : readPath (c.rest.length + 1) c = some ((path, key), c₁))
      (hequals : c₁.expect '=' = some c₂)
      (hvalue : readValue (fuel c₂) depth c₂.skipBlanks = some (n, next)) :
      PairStep fuel depth c path key n next

inductive PairsStep (fuel depth : Nat) (es : Entries) (c : Cursor) : Entries → Cursor → Prop
  | close {c₁ next : Cursor} (hlines : c.skipLines = some c₁) (hclose : c₁.expect '}' = some next) :
      PairsStep fuel depth es c es next
  | more {c₁ c₂ c₃ c₄ next : Cursor} {path : List Key} {key : Key} {n : Node} {es₁ es' : Entries}
      (hlines : c.skipLines = some c₁) (hopen : c₁.expect '}' = none)
      (hpair : PairStep (fun _ => fuel) depth c₁ path key n c₂)
      (hassign : es.assign path key n .inline = some es₁) (hlines' : c₂.skipLines = some c₃)
      (hcomma : c₃.expect ',' = some c₄) (hpairs : readPairs fuel depth es₁ c₄ = some (es', next)) :
      PairsStep fuel depth es c es' next
  | last {c₁ c₂ c₃ next : Cursor} {path : List Key} {key : Key} {n : Node} {es' : Entries}
      (hlines : c.skipLines = some c₁) (hopen : c₁.expect '}' = none)
      (hpair : PairStep (fun _ => fuel) depth c₁ path key n c₂)
      (hassign : es.assign path key n .inline = some es') (hlines' : c₂.skipLines = some c₃)
      (hcomma : c₃.expect ',' = none) (hclose : c₃.expect '}' = some next) :
      PairsStep fuel depth es c es' next

section steps
variable {fuel depth : Nat} {c next : Cursor} {n : Node} {items : List Node} {es es' : Entries}

theorem readValue_text {pos : Nat} {quote : Char} {rest : List Char}
    (hquote : quote = '"' ∨ quote = '\'') :
    readValue (fuel + 1) depth ⟨pos, quote :: rest⟩ = readText? ⟨pos, quote :: rest⟩ := by
  rcases hquote with rfl | rfl <;> rw [readValue.eq_def] <;> rfl

theorem readValue_iff :
    readValue (fuel + 1) depth c = some (n, next) ↔ ValueStep fuel depth c n next := by
  constructor
  · intro h
    obtain ⟨pos, rest⟩ := c
    rw [readValue.eq_def] at h
    dsimp only at h
    split at h
    · exact .text (.inl rfl) h
    · exact .text (.inr rfl) h
    · cases depth with
      | zero => cases h
      | succ depth =>
        obtain ⟨⟨items, next'⟩, hitems, heq⟩ := Option.map_eq_some_iff.1 h
        cases heq
        exact .array hitems
    · cases depth with
      | zero => cases h
      | succ depth =>
        obtain ⟨⟨es, next'⟩, hpairs, heq⟩ := Option.map_eq_some_iff.1 h
        cases heq
        exact .table hpairs
    · next hdouble hsingle hbracket hbrace =>
      refine .scalar (fun char hchar => ?_) h
      obtain ⟨rest, rfl⟩ := List.head?_eq_some_iff.1 hchar
      exact ⟨⟨fun heq => hdouble rest (heq ▸ rfl), fun heq => hsingle rest (heq ▸ rfl)⟩,
        fun heq => hbracket rest (heq ▸ rfl), fun heq => hbrace rest (heq ▸ rfl)⟩
  · intro h
    cases h with
    | text hquote hread => rwa [readValue_text hquote]
    | array hitems =>
      rw [readValue.eq_def]
      exact congrArg (Option.map _) hitems
    | table hpairs =>
      rw [readValue.eq_def]
      exact congrArg (Option.map _) hpairs
    | scalar hother hread =>
      obtain ⟨pos, rest⟩ := c
      rw [readValue.eq_def]
      dsimp only
      split
      · exact absurd rfl (hother _ rfl).1.1
      · exact absurd rfl (hother _ rfl).1.2
      · exact absurd rfl (hother _ rfl).2.1
      · exact absurd rfl (hother _ rfl).2.2
      · exact hread

theorem readItems_iff :
    readItems (fuel + 1) depth c = some (items, next) ↔ ItemsStep fuel depth c items next := by
  constructor
  · intro h
    rw [readItems.eq_def] at h
    dsimp only at h
    split at h
    · cases h
    next c₁ hlines =>
    split at h
    · next c₂ hclose =>
      cases h
      exact .close hlines hclose
    next hopen =>
    split at h
    · cases h
    next item c₂ hitem =>
    split at h
    · cases h
    next c₃ hlines' =>
    split at h
    · next c₄ hcomma =>
      obtain ⟨⟨items', next'⟩, hitems, heq⟩ := Option.map_eq_some_iff.1 h
      cases heq
      exact .more hlines hopen hitem hlines' hcomma hitems
    · next c₄ hcomma hclose =>
      cases h
      exact .last hlines hopen hitem hlines' hcomma hclose
    · cases h
  · intro h
    rw [readItems.eq_def]
    cases h with
    | close hlines hclose => simp only [hlines, hclose]
    | more hlines hopen hitem hlines' hcomma hitems =>
      simp only [hlines, hopen, hitem, hlines', hcomma, hitems, Option.map_some]
    | last hlines hopen hitem hlines' hcomma hclose =>
      simp only [hlines, hopen, hitem, hlines', hcomma, hclose]

theorem readPairs_iff :
    readPairs (fuel + 1) depth es c = some (es', next) ↔ PairsStep fuel depth es c es' next := by
  constructor
  · intro h
    rw [readPairs.eq_def] at h
    dsimp only at h
    split at h
    · cases h
    next c₁ hlines =>
    split at h
    · next c₂ hclose =>
      cases h
      exact .close hlines hclose
    next hopen =>
    split at h
    · cases h
    next path key c₂ hpath =>
    split at h
    · cases h
    next c₃ hequals =>
    split at h
    · cases h
    next n c₄ hvalue =>
    split at h
    · next es₁ c₅ hassign hlines' =>
      split at h
      · next c₆ hcomma => exact .more hlines hopen ⟨hpath, hequals, hvalue⟩ hassign hlines' hcomma h
      · next c₆ hcomma hclose =>
        cases h
        exact .last hlines hopen ⟨hpath, hequals, hvalue⟩ hassign hlines' hcomma hclose
      · cases h
    · cases h
  · intro h
    rw [readPairs.eq_def]
    cases h with
    | close hlines hclose => simp only [hlines, hclose]
    | more hlines hopen hpair hassign hlines' hcomma hpairs =>
      obtain ⟨hpath, hequals, hvalue⟩ := hpair
      simp only [hlines, hopen, hpath, hequals, hvalue, hassign, hlines', hcomma, hpairs]
    | last hlines hopen hpair hassign hlines' hcomma hclose =>
      obtain ⟨hpath, hequals, hvalue⟩ := hpair
      simp only [hlines, hopen, hpath, hequals, hvalue, hassign, hlines', hcomma, hclose]

variable {d d' : Draft}

theorem readPair_eq_some_iff : readPair d c = some (d', next) ↔
    ∃ path key n, PairStep valueFuel maxDepth c path key n next ∧
    d.assign path key n = some d' := by
  unfold readPair
  constructor
  · intro h
    split at h
    · cases h
    next path key c₁ hpath =>
    split at h
    · cases h
    next c₂ hequals =>
    split at h
    · cases h
    next n c₃ hvalue =>
    obtain ⟨d₁, hassign, heq⟩ := Option.map_eq_some_iff.1 h
    cases heq
    exact ⟨path, key, n, ⟨hpath, hequals, hvalue⟩, hassign⟩
  · rintro ⟨path, key, n, ⟨hpath, hequals, hvalue⟩, hassign⟩
    simp only [hpath, hequals, hvalue, hassign, Option.map_some]

end steps

/-- A header between brackets, by which a table is opened. -/
def readBrackets (opening close : List Char)
    (open? : List Key → Key → Span → Entries → Option Entries) (d : Draft) (c : Cursor) :
    Option (Draft × Cursor) :=
  match readPath (c.rest.length + 1) (c.skip opening.length) with
  | none => none
  | some ((path, key), next) =>
    if close.isPrefixOf next.rest then
      (open? path key ⟨c.pos, (next.skip close.length).pos⟩ d.root).map fun root =>
        (⟨root, path ++ [key]⟩, next.skip close.length)
    else none

theorem readHeader_eq (d : Draft) (c : Cursor) : readHeader d c =
    if ['[', '['].isPrefixOf c.rest then readBrackets ['[', '['] [']', ']'] Entries.openElement d c
    else readBrackets ['['] [']'] Entries.openTable d c := by
  unfold readHeader readBrackets
  cases ['[', '['].isPrefixOf c.rest <;> rfl

/-- What stands on a line, before its end. -/
def readLine (d : Draft) (c : Cursor) : Option (Draft × Cursor) :=
  match c.rest.head? with
  | none | some '#' | some '\n' | some '\r' => some (d, c)
  | some '[' => readHeader d c
  | some _ => readPair d c

/-- The end of a line that another follows. -/
def endLine (c : Cursor) : Option Cursor :=
  (skipComment c.skipBlanks.rest).bind fun rest => (skipLineEnd rest).map c.moveTo

/-- A line is the last one, or another follows. -/
inductive LinesStep (fuel : Nat) (d : Draft) (c : Cursor) : Draft → Prop
  | last {d' : Draft} {c₁ : Cursor} (hline : readLine d c.skipBlanks = some (d', c₁))
      (hend : skipComment c₁.skipBlanks.rest = some []) : LinesStep fuel d c d'
  | more {d₁ d' : Draft} {c₁ c₂ : Cursor} (hline : readLine d c.skipBlanks = some (d₁, c₁))
      (hend : endLine c₁ = some c₂) (hlines : readLines fuel d₁ c₂ = some d') :
      LinesStep fuel d c d'

theorem readLines_iff {fuel : Nat} {d d' : Draft} {c : Cursor} :
    readLines (fuel + 1) d c = some d' ↔ LinesStep fuel d c d' := by
  constructor
  · intro h
    rw [readLines] at h
    split at h
    · cases h
    next d₁ c₁ hline =>
    split at h
    · cases h
    · next hcomment =>
      cases h
      exact .last hline hcomment
    · next rest _ hcomment =>
      split at h
      · cases h
      · next rest' hend =>
        refine .more hline ?_ h
        rw [endLine, hcomment, Option.bind_some, hend, Option.map_some]
  · intro h
    rw [readLines]
    cases h with
    | last hline hend =>
      split
      · next heq => cases hline.symm.trans heq
      · next heq =>
        cases hline.symm.trans heq
        simp only [hend]
    | more hline hend hlines =>
      obtain ⟨rest, hcomment, hbehind⟩ := Option.bind_eq_some_iff.1 hend
      obtain ⟨rest', hrest, rfl⟩ := Option.map_eq_some_iff.1 hbehind
      split
      · next heq => cases hline.symm.trans heq
      · next heq =>
        cases hline.symm.trans heq
        cases rest with
        | nil => cases hrest
        | cons char rest => simp only [hcomment, hrest, hlines]

end SparseTransfer.Toml
