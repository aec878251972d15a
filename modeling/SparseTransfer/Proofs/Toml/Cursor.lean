import SparseTransfer.Proofs.Toml.Lexing

/- Readers with a place in the text: how far they look, and where they end. -/
namespace SparseTransfer.Toml

namespace Cursor

/-- A reader of values that looks no further than to the next quote. -/
def Reads {β : Type} (R : Cursor → Option (β × Cursor)) : Prop :=
  ∀ ⦃pos : Nat⦄ ⦃s : List Char⦄ ⦃x : β⦄ ⦃next : Cursor⦄, R ⟨pos, s⟩ = some (x, next) →
    ∃ u r, s = u ++ r ∧ next = ⟨pos + u.length, r⟩ ∧
      ∀ r', Twin r r' → R ⟨pos, u ++ r'⟩ = some (x, ⟨pos + u.length, r'⟩)

/-- The same for a reader that only passes over something. -/
def Skips (R : Cursor → Option Cursor) : Prop :=
  ∀ ⦃pos : Nat⦄ ⦃s : List Char⦄ ⦃next : Cursor⦄, R ⟨pos, s⟩ = some next →
    ∃ u r, s = u ++ r ∧ next = ⟨pos + u.length, r⟩ ∧
      ∀ r', Twin r r' → R ⟨pos, u ++ r'⟩ = some ⟨pos + u.length, r'⟩

theorem moveTo_append (pos : Nat) (u r : List Char) :
    (Cursor.mk pos (u ++ r)).moveTo r = ⟨pos + u.length, r⟩ := by
  simp [moveTo]

theorem skipBlanks_local (pos : Nat) (s : List Char) : ∃ u r, s = u ++ r ∧
    (Cursor.mk pos s).skipBlanks = ⟨pos + u.length, r⟩ ∧
      ∀ r', Twin r r' → (Cursor.mk pos (u ++ r')).skipBlanks = ⟨pos + u.length, r'⟩ := by
  have hs := (List.takeWhile_append_dropWhile (p := isBlankChar) (l := s)).symm
  have hmove := moveTo_append pos (s.takeWhile isBlankChar) (s.dropWhile isBlankChar)
  rw [← hs] at hmove
  refine ⟨_, _, hs, hmove, fun r' hr => ?_⟩
  rw [skipBlanks, (while_twin hr).2, moveTo_append]

theorem skips_expect (char : Char) : Skips fun c => c.expect char := by
  intro pos s next h
  replace h : (Cursor.mk pos s).expect char = some next := h
  unfold expect at h
  split at h
  · next hhead =>
    cases h
    cases s with
    | nil => cases hhead
    | cons d rest =>
      obtain rfl := Option.some.inj hhead
      refine ⟨[d], rest, rfl, rfl, fun r' _ => ?_⟩
      simp [expect, skip]
  · cases h

theorem expect_eq_none {pos : Nat} {char : Char} {r r' : List Char}
    (h : (Cursor.mk pos r).expect char = none) (hr : Twin r r') :
    (Cursor.mk pos r').expect char = none := by
  unfold expect at h ⊢
  split at h
  · cases h
  · next hhead => rw [if_neg (by rwa [hr.head?])]

theorem skips_skipLines : Skips skipLines := by
  intro pos s next h
  obtain ⟨rest, hrest, rfl⟩ := Option.map_eq_some_iff.1 h
  obtain ⟨u, rfl, hu⟩ := passes_skipLines _ hrest
  refine ⟨u, rest, rfl, moveTo_append pos u rest, fun r' hr => ?_⟩
  have hlength : (u ++ r').length = (u ++ rest).length := by
    rw [List.length_append, List.length_append, hr.length]
  rw [skipLines, hlength, hu r' hr, Option.map_some, moveTo_append]

theorem readKey_quoted {quote : Char} {rest : List Char} (hquote : quote = '"' ∨ quote = '\'')
    (hthree : ∀ t, rest = quote :: quote :: t → False) (pos : Nat) :
    readKey ⟨pos, quote :: rest⟩ = (readString (quote :: rest)).map fun read =>
      let next := (Cursor.mk pos (quote :: rest)).moveTo read.2
      (⟨String.ofList read.1, ⟨pos, next.pos⟩⟩, next) := by
  unfold readKey
  rcases hquote with rfl | rfl
  · split
    · next heq => exact absurd (List.cons.inj heq).2 (hthree _)
    · next heq => cases heq
    · cases readString ('"' :: rest) <;> rfl
    · next heq => cases heq
    · next hnot _ => exact absurd rfl (hnot rest)
  · split
    · next heq => cases heq
    · next heq => exact absurd (List.cons.inj heq).2 (hthree _)
    · next heq => cases heq
    · cases readString ('\'' :: rest) <;> rfl
    · next hnot => exact absurd rfl (hnot rest)

theorem reads_readKey : Reads readKey := by
  have hquoted {quote : Char} {rest : List Char} {pos : Nat} {x : Key} {next : Cursor}
      (hquote : quote = '"' ∨ quote = '\'') (hthree : ∀ t, rest = quote :: quote :: t → False)
      (h : readKey ⟨pos, quote :: rest⟩ = some (x, next)) : ∃ u r, quote :: rest = u ++ r ∧
        next = ⟨pos + u.length, r⟩ ∧
        ∀ r', Twin r r' → readKey ⟨pos, u ++ r'⟩ = some (x, ⟨pos + u.length, r'⟩) := by
    rw [readKey_quoted hquote hthree] at h
    obtain ⟨⟨name, rest'⟩, hread, heq⟩ := Option.map_eq_some_iff.1 h
    obtain ⟨rfl, rfl⟩ := Prod.mk.inj heq
    obtain ⟨u, hu, hlength, hread'⟩ := local_readString hread
    cases u with
    | nil => cases hlength
    | cons c u =>
    rw [List.cons_append] at hu
    obtain ⟨rfl, rfl⟩ := List.cons.inj hu
    have hmove (r : List Char) := moveTo_append pos (quote :: u) r
    have hne : u ≠ [] := by
      rintro rfl
      simp at hlength
    dsimp only [List.cons_append] at hmove hread' ⊢
    rw [hmove]
    refine ⟨quote :: u, rest', rfl, rfl, fun r' hr => ?_⟩
    rw [List.cons_append, readKey_quoted hquote (two_quotes hne hr hthree), hread' r' hr,
      Option.map_some]
    simp only [hmove]
  intro pos s x next h
  have hkey := h
  unfold readKey at h
  dsimp only at h
  split at h
  · cases h
  · cases h
  · next rest hthree => exact hquoted (.inl rfl) hthree hkey
  · next rest hthree => exact hquoted (.inr rfl) hthree hkey
  · next hdouble hsingle =>
    split at h
    · cases h
    · next hname =>
      obtain ⟨rfl, rfl⟩ := Prod.mk.inj (Option.some.inj h)
      have hs := List.takeWhile_append_dropWhile (p := isKeyChar) (l := s)
      have hskip : (Cursor.mk pos s).skip (s.takeWhile isKeyChar).length =
          ⟨pos + (s.takeWhile isKeyChar).length, s.dropWhile isKeyChar⟩ := by
        rw [skip, drop_length_takeWhile]
      rw [hskip]
      refine ⟨s.takeWhile isKeyChar, _, hs.symm, rfl, fun r' hr => ?_⟩
      obtain ⟨htake, -⟩ := while_twin hr
      have hskip' :
          (Cursor.mk pos (s.takeWhile isKeyChar ++ r')).skip (s.takeWhile isKeyChar).length =
            ⟨pos + (s.takeWhile isKeyChar).length, r'⟩ := by
        rw [skip, List.drop_left]
      have hquote (quote : Char) (hquote : isKeyChar quote = false) (t : List Char) :
          s.takeWhile isKeyChar ++ r' ≠ quote :: t := by
        intro heq
        rw [heq, List.takeWhile_cons, hquote] at htake
        exact hname (by rw [← htake]; rfl)
      unfold readKey
      split
      · next heq => exact absurd heq (hquote '"' (by decide) _)
      · next heq => exact absurd heq (hquote '\'' (by decide) _)
      · next heq => exact absurd heq (hquote '"' (by decide) _)
      · next heq => exact absurd heq (hquote '\'' (by decide) _)
      · simp only [htake, hskip', hname]
        rfl

theorem reads_readPath (fuel : Nat) : Reads (readPath fuel) := by
  induction fuel with
  | zero =>
    intro pos s x next h
    rw [readPath] at h
    cases h
  | succ fuel ih =>
    intro pos s x next h
    obtain ⟨u₁, s, rfl, hblanks, hblanks'⟩ := skipBlanks_local pos s
    rw [readPath, hblanks] at h
    split at h
    · cases h
    next key c hkey =>
    obtain ⟨u₂, s, rfl, rfl, hkey'⟩ := reads_readKey hkey
    obtain ⟨u₃, s, rfl, hback, hback'⟩ := skipBlanks_local (pos + u₁.length + u₂.length) s
    rw [hback] at h
    split at h
    · next hdot =>
      cases h
      refine ⟨u₁ ++ (u₂ ++ u₃), s, by simp, by simp [Nat.add_assoc], fun r' hr => ?_⟩
      have h₃ := hr.append u₃
      simp only [List.append_assoc, List.length_append]
      rw [readPath, hblanks' _ (h₃.append u₂), hkey' _ h₃]
      simp only [hback' _ hr, expect_eq_none hdot hr, ← Nat.add_assoc]
    · next c hdot =>
      obtain ⟨u₄, s, rfl, rfl, hdot'⟩ := skips_expect '.' hdot
      obtain ⟨⟨x', next'⟩, hpath, heq⟩ := Option.map_eq_some_iff.1 h
      cases heq
      obtain ⟨u₅, s, rfl, rfl, hpath'⟩ := ih hpath
      refine ⟨u₁ ++ (u₂ ++ (u₃ ++ (u₄ ++ u₅))), s, by simp, by simp [Nat.add_assoc],
        fun r' hr => ?_⟩
      have h₄ := hr.append u₅
      have h₃ := h₄.append u₄
      have h₂ := h₃.append u₃
      simp only [List.append_assoc, List.length_append]
      rw [readPath, hblanks' _ (h₂.append u₂), hkey' _ h₂]
      simp only [hback' _ h₃, hdot' _ h₄, hpath' _ hr, Option.map_some, ← Nat.add_assoc]

theorem Reads.pos_le {β : Type} {R : Cursor → Option (β × Cursor)} (hR : Reads R)
    {c next : Cursor} {x : β} (h : R c = some (x, next)) : c.pos ≤ next.pos := by
  obtain ⟨u, r, -, rfl, -⟩ := hR h
  exact Nat.le_add_right ..

theorem Skips.pos_le {R : Cursor → Option Cursor} (hR : Skips R) {c next : Cursor}
    (h : R c = some next) : c.pos ≤ next.pos := by
  obtain ⟨u, r, -, rfl, -⟩ := hR h
  exact Nat.le_add_right ..

theorem pos_le_skipBlanks (c : Cursor) : c.pos ≤ c.skipBlanks.pos := Nat.le_add_right ..

end Cursor
end SparseTransfer.Toml
