import Mathlib.Data.List.TakeWhile
import SparseTransfer.Toml.Document

/- How far readers look. What a reader makes of the text before a place depends on no more of the
rest than on where its first quote stands. -/
namespace SparseTransfer.Toml

/-- Texts of one length that are the same up to a quote. -/
def Twin (r r' : List Char) : Prop :=
  ∃ (w : List Char) (quote : Char) (s s' : List Char), (quote = '"' ∨ quote = '\'') ∧
    s'.length = s.length ∧ r = w ++ quote :: s ∧ r' = w ++ quote :: s'

namespace Twin
variable {c d : Char} {r r' : List Char}

theorem append (h : Twin r r') (u : List Char) : Twin (u ++ r) (u ++ r') := by
  obtain ⟨w, quote, s, s', hquote, hlength, rfl, rfl⟩ := h
  exact ⟨u ++ w, quote, s, s', hquote, hlength, (List.append_assoc ..).symm,
    (List.append_assoc ..).symm⟩

theorem length (h : Twin r r') : r'.length = r.length := by
  obtain ⟨w, quote, s, s', -, hlength, rfl, rfl⟩ := h
  simp [hlength]

theorem cons (h : Twin (c :: r) r') : ∃ r'', r' = c :: r'' ∧ (c ≠ '"' → c ≠ '\'' → Twin r r'') := by
  obtain ⟨w, quote, s, s', hquote, hlength, hr, rfl⟩ := h
  cases w with
  | nil =>
    obtain ⟨rfl, rfl⟩ := List.cons.inj hr
    exact ⟨s', rfl, fun hdouble hsingle => absurd hquote (not_or.2 ⟨hdouble, hsingle⟩)⟩
  | cons _ w =>
    obtain ⟨rfl, rfl⟩ := List.cons.inj hr
    exact ⟨_, rfl, fun _ _ => ⟨w, quote, s, s', hquote, hlength, rfl, rfl⟩⟩

theorem exists_cons (h : Twin r r') : ∃ c s s', r = c :: s ∧ r' = c :: s' := by
  cases r with
  | nil =>
    obtain ⟨w, quote, s, s', -, -, hr, -⟩ := h
    cases w <;> cases hr
  | cons c r =>
    obtain ⟨r'', rfl, -⟩ := h.cons
    exact ⟨c, r, r'', rfl, rfl⟩

theorem head? (h : Twin r r') : r'.head? = r.head? := by
  obtain ⟨c, s, s', rfl, rfl⟩ := h.exists_cons
  rfl

theorem symm (h : Twin r r') : Twin r' r := by
  obtain ⟨w, quote, s, s', hquote, hlength, hr, hr'⟩ := h
  exact ⟨w, quote, s', s, hquote, hlength.symm, hr', hr⟩

/-- What comes next but one is the same, too, if no quote comes next. -/
theorem second (h : Twin (c :: r) r') (hdouble : c ≠ '"') (hsingle : c ≠ '\'') :
    ∃ d s s', r = d :: s ∧ r' = c :: d :: s' := by
  obtain ⟨r'', rfl, hrest⟩ := h.cons
  obtain ⟨d, s, s', rfl, rfl⟩ := (hrest hdouble hsingle).exists_cons
  exact ⟨d, s, s', rfl, rfl⟩

theorem isPrefixOf (h : Twin r r') {u : List Char} (hu : ∀ char ∈ u, char ≠ '"' ∧ char ≠ '\'') :
    u.isPrefixOf r' = u.isPrefixOf r := by
  induction u generalizing r r' with
  | nil => rw [List.isPrefixOf_nil_left, List.isPrefixOf_nil_left]
  | cons char u ih =>
    obtain ⟨hchar, hu⟩ := List.forall_mem_cons.1 hu
    obtain ⟨c, s, s', rfl, rfl⟩ := h.exists_cons
    rw [List.isPrefixOf, List.isPrefixOf]
    by_cases hc : char = c
    · subst hc
      obtain ⟨s'', heq, hrest⟩ := h.cons
      obtain rfl := (List.cons.inj heq).2
      rw [ih (hrest hchar.1 hchar.2) hu]
    · rw [beq_eq_false_iff_ne.2 hc, Bool.false_and, Bool.false_and]

end Twin

/-- A reader of values that looks no further. -/
def Local {α : Type} (f : List Char → Option (α × List Char)) : Prop :=
  ∀ {s : List Char} {v : α} {r : List Char}, f s = some (v, r) →
    ∃ u, s = u ++ r ∧ ∀ r', Twin r r' → f (u ++ r') = some (v, r')

section whiles
variable {p : Char → Bool} {u r r' : List Char}

theorem takeWhile_append_of_head (h : ∀ c ∈ r.head?, p c = false) :
    (u ++ r).takeWhile p = u.takeWhile p := by
  induction u with
  | nil =>
    cases r with
    | nil => rfl
    | cons c r => simp [h c rfl]
  | cons c u ih => simp only [List.cons_append, List.takeWhile_cons, ih]

theorem dropWhile_head (s : List Char) : ∀ c ∈ (s.dropWhile p).head?, p c = false := by
  intro c hc
  have hnot := List.head?_dropWhile_not p s
  rw [hc] at hnot
  simpa using hnot

/-- A stretch of characters of a kind ends where another character comes. -/
theorem while_append (hu : ∀ c ∈ u, p c = true) (hr : ∀ c ∈ r.head?, p c = false) :
    (u ++ r).takeWhile p = u ∧ (u ++ r).dropWhile p = r := by
  have htake : r.takeWhile p = [] := by
    simpa using takeWhile_append_of_head (u := []) hr
  have hdrop : r.dropWhile p = r := by
    have hall := List.takeWhile_append_dropWhile (p := p) (l := r)
    rwa [htake, List.nil_append] at hall
  rw [List.takeWhile_append_of_pos hu, List.dropWhile_append_of_pos hu, htake, hdrop,
    List.append_nil]
  exact ⟨rfl, rfl⟩

theorem drop_length_takeWhile (s : List Char) : s.drop (s.takeWhile p).length = s.dropWhile p :=
  (congrArg (List.drop _) List.takeWhile_append_dropWhile.symm).trans List.drop_left

theorem while_twin {s : List Char} (h : Twin (s.dropWhile p) r') :
    (s.takeWhile p ++ r').takeWhile p = s.takeWhile p ∧ (s.takeWhile p ++ r').dropWhile p = r' := by
  refine while_append (fun _ hc => List.mem_takeWhile_imp hc) ?_
  rw [h.head?]
  exact dropWhile_head s

end whiles

/-- A reader that only passes over something, and looks no further. -/
def Passes (f : List Char → Option (List Char)) : Prop :=
  ∀ {s r : List Char}, f s = some r → ∃ u, s = u ++ r ∧ ∀ r', Twin r r' → f (u ++ r') = some r'

theorem passes_skipComment : Passes skipComment := by
  intro s r h
  unfold skipComment at h
  split at h
  · next rest =>
    dsimp only at h
    split at h
    · next hplain =>
      obtain rfl := Option.some.inj h
      refine ⟨'#' :: rest.takeWhile _, congrArg ('#' :: ·) List.takeWhile_append_dropWhile.symm,
        fun r' hr => ?_⟩
      obtain ⟨htake, hdrop⟩ := while_twin hr
      rw [List.cons_append, skipComment]
      simp only [htake, hdrop, hplain, if_true]
    · cases h
  · next hhash =>
    obtain rfl := Option.some.inj h
    refine ⟨[], rfl, fun r' hr => ?_⟩
    obtain ⟨c, t, t', rfl, rfl⟩ := hr.exists_cons
    rw [List.nil_append, skipComment]
    intro rest heq
    exact hhash t (by rw [(List.cons.inj heq).1])

theorem passes_skipLineEnd : Passes skipLineEnd := by
  intro s r h
  unfold skipLineEnd at h
  split at h
  · obtain rfl := Option.some.inj h
    exact ⟨['\n'], rfl, fun _ _ => rfl⟩
  · obtain rfl := Option.some.inj h
    exact ⟨['\r', '\n'], rfl, fun _ _ => rfl⟩
  · cases h

theorem skipLineEnd_eq_none {r r' : List Char} (h : skipLineEnd r = none) (hr : Twin r r') :
    skipLineEnd r' = none := by
  obtain ⟨c, s, s', rfl, rfl⟩ := hr.exists_cons
  unfold skipLineEnd at h ⊢
  split
  · next heq =>
    obtain ⟨rfl, rfl⟩ := List.cons.inj heq
    simp at h
  · next heq =>
    obtain ⟨rfl, rfl⟩ := List.cons.inj heq
    obtain ⟨d, t, t', rfl, heq'⟩ := hr.second (by decide) (by decide)
    obtain rfl : '\n' = d := (List.cons.inj (List.cons.inj heq').2).1
    simp at h
  · rfl

theorem passes_skipLines (fuel : Nat) : Passes (skipLines fuel) := by
  induction fuel with
  | zero =>
    intro s r h
    rw [skipLines] at h
    cases h
  | succ fuel ih =>
    intro s r h
    rw [skipLines] at h
    have hs := (List.takeWhile_append_dropWhile (p := isBlankChar) (l := s)).symm
    split at h
    · cases h
    next rest hcomment =>
    obtain ⟨u₂, hdrop, hcomment'⟩ := passes_skipComment hcomment
    have hblanks {r' : List Char} (h : Twin (s.dropWhile isBlankChar) r') := while_twin h
    rw [hdrop] at hs hblanks
    split at h
    · next rest' hend =>
      obtain ⟨u₃, rfl, hend'⟩ := passes_skipLineEnd hend
      obtain ⟨u₄, rfl, hlines⟩ := ih h
      refine ⟨s.takeWhile isBlankChar ++ (u₂ ++ (u₃ ++ u₄)), by simpa using hs, fun r' hr => ?_⟩
      have h₄ := hr.append u₄
      have h₃ := h₄.append u₃
      simp only [List.append_assoc]
      rw [skipLines, (hblanks (h₃.append u₂)).2]
      simp only [hcomment' _ h₃, hend' _ h₄, hlines _ hr]
    · next hend =>
      obtain rfl := Option.some.inj h
      refine ⟨s.takeWhile isBlankChar ++ u₂, by simpa using hs, fun r' hr => ?_⟩
      rw [List.append_assoc, skipLines, (hblanks (hr.append u₂)).2]
      simp only [hcomment' _ hr, skipLineEnd_eq_none hend hr]

theorem local_numbered (count : Nat) : Local (numbered count) := by
  intro s v r h
  unfold numbered at h
  dsimp only at h
  split at h
  · next hdigits =>
    split at h
    · next hvalid =>
      obtain ⟨rfl, rfl⟩ := Prod.mk.inj (Option.some.inj h)
      refine ⟨s.take count, (List.take_append_drop count s).symm, fun r' _ => ?_⟩
      rw [Bool.and_eq_true, decide_eq_true_iff] at hdigits
      have htake : (s.take count ++ r').take count = s.take count := List.take_left' hdigits.1
      have hdrop : (s.take count ++ r').drop count = r' := List.drop_left' hdigits.1
      unfold numbered
      simp only [htake, hdrop, hdigits, hvalid, decide_true, Bool.and_self, if_true]
    · cases h
  · cases h

theorem local_escape? : Local escape? := by
  have hnumbered {count : Nat} {c : Char} {rest : List Char} {v : Char} {r : List Char}
      (h : numbered count rest = some (v, r)) : ∃ u, c :: rest = c :: u ++ r ∧
        ∀ r', Twin r r' → numbered count (u ++ r') = some (v, r') := by
    obtain ⟨u, rfl, hu⟩ := local_numbered count h
    exact ⟨u, rfl, hu⟩
  intro s v r h
  unfold escape? at h
  split at h
  case h_9 =>
    obtain ⟨u, hs, hu⟩ := hnumbered h
    exact ⟨_, hs, hu⟩
  case h_10 =>
    obtain ⟨u, hs, hu⟩ := hnumbered h
    exact ⟨_, hs, hu⟩
  case h_11 =>
    obtain ⟨u, hs, hu⟩ := hnumbered h
    exact ⟨_, hs, hu⟩
  case h_12 => cases h
  all_goals
    obtain ⟨rfl, rfl⟩ := Prod.mk.inj (Option.some.inj h)
    exact ⟨[_], rfl, fun _ _ => rfl⟩

theorem local_basic (fuel : Nat) {s v r : List Char} (h : basic fuel s = some (v, r)) :
    ∃ u, s = u ++ r ∧ u ≠ [] ∧ ∀ r', Twin r r' → basic fuel (u ++ r') = some (v, r') := by
  induction fuel generalizing s v r with
  | zero =>
    rw [basic] at h
    cases h
  | succ fuel ih =>
    cases s with
    | nil => simp [basic] at h
    | cons c rest =>
    rw [basic] at h
    split at h
    · next hc =>
      obtain ⟨rfl, rfl⟩ := Prod.mk.inj (Option.some.inj h)
      refine ⟨[c], rfl, List.cons_ne_nil _ _, fun r' _ => ?_⟩
      rw [List.singleton_append, basic, if_pos hc]
    next hc =>
    split at h
    · next hslash =>
      split at h
      · next d rest' hescape =>
        obtain ⟨⟨v', r⟩, hread, hv⟩ := Option.map_eq_some_iff.1 h
        cases hv
        obtain ⟨u₁, rfl, hescape'⟩ := local_escape? hescape
        obtain ⟨u₂, rfl, -, hread'⟩ := ih hread
        refine ⟨c :: (u₁ ++ u₂), by simp, List.cons_ne_nil _ _, fun r' hr => ?_⟩
        rw [List.cons_append, List.append_assoc, basic, if_neg hc, if_pos hslash,
          hescape' _ (hr.append u₂)]
        simp only [hread' _ hr, Option.map_some]
      · cases h
    next hslash =>
    split at h
    · next hplain =>
      obtain ⟨⟨v', r⟩, hread, hv⟩ := Option.map_eq_some_iff.1 h
      cases hv
      obtain ⟨u, rfl, -, hread'⟩ := ih hread
      refine ⟨c :: u, rfl, List.cons_ne_nil _ _, fun r' hr => ?_⟩
      rw [List.cons_append, basic, if_neg hc, if_neg hslash, if_pos hplain, hread' _ hr]
      rfl
    · cases h

theorem local_literal {s v r : List Char} (h : literal s = some (v, r)) :
    ∃ u, s = u ++ r ∧ u ≠ [] ∧ ∀ r', Twin r r' → literal (u ++ r') = some (v, r') := by
  induction s generalizing v r with
  | nil =>
    rw [literal] at h
    cases h
  | cons c rest ih =>
    rw [literal] at h
    split at h
    · next hc =>
      obtain ⟨rfl, rfl⟩ := Prod.mk.inj (Option.some.inj h)
      refine ⟨[c], rfl, List.cons_ne_nil _ _, fun r' _ => ?_⟩
      rw [List.singleton_append, literal, if_pos hc]
    next hc =>
    split at h
    · next hplain =>
      obtain ⟨⟨v', r⟩, hread, hv⟩ := Option.map_eq_some_iff.1 h
      cases hv
      obtain ⟨u, rfl, -, hread'⟩ := ih hread
      refine ⟨c :: u, rfl, List.cons_ne_nil _ _, fun r' hr => ?_⟩
      rw [List.cons_append, literal, if_neg hc, if_pos hplain, hread' _ hr]
      rfl
    · cases h

theorem passes_skipBlankLines : Passes fun s => some (skipBlankLines s) := by
  intro s r h
  obtain rfl := Option.some.inj h
  clear h
  fun_induction skipBlankLines s with
  | case1 rest ih =>
    obtain ⟨u, hrest, hu⟩ := ih
    exact ⟨' ' :: u, congrArg _ hrest, hu⟩
  | case2 rest ih =>
    obtain ⟨u, hrest, hu⟩ := ih
    exact ⟨'\t' :: u, congrArg _ hrest, hu⟩
  | case3 rest ih =>
    obtain ⟨u, hrest, hu⟩ := ih
    exact ⟨'\n' :: u, congrArg _ hrest, hu⟩
  | case4 rest ih =>
    obtain ⟨u, hrest, hu⟩ := ih
    exact ⟨'\r' :: '\n' :: u, congrArg ('\r' :: '\n' :: ·) hrest, hu⟩
  | case5 s h₁ h₂ h₃ h₄ =>
    refine ⟨[], rfl, fun r' hr => ?_⟩
    obtain ⟨c, t, t', rfl, rfl⟩ := hr.exists_cons
    refine congrArg some ?_
    rw [List.nil_append, skipBlankLines.eq_def]
    split
    · next heq => exact absurd (by rw [(List.cons.inj heq).1]) (h₁ t)
    · next heq => exact absurd (by rw [(List.cons.inj heq).1]) (h₂ t)
    · next heq => exact absurd (by rw [(List.cons.inj heq).1]) (h₃ t)
    · next heq =>
      obtain ⟨rfl, rfl⟩ := List.cons.inj heq
      obtain ⟨d, z, z', rfl, heq'⟩ := hr.second (by decide) (by decide)
      obtain rfl : '\n' = d := (List.cons.inj (List.cons.inj heq').2).1
      exact absurd rfl (h₄ z)
    · rfl

/-- A line end that is left out, with the blanks before it and the blank lines behind it. -/
theorem passes_continuation {s t : List Char} (h : skipLineEnd (s.dropWhile isBlankChar) = some t) :
    ∃ u, s = u ++ skipBlankLines t ∧ ∀ r', Twin (skipBlankLines t) r' →
      ∃ t', skipLineEnd ((u ++ r').dropWhile isBlankChar) = some t' ∧ skipBlankLines t' = r' := by
  obtain ⟨u₁, hdrop, hend⟩ := passes_skipLineEnd h
  obtain ⟨u₂, hskip, hskip'⟩ := passes_skipBlankLines (s := t) rfl
  have hs := (List.takeWhile_append_dropWhile (p := isBlankChar) (l := s)).symm
  have hblanks {r' : List Char} (h : Twin (s.dropWhile isBlankChar) r') := while_twin h
  rw [hskip] at hdrop hend
  rw [hdrop] at hs hblanks
  refine ⟨s.takeWhile isBlankChar ++ (u₁ ++ u₂), by simpa using hs, fun r' hr => ⟨u₂ ++ r', ?_, ?_⟩⟩
  · have h₂ := hr.append u₂
    rw [List.append_assoc, List.append_assoc, (hblanks (h₂.append u₁)).2, hend _ h₂]
  · exact Option.some.inj (hskip' _ hr)

theorem lineEnd_behind_blanks_eq_none {s s' : List Char}
    (h : skipLineEnd (s.dropWhile isBlankChar) = none) (hs : Twin s s') :
    skipLineEnd (s'.dropWhile isBlankChar) = none := by
  induction s generalizing s' with
  | nil =>
    obtain ⟨_, _, _, heq, -⟩ := hs.exists_cons
    cases heq
  | cons c s ih =>
    obtain ⟨s', rfl, hrest⟩ := hs.cons
    cases hc : isBlankChar c with
    | true =>
      rw [List.dropWhile_cons_of_pos hc] at h ⊢
      refine ih h (hrest ?_ ?_)
      · rintro rfl
        cases hc
      · rintro rfl
        cases hc
    | false =>
      rw [List.dropWhile_cons_of_neg (by simp [hc])] at h ⊢
      exact skipLineEnd_eq_none h hs

/-- Where a string on several lines is closed, no further quote of its kind comes next. -/
theorem local_closing {quote : Char} {s v r : List Char} (h : closing quote s = some (v, r)) :
    ∃ u, s = u ++ r ∧ 3 ≤ u.length ∧ r.head? ≠ some quote ∧
      ∀ r', Twin r r' → closing quote (u ++ r') = some (v, r') := by
  unfold closing at h
  dsimp only at h
  split at h
  · next hcount =>
    obtain ⟨rfl, rfl⟩ := Prod.mk.inj (Option.some.inj h)
    rw [drop_length_takeWhile]
    rw [Bool.and_eq_true, decide_eq_true_iff] at hcount
    refine ⟨s.takeWhile (· == quote), List.takeWhile_append_dropWhile.symm, hcount.1,
      fun hhead => ?_, fun r' hr => ?_⟩
    · simpa using dropWhile_head s quote hhead
    · obtain ⟨htake, -⟩ := while_twin hr
      unfold closing
      simp only [htake, List.drop_left, hcount, decide_true, Bool.and_self, if_true]
  · cases h

/-- Whether a string is closed does not depend on what follows another character than its quote. -/
theorem closing_eq_none {quote : Char} {u r r' : List Char} (h : closing quote (u ++ r) = none)
    (hhead : r.head? ≠ some quote) (hr : Twin r r') : closing quote (u ++ r') = none := by
  have htake {r : List Char} (hhead : r.head? ≠ some quote) :
      (u ++ r).takeWhile (· == quote) = u.takeWhile (· == quote) := by
    refine takeWhile_append_of_head fun c hc => ?_
    rw [beq_eq_false_iff_ne]
    rintro rfl
    exact hhead hc
  unfold closing at h ⊢
  rw [htake hhead] at h
  rw [htake (by rwa [hr.head?])]
  dsimp only at h ⊢
  split
  · next hcount =>
    rw [if_pos hcount] at h
    cases h
  · rfl

theorem exists_three {u : List Char} (h : 3 ≤ u.length) :
    ∃ c₁ c₂ c₃ u', u = c₁ :: c₂ :: c₃ :: u' := by
  match u, h with
  | c₁ :: c₂ :: c₃ :: u, _ => exact ⟨c₁, c₂, c₃, u, rfl⟩

theorem local_basicLines (fuel : Nat) {s v r : List Char} (h : basicLines fuel s = some (v, r)) :
    ∃ u, s = u ++ r ∧ 3 ≤ u.length ∧ r.head? ≠ some '"' ∧
      ∀ r', Twin r r' → basicLines fuel (u ++ r') = some (v, r') := by
  induction fuel generalizing s v r with
  | zero =>
    rw [basicLines] at h
    cases h
  | succ fuel ih =>
    rw [basicLines.eq_def] at h
    dsimp only at h
    split at h
    · next hclosing =>
      cases h
      obtain ⟨u, rfl, hu, hhead, hclosing'⟩ := local_closing hclosing
      refine ⟨u, rfl, hu, hhead, fun r' hr => ?_⟩
      rw [basicLines.eq_def]
      simp only [hclosing' r' hr]
    · cases h
    · next rest hclosing =>
      split at h
      · next rest' hend =>
        obtain ⟨u₁, hrest, hpass⟩ := passes_continuation hend
        obtain ⟨u₂, hread, hu₂, hhead, hread'⟩ := ih h
        rw [hread] at hrest hpass
        subst hrest
        refine ⟨'\\' :: (u₁ ++ u₂), by simp, by simp; omega, hhead, fun r' hr => ?_⟩
        obtain ⟨t, hend', hskip⟩ := hpass _ (hr.append u₂)
        have hclosing' := closing_eq_none (u := '\\' :: (u₁ ++ u₂))
          (by simpa using hclosing) hhead hr
        simp only [List.cons_append, List.append_assoc] at hclosing' ⊢
        rw [basicLines.eq_def]
        simp only [hclosing', hend', hskip, hread' _ hr]
      next hend =>
      split at h
      · next d rest' hescape =>
        obtain ⟨⟨v', r⟩, hread, hv⟩ := Option.map_eq_some_iff.1 h
        cases hv
        obtain ⟨u₁, rfl, hescape'⟩ := local_escape? hescape
        obtain ⟨u₂, rfl, hu₂, hhead, hread'⟩ := ih hread
        refine ⟨'\\' :: (u₁ ++ u₂), by simp, by simp; omega, hhead, fun r' hr => ?_⟩
        have hclosing' := closing_eq_none (u := '\\' :: (u₁ ++ u₂))
          (by simpa using hclosing) hhead hr
        simp only [List.cons_append, List.append_assoc] at hclosing' ⊢
        rw [basicLines.eq_def]
        simp only [hclosing', lineEnd_behind_blanks_eq_none hend ((hr.append u₂).append u₁),
          hescape' _ (hr.append u₂), hread' _ hr, Option.map_some]
      · cases h
    · next rest hclosing =>
      obtain ⟨⟨v', r⟩, hread, hv⟩ := Option.map_eq_some_iff.1 h
      cases hv
      obtain ⟨u, rfl, hu, hhead, hread'⟩ := ih hread
      refine ⟨'\r' :: '\n' :: u, rfl, by simp; omega, hhead, fun r' hr => ?_⟩
      have hclosing' := closing_eq_none (u := '\r' :: '\n' :: u) hclosing hhead hr
      rw [List.cons_append, List.cons_append] at hclosing' ⊢
      rw [basicLines.eq_def]
      simp only [hclosing', hread' r' hr, Option.map_some]
    · next c rest hslash hreturn hclosing =>
      split at h
      · next hc =>
        obtain ⟨⟨v', r⟩, hread, hv⟩ := Option.map_eq_some_iff.1 h
        cases hv
        obtain ⟨u, rfl, hu, hhead, hread'⟩ := ih hread
        refine ⟨c :: u, rfl, by simp; omega, hhead, fun r' hr => ?_⟩
        have hclosing' := closing_eq_none (u := c :: u) hclosing hhead hr
        obtain ⟨c₁, c₂, c₃, u, rfl⟩ := exists_three hu
        have hread := hread' r' hr
        simp only [List.cons_append] at hclosing' hread ⊢
        rw [basicLines.eq_def]
        simp only [hclosing']
        split
        · next heq => cases heq
        · next heq => cases heq
        · next heq => exact absurd (List.cons.inj heq).1 hslash
        · next heq =>
          obtain ⟨hc₀, heq⟩ := List.cons.inj heq
          exact absurd (congrArg (· :: _) (List.cons.inj heq).1) (hreturn _ hc₀)
        · next heq =>
          obtain ⟨rfl, rfl⟩ := List.cons.inj heq
          rw [hread, Option.map_some]
          exact if_pos hc
      · cases h

theorem local_literalLines (fuel : Nat) {s v r : List Char}
    (h : literalLines fuel s = some (v, r)) : ∃ u, s = u ++ r ∧ 3 ≤ u.length ∧ r.head? ≠ some '\'' ∧
      ∀ r', Twin r r' → literalLines fuel (u ++ r') = some (v, r') := by
  induction fuel generalizing s v r with
  | zero =>
    rw [literalLines] at h
    cases h
  | succ fuel ih =>
    rw [literalLines.eq_def] at h
    dsimp only at h
    split at h
    · next hclosing =>
      cases h
      obtain ⟨u, rfl, hu, hhead, hclosing'⟩ := local_closing hclosing
      refine ⟨u, rfl, hu, hhead, fun r' hr => ?_⟩
      rw [literalLines.eq_def]
      simp only [hclosing' r' hr]
    · cases h
    · next rest hclosing =>
      obtain ⟨⟨v', r⟩, hread, hv⟩ := Option.map_eq_some_iff.1 h
      cases hv
      obtain ⟨u, rfl, hu, hhead, hread'⟩ := ih hread
      refine ⟨'\r' :: '\n' :: u, rfl, by simp; omega, hhead, fun r' hr => ?_⟩
      have hclosing' := closing_eq_none (u := '\r' :: '\n' :: u) hclosing hhead hr
      rw [List.cons_append, List.cons_append] at hclosing' ⊢
      rw [literalLines.eq_def]
      simp only [hclosing', hread' r' hr, Option.map_some]
    · next c rest hreturn hclosing =>
      split at h
      · next hc =>
        obtain ⟨⟨v', r⟩, hread, hv⟩ := Option.map_eq_some_iff.1 h
        cases hv
        obtain ⟨u, rfl, hu, hhead, hread'⟩ := ih hread
        refine ⟨c :: u, rfl, by simp; omega, hhead, fun r' hr => ?_⟩
        have hclosing' := closing_eq_none (u := c :: u) hclosing hhead hr
        obtain ⟨c₁, c₂, c₃, u, rfl⟩ := exists_three hu
        have hread := hread' r' hr
        simp only [List.cons_append] at hclosing' hread ⊢
        rw [literalLines.eq_def]
        simp only [hclosing']
        split
        · next heq => cases heq
        · next heq => cases heq
        · next heq =>
          obtain ⟨hc₀, heq⟩ := List.cons.inj heq
          exact absurd (congrArg (· :: _) (List.cons.inj heq).1) (hreturn _ hc₀)
        · next heq =>
          obtain ⟨rfl, rfl⟩ := List.cons.inj heq
          rw [hread, Option.map_some]
          exact if_pos hc
      · cases h

/-- A line end right behind opening quotes is there or not, whatever follows the string. -/
theorem getD_skipLineEnd_local {rest u r : List Char} (h : (skipLineEnd rest).getD rest = u ++ r) :
    ∃ u₀, rest = u₀ ++ r ∧ u.length ≤ u₀.length ∧
      ∀ r', Twin r r' → (skipLineEnd (u₀ ++ r')).getD (u₀ ++ r') = u ++ r' := by
  cases hend : skipLineEnd rest with
  | none =>
    rw [hend, Option.getD_none] at h
    subst h
    refine ⟨u, rfl, le_rfl, fun r' hr => ?_⟩
    rw [skipLineEnd_eq_none hend (hr.append u), Option.getD_none]
  | some m =>
    rw [hend, Option.getD_some] at h
    subst h
    obtain ⟨u₁, rfl, hend'⟩ := passes_skipLineEnd hend
    refine ⟨u₁ ++ u, (List.append_assoc ..).symm, by simp, fun r' hr => ?_⟩
    rw [List.append_assoc, hend' _ (hr.append u), Option.getD_some]

/-- What are not three quotes at the start of a string are not three quotes. -/
theorem two_quotes {quote : Char} {u r r' : List Char} (hu : u ≠ []) (hr : Twin r r')
    (h : ∀ t, u ++ r = quote :: quote :: t → False) (t : List Char) :
    u ++ r' = quote :: quote :: t → False := by
  intro heq
  cases u with
  | nil => exact hu rfl
  | cons c u =>
    rw [List.cons_append] at heq
    obtain ⟨rfl, hrest⟩ := List.cons.inj heq
    have htwin := (hr.append u).symm
    rw [hrest] at htwin
    obtain ⟨t', heq', -⟩ := htwin.cons
    exact h t' (by rw [List.cons_append, heq'])

theorem local_readString {s v r : List Char} (h : readString s = some (v, r)) :
    ∃ u, s = u ++ r ∧ 2 ≤ u.length ∧ ∀ r', Twin r r' → readString (u ++ r') = some (v, r') := by
  unfold readString at h
  split at h
  · next rest =>
    obtain ⟨u, hrest, hu, -, hread⟩ := local_basicLines _ h
    obtain ⟨u₀, rfl, hu₀, hend⟩ := getD_skipLineEnd_local hrest
    refine ⟨'"' :: '"' :: '"' :: u₀, rfl, by simp, fun r' hr => ?_⟩
    simp only [List.cons_append]
    rw [readString, hend r' hr, ← hread r' hr, List.length_append, List.length_append, hr.length]
  · next rest =>
    obtain ⟨u, hrest, hu, -, hread⟩ := local_literalLines _ h
    obtain ⟨u₀, rfl, hu₀, hend⟩ := getD_skipLineEnd_local hrest
    refine ⟨'\'' :: '\'' :: '\'' :: u₀, rfl, by simp, fun r' hr => ?_⟩
    simp only [List.cons_append]
    rw [readString, hend r' hr, ← hread r' hr, List.length_append, List.length_append, hr.length]
  · next rest hthree =>
    obtain ⟨u, rfl, hu, hread⟩ := local_basic _ h
    refine ⟨'"' :: u, rfl, Nat.succ_le_succ (List.length_pos_iff.2 hu), fun r' hr => ?_⟩
    rw [List.cons_append, readString]
    · rw [← hread r' hr, List.length_append, List.length_append, hr.length]
    · exact two_quotes hu hr hthree
  · next rest hthree =>
    obtain ⟨u, rfl, hu, hread⟩ := local_literal h
    refine ⟨'\'' :: u, rfl, Nat.succ_le_succ (List.length_pos_iff.2 hu), fun r' hr => ?_⟩
    rw [List.cons_append, readString]
    · exact hread r' hr
    · exact two_quotes hu hr hthree
  · cases h

theorem local_readScalar : Local readScalar := by
  intro s v r h
  have hs := (List.takeWhile_append_dropWhile (p := isScalarChar) (l := s)).symm
  unfold readScalar at h
  dsimp only at h
  split at h
  · next c more hdate hrest =>
    rw [hrest] at hs
    split at h
    · next hdigit =>
      split at h
      · next htime =>
        obtain ⟨rfl, rfl⟩ := Prod.mk.inj (Option.some.inj h)
        obtain ⟨w, hw⟩ : ∃ w, (c :: more).takeWhile isScalarChar = c :: w :=
          ⟨_, List.takeWhile_cons_of_pos (by simp [isScalarChar, Char.isAlphanum, hdigit])⟩
        refine ⟨s.takeWhile isScalarChar ++ ' ' :: (c :: more).takeWhile isScalarChar, ?_,
          fun r' hr => ?_⟩
        · rw [List.append_assoc, List.cons_append, List.takeWhile_append_dropWhile]
          exact hs
        · obtain ⟨htake, hdrop⟩ := while_twin hr
          obtain ⟨hword, hbehind⟩ :=
            while_append (p := isScalarChar) (u := s.takeWhile isScalarChar)
            (r := ' ' :: ((c :: more).takeWhile isScalarChar ++ r'))
            (fun _ hc => List.mem_takeWhile_imp hc) (fun _ hc => by cases hc; decide)
          unfold readScalar
          rw [List.append_assoc, List.cons_append]
          simp only [hword, hbehind, hdate]
          rw [hw] at htake hdrop htime ⊢
          simp only [List.cons_append] at htake hdrop ⊢
          rw [if_pos hdigit, htake, if_pos htime, hdrop]
      · cases h
    · next hdigit =>
      obtain ⟨rfl, rfl⟩ := Prod.mk.inj (Option.some.inj h)
      refine ⟨s.takeWhile isScalarChar, by rw [hrest]; exact hs, fun r' hr => ?_⟩
      obtain ⟨htake, hdrop⟩ := while_twin hr
      rw [hrest] at hr
      obtain ⟨d, t, t', hmore, rfl⟩ := hr.second (by decide) (by decide)
      obtain ⟨rfl, -⟩ := List.cons.inj hmore
      unfold readScalar
      simp only [htake, hdrop, hdate, hdigit, if_false, Bool.false_eq_true]
  · next hnot =>
    obtain ⟨v', hv, heq⟩ := Option.map_eq_some_iff.1 h
    obtain ⟨rfl, rfl⟩ := Prod.mk.inj heq
    refine ⟨s.takeWhile isScalarChar, hs, fun r' hr => ?_⟩
    obtain ⟨htake, hdrop⟩ := while_twin hr
    unfold readScalar
    simp only [htake, hdrop]
    split
    · next c more hdate =>
      obtain ⟨d, t, t', -, hrest⟩ := hr.symm.second (by decide) (by decide)
      exact absurd hrest (hnot d t' hdate)
    · rw [hv]
      rfl

end SparseTransfer.Toml
