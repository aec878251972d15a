/- Cutting a list at separators, and joining the pieces again. -/
namespace SparseTransfer.Text

/-- The pieces between separators; a list without separator is one piece. -/
def split (sep : α → Bool) : List α → List (List α)
  | [] => [[]]
  | x :: xs =>
    if sep x then [] :: split sep xs
    else match split sep xs with
      | [] => [[x]]
      | piece :: more => (x :: piece) :: more

/-- The pieces in order with `between` between neighbours. -/
def join (between : List α) : List (List α) → List α
  | [] => []
  | [piece] => piece
  | piece :: more => piece ++ between ++ join between more

theorem split_ne_nil (sep : α → Bool) (xs : List α) : split sep xs ≠ [] := by
  cases xs with
  | nil => simp [split]
  | cons x xs =>
    simp only [split]
    split
    · simp
    · split <;> simp

/-- No piece holds a separator. -/
theorem sep_eq_false_of_mem_split {sep : α → Bool} {xs piece : List α}
    (hp : piece ∈ split sep xs) {x : α} (hx : x ∈ piece) : sep x = false := by
  induction xs generalizing piece with
  | nil =>
    simp only [split, List.mem_singleton] at hp
    subst hp
    cases hx
  | cons y ys ih =>
    simp only [split] at hp
    split at hp
    · rcases List.mem_cons.1 hp with rfl | hp
      · cases hx
      · exact ih hp hx
    · next hy =>
      split at hp
      · simp only [List.mem_singleton] at hp
        subst hp
        simp only [List.mem_singleton] at hx
        subst hx
        simpa using hy
      · next first more heq =>
        rcases List.mem_cons.1 hp with rfl | hp
        · rcases List.mem_cons.1 hx with rfl | hx
          · simpa using hy
          · exact ih (by simp [heq]) hx
        · exact ih (by simp [heq, hp]) hx

theorem split_eq_singleton {sep : α → Bool} {xs : List α} (h : ∀ x ∈ xs, sep x = false) :
    split sep xs = [xs] := by
  induction xs with
  | nil => rfl
  | cons x xs ih =>
    have hx : sep x = false := h x (by simp)
    have hxs := ih fun y hy => h y (by simp [hy])
    simp [split, hx, hxs]

/-- Joining the pieces between separators gives the list back. -/
theorem join_split [DecidableEq α] (sep : α) (xs : List α) :
    join [sep] (split (· == sep) xs) = xs := by
  induction xs with
  | nil => rfl
  | cons x xs ih =>
    simp only [split]
    split
    · next h =>
      have hx : x = sep := by simpa using h
      cases hs : split (· == sep) xs with
      | nil => exact absurd hs (split_ne_nil _ xs)
      | cons piece more =>
        rw [hs] at ih
        simp [join, ih, hx]
    · split
      · next heq => exact absurd heq (split_ne_nil _ xs)
      · next piece more heq =>
        rw [heq] at ih
        cases more with
        | nil => simpa [join] using ih
        | cons next more => simpa [join] using ih

/-- What has no separator goes into the first piece of what follows. -/
theorem split_append_left {sep : α → Bool} {xs : List α} (h : ∀ x ∈ xs, sep x = false)
    (ys : List α) :
    split sep (xs ++ ys) = match split sep ys with
      | [] => [xs]
      | piece :: more => (xs ++ piece) :: more := by
  induction xs with
  | nil =>
    cases hys : split sep ys with
    | nil => exact absurd hys (split_ne_nil sep ys)
    | cons piece more => simpa using hys
  | cons x xs ih =>
    have hx : sep x = false := h x (by simp)
    rw [List.cons_append, split, hx, ih fun y hy => h y (List.mem_cons_of_mem x hy)]
    cases split sep ys <;> rfl

theorem split_append_cons {sep : α → Bool} {s : α} (hs : sep s = true) (xs ys : List α) :
    split sep (xs ++ s :: ys) = split sep xs ++ split sep ys := by
  induction xs with
  | nil => simp [split, hs]
  | cons x xs ih =>
    simp only [List.cons_append, split, ih]
    split
    · rfl
    · cases h : split sep xs with
      | nil => exact absurd h (split_ne_nil sep xs)
      | cons piece more => rfl

theorem split_replicate {sep : α → Bool} {s : α} (hs : sep s = true) (n : Nat) :
    split sep (List.replicate n s) = List.replicate (n + 1) [] := by
  induction n with
  | zero => rfl
  | succ n ih =>
    rw [List.replicate_succ, split, if_pos hs, ih]
    rfl

/-- Separators at the end only give empty pieces. -/
theorem split_append_replicate {sep : α → Bool} {s : α} (hs : sep s = true)
    (xs : List α) (n : Nat) :
    split sep (xs ++ List.replicate n s) = split sep xs ++ List.replicate n [] := by
  cases n with
  | zero => rw [List.replicate_zero, List.replicate_zero, List.append_nil, List.append_nil]
  | succ n => rw [List.replicate_succ, split_append_cons hs, split_replicate hs]

/-- Joined pieces without separator are found again. -/
theorem split_join [DecidableEq α] {sep : α} {pieces : List (List α)} (hne : pieces ≠ [])
    (h : ∀ piece ∈ pieces, sep ∉ piece) :
    split (· == sep) (join [sep] pieces) = pieces := by
  have whole (piece : List α) (hp : sep ∉ piece) : split (· == sep) piece = [piece] := by
    apply split_eq_singleton
    intro x hx
    rw [beq_eq_false_iff_ne]
    rintro rfl
    exact hp hx
  induction pieces with
  | nil => exact absurd rfl hne
  | cons piece more ih =>
    have hpiece := whole piece (h piece (by simp))
    cases more with
    | nil => exact hpiece
    | cons next more =>
      have hmore := ih (by simp) fun p hp => h p (List.mem_cons_of_mem _ hp)
      rw [join, List.append_assoc, List.singleton_append, split_append_cons (by simp),
        hpiece, hmore]
      · rfl
      · simp

/-- There is one way to cut a list at its first `sep`. -/
theorem append_cons_inj {sep : α} {xs ys more more' : List α} (hxs : sep ∉ xs) (hys : sep ∉ ys)
    (h : xs ++ sep :: more = ys ++ sep :: more') : xs = ys ∧ more = more' := by
  induction xs generalizing ys with
  | nil =>
    cases ys with
    | nil => exact ⟨rfl, (List.cons.inj h).2⟩
    | cons y ys => exact absurd ((List.cons.inj h).1 ▸ List.mem_cons_self) hys
  | cons x xs ih =>
    cases ys with
    | nil => exact absurd ((List.cons.inj h).1 ▸ List.mem_cons_self) hxs
    | cons y ys =>
      obtain ⟨rfl, hrest⟩ := List.cons.inj h
      obtain ⟨rfl, rfl⟩ := ih (fun hmem => hxs (List.mem_cons_of_mem _ hmem))
        (fun hmem => hys (List.mem_cons_of_mem _ hmem)) hrest
      exact ⟨rfl, rfl⟩

end SparseTransfer.Text
