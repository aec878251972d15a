/- White space and control characters of Unicode. -/
namespace SparseTransfer.Text

/-- The property White_Space. -/
def isBlank (c : Char) : Bool :=
  let n := c.toNat
  0x09 ≤ n && n ≤ 0x0D || n == 0x20 || n == 0x85 || n == 0xA0 || n == 0x1680 ||
    0x2000 ≤ n && n ≤ 0x200A || n == 0x2028 || n == 0x2029 || n == 0x202F || n == 0x205F ||
    n == 0x3000

/-- The general category Control. -/
def isControl (c : Char) : Bool :=
  let n := c.toNat
  n < 0x20 || 0x7F ≤ n && n ≤ 0x9F

def trim (s : List Char) : List Char :=
  ((s.dropWhile isBlank).reverse.dropWhile isBlank).reverse

def trimEnd (c : Char) (s : List Char) : List Char :=
  (s.reverse.dropWhile (· == c)).reverse

/-- What is left ends in no `c`. -/
theorem getLast?_trimEnd_ne (c : Char) (s : List Char) : (trimEnd c s).getLast? ≠ some c := by
  simp only [trimEnd, List.getLast?_reverse]
  intro h
  have := List.head?_dropWhile_not (· == c) s.reverse
  simp [h] at this

/-- Nothing but `c` is left out. -/
theorem eq_trimEnd_append (c : Char) (s : List Char) :
    s = trimEnd c s ++ List.replicate (s.reverse.takeWhile (· == c)).length c := by
  have hall : s.reverse.takeWhile (· == c) =
      List.replicate (s.reverse.takeWhile (· == c)).length c := by
    rw [List.eq_replicate_iff]
    exact ⟨rfl, fun d hd => by simpa using List.all_eq_true.1 List.all_takeWhile d hd⟩
  have hcut := congrArg List.reverse
    (List.takeWhile_append_dropWhile (p := (· == c)) (l := s.reverse))
  rw [List.reverse_append, List.reverse_reverse, hall, List.reverse_replicate] at hcut
  exact hcut.symm

/-- Trimming a second time changes nothing. -/
theorem trimEnd_trimEnd (c : Char) (s : List Char) : trimEnd c (trimEnd c s) = trimEnd c s := by
  have idem (t : List Char) : (t.dropWhile (· == c)).dropWhile (· == c) = t.dropWhile (· == c) := by
    induction t with
    | nil => rfl
    | cons d t ih =>
      by_cases h : d == c
      · simp [h, ih]
      · simp [h]
  simp [trimEnd, idem]

end SparseTransfer.Text
