import Mathlib.Data.List.Basic
import SparseTransfer.Text.Split
import SparseTransfer.Text.Utf8

/- Characters of one byte. Their byte is in the bytes of a text exactly where they are in the text,
so it is the same whether a text is cut at them before it is spelled or afterwards. -/
namespace SparseTransfer.Utf8
open Text

/-- The byte of a character that has only one. -/
def byteOf (a : Char) : UInt8 := a.toNat.toUInt8

section ascii
variable {a c : Char} {s t : List Char}

theorem toNat_lt (c : Char) : c.toNat < 0x110000 := by
  rcases c.valid with h | ⟨-, h⟩
  · exact Nat.lt_trans h (by decide)
  · exact h

theorem encodeChar_ascii (ha : a.toNat < 0x80) : encodeChar a = [byteOf a] := if_pos ha

/-- The bytes of a longer character are none of these. -/
theorem mem_encodeChar (ha : a.toNat < 0x80) : byteOf a ∈ encodeChar c ↔ c = a := by
  have hc := toNat_lt c
  have hbyte (n : Nat) : byteOf a = n.toUInt8 ↔ a.toNat = n % 256 := by
    rw [byteOf, ← UInt8.toNat_inj]
    simp
    omega
  rw [← Char.toNat_inj, encodeChar]
  split
  · rw [List.mem_singleton, hbyte]
    omega
  · split
    · simp only [List.mem_cons, List.not_mem_nil, or_false, hbyte]
      omega
    · split <;>
      · simp only [List.mem_cons, List.not_mem_nil, or_false, hbyte]
        omega

theorem encodeChar_ne_nil (c : Char) : encodeChar c ≠ [] := by
  simp only [encodeChar]
  repeat' split
  all_goals simp

theorem mem_encode (ha : a.toNat < 0x80) : byteOf a ∈ encode s ↔ a ∈ s := by
  rw [encode, List.mem_flatMap]
  constructor
  · rintro ⟨c, hc, hbyte⟩
    rwa [← (mem_encodeChar ha).1 hbyte]
  · exact fun hmem => ⟨a, hmem, (mem_encodeChar ha).2 rfl⟩

theorem head?_encode (ha : a.toNat < 0x80) :
    (encode s).head? = some (byteOf a) ↔ s.head? = some a := by
  cases s with
  | nil => simp
  | cons c rest =>
    rw [encode_cons, List.head?_append_of_ne_nil _ (encodeChar_ne_nil c), List.head?_cons,
      Option.some.injEq]
    constructor
    · exact fun hhead => (mem_encodeChar ha).1 (List.mem_of_head? hhead)
    · rintro rfl
      rw [encodeChar_ascii ha, List.head?_cons]

/-- Only one text is spelled by the bytes of such characters. -/
theorem encode_eq_ascii (ht : ∀ a ∈ t, a.toNat < 0x80) : encode s = encode t ↔ s = t := by
  refine ⟨fun heq => ?_, congrArg encode⟩
  induction t generalizing s with
  | nil =>
    cases s with
    | nil => rfl
    | cons c rest => exact absurd (List.append_eq_nil_iff.1 heq).1 (encodeChar_ne_nil c)
  | cons a more ih =>
    have ha := ht a List.mem_cons_self
    have hhead : s.head? = some a := by
      rw [← head?_encode ha, heq, encode_cons, encodeChar_ascii ha]
      rfl
    obtain ⟨rest, rfl⟩ := List.head?_eq_some_iff.1 hhead
    rw [encode_cons, encode_cons, List.append_cancel_left_eq] at heq
    rw [ih (fun b hb => ht b (List.mem_cons_of_mem a hb)) heq]

theorem length_encode_ascii (hs : ∀ a ∈ s, a.toNat < 0x80) : (encode s).length = s.length := by
  induction s with
  | nil => rfl
  | cons a rest ih =>
    rw [encode_cons, List.length_append, encodeChar_ascii (hs a List.mem_cons_self),
      ih fun b hb => hs b (List.mem_cons_of_mem a hb), List.length_singleton, List.length_cons,
      Nat.add_comm]

/-- Cutting a text at such a character cuts its bytes at the byte. -/
theorem split_encode (ha : a.toNat < 0x80) (s : List Char) :
    split (· == byteOf a) (encode s) = (split (· == a) s).map encode := by
  induction s with
  | nil => rfl
  | cons c rest ih =>
    rw [encode_cons, split]
    by_cases hc : c = a
    · subst hc
      rw [encodeChar_ascii ha, List.singleton_append, split, if_pos (beq_self_eq_true _),
        if_pos (beq_self_eq_true _), ih]
      rfl
    · have hnone : ∀ b ∈ encodeChar c, (b == byteOf a) = false := by
        intro b hb
        rw [beq_eq_false_iff_ne]
        rintro rfl
        exact hc ((mem_encodeChar ha).1 hb)
      rw [if_neg (by simpa using hc), split_append_left hnone, ih]
      cases hsplit : split (· == a) rest with
      | nil => exact absurd hsplit (split_ne_nil _ rest)
      | cons piece more => rfl

end ascii
end SparseTransfer.Utf8
