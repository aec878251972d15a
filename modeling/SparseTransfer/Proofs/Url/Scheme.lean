import Mathlib
import SparseTransfer.Proofs.Action
import SparseTransfer.Url

/- The scheme of a URL: what stands in front of the first colon of its text, blanks and controls in
front of it and the case of its letters apart. -/
namespace SparseTransfer.Url

/-- Trimming at both ends stops at the characters that stay. -/
theorem exists_trim_append {p : Char → Bool} {front : List Char} (hne : front ≠ [])
    (h : ∀ c ∈ front, p c = false) (back : List Char) :
    ∃ more, (((front ++ back).dropWhile p).reverse.dropWhile p).reverse = front ++ more := by
  have hfirst : (front ++ back).dropWhile p = front ++ back := by
    obtain ⟨c, rest, rfl⟩ := List.exists_cons_of_ne_nil hne
    exact List.dropWhile_cons_of_neg (by simp [h c List.mem_cons_self])
  have hlast : front.reverse.dropWhile p = front.reverse := by
    obtain ⟨c, rest, hrev⟩ := List.exists_cons_of_ne_nil (List.reverse_ne_nil_iff.2 hne)
    have hc : c ∈ front := List.mem_reverse.1 (hrev ▸ List.mem_cons_self)
    rw [hrev]
    exact List.dropWhile_cons_of_neg (by simp [h c hc])
  rw [hfirst, List.reverse_append, List.dropWhile_append, hlast]
  split
  · exact ⟨[], by simp⟩
  · exact ⟨(back.reverse.dropWhile p).reverse, by simp⟩

theorem isSchemeChar_of_isAlpha {c : Char} (h : c.isAlpha = true) : isSchemeChar c = true := by
  simp [isSchemeChar, Char.isAlphanum, h]

/-- Scheme characters come after the blanks. -/
theorem lt_toNat_of_isSchemeChar {c : Char} (h : isSchemeChar c = true) : 0x20 < c.toNat := by
  simp only [isSchemeChar, Char.isAlphanum, Char.isAlpha, Char.isUpper, Char.isLower, Char.isDigit,
    Bool.or_eq_true, Bool.and_eq_true, decide_eq_true_eq, beq_iff_eq, UInt32.le_iff_toNat_le,
    ge_iff_le] at h
  change (((((65 ≤ c.toNat ∧ c.toNat ≤ 90) ∨ (97 ≤ c.toNat ∧ c.toNat ≤ 122)) ∨
    (48 ≤ c.toNat ∧ c.toNat ≤ 57)) ∨ c = '+') ∨ c = '-') ∨ c = '.' at h
  rcases h with (((h | h) | rfl) | rfl) | rfl
  · omega
  · omega
  all_goals decide

/-- Lower case makes no colon of a scheme character. -/
theorem colon_notMem_toLower {letters : List Char} (h : ∀ c ∈ letters, isSchemeChar c = true) :
    ':' ∉ letters.map Char.toLower := by
  intro hmem
  obtain ⟨c, hc, hlower⟩ := List.mem_map.1 hmem
  rw [Char.toLower] at hlower
  split at hlower
  · next hupper =>
    have hval := congrArg (fun d : Char => d.val.toNat) hlower
    have h1 := hupper.1
    have h2 := hupper.2
    simp only [UInt32.le_iff_toNat_le, UInt32.toNat_add] at h1 h2 hval
    simp at h1 h2 hval
    omega
  · subst hlower
    exact absurd (h ':' hc) (by decide)

theorem splitScheme_eq_some {text scheme rest : List Char}
    (h : splitScheme text = some (scheme, rest)) :
    ∃ letters, text = letters ++ ':' :: rest ∧ scheme = letters.map Char.toLower ∧
      ∀ c ∈ letters, isSchemeChar c = true := by
  rw [splitScheme] at h
  split at h
  · next c rest' hhead hdrop =>
    split at h
    · cases h
      refine ⟨text.takeWhile isSchemeChar, ?_, rfl, fun c hc => List.mem_takeWhile_imp hc⟩
      rw [← hdrop, List.takeWhile_append_dropWhile]
    · cases h
  · cases h

/-- Scheme characters, the first of them a letter, in front of a colon are read as the scheme. -/
theorem splitScheme_append {c : Char} {letters : List Char} (hc : c.isAlpha = true)
    (h : ∀ d ∈ letters, isSchemeChar d = true) (rest : List Char) :
    splitScheme (c :: letters ++ ':' :: rest) = some ((c :: letters).map Char.toLower, rest) := by
  have hall : ∀ d ∈ c :: letters, isSchemeChar d = true :=
    List.forall_mem_cons.2 ⟨isSchemeChar_of_isAlpha hc, h⟩
  have hcolon : ¬ isSchemeChar ':' = true := by decide
  have hdrop : (c :: letters ++ ':' :: rest).dropWhile isSchemeChar = ':' :: rest := by
    rw [List.dropWhile_append_of_pos hall, List.dropWhile_cons_of_neg hcolon]
  have htake : (c :: letters ++ ':' :: rest).takeWhile isSchemeChar = c :: letters := by
    rw [List.takeWhile_append_of_pos hall, List.takeWhile_cons_of_neg hcolon, List.append_nil]
  rw [splitScheme, hdrop, htake, List.cons_append, List.head?_cons]
  simp only [hc, if_true]

/-- Cleaning a text keeps a front without blanks and controls. -/
theorem cleaned_append {front : List Char} (hne : front ≠ []) (h : ∀ c ∈ front, 0x20 < c.toNat)
    (back : List Char) : ∃ more, cleaned (front ++ back) = front ++ more := by
  have hedge : ∀ c ∈ front, decide (c.toNat ≤ 0x20) = false := by
    intro c hc
    have hbig := h c hc
    rw [decide_eq_false_iff_not]
    omega
  have hkept : ∀ c ∈ front, (c != '\t' && c != '\n' && c != '\r') = true := by
    intro c hc
    have hbig := h c hc
    simp only [Bool.and_eq_true, bne_iff_ne]
    refine ⟨⟨?_, ?_⟩, ?_⟩ <;>
    · rintro rfl
      exact absurd hbig (by decide)
  obtain ⟨more, hmore⟩ := exists_trim_append hne hedge back
  refine ⟨more.filter fun c => c != '\t' && c != '\n' && c != '\r', ?_⟩
  simp only [cleaned]
  rw [hmore, List.filter_append, List.filter_eq_self.2 hkept]

theorem parse_eq_ok {text : String} {url : Url} (h : parse text = .ok url) :
    ∃ rest, splitScheme (cleaned text.toList) = some (url.scheme, rest) := by
  rw [parse] at h
  split at h
  · cases h
  · next scheme rest hsplit =>
    obtain ⟨host, -, rfl⟩ := ok_of_map h
    exact ⟨rest, hsplit⟩

/-- A scheme that is put in front of a text is the one that is read, whatever the text. -/
theorem scheme_of_parse_append (c : Char) (letters : List Char) {rest : List Char} {text : String}
    {url : Url} (hc : c.isAlpha = true) (h : letters.all isSchemeChar = true)
    (htext : text.toList = c :: letters ++ ':' :: rest) (hparse : parse text = .ok url) :
    url.scheme = (c :: letters).map Char.toLower := by
  rw [List.all_eq_true] at h
  have hfront : ∀ d ∈ c :: letters ++ [':'], 0x20 < d.toNat := by
    intro d hd
    rcases List.mem_append.1 hd with hd | hd
    · rcases List.mem_cons.1 hd with rfl | hd
      · exact lt_toNat_of_isSchemeChar (isSchemeChar_of_isAlpha hc)
      · exact lt_toNat_of_isSchemeChar (h d hd)
    · obtain rfl := List.mem_singleton.1 hd
      decide
  obtain ⟨more, hclean⟩ := cleaned_append (by simp) hfront rest
  obtain ⟨rest', hsplit⟩ := parse_eq_ok hparse
  have hwhole : cleaned text.toList = c :: letters ++ ':' :: more := by
    rw [htext, ← List.singleton_append (x := ':'), ← List.append_assoc, hclean, List.append_assoc]
    rfl
  rw [hwhole, splitScheme_append hc h, Option.some.injEq, Prod.mk.injEq] at hsplit
  exact hsplit.1.symm

/-- The scheme is what the text begins with, in lower case, up to its first colon. -/
theorem scheme_eq_iff {text : String} {url : Url} (h : parse text = .ok url) {scheme : List Char}
    (hcolon : ':' ∉ scheme) :
    url.scheme = scheme ↔ scheme ++ [':'] <+: (cleaned text.toList).map Char.toLower := by
  obtain ⟨rest, hsplit⟩ := parse_eq_ok h
  obtain ⟨letters, htext, hscheme, hletters⟩ := splitScheme_eq_some hsplit
  have hlower : (cleaned text.toList).map Char.toLower =
      url.scheme ++ ':' :: rest.map Char.toLower := by
    rw [htext, hscheme, List.map_append, List.map_cons]
    rfl
  rw [hlower]
  constructor
  · rintro rfl
    exact ⟨rest.map Char.toLower, by simp⟩
  · rintro ⟨more, hmore⟩
    rw [List.append_assoc, List.singleton_append, eq_comm] at hmore
    have hnot : ':' ∉ url.scheme := hscheme ▸ colon_notMem_toLower hletters
    exact (Text.append_cons_inj hnot hcolon hmore).1

end SparseTransfer.Url
