import Mathlib.Data.List.TakeWhile
import SparseTransfer.Text.Split
import SparseTransfer.UploadTarget

/- Targets as text: which texts are targets, and of which target each is the text. -/
namespace SparseTransfer.UploadTarget

/-- There is no slash in the text, or nothing in front of the first, or nothing behind it. -/
def IsBroken (text : String) : Prop :=
  '/' ∉ text.toList ∨ ∃ bucket key, text.toList = bucket ++ '/' :: key ∧ '/' ∉ bucket ∧
    (bucket = [] ∨ key = [])

/-- A bucket without slash and a key, neither of them empty. -/
structure IsProper (t : UploadTarget) : Prop where
  bucket_closed : '/' ∉ t.bucket.toList
  bucket_nonempty : t.bucket ≠ ""
  key_nonempty : t.key ≠ ""

theorem toList_text (t : UploadTarget) :
    t.text.toList = t.bucket.toList ++ '/' :: t.key.toList := by
  simp [text, String.toList_append]

theorem parse_of_notMem {text : String} (h : '/' ∉ text.toList) :
    parse text = .error (.config (.targetWithoutSeparator text)) := by
  have hdrop : text.toList.dropWhile (· != '/') = [] := by
    rw [List.dropWhile_eq_nil_iff]
    intro c hc
    rw [bne_iff_ne]
    rintro rfl
    exact h hc
  rw [parse, hdrop]

/-- What a text comes to that is cut at its first slash. -/
theorem parse_of_cut {text : String} {bucket key : List Char}
    (htext : text.toList = bucket ++ '/' :: key) (h : '/' ∉ bucket) :
    parse text = if bucket.isEmpty || key.isEmpty then .error (.config (.targetWithEmptyPart text))
      else .ok ⟨String.ofList bucket, String.ofList key⟩ := by
  have hall : ∀ c ∈ bucket, (c != '/') = true := by
    intro c hc
    rw [bne_iff_ne]
    rintro rfl
    exact h hc
  have hdrop : text.toList.dropWhile (· != '/') = '/' :: key := by
    rw [htext, List.dropWhile_append_of_pos hall, List.dropWhile_cons_of_neg (by simp)]
  have htake : text.toList.takeWhile (· != '/') = bucket := by
    rw [htext, List.takeWhile_append_of_pos hall, List.takeWhile_cons_of_neg (by simp),
      List.append_nil]
  rw [parse, hdrop, htake]

/-- The targets are the pairs of a bucket without slash and a key; each is read from its text. -/
theorem parse_eq_ok_iff {text : String} {t : UploadTarget} :
    parse text = .ok t ↔ t.text = text ∧ '/' ∉ t.bucket.toList ∧ t.bucket.toList ≠ [] ∧
      t.key.toList ≠ [] := by
  constructor
  · intro h
    by_cases hslash : '/' ∈ text.toList
    · obtain ⟨bucket, key, htext, hbucket⟩ := List.eq_append_cons_of_mem hslash
      rw [parse_of_cut htext hbucket] at h
      split at h
      · cases h
      · next hparts =>
        cases h
        rw [Bool.or_eq_true, List.isEmpty_iff, List.isEmpty_iff, not_or] at hparts
        refine ⟨?_, ?_⟩
        · rw [← String.toList_inj, toList_text, htext, String.toList_ofList, String.toList_ofList]
        · simpa only [String.toList_ofList] using ⟨hbucket, hparts⟩
    · rw [parse_of_notMem hslash] at h
      cases h
  · rintro ⟨rfl, hslash, hbucket, hkey⟩
    rw [parse_of_cut t.toList_text hslash, if_neg (by simp [hbucket, hkey]), String.ofList_toList,
      String.ofList_toList]

theorem parse_error_iff {text : String} : (∃ e, parse text = .error e) ↔ IsBroken text := by
  by_cases hslash : '/' ∈ text.toList
  · obtain ⟨bucket, key, htext, hbucket⟩ := List.eq_append_cons_of_mem hslash
    have hbroken : IsBroken text ↔ bucket = [] ∨ key = [] := by
      constructor
      · rintro (hnot | ⟨bucket', key', htext', hbucket', hempty⟩)
        · exact absurd hslash hnot
        · obtain ⟨rfl, rfl⟩ := Text.append_cons_inj hbucket hbucket' (htext.symm.trans htext')
          exact hempty
      · exact fun hempty => Or.inr ⟨bucket, key, htext, hbucket, hempty⟩
    rw [parse_of_cut htext hbucket, hbroken]
    split
    · next hempty => simpa using hempty
    · next hparts => simpa using hparts
  · rw [parse_of_notMem hslash]
    exact iff_of_true ⟨_, rfl⟩ (Or.inl hslash)

theorem parse_eq_ok {text : String} {t : UploadTarget} :
    parse text = .ok t ↔ t.IsProper ∧ t.text = text := by
  rw [parse_eq_ok_iff]
  constructor
  · rintro ⟨htext, hslash, hbucket, hkey⟩
    exact ⟨⟨hslash, String.toList_eq_nil_iff.not.1 hbucket, String.toList_eq_nil_iff.not.1 hkey⟩,
      htext⟩
  · rintro ⟨h, htext⟩
    exact ⟨htext, h.bucket_closed, String.toList_eq_nil_iff.not.2 h.bucket_nonempty,
      String.toList_eq_nil_iff.not.2 h.key_nonempty⟩

/-- A text that is not one of a target is quoted by its error. -/
theorem parse_eq_error {text : String} {e : TransferError} (h : parse text = .error e) :
    e = .config (if '/' ∈ text.toList then .targetWithEmptyPart text
      else .targetWithoutSeparator text) := by
  by_cases hslash : '/' ∈ text.toList
  · obtain ⟨bucket, key, htext, hbucket⟩ := List.eq_append_cons_of_mem hslash
    rw [parse_of_cut htext hbucket] at h
    split at h
    · cases h
      rw [if_pos hslash]
    · cases h
  · rw [parse_of_notMem hslash] at h
    cases h
    rw [if_neg hslash]

theorem parse_injective : Function.Injective parse := by
  intro text text' h
  cases hparse : parse text with
  | ok t =>
    rw [hparse, eq_comm] at h
    exact (parse_eq_ok.1 hparse).2.symm.trans (parse_eq_ok.1 h).2
  | error e =>
    rw [hparse, eq_comm] at h
    have hquoted := (parse_eq_error hparse).symm.trans (parse_eq_error h)
    -- The two errors are of one kind, and each quotes its text.
    split at hquoted <;> split at hquoted <;> cases hquoted <;> rfl

/-- Reading a target and writing its text undo each other: every text that is read is that of one
proper target, and every proper target is read from its text. -/
theorem parse_undoes_text :
    (∀ text, (∃ t, parse text = .ok t) ↔ ∃ bucket key, text.toList = bucket ++ '/' :: key ∧
      '/' ∉ bucket ∧ bucket ≠ [] ∧ key ≠ []) ∧
    (∀ {text t}, parse text = .ok t → t.IsProper ∧ t.text = text) ∧
    (∀ {text e}, parse text = .error e → e.category = .configuration ∧
      e = .config (if '/' ∈ text.toList then .targetWithEmptyPart text
        else .targetWithoutSeparator text)) ∧
    (∀ {t : UploadTarget}, t.IsProper → parse t.text = .ok t) ∧
    Function.Injective parse ∧ OfText.ofText = parse := by
  refine ⟨fun text => ⟨?_, ?_⟩, fun h => parse_eq_ok.1 h, fun h => ?_,
    fun h => parse_eq_ok.2 ⟨h, rfl⟩, parse_injective, rfl⟩
  · rintro ⟨t, h⟩
    obtain ⟨rfl, hslash, hbucket, hkey⟩ := parse_eq_ok_iff.1 h
    exact ⟨_, _, t.toList_text, hslash, hbucket, hkey⟩
  · rintro ⟨bucket, key, htext, hslash, hbucket, hkey⟩
    exact ⟨_, by rw [parse_of_cut htext hslash, if_neg (by simp [hbucket, hkey])]⟩
  · rw [parse_eq_error h]
    exact ⟨rfl, rfl⟩

/-- The key may begin and end with slashes. -/
theorem parse_undoes_text_slashes :
    (⟨"a", "/é//"⟩ : UploadTarget).IsProper ∧ parse "a//é//" = .ok ⟨"a", "/é//"⟩ ∧
      parse "/a" = .error (.config (.targetWithEmptyPart "/a")) ∧
      (TransferError.config (.targetWithEmptyPart "/a")).category = .configuration := by
  have hproper : (⟨"a", "/é//"⟩ : UploadTarget).IsProper := ⟨by decide, by decide, by decide⟩
  have hparse : parse "a//é//" = .ok ⟨"a", "/é//"⟩ := parse_undoes_text.2.2.2.1 hproper
  have hbroken : parse "/a" = .error (.config (.targetWithEmptyPart "/a")) := by rfl
  exact ⟨(parse_undoes_text.2.1 hparse).1, hparse, hbroken, (parse_undoes_text.2.2.1 hbroken).1⟩

end SparseTransfer.UploadTarget
