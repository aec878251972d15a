import SparseTransfer.Proofs.Settings.Transport

/- Which settings are accepted, said of each value by itself, and what is said of those that are
not: the values are looked at in one order, and the first that is against its rule is named. -/
namespace SparseTransfer

/-- A sequence of checks succeeds if all of them do, and else fails as the first that fails. -/
theorem forM_cases {ε α : Type} (f : α → Except ε Unit) (xs : List α) :
    (∀ x ∈ xs, f x = .ok ()) ∧ xs.forM f = .ok () ∨
      ∃ before x after e, xs = before ++ x :: after ∧ (∀ y ∈ before, f y = .ok ()) ∧
        f x = .error e ∧ xs.forM f = .error e := by
  induction xs with
  | nil => exact Or.inl ⟨by simp, rfl⟩
  | cons x xs ih =>
    have hcons : (x :: xs).forM f = f x >>= fun _ => xs.forM f := rfl
    rw [hcons]
    cases hx : f x with
    | error e => exact Or.inr ⟨[], x, xs, e, rfl, by simp, hx, rfl⟩
    | ok _ =>
      rw [ok_bind]
      obtain ⟨hall, hok⟩ | ⟨before, y, after, e, rfl, hbefore, hy, he⟩ := ih
      · exact Or.inl ⟨List.forall_mem_cons.2 ⟨hx, hall⟩, hok⟩
      · exact Or.inr ⟨x :: before, y, after, e, rfl, List.forall_mem_cons.2 ⟨hx, hbefore⟩, hy, he⟩

/-- The name of a branch: not blank, no option, and without blanks and controls. -/
structure IsBranch (text : String) : Prop where
  notBlank : ¬ IsBlank text
  noOption : text.toList.head? ≠ some '-'
  solid : ∀ c ∈ text.toList, Text.isBlank c = false ∧ Text.isControl c = false

/-- A URL with one of two schemes and a host. -/
def IsWebUrl (text : String) : Prop :=
  ∃ url, Url.parse text = .ok url ∧ (url.scheme = httpScheme ∨ url.scheme = httpsScheme) ∧
    url.host.isSome = true

/-- The name of a bucket; its length counts characters. -/
structure IsBucketName (text : String) : Prop where
  atLeast : 3 ≤ text.toList.length
  atMost : text.toList.length ≤ 63
  characters : ∀ c ∈ text.toList, ('a' ≤ c ∧ c ≤ 'z') ∨ ('0' ≤ c ∧ c ≤ '9') ∨ c = '-' ∨ c = '.'
  first : text.toList.head? ≠ some '-'
  last : text.toList.getLast? ≠ some '-'

namespace IsBucketName
variable {text : String}

theorem slash_notMem (h : IsBucketName text) : '/' ∉ text.toList := fun hmem =>
  absurd (h.characters '/' hmem) (by decide)

theorem ne_empty (h : IsBucketName text) : text ≠ "" := by
  rintro rfl
  exact absurd h.atLeast (by decide)

end IsBucketName

namespace Rules
variable {field value : String}

theorem checkPresent_cases (field value : String) :
    ¬ IsBlank value ∧ checkPresent field value = .ok () ∨
      IsBlank value ∧ checkPresent field value = .error (.missingValue field) := by
  by_cases h : IsBlank value
  · exact Or.inr ⟨h, if_pos h⟩
  · exact Or.inl ⟨h, checkPresent_eq_ok.2 h⟩

theorem checkBranch_cases (field value : String) :
    IsBranch value ∧ checkBranch field value = .ok () ∨
      IsBlank value ∧ checkBranch field value = .error (.missingValue field) ∨
      ¬ IsBranch value ∧ ¬ IsBlank value ∧
        ∃ rule, checkBranch field value = .error (.invalidValue field value rule) := by
  obtain ⟨hpresent, hok⟩ | ⟨hblank, herror⟩ := checkPresent_cases field value
  · rw [checkBranch, hok, ok_bind]
    by_cases hdash : value.toList.head? = some '-'
    · exact Or.inr (Or.inr ⟨fun h => h.noOption hdash, hpresent, _, by rw [if_pos hdash]; rfl⟩)
    · rw [if_neg hdash]
      by_cases hany : (value.toList.any fun c => Text.isBlank c || Text.isControl c) = true
      · obtain ⟨c, hc, hbad⟩ := List.any_eq_true.1 hany
        refine Or.inr (Or.inr ⟨fun h => ?_, hpresent, _, by rw [if_pos hany]; rfl⟩)
        rw [(h.solid c hc).1, (h.solid c hc).2] at hbad
        cases hbad
      · refine Or.inl ⟨⟨hpresent, hdash, fun c hc => ?_⟩, by rw [if_neg hany]; rfl⟩
        rw [← Bool.or_eq_false_iff, Bool.eq_false_iff]
        exact fun hbad => hany (List.any_eq_true.2 ⟨c, hc, hbad⟩)
  · exact Or.inr (Or.inl ⟨hblank, by rw [checkBranch, herror]; rfl⟩)

theorem checkUrl_of_isWebUrl (h : IsWebUrl value) : checkUrl field value = .ok () := by
  obtain ⟨url, hparse, hscheme, hhost⟩ := h
  have hne : value.isEmpty = false := by
    rw [Bool.eq_false_iff, ne_eq, String.isEmpty_iff]
    rintro rfl
    cases hparse.symm.trans (show Url.parse "" = .error .noScheme by decide)
  have hknown :
      (decide (url.scheme = "http".toList) || decide (url.scheme = "https".toList)) = true := by
    simpa [httpScheme, httpsScheme] using hscheme
  simp only [checkUrl, hne, hparse, hknown, hhost, if_true, Bool.false_eq_true, if_false]

theorem checkUrl_cases (field value : String) :
    IsWebUrl value ∧ checkUrl field value = .ok () ∨
      ¬ IsWebUrl value ∧ ∃ rule,
      checkUrl field value = .error (.invalidValue field value rule) := by
  by_cases h : IsWebUrl value
  · exact Or.inl ⟨h, checkUrl_of_isWebUrl h⟩
  · refine Or.inr ⟨h, ?_⟩
    cases hcheck : checkUrl field value with
    | ok _ => exact absurd (of_checkUrl hcheck) h
    | error e =>
      rw [checkUrl] at hcheck
      split at hcheck
      · cases hcheck
        exact ⟨_, rfl⟩
      · split at hcheck
        · cases hcheck
          exact ⟨_, rfl⟩
        · split at hcheck
          · split at hcheck <;> cases hcheck
            exact ⟨_, rfl⟩
          · cases hcheck
            exact ⟨_, rfl⟩

theorem isBucketChar_iff {c : Char} : isBucketChar c = true ↔
    ('a' ≤ c ∧ c ≤ 'z') ∨ ('0' ≤ c ∧ c ≤ '9') ∨ c = '-' ∨ c = '.' := by
  simp [isBucketChar, Char.isLower, Char.isDigit, Char.le_def, or_assoc]

/-- Characters of bucket names have one byte each. -/
theorem length_bytes_of_isBucketChar (h : ∀ c ∈ value.toList, isBucketChar c = true) :
    (Utf8.bytes value).length = value.toList.length := by
  refine Utf8.length_encode_ascii fun c hc => ?_
  have hchar := isBucketChar_iff.1 (h c hc)
  simp only [Char.le_def, UInt32.le_iff_toNat_le] at hchar
  rcases hchar with ⟨-, hle⟩ | ⟨-, hle⟩ | rfl | rfl
  · exact Nat.lt_of_le_of_lt hle (by decide)
  · exact Nat.lt_of_le_of_lt hle (by decide)
  · decide
  · decide

/-- Names of other characters are refused whatever their length, so it does not matter that the
check counts bytes. -/
theorem checkBucket_cases (field value : String) :
    IsBucketName value ∧ checkBucket field value = .ok () ∨
      ¬ IsBucketName value ∧
        ∃ rule, checkBucket field value = .error (.invalidValue field value rule) := by
  have hchars (h : IsBucketName value) : ∀ c ∈ value.toList, isBucketChar c = true :=
    fun c hc => isBucketChar_iff.2 (h.characters c hc)
  rw [checkBucket]
  by_cases hsize : (Utf8.bytes value).length < 3 ∨ (Utf8.bytes value).length > 63
  · refine Or.inr ⟨fun h => ?_, _, if_pos (by simpa using hsize)⟩
    rw [length_bytes_of_isBucketChar (hchars h)] at hsize
    have hleast := h.atLeast
    have hmost := h.atMost
    omega
  · rw [if_neg (by simpa using hsize)]
    by_cases hall : ∀ c ∈ value.toList, isBucketChar c = true
    · rw [if_neg (by simpa using hall)]
      by_cases hends : value.toList.head? = some '-' ∨ value.toList.getLast? = some '-'
      · refine Or.inr ⟨fun h => ?_, _, if_pos (by simpa using hends)⟩
        exact hends.elim h.first h.last
      · rw [not_or] at hends
        rw [length_bytes_of_isBucketChar hall] at hsize
        refine Or.inl ⟨⟨by omega, by omega, ?_, hends.1, hends.2⟩, if_neg (by simpa using hends)⟩
        exact fun c hc => isBucketChar_iff.1 (hall c hc)
    · exact Or.inr ⟨fun h => hall (hchars h), _, if_pos (by simpa using hall)⟩

theorem isBucketName_of_checkBucket (h : checkBucket field value = .ok ()) :
    IsBucketName value := by
  obtain ⟨hname, -⟩ | ⟨-, rule, hrule⟩ := checkBucket_cases field value
  · exact hname
  · cases h.symm.trans hrule

end Rules

/-- A value that has a rule. -/
inductive RuledValue where
  | repoUrl
  | branch
  | dirPath
  | endpoint
  | accessKey
  | secretKey
  | region
  | bucket
  deriving Repr, DecidableEq

namespace RuledValue

/-- The order in which values are named that are against their rules. -/
def order : List RuledValue :=
  [.repoUrl, .branch, .dirPath, .endpoint, .accessKey, .secretKey, .region, .bucket]

/-- What a value is called. -/
def field : RuledValue → String
  | .repoUrl => "repo_url"
  | .branch => "branch"
  | .dirPath => "dir_path"
  | .endpoint => "minio_endpoint"
  | .accessKey => "access_key"
  | .secretKey => "secret_key"
  | .region => "region"
  | .bucket => "minio_target"

variable (s : TransferSettings)

def text : RuledValue → String
  | .repoUrl => s.repoUrl
  | .branch => s.branch
  | .dirPath => s.dirPath
  | .endpoint => s.storage.endpointUrl
  | .accessKey => s.storage.accessKey
  | .secretKey => s.storage.secretKey
  | .region => s.storage.region
  | .bucket => s.target.bucket

/-- A value obeys its rule. -/
def Obeyed (v : RuledValue) : Prop :=
  match v with
  | .repoUrl | .accessKey | .secretKey | .region => ¬ IsBlank (v.text s)
  | .branch => IsBranch (v.text s)
  | .dirPath => IsBelow (v.text s)
  | .endpoint => IsWebUrl (v.text s)
  | .bucket => IsBucketName (v.text s)

/-- Values that count as missing if they are blank. -/
def CanMiss : RuledValue → Prop
  | .dirPath | .endpoint | .bucket => False
  | _ => True

/-- What is said of a value against its rule: that it is missing, or that it is not valid. -/
inductive Complaint (v : RuledValue) : TransferError → Prop
  | missing (h : v.CanMiss) (hblank : IsBlank (v.text s)) : Complaint v (.missingValue v.field)
  | invalid (rule : BrokenRule) (h : v.CanMiss → ¬ IsBlank (v.text s)) :
      Complaint v (.invalidValue v.field (v.text s) rule)

/-- The value is against its rule, and no value before it is. -/
def FirstAgainst (v : RuledValue) : Prop :=
  ∃ before after, order = before ++ v :: after ∧ (∀ u ∈ before, u.Obeyed s) ∧ ¬ v.Obeyed s

def check (v : RuledValue) : Except TransferError Unit :=
  match v with
  | .repoUrl | .accessKey | .secretKey | .region => Rules.checkPresent v.field (v.text s)
  | .branch => Rules.checkBranch v.field (v.text s)
  | .dirPath => Rules.checkRelativePath v.field (v.text s)
  | .endpoint => Rules.checkUrl v.field (v.text s)
  | .bucket => Rules.checkBucket v.field (v.text s)

variable {s}

theorem Complaint.category {v : RuledValue} {e : TransferError} (h : v.Complaint s e) :
    e.category = .configuration := by
  cases h <;> rfl

theorem check_cases (v : RuledValue) : v.Obeyed s ∧ v.check s = .ok () ∨
    ¬ v.Obeyed s ∧ ∃ e, v.Complaint s e ∧ v.check s = .error e := by
  have hpresent (hv : v.CanMiss) (hcheck : v.check s = Rules.checkPresent v.field (v.text s)) :
      ¬ IsBlank (v.text s) ∧ v.check s = .ok () ∨
        ¬ ¬ IsBlank (v.text s) ∧ ∃ e, v.Complaint s e ∧ v.check s = .error e := by
    rw [hcheck]
    obtain h | ⟨hblank, herror⟩ := Rules.checkPresent_cases v.field (v.text s)
    · exact Or.inl h
    · exact Or.inr ⟨not_not.2 hblank, _, .missing hv hblank, herror⟩
  cases v with
  | repoUrl | accessKey | secretKey | region => exact hpresent trivial rfl
  | branch =>
    obtain h | ⟨hblank, herror⟩ | ⟨hbad, hnot, rule, herror⟩ :=
      Rules.checkBranch_cases (field .branch) (text s .branch)
    · exact Or.inl h
    · exact Or.inr ⟨fun h => h.notBlank hblank, _, .missing trivial hblank, herror⟩
    · exact Or.inr ⟨hbad, _, .invalid rule fun _ => hnot, herror⟩
  | dirPath =>
    obtain h | ⟨rule, hbroken, herror⟩ :=
      Rules.checkRelativePath_cases (field .dirPath) (text s .dirPath)
    · exact Or.inl h
    · refine Or.inr ⟨fun h => ?_, _, .invalid rule False.elim, herror⟩
      cases herror.symm.trans (Rules.checkRelativePath_eq_ok_iff.2 h)
  | endpoint =>
    obtain h | ⟨hbad, rule, herror⟩ := Rules.checkUrl_cases (field .endpoint) (text s .endpoint)
    · exact Or.inl h
    · exact Or.inr ⟨hbad, _, .invalid rule False.elim, herror⟩
  | bucket =>
    obtain h | ⟨hbad, rule, herror⟩ := Rules.checkBucket_cases (field .bucket) (text s .bucket)
    · exact Or.inl h
    · exact Or.inr ⟨hbad, _, .invalid rule False.elim, herror⟩

theorem check_eq_ok_iff {v : RuledValue} : v.check s = .ok () ↔ v.Obeyed s := by
  obtain ⟨hobeyed, hok⟩ | ⟨hagainst, e, -, herror⟩ := v.check_cases (s := s)
  · exact iff_of_true hok hobeyed
  · refine iff_of_false (fun hok => ?_) hagainst
    cases hok.symm.trans herror

theorem mem_order (v : RuledValue) : v ∈ order := by cases v <;> decide

end RuledValue

theorem TransferSettings.check_eq_forM (s : TransferSettings) :
    s.check = RuledValue.order.forM (·.check s) := by
  simp only [RuledValue.order, List.forM_eq_forM, List.forM_cons, List.forM_nil, bind_pure_unit]
  rfl

/-- Settings are accepted exactly if all values obey their rules. Else the first value in order that
does not is named: as missing if it is one that can miss and is blank, as not valid if not. Nothing
is reported then, and nothing touched. -/
theorem settings_accepted_iff (s : TransferSettings) (w : σ) :
    ((s.validate.run w).result = .ok () ↔ ∀ v : RuledValue, v.Obeyed s) ∧
    ((∀ v : RuledValue, v.Obeyed s) ∨ ∃ v : RuledValue, v.FirstAgainst s ∧ ∃ e, v.Complaint s e ∧
      e.category = .configuration ∧ s.validate.run w = ⟨.error e, w, []⟩) := by
  rw [s.run_validate w, s.check_eq_forM]
  obtain ⟨hall, hok⟩ | ⟨before, v, after, e, horder, hbefore, hv, herror⟩ :=
    forM_cases (RuledValue.check s) RuledValue.order
  · have hobeyed (v : RuledValue) : v.Obeyed s := RuledValue.check_eq_ok_iff.1 (hall v v.mem_order)
    exact ⟨iff_of_true hok hobeyed, Or.inl hobeyed⟩
  · obtain ⟨-, hok⟩ | ⟨hagainst, e', hcomplaint, he'⟩ := v.check_cases (s := s)
    · cases hok.symm.trans hv
    · cases he'.symm.trans hv
      rw [herror]
      refine ⟨iff_of_false (by simp) fun h => hagainst (h v), Or.inr ⟨v, ?_, e, hcomplaint,
        hcomplaint.category, rfl⟩⟩
      exact ⟨before, after, horder,
        fun u hu => RuledValue.check_eq_ok_iff.1 (hbefore u hu), hagainst⟩

end SparseTransfer
