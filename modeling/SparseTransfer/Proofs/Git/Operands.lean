import SparseTransfer.Pipeline
import SparseTransfer.Proofs.Git.Invocations
import SparseTransfer.Proofs.Settings
import SparseTransfer.Proofs.Text.Ascii

/- Which arguments of a checkout's calls are taken from the settings, and which of those could be
read as options. -/
namespace SparseTransfer

/-- An argument that can be read as an option. -/
def IsDashed (argument : Bytes) : Prop := argument.head? = some 45

instance (argument : Bytes) : Decidable (IsDashed argument) :=
  inferInstanceAs (Decidable (argument.head? = some 45))

theorem isDashed_bytes {text : String} :
    IsDashed (Utf8.bytes text) ↔ text.toList.head? = some '-' :=
  Utf8.head?_encode (a := '-') (by decide)

/-- The words that tell git what to do. They are the same for all settings. -/
def GitOperation.fixed : GitOperation → List String
  | .init => ["init", "--quiet"]
  | .remoteAdd _ => ["remote", "add"]
  | .config .. => ["config"]
  | .fetch _ => ["fetch", "--no-tags", "--depth", "1", "--filter=blob:none"]
  | .checkout _ => ["checkout", "--quiet"]

/-- The words that tell git to what to do it. -/
def GitOperation.operands : GitOperation → List String
  | .init => []
  | .remoteAdd url => ["origin", url]
  | .config key value => [key, value]
  | .fetch branch => ["origin", branch]
  | .checkout branch => [branch]

theorem GitOperation.words_eq (op : GitOperation) : op.words = op.fixed ++ op.operands := by
  cases op <;> rfl

namespace GitCall

def fixed (c : GitCall) : List Bytes :=
  (if c.operation = .init then [] else [Utf8.bytes "-C", c.dest]) ++
    c.operation.fixed.map Utf8.bytes

def operands (c : GitCall) : List Bytes :=
  c.operation.operands.map Utf8.bytes ++ if c.operation = .init then [c.dest] else []

theorem arguments_eq (c : GitCall) : c.arguments = c.fixed ++ c.operands := by
  obtain ⟨dest, op⟩ := c
  rw [arguments, op.words_eq, List.map_append]
  cases op <;> rfl

end GitCall

/-- The branch of accepted settings is no option. -/
theorem TransferSettings.branch_undashed {s : TransferSettings} (h : s.check = .ok ()) :
    ¬ IsDashed (Utf8.bytes s.branch) := by
  obtain ⟨_, -, hbranch⟩ := ok_of_bind (s.accepted_of_check h).branch
  rw [isDashed_bytes]
  intro hdash
  rw [if_pos hdash] at hbranch
  cases hbranch

theorem undashed_of_isAbsolute {p : Path} (h : Path.isAbsolute p = true) : ¬ IsDashed p := by
  intro hdash
  obtain ⟨rest, rfl⟩ := List.head?_eq_some_iff.1 hdash
  cases h

namespace SparseCheckout

theorem undashed_refspec (branch : String) : ¬ IsDashed (Utf8.bytes (refspec branch)) := by
  rw [isDashed_bytes]
  unfold refspec
  simp [String.toList_append]

/-- The ten operations; what is configured never looks like an option. -/
theorem operation_cases {c : SparseCheckout} {op : GitOperation}
    (h : op ∈ c.preparing ++ c.fetching) :
    op = .init ∨ op = .remoteAdd c.repoUrl ∨
      (∃ key value, op = .config key value ∧ ¬ IsDashed (Utf8.bytes key) ∧
        ¬ IsDashed (Utf8.bytes value)) ∨
      op = .fetch c.branch ∨ op = .checkout c.branch := by
  have hrefspec := undashed_refspec c.branch
  simp only [preparing, fetching, List.mem_append, List.mem_cons, List.not_mem_nil, or_false] at h
  rcases h with (rfl | rfl | rfl | rfl | rfl | rfl | rfl | rfl) | rfl | rfl
  · exact Or.inl rfl
  · exact Or.inr (Or.inl rfl)
  · exact Or.inr (Or.inr (Or.inl ⟨_, _, rfl, by decide, by decide⟩))
  · exact Or.inr (Or.inr (Or.inl ⟨_, _, rfl, by decide, by decide⟩))
  · exact Or.inr (Or.inr (Or.inl ⟨_, _, rfl, by decide, hrefspec⟩))
  · exact Or.inr (Or.inr (Or.inl ⟨_, _, rfl, by decide, by decide⟩))
  · exact Or.inr (Or.inr (Or.inl ⟨_, _, rfl, by decide, by decide⟩))
  · exact Or.inr (Or.inr (Or.inl ⟨_, _, rfl, by decide, by decide⟩))
  · exact Or.inr (Or.inr (Or.inr (Or.inl rfl)))
  · exact Or.inr (Or.inr (Or.inr (Or.inr rfl)))

/-- Only the URL of the remote repository can be taken for an option. -/
theorem eq_repoUrl_of_dashed {c : SparseCheckout} {dest : Path} {op : GitOperation} {a : Bytes}
    (hbranch : ¬ IsDashed (Utf8.bytes c.branch)) (hdest : ¬ IsDashed dest)
    (hop : op ∈ c.preparing ++ c.fetching) (ha : a ∈ (GitCall.mk dest op).operands)
    (hdash : IsDashed a) : op = .remoteAdd c.repoUrl ∧ a = Utf8.bytes c.repoUrl := by
  have horigin : ¬ IsDashed (Utf8.bytes "origin") := by decide
  rcases operation_cases hop with rfl | rfl | ⟨key, value, rfl, hkey, hvalue⟩ | rfl | rfl <;>
    simp only [GitCall.operands, GitOperation.operands, List.map_cons, List.map_nil, if_true,
      List.nil_append, List.append_nil, List.mem_cons, List.not_mem_nil, or_false, reduceCtorEq,
      if_false] at ha
  · subst ha
    exact absurd hdash hdest
  · rcases ha with rfl | rfl
    · exact absurd hdash horigin
    · exact ⟨rfl, rfl⟩
  · rcases ha with rfl | rfl
    · exact absurd hdash hkey
    · exact absurd hdash hvalue
  · rcases ha with rfl | rfl
    · exact absurd hdash horigin
    · exact absurd hdash hbranch
  · subst ha
    exact absurd hdash hbranch

end SparseCheckout

open Pipeline

/-- Of all operands in the calls for accepted settings, only the URL of the remote repository can
look like an option. None does exactly if the URL begins with no dash, or the call that names it is
not reached. -/
theorem dashed_operands {s : TransferSettings} (hs : s.check = .ok ()) {dest : Path}
    (hdest : Path.isAbsolute dest = true) (git : Git) (w : World Ledger) :
    ∃ log, AskedMore w (((checkoutOf s).run git dest).run w).state log ∧
      (∀ call ∈ log, call.1.arguments = call.1.fixed ++ call.1.operands) ∧
      (∀ call ∈ log, ∀ a ∈ call.1.operands, IsDashed a →
        call.1.operation = .remoteAdd s.repoUrl ∧ a = Utf8.bytes s.repoUrl) ∧
      ((∀ call ∈ log, ∀ a ∈ call.1.operands, ¬ IsDashed a) ↔
        ¬ IsDashed (Utf8.bytes s.repoUrl) ∨ log.length ≤ 1) := by
  obtain ⟨log, hmore, hway⟩ :=
    SparseCheckout.ends_way (Action.ends_run ((checkoutOf s).run git dest) w)
  have hbranch : ¬ IsDashed (Utf8.bytes (checkoutOf s).branch) := s.branch_undashed hs
  -- Every call is one of the ten, so what holds of their operands holds of those of the calls.
  have honly : ∀ call ∈ log, ∀ a ∈ call.1.operands, IsDashed a →
      call.1.operation = .remoteAdd s.repoUrl ∧ a = Utf8.bytes s.repoUrl := by
    intro call hcall a ha hdash
    obtain ⟨op, hop, heq⟩ := List.mem_map.1 (hway.inOrder.subset (List.mem_map_of_mem hcall))
    rw [← heq] at ha ⊢
    exact SparseCheckout.eq_repoUrl_of_dashed hbranch (undashed_of_isAbsolute hdest) hop ha hdash
  refine ⟨log, hmore, fun call _ => call.1.arguments_eq, honly, ?_⟩
  constructor
  · intro hnone
    by_cases hurl : IsDashed (Utf8.bytes s.repoUrl)
    · right
      by_contra hlong
      have hn : 1 < log.length := by omega
      have hsecond : log[1].1.operation = .remoteAdd s.repoUrl :=
        (Option.some.inj (hway.operation_at hn)).symm
      apply hnone log[1] (List.getElem_mem hn) (Utf8.bytes s.repoUrl) _ hurl
      simp [GitCall.operands, hsecond, GitOperation.operands]
    · exact Or.inl hurl
  · rintro (hurl | hshort) call hcall a ha hdash
    · obtain ⟨-, rfl⟩ := honly call hcall a ha hdash
      exact hurl hdash
    · obtain ⟨hop, -⟩ := honly call hcall a ha hdash
      obtain ⟨n, hn, rfl⟩ := List.mem_iff_getElem.1 hcall
      obtain rfl : n = 0 := by omega
      have hfirst : log[0].1.operation = .init :=
        (Option.some.inj (hway.operation_at hn)).symm
      rw [hfirst] at hop
      cases hop

/-- A git that does nothing and says that all is well. -/
def idleGit : Git := fun _ _ fs => (fs, .ended (.code 0) [])

/-- The calls for some settings in an empty file system, with a git that does nothing. -/
def idleCalls (s : TransferSettings) : List (GitCall × GitReply) :=
  (((checkoutOf s).run idleGit [47, 114]).run ⟨FileSystem.empty, 0, {}⟩).state.own.calls

def undashedSettings : TransferSettings where
  repoUrl := "u"
  branch := "b"
  dirPath := "."
  storage := { endpoint := "[::1]" }

theorem dashed_operands_undashed :
    undashedSettings.check = .ok () ∧ (idleCalls undashedSettings).length = 10 ∧
      ∀ call ∈ idleCalls undashedSettings, ∀ a ∈ call.1.operands, ¬ IsDashed a := by
  have hs : undashedSettings.check = .ok () := by decide +kernel
  have hdest : Path.isAbsolute [47, 114] = true := by decide
  obtain ⟨log, hmore, -, -, hiff⟩ := dashed_operands hs hdest idleGit ⟨FileSystem.empty, 0, {}⟩
  have hlog : idleCalls undashedSettings = log := hmore.calls
  refine ⟨hs, by decide +kernel, ?_⟩
  rw [hlog]
  exact hiff.2 (Or.inl (by decide +kernel))

/-- Settings with an option for a URL. -/
def dashedSettings : TransferSettings := { undashedSettings with repoUrl := "-f" }

/-- Accepted settings whose URL is handed to git where an option can stand. -/
theorem dashed_url_handed : dashedSettings.check = .ok () ∧
    ∃ call ∈ idleCalls dashedSettings, call.1.operation = .remoteAdd "-f" ∧
      ∃ a ∈ call.1.operands, IsDashed a := by
  have hcalls : (⟨⟨[47, 114], .remoteAdd "-f"⟩, .ended (.code 0) []⟩ : GitCall × GitReply) ∈
      idleCalls dashedSettings := by decide +kernel
  have hs : dashedSettings.check = .ok () := by decide +kernel
  have hdash : IsDashed (Utf8.bytes "-f") := by decide
  have ha : Utf8.bytes "-f" ∈ (GitCall.mk [47, 114] (.remoteAdd "-f")).operands := by decide
  exact ⟨hs, _, hcalls, rfl, _, ha, hdash⟩

end SparseTransfer
