import SparseTransfer.Proofs.File.Writing
import SparseTransfer.Proofs.Git.Checkout

/- What a checkout invokes, one operation after the other, up to the first that fails. The pattern
is written between the operations that prepare the repository and those that fetch. -/
namespace SparseTransfer
open FileSystem

/-- The first of some calls is to do `op`, and git is asked for it in these files. -/
def Asks (git : Git) (dest : Path) (op : GitOperation) (before : List GitCall) (fs : FileSystem)
    (log : List (GitCall × GitReply)) : Prop :=
  ∃ reply rest fs', log = (⟨dest, op⟩, reply) :: rest ∧ git before ⟨dest, op⟩ fs = (fs', reply)

section asked
variable {git : Git} {dest : Path} {op : GitOperation} {ops : List GitOperation}
  {before : List GitCall} {fs fs' fs'' : FileSystem} {log log' : List (GitCall × GitReply)}
  {e : TransferError}

theorem Asked.asks (h : Asked git dest (op :: ops) before fs log fs') :
    Asks git dest op before fs log := by
  cases h with
  | cons hreply _ _ => exact ⟨_, _, _, rfl, hreply⟩

theorem Stopped.asks (h : Stopped git dest (op :: ops) before fs log e fs') :
    Asks git dest op before fs log := by
  cases h with
  | here hreply _ => exact ⟨_, _, _, rfl, hreply⟩
  | later hreply _ _ => exact ⟨_, _, _, rfl, hreply⟩

/-- What git makes of the files is settled by what it is asked. -/
theorem Asked.unique (h : Asked git dest ops before fs log fs')
    (h' : Asked git dest ops before fs log' fs'') : log = log' ∧ fs' = fs'' := by
  induction h generalizing log' with
  | nil before fs =>
    cases h'
    exact ⟨rfl, rfl⟩
  | cons hreply _ _ ih =>
    cases h' with
    | cons hreply' _ hrest' =>
      cases hreply.symm.trans hreply'
      obtain ⟨rfl, rfl⟩ := ih hrest'
      exact ⟨rfl, rfl⟩

theorem FailedLast.dropLast (h : FailedLast log e) :
    ∀ call ∈ log.dropLast, call.2.isSuccess = true := by
  obtain ⟨front, call, rfl, hfront, -, -⟩ := h
  rwa [List.dropLast_concat]

theorem FailedLast.eq_failure (h : FailedLast log e) {call : GitCall × GitReply}
    (hcall : call ∈ log) (hfail : call.2.isSuccess = false) :
    e = call.2.failure call.1.operation.step := by
  obtain ⟨front, last, rfl, hfront, -, he⟩ := h
  rcases List.mem_append.1 hcall with hmem | hmem
  · rw [hfront call hmem] at hfail
    cases hfail
  · rw [List.mem_singleton] at hmem
    rw [hmem]
    exact he

end asked

namespace SparseCheckout
variable {c : SparseCheckout} {git : Git} {dest : Path} {before : List GitCall}
  {fs fs' : FileSystem} {r : Except TransferError Unit} {log : List (GitCall × GitReply)}

theorem start_patternFile (fs : FileSystem) (dest : Path) :
    fs.start (patternFile dest) = fs.start dest := by
  rw [patternFile, Path.child, start_append_name fs isName_pattern, infoDir, Path.child,
    start_append_name fs isName_info]
  exact start_append_name fs isName_metadata

/-- The pattern is in its file, unless that is a device. -/
def HasPattern (c : SparseCheckout) (dest : Path) (fs : FileSystem) : Prop :=
  fs.read (patternFile dest) = .ok (.plain (Utf8.bytes (pattern c.dirPath))) ∨
    ∃ loc, fs.stat true (patternFile dest) = .ok (loc, .device)

theorem hasPattern_of_write (hstart : fs.at? (fs.start dest) = some .directory)
    (h : fs.write (patternFile dest) (.plain (Utf8.bytes (pattern c.dirPath))) = .ok fs') :
    c.HasPattern dest fs' := by
  rw [← start_patternFile] at hstart
  exact read_written hstart h

namespace PatternWritten
variable {fs₁ fs₂ fs₃ fs₄ fs₁' fs₂' fs₃' fs₄' : FileSystem} {log' : List (GitCall × GitReply)}

theorem length_log (h : PatternWritten c git dest before fs fs₁ fs₂ fs₃ fs₄ log) : log.length = 8 :=
  h.prepared.length_eq.trans c.length_preparing

theorem unique (h : PatternWritten c git dest before fs fs₁ fs₂ fs₃ fs₄ log)
    (h' : PatternWritten c git dest before fs fs₁' fs₂' fs₃' fs₄' log') : fs₄ = fs₄' := by
  cases h.made.symm.trans h'.made
  obtain ⟨-, rfl⟩ := h.prepared.unique h'.prepared
  cases h.madeInfo.symm.trans h'.madeInfo
  cases h.wrote.symm.trans h'.wrote
  rfl

theorem hasPattern (h : PatternWritten c git dest before fs fs₁ fs₂ fs₃ fs₄ log)
    (hstart : fs₃.at? (fs₃.start dest) = some .directory) : c.HasPattern dest fs₄ :=
  hasPattern_of_write hstart h.wrote

theorem not_patternFails (h : PatternWritten c git dest before fs fs₁ fs₂ fs₃ fs₄ log)
    (cause : FileError) (fs' : FileSystem) : ¬ c.PatternFails dest fs₂ cause fs' := by
  intro hfails
  cases hfails with
  | noDirectory hinfo => cases h.madeInfo.symm.trans hinfo
  | noFile hinfo hwrite =>
    cases h.madeInfo.symm.trans hinfo
    cases h.wrote.symm.trans hwrite

end PatternWritten

theorem PatternFails.unique {cause cause' : FileError} {fs'' : FileSystem}
    (h : c.PatternFails dest fs cause fs') (h' : c.PatternFails dest fs cause' fs'') :
    cause = cause' := by
  cases h with
  | noDirectory hinfo =>
    cases h' with
    | noDirectory hinfo' =>
      cases hinfo.symm.trans hinfo'
      rfl
    | noFile hinfo' _ => cases hinfo.symm.trans hinfo'
  | noFile hinfo hwrite =>
    cases h' with
    | noDirectory hinfo' => cases hinfo.symm.trans hinfo'
    | noFile hinfo' hwrite' =>
      cases hinfo.symm.trans hinfo'
      cases hwrite.symm.trans hwrite'
      rfl

namespace Way

theorem inOrder (h : c.Way git dest before fs r log fs') :
    log.map (·.1) <+: (c.preparing ++ c.fetching).map (GitCall.mk dest) := by
  rw [List.map_append]
  cases h with
  | notMade _ => exact List.nil_prefix
  | notPrepared _ hstopped => exact hstopped.calls.1.trans (List.prefix_append _ _)
  | notWritten _ hprepared _ =>
    rw [hprepared.calls.1]
    exact List.prefix_append _ _
  | notFetched hwritten hstopped =>
    rw [List.map_append, hwritten.prepared.calls.1, List.prefix_append_right_inj]
    exact hstopped.calls.1
  | complete hdone =>
    exact ⟨[], by rw [List.append_nil, hdone.complete.calls, List.map_append]⟩

theorem operation_at (h : c.Way git dest before fs r log fs') {n : Nat} (hn : n < log.length) :
    (c.preparing ++ c.fetching)[n]? = some log[n].1.operation := by
  have heq := h.inOrder.getElem (by simpa using hn)
  rw [List.getElem_map, List.getElem_map] at heq
  rw [heq, List.getElem?_eq_getElem]

/-- A call that fails is the last, and what the checkout comes to. -/
theorem succeeded_or (h : c.Way git dest before fs r log fs') :
    (∀ call ∈ log, call.2.isSuccess = true) ∨ ∃ e, r = .error e ∧ FailedLast log e := by
  cases h with
  | notMade _ =>
    left
    intro call hcall
    cases hcall
  | notPrepared _ hstopped => exact Or.inr ⟨_, rfl, hstopped.calls.2⟩
  | notWritten _ hprepared _ => exact Or.inl hprepared.calls.2
  | notFetched hwritten hstopped =>
    exact Or.inr ⟨_, rfl, hstopped.calls.2.prepend hwritten.prepared.calls.2⟩
  | complete hdone => exact Or.inl hdone.complete.succeeded

/-- Either the pattern was written after the first eight calls and the next was to fetch, or nothing
came after them, and if they all succeeded, then the pattern could not be written. -/
theorem written_or (h : c.Way git dest before fs r log fs') :
    (∃ fs₁ fs₂ fs₃ fs₄, PatternWritten c git dest before fs fs₁ fs₂ fs₃ fs₄ (log.take 8) ∧
        Asks git dest (.fetch c.branch) (before ++ (log.take 8).map (·.1)) fs₄ (log.drop 8)) ∨
      log.take 8 = log ∧ ∀ {fs₁ fs₂}, fs.createDirAll dest = .ok fs₁ →
        Asked git dest c.preparing before fs₁ log fs₂ →
        ∃ cause, c.PatternFails dest fs₂ cause fs' ∧ r = .error (.file cause) := by
  have hshort {log : List (GitCall × GitReply)} (hlog : log.length ≤ c.preparing.length) :
      log.take 8 = log := List.take_of_length_le hlog
  cases h with
  | notMade hmake =>
    refine Or.inr ⟨rfl, fun hmake' _ => ?_⟩
    cases hmake.symm.trans hmake'
  | notPrepared hmake hstopped =>
    have hlength := hstopped.calls.1.length_le
    rw [List.length_map, List.length_map] at hlength
    refine Or.inr ⟨hshort hlength, fun _ hprepared => ?_⟩
    obtain ⟨call, hcall, hfail⟩ := hstopped.calls.2.exists_mem
    rw [hprepared.calls.2 call hcall] at hfail
    cases hfail
  | notWritten hmake hprepared hfails =>
    refine Or.inr ⟨hshort (Nat.le_of_eq hprepared.length_eq), fun hmake' hprepared' => ?_⟩
    -- Git leaves the same files whenever it is asked the same, so the given ones are those of the
    -- run.
    cases hmake.symm.trans hmake'
    obtain ⟨-, rfl⟩ := hprepared.unique hprepared'
    exact ⟨_, hfails, rfl⟩
  | notFetched hwritten hstopped =>
    have hlength := hwritten.length_log
    rw [List.take_left' hlength, List.drop_left' hlength]
    exact Or.inl ⟨_, _, _, _, hwritten, hstopped.asks⟩
  | complete hdone =>
    have hlength := hdone.length_log
    rw [List.take_left' hlength, List.drop_left' hlength]
    exact Or.inl ⟨_, _, _, _, hdone.toPatternWritten, hdone.fetched.asks⟩

theorem written (h : c.Way git dest before fs r log fs') (hlong : 8 < log.length) :
    ∃ fs₁ fs₂ fs₃ fs₄, PatternWritten c git dest before fs fs₁ fs₂ fs₃ fs₄ (log.take 8) := by
  rcases h.written_or with ⟨_, _, _, _, hwritten, -⟩ | ⟨hall, -⟩
  · exact ⟨_, _, _, _, hwritten⟩
  · rw [← hall, List.length_take] at hlong
    omega

theorem fetched {fs₁ fs₂ fs₃ fs₄ : FileSystem} (h : c.Way git dest before fs r log fs')
    (hwritten : PatternWritten c git dest before fs fs₁ fs₂ fs₃ fs₄ (log.take 8)) :
    Asks git dest (.fetch c.branch) (before ++ (log.take 8).map (·.1)) fs₄ (log.drop 8) := by
  rcases h.written_or with ⟨_, _, _, _, hwritten', hasks⟩ | ⟨hall, hfails⟩
  · rwa [hwritten.unique hwritten']
  · have hprepared := hwritten.prepared
    rw [hall] at hprepared
    obtain ⟨cause, hcause, -⟩ := hfails hwritten.made hprepared
    exact absurd hcause (hwritten.not_patternFails cause _)

theorem patternFails {fs₁ fs₂ fs₃ : FileSystem} {cause : FileError}
    (h : c.Way git dest before fs r log fs') (hmake : fs.createDirAll dest = .ok fs₁)
    (hprepared : Asked git dest c.preparing before fs₁ (log.take 8) fs₂)
    (hfails : c.PatternFails dest fs₂ cause fs₃) : r = .error (.file cause) ∧ log.length = 8 := by
  rcases h.written_or with ⟨_, _, _, _, hwritten, -⟩ | ⟨hall, hend⟩
  · cases hmake.symm.trans hwritten.made
    obtain ⟨-, rfl⟩ := hprepared.unique hwritten.prepared
    exact absurd hfails (hwritten.not_patternFails cause _)
  · rw [hall] at hprepared
    obtain ⟨cause', hfails', hr⟩ := hend hmake hprepared
    rw [hfails.unique hfails']
    exact ⟨hr, hprepared.length_eq.trans c.length_preparing⟩

theorem notMade_of_error {cause : FileError} (h : c.Way git dest before fs r log fs')
    (hmake : fs.createDirAll dest = .error cause) : r = .error (.file cause) ∧ log = [] := by
  cases h with
  | notMade hmake' =>
    cases hmake.symm.trans hmake'
    exact ⟨rfl, rfl⟩
  | notPrepared hmade _ | notWritten hmade _ _ => cases hmake.symm.trans hmade
  | notFetched hwritten _ => cases hmake.symm.trans hwritten.made
  | complete hdone => cases hmake.symm.trans hdone.made

theorem ok_iff (h : c.Way git dest before fs r log fs') :
    r = .ok () ↔ c.Complete dest log ∧
      ∃ fs₁ fs₂ fs₃ fs₄, PatternWritten c git dest before fs fs₁ fs₂ fs₃ fs₄ (log.take 8) := by
  constructor
  · rintro rfl
    rcases h.complete_or with ⟨-, hcomplete, -⟩ | ⟨⟨_, heq⟩, -⟩
    · refine ⟨hcomplete, h.written ?_⟩
      rw [hcomplete.length_log]
      decide
    · cases heq
  · rintro ⟨hcomplete, -⟩
    rcases h.complete_or with ⟨hr, -⟩ | ⟨-, hfew | ⟨call, hcall, hfail⟩⟩
    · exact hr
    · rw [hcomplete.length_log] at hfew
      omega
    · rw [hcomplete.succeeded call hcall] at hfail
      cases hfail

end Way

/-- What a checkout in `w` comes to, and the calls that it makes. -/
structure Runs (c : SparseCheckout) (git : Git) (dest : Path) (w : World Ledger)
    (o : Outcome (World Ledger) Unit) (log : List (GitCall × GitReply)) : Prop where
  way : c.Way git.reached dest (w.own.calls.map (·.1)) w.files o.result log o.state.files
  asked : AskedMore w o.state log
  /-- The calls are the first of a fixed sequence of ten. -/
  inOrder : log.map (·.1) <+: (c.preparing ++ c.fetching).map (GitCall.mk dest)
  environment : ∀ call ∈ log, call.1.environment = [("GIT_TERMINAL_PROMPT", "0")]
  /-- No call follows one that fails. -/
  succeeded : ∀ call ∈ log.dropLast, call.2.isSuccess = true
  failed : ∀ call ∈ log, call.2.isSuccess = false →
    o.result = .error (call.2.failure call.1.operation.step)
  notMade : ∀ {cause}, w.files.createDirAll dest = .error cause →
    o.result = .error (.file cause) ∧ log = []
  notWritten : ∀ {fs₁ fs₂ fs₃ cause}, w.files.createDirAll dest = .ok fs₁ →
    Asked git.reached dest c.preparing (w.own.calls.map (·.1)) fs₁ (log.take 8) fs₂ →
    c.PatternFails dest fs₂ cause fs₃ → o.result = .error (.file cause) ∧ log.length = 8
  /-- There is a ninth call only if the pattern was written before it. -/
  written : 8 < log.length → ∃ fs₁ fs₂ fs₃ fs₄, PatternWritten c git.reached dest
    (w.own.calls.map (·.1)) w.files fs₁ fs₂ fs₃ fs₄ (log.take 8)
  /-- Where the pattern can be written after the first eight calls, the ninth is to fetch. Git finds
  the pattern when it is asked, if there still is a directory in which the path begins. -/
  fetched : ∀ {fs₁ fs₂ fs₃ fs₄}, PatternWritten c git.reached dest (w.own.calls.map (·.1)) w.files
      fs₁ fs₂ fs₃ fs₄ (log.take 8) →
    Asks git.reached dest (.fetch c.branch) (w.own.calls.map (·.1) ++ (log.take 8).map (·.1)) fs₄
        (log.drop 8) ∧
      (fs₃.at? (fs₃.start dest) = some .directory → c.HasPattern dest fs₄)
  ok_iff : o.result = .ok () ↔ c.Complete dest log ∧ ∃ fs₁ fs₂ fs₃ fs₄, PatternWritten c git.reached
    dest (w.own.calls.map (·.1)) w.files fs₁ fs₂ fs₃ fs₄ (log.take 8)

end SparseCheckout

/-- A checkout calls git for one operation after the other, until one fails or all ten are done.
These are the operations, each with the name of its step and the arguments that git is given. -/
theorem checkout_runs (c : SparseCheckout) (git : Git) (dest : Path) (w : World Ledger) :
    ∃ log, c.Runs git dest w ((c.run git dest).run w) log ∧
      (((c.run git dest).run w).result = .ok () → log.length = 10) ∧
      log.map (fun call => (call.1.operation.step, call.1.arguments)) <+:
        ("init", [Utf8.bytes "init", Utf8.bytes "--quiet", dest]) ::
          [("remote add", ["remote", "add", "origin", c.repoUrl]),
            ("config", ["config", "core.sparseCheckout", "true"]),
            ("config", ["config", "core.sparseCheckoutCone", "false"]),
            ("config", ["config", "remote.origin.fetch",
              "+refs/heads/" ++ c.branch ++ ":refs/remotes/origin/" ++ c.branch]),
            ("config", ["config", "fetch.recurseSubmodules", "false"]),
            ("config", ["config", "transfer.fsckobjects", "true"]),
            ("config", ["config", "fetch.fsckobjects", "true"]),
            ("fetch",
              ["fetch", "--no-tags", "--depth", "1", "--filter=blob:none", "origin", c.branch]),
            ("checkout", ["checkout", "--quiet", c.branch])].map fun (step, words) =>
              (step, Utf8.bytes "-C" :: dest :: words.map Utf8.bytes) := by
  obtain ⟨log, hmore, hway⟩ := SparseCheckout.ends_way (Action.ends_run (c.run git dest) w)
  have hends := hway.succeeded_or
  have hcommands := hway.inOrder.map fun call => (call.operation.step, call.arguments)
  rw [List.map_map] at hcommands
  refine ⟨log, ⟨hway, hmore, hway.inOrder, fun _ _ => rfl, fun call hcall => ?_,
    fun call hcall hfail => ?_, hway.notMade_of_error, hway.patternFails, hway.written,
    fun hwritten => ⟨hway.fetched hwritten, hwritten.hasPattern⟩, hway.ok_iff⟩,
    fun hok => (hway.ok_iff.1 hok).1.length_log, hcommands⟩
  · rcases hends with hall | ⟨e, -, hlast⟩
    · exact hall call ((List.dropLast_prefix log).subset hcall)
    · exact hlast.dropLast call hcall
  · rcases hends with hall | ⟨e, hr, hlast⟩
    · rw [hall call hcall] at hfail
      cases hfail
    · rw [hr, hlast.eq_failure hcall hfail]

end SparseTransfer
