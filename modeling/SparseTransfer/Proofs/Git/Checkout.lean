import SparseTransfer.Git.Checkout
import SparseTransfer.Proofs.Action

/- The ways a checkout can go: what it asks of git, what it comes to, and which files are left. -/
namespace SparseTransfer
open FileSystem

/-- The name of the directory that holds the metadata of a repository. -/
def metadataName : Bytes := Path.ofText ".git"

theorem isName_metadata : isName metadataName = true := by decide +kernel

theorem isName_info : isName (Path.ofText "info") = true := by decide +kernel

theorem isName_pattern : isName (Path.ofText "sparse-checkout") = true := by decide +kernel

/-- Git as it is reached: nothing is started if an argument cannot be handed over. -/
def Git.reached (git : Git) : Git := fun before c fs =>
  if c.hasNul then (fs, .notStarted .nulInArgument) else git before c fs

theorem Git.of_reached {git : Git} {before : List GitCall} {c : GitCall} {fs fs' : FileSystem}
    {reply : GitReply} (h : git.reached before c fs = (fs', reply)) (hok : reply.isSuccess = true) :
    git before c fs = (fs', reply) := by
  rw [reached] at h
  split at h
  · cases h
    cases hok
  · exact h

/-- The error that an operation has failed with, from the answer to it. -/
def GitReply.failure (step : String) : GitReply → TransferError
  | .notStarted failure => .git step "not started" failure.message
  | .ended status stderr =>
    .git step status.text (String.ofList (Text.trim (Utf8.decodeLossy stderr)))

/-- Git was asked for some operations, one after the other, and did them all. -/
inductive Asked (git : Git) (dest : Path) : List GitOperation → List GitCall → FileSystem →
    List (GitCall × GitReply) → FileSystem → Prop
  | nil (before : List GitCall) (fs : FileSystem) : Asked git dest [] before fs [] fs
  | cons {op : GitOperation} {ops : List GitOperation} {before : List GitCall}
      {fs fs₁ fs' : FileSystem} {reply : GitReply} {log : List (GitCall × GitReply)}
      (hreply : git before ⟨dest, op⟩ fs = (fs₁, reply)) (hok : reply.isSuccess = true)
      (hrest : Asked git dest ops (before ++ [⟨dest, op⟩]) fs₁ log fs') :
      Asked git dest (op :: ops) before fs ((⟨dest, op⟩, reply) :: log) fs'

/-- Git was asked for some operations, one after the other, and the last that it was asked for
failed with `e`. -/
inductive Stopped (git : Git) (dest : Path) : List GitOperation → List GitCall → FileSystem →
    List (GitCall × GitReply) → TransferError → FileSystem → Prop
  | here {op : GitOperation} {ops : List GitOperation} {before : List GitCall} {fs fs' : FileSystem}
      {reply : GitReply} (hreply : git before ⟨dest, op⟩ fs = (fs', reply))
      (hfail : reply.isSuccess = false) :
      Stopped git dest (op :: ops) before fs [(⟨dest, op⟩, reply)] (reply.failure op.step) fs'
  | later {op : GitOperation} {ops : List GitOperation} {before : List GitCall}
      {fs fs₁ fs' : FileSystem} {reply : GitReply} {log : List (GitCall × GitReply)}
      {e : TransferError} (hreply : git before ⟨dest, op⟩ fs = (fs₁, reply))
      (hok : reply.isSuccess = true)
      (hrest : Stopped git dest ops (before ++ [⟨dest, op⟩]) fs₁ log e fs') :
      Stopped git dest (op :: ops) before fs ((⟨dest, op⟩, reply) :: log) e fs'

section asked
variable {git : Git} {dest : Path} {ops : List GitOperation} {before : List GitCall}
  {fs fs' : FileSystem} {log log' : List (GitCall × GitReply)} {e : TransferError}

theorem Asked.calls (h : Asked git dest ops before fs log fs') :
    log.map (·.1) = ops.map (GitCall.mk dest) ∧ ∀ c ∈ log, c.2.isSuccess = true := by
  induction h with
  | nil before fs => exact ⟨rfl, fun c hc => by cases hc⟩
  | cons _ hok _ ih =>
    obtain ⟨hcalls, hall⟩ := ih
    refine ⟨by rw [List.map_cons, List.map_cons, hcalls], fun c hc => ?_⟩
    rcases List.mem_cons.1 hc with rfl | hc
    · exact hok
    · exact hall c hc

theorem Asked.of_reached (h : Asked git.reached dest ops before fs log fs') :
    Asked git dest ops before fs log fs' := by
  induction h with
  | nil before fs => exact .nil before fs
  | cons hreply hok _ ih => exact .cons (Git.of_reached hreply hok) hok ih

theorem Asked.length_eq (h : Asked git dest ops before fs log fs') : log.length = ops.length := by
  have hcalls := congrArg List.length h.calls.1
  rwa [List.length_map, List.length_map] at hcalls

/-- The last of some calls has failed with `e`, and no other has failed. -/
def FailedLast (log : List (GitCall × GitReply)) (e : TransferError) : Prop :=
  ∃ front call, log = front ++ [call] ∧ (∀ c ∈ front, c.2.isSuccess = true) ∧
    call.2.isSuccess = false ∧ e = call.2.failure call.1.operation.step

theorem FailedLast.prepend (h : FailedLast log' e) (hlog : ∀ c ∈ log, c.2.isSuccess = true) :
    FailedLast (log ++ log') e := by
  obtain ⟨front, call, rfl, hfront, hfail, he⟩ := h
  refine ⟨log ++ front, call, (List.append_assoc ..).symm, fun c hc => ?_, hfail, he⟩
  rcases List.mem_append.1 hc with hc | hc
  · exact hlog c hc
  · exact hfront c hc

theorem FailedLast.exists_mem (h : FailedLast log e) : ∃ call ∈ log, call.2.isSuccess = false := by
  obtain ⟨front, call, rfl, -, hfail, -⟩ := h
  exact ⟨call, by simp, hfail⟩

theorem Stopped.calls (h : Stopped git dest ops before fs log e fs') :
    log.map (·.1) <+: ops.map (GitCall.mk dest) ∧ FailedLast log e := by
  induction h with
  | @here op ops _ _ _ reply _ hfail =>
    refine ⟨⟨ops.map (GitCall.mk dest), rfl⟩, [], (⟨dest, op⟩, reply), rfl, ?_, hfail, rfl⟩
    intro c hc
    cases hc
  | @later op _ _ _ _ _ reply log _ _ hok _ ih =>
    obtain ⟨hcalls, hfailed⟩ := ih
    refine ⟨List.cons_prefix_cons.2 ⟨rfl, hcalls⟩, ?_⟩
    have hfirst : ∀ c ∈ [((⟨dest, op⟩ : GitCall), reply)], c.2.isSuccess = true := by
      intro c hc
      rw [List.mem_singleton] at hc
      rwa [hc]
    exact hfailed.prepend hfirst

end asked

/-- Two worlds that differ at most in files and in what was asked of git. -/
structure AskedMore (w w' : World Ledger) (log : List (GitCall × GitReply)) : Prop where
  drawn : w'.drawn = w.drawn
  own : w'.own = { w.own with calls := w.own.calls ++ log }

namespace AskedMore
variable {w w₁ w' : World Ledger} {log log' : List (GitCall × GitReply)}

theorem refl (w : World Ledger) : AskedMore w w [] := ⟨rfl, by rw [List.append_nil]⟩

theorem trans (h : AskedMore w w₁ log) (h' : AskedMore w₁ w' log') :
    AskedMore w w' (log ++ log') := by
  refine ⟨h'.drawn.trans h.drawn, ?_⟩
  rw [h'.own, h.own, List.append_assoc]

theorem calls (h : AskedMore w w' log) : w'.own.calls = w.own.calls ++ log := by rw [h.own]

theorem puts (h : AskedMore w w' log) : w'.own.puts = w.own.puts := by rw [h.own]

end AskedMore

theorem ends_changeFiles {w w' : World Ledger} {f : FileSystem → Except FileError FileSystem}
    {r : Except TransferError Unit} (h : (World.changeFiles f).Ends w r w') :
    AskedMore w w' [] := by
  rw [Action.Ends, Action.run, World.changeFiles] at h
  split at h <;>
  · obtain ⟨-, rfl⟩ := h
    exact ⟨rfl, by simp⟩

namespace SparseCheckout
variable {c : SparseCheckout} {git : Git} {dest : Path} {before : List GitCall}
  {fs fs' : FileSystem} {log log' : List (GitCall × GitReply)} {w w' : World Ledger}
  {r : Except TransferError Unit}

theorem ends_askGit {c : GitCall} {r : Except TransferError GitReply}
    (h : (Ledger.askGit git c).Ends w r w') : ∃ reply, r = .ok reply ∧ AskedMore w w' [(c, reply)] ∧
      git.reached (w.own.calls.map (·.1)) c w.files = (w'.files, reply) := by
  obtain ⟨rfl, rfl⟩ := h
  exact ⟨_, rfl, ⟨rfl, rfl⟩, rfl⟩

/-- One call: it is noted with its reply, and the reply decides. -/
theorem ends_runGit {c : GitCall} (h : (runGit git c).Ends w r w') :
    ∃ reply, AskedMore w w' [(c, reply)] ∧
      git.reached (w.own.calls.map (·.1)) c w.files = (w'.files, reply) ∧
      ((r = .ok () ∧ reply.isSuccess = true) ∨
        r = .error (reply.failure c.operation.step) ∧ reply.isSuccess = false) := by
  rw [runGit, Action.ends_report_bind, Action.ends_bind] at h
  rcases h with ⟨reply, w₁, hask, h⟩ | ⟨e, hask, -⟩
  · obtain ⟨_, heq, hmore, hfiles⟩ := ends_askGit hask
    cases heq
    cases reply with
    | notStarted failure =>
      obtain ⟨rfl, rfl⟩ := Action.ends_fail.1 h
      exact ⟨_, hmore, hfiles, Or.inr ⟨rfl, rfl⟩⟩
    | ended status stderr =>
      by_cases hok : status.isSuccess = true
      · simp only [hok, Bool.not_true, Bool.false_eq_true, if_false, Action.ends_pure] at h
        obtain ⟨rfl, rfl⟩ := h
        exact ⟨_, hmore, hfiles, Or.inl ⟨rfl, hok⟩⟩
      · simp only [hok, Bool.not_false, if_true, Action.ends_report_bind, Action.ends_fail] at h
        obtain ⟨rfl, rfl⟩ := h
        exact ⟨_, hmore, hfiles, Or.inr ⟨rfl, by simpa [GitReply.isSuccess] using hok⟩⟩
  · obtain ⟨_, heq, -, -⟩ := ends_askGit hask
    cases heq

/-- Calls one after the other: either git did all that was asked, or the last call failed. -/
theorem ends_runAll {ops : List GitOperation} (h : (runAll git dest ops).Ends w r w') :
    ∃ log, AskedMore w w' log ∧
      ((r = .ok () ∧ Asked git.reached dest ops (w.own.calls.map (·.1)) w.files log w'.files) ∨
        ∃ e, r = .error e ∧
          Stopped git.reached dest ops (w.own.calls.map (·.1)) w.files log e w'.files) := by
  induction ops generalizing w with
  | nil =>
    obtain ⟨rfl, rfl⟩ := Action.ends_pure.1 h
    exact ⟨[], AskedMore.refl _, Or.inl ⟨rfl, .nil _ _⟩⟩
  | cons op ops ih =>
    rw [runAll, Action.ends_bind] at h
    rcases h with ⟨_, w₁, hgit, h⟩ | ⟨e, hgit, rfl⟩
    · obtain ⟨reply, hmore, hreply, ⟨-, hok⟩ | ⟨heq, -⟩⟩ := ends_runGit hgit
      · obtain ⟨log, hmore', hend⟩ := ih h
        rw [hmore.calls, List.map_append] at hend
        refine ⟨_, hmore.trans hmore', ?_⟩
        rcases hend with ⟨hr, hasked⟩ | ⟨e, hr, hstopped⟩
        · exact Or.inl ⟨hr, .cons hreply hok hasked⟩
        · exact Or.inr ⟨e, hr, .later hreply hok hstopped⟩
      · cases heq
    · obtain ⟨reply, hmore, hreply, ⟨heq, -⟩ | ⟨heq, hfail⟩⟩ := ends_runGit hgit
      · cases heq
      · cases heq
        exact ⟨_, hmore, Or.inr ⟨_, rfl, .here hreply hfail⟩⟩

theorem ends_runAll_ok {ops : List GitOperation} (h : (runAll git dest ops).Ends w (.ok ()) w') :
    ∃ log, AskedMore w w' log ∧
      Asked git.reached dest ops (w.own.calls.map (·.1)) w.files log w'.files := by
  obtain ⟨log, hmore, ⟨-, hasked⟩ | ⟨_, heq, -⟩⟩ := ends_runAll h
  · exact ⟨log, hmore, hasked⟩
  · cases heq

theorem ends_runAll_error {ops : List GitOperation} {e : TransferError}
    (h : (runAll git dest ops).Ends w (.error e) w') : ∃ log, AskedMore w w' log ∧
      Stopped git.reached dest ops (w.own.calls.map (·.1)) w.files log e w'.files := by
  obtain ⟨log, hmore, ⟨heq, -⟩ | ⟨_, heq, hstopped⟩⟩ := ends_runAll h
  · cases heq
  · cases heq
    exact ⟨log, hmore, hstopped⟩

/-- The pattern cannot be written: its directory cannot be made, or its file cannot. -/
inductive PatternFails (c : SparseCheckout) (dest : Path) (fs : FileSystem) (cause : FileError) :
    FileSystem → Prop
  | noDirectory (hinfo : fs.createDirAll (infoDir dest) = .error cause) :
      PatternFails c dest fs cause fs
  | noFile {fs₁ : FileSystem} (hinfo : fs.createDirAll (infoDir dest) = .ok fs₁)
      (hwrite : fs₁.write (patternFile dest) (.plain (Utf8.bytes (pattern c.dirPath))) =
        .error cause) :
      PatternFails c dest fs cause fs₁

theorem ends_writePattern_ok (h : (c.writePattern dest).Ends w (.ok ()) w') :
    AskedMore w w' [] ∧ ∃ fs, w.files.createDirAll (infoDir dest) = .ok fs ∧
      fs.write (patternFile dest) (.plain (Utf8.bytes (pattern c.dirPath))) = .ok w'.files := by
  rw [writePattern, Action.ends_bind] at h
  rcases h with ⟨_, w₁, hmake, h⟩ | ⟨_, -, heq⟩
  · refine ⟨(ends_changeFiles hmake).trans (ends_changeFiles h), ?_⟩
    obtain ⟨fs, hfs, rfl⟩ := World.ends_changeFiles_ok.1 hmake
    obtain ⟨fs', hfs', rfl⟩ := World.ends_changeFiles_ok.1 h
    exact ⟨fs, hfs, hfs'⟩
  · cases heq

theorem ends_writePattern_error {e : TransferError}
    (h : (c.writePattern dest).Ends w (.error e) w') :
    AskedMore w w' [] ∧ ∃ cause, e = .file cause ∧ c.PatternFails dest w.files cause w'.files := by
  rw [writePattern, Action.ends_bind] at h
  rcases h with ⟨_, w₁, hmake, h⟩ | ⟨_, hmake, heq⟩
  · refine ⟨(ends_changeFiles hmake).trans (ends_changeFiles h), ?_⟩
    obtain ⟨fs, hfs, rfl⟩ := World.ends_changeFiles_ok.1 hmake
    obtain ⟨cause, hcause, rfl, rfl⟩ := World.ends_changeFiles_error.1 h
    exact ⟨cause, rfl, .noFile hfs hcause⟩
  · refine ⟨ends_changeFiles hmake, ?_⟩
    obtain ⟨cause, hcause, rfl, rfl⟩ := World.ends_changeFiles_error.1 hmake
    cases heq
    exact ⟨cause, rfl, .noDirectory hcause⟩

/-- The first part of a checkout, after which the pattern is in its file: the files after each of
the steps, and the calls. -/
structure PatternWritten (c : SparseCheckout) (git : Git) (dest : Path) (before : List GitCall)
    (fs fs₁ fs₂ fs₃ fs₄ : FileSystem) (log : List (GitCall × GitReply)) : Prop where
  made : fs.createDirAll dest = .ok fs₁
  prepared : Asked git dest c.preparing before fs₁ log fs₂
  madeInfo : fs₂.createDirAll (infoDir dest) = .ok fs₃
  wrote : fs₃.write (patternFile dest) (.plain (Utf8.bytes (pattern c.dirPath))) = .ok fs₄

/-- How a checkout that ends well has gone. -/
structure CheckedOut (c : SparseCheckout) (git : Git) (dest : Path) (before : List GitCall)
    (fs fs₁ fs₂ fs₃ fs₄ fs' : FileSystem) (log log' : List (GitCall × GitReply)) : Prop extends
    PatternWritten c git dest before fs fs₁ fs₂ fs₃ fs₄ log where
  fetched : Asked git dest c.fetching (before ++ log.map (·.1)) fs₄ log' fs'

/-- How a checkout can go: what it comes to, which calls it makes, and which files it leaves. -/
inductive Way (c : SparseCheckout) (git : Git) (dest : Path) (before : List GitCall)
    (fs : FileSystem) : Except TransferError Unit → List (GitCall × GitReply) → FileSystem → Prop
  | notMade {cause : FileError} (hmake : fs.createDirAll dest = .error cause) :
      Way c git dest before fs (.error (.file cause)) [] fs
  | notPrepared {fs₁ fs' : FileSystem} {log : List (GitCall × GitReply)} {e : TransferError}
      (hmake : fs.createDirAll dest = .ok fs₁)
      (hstopped : Stopped git dest c.preparing before fs₁ log e fs') :
      Way c git dest before fs (.error e) log fs'
  | notWritten {fs₁ fs₂ fs' : FileSystem} {log : List (GitCall × GitReply)} {cause : FileError}
      (hmake : fs.createDirAll dest = .ok fs₁)
      (hprepared : Asked git dest c.preparing before fs₁ log fs₂)
      (hfails : c.PatternFails dest fs₂ cause fs') :
      Way c git dest before fs (.error (.file cause)) log fs'
  | notFetched {fs₁ fs₂ fs₃ fs₄ fs' : FileSystem} {log log' : List (GitCall × GitReply)}
      {e : TransferError} (hwritten : PatternWritten c git dest before fs fs₁ fs₂ fs₃ fs₄ log)
      (hstopped : Stopped git dest c.fetching (before ++ log.map (·.1)) fs₄ log' e fs') :
      Way c git dest before fs (.error e) (log ++ log') fs'
  | complete {fs₁ fs₂ fs₃ fs₄ fs' : FileSystem} {log log' : List (GitCall × GitReply)}
      (hdone : CheckedOut c git dest before fs fs₁ fs₂ fs₃ fs₄ fs' log log') :
      Way c git dest before fs (.ok ()) (log ++ log') fs'

/-- A checkout goes one of its ways. -/
theorem ends_way (h : (c.run git dest).Ends w r w') : ∃ log, AskedMore w w' log ∧
      c.Way git.reached dest (w.own.calls.map (·.1)) w.files r log w'.files := by
  rw [run, Action.ends_report_bind, Action.ends_bind] at h
  rcases h with ⟨_, w₁, hmake, h⟩ | ⟨e, hmake, rfl⟩
  · have hmore₁ := ends_changeFiles hmake
    obtain ⟨fs₁, hfs₁, rfl⟩ := World.ends_changeFiles_ok.1 hmake
    rw [Action.ends_bind] at h
    rcases h with ⟨_, w₂, hprepare, h⟩ | ⟨e, hprepare, rfl⟩
    · obtain ⟨log, hmore₂, hprepared⟩ := ends_runAll_ok hprepare
      have hmore := hmore₁.trans hmore₂
      rw [Action.ends_bind] at h
      rcases h with ⟨_, w₃, hpattern, h⟩ | ⟨e, hpattern, rfl⟩
      · obtain ⟨hmore₃, fs₃, hinfo, hwrite⟩ := ends_writePattern_ok hpattern
        have hwritten : PatternWritten c git.reached dest _ _ _ _ _ _ log :=
          ⟨hfs₁, hprepared, hinfo, hwrite⟩
        replace hmore := hmore.trans hmore₃
        rw [List.nil_append, List.append_nil] at hmore
        rw [Action.ends_bind] at h
        rcases h with ⟨_, w₄, hfetch, h⟩ | ⟨e, hfetch, rfl⟩
        · obtain ⟨rfl, rfl⟩ := Action.ends_report.1 h
          obtain ⟨log', hmore₄, hfetched⟩ := ends_runAll_ok hfetch
          rw [hmore.calls, List.map_append] at hfetched
          exact ⟨_, hmore.trans hmore₄, .complete ⟨hwritten, hfetched⟩⟩
        · obtain ⟨log', hmore₄, hstopped⟩ := ends_runAll_error hfetch
          rw [hmore.calls, List.map_append] at hstopped
          exact ⟨_, hmore.trans hmore₄, .notFetched hwritten hstopped⟩
      · obtain ⟨hmore₃, cause, rfl, hfails⟩ := ends_writePattern_error hpattern
        replace hmore := hmore.trans hmore₃
        rw [List.nil_append, List.append_nil] at hmore
        exact ⟨log, hmore, .notWritten hfs₁ hprepared hfails⟩
    · obtain ⟨log, hmore₂, hstopped⟩ := ends_runAll_error hprepare
      exact ⟨log, hmore₁.trans hmore₂, .notPrepared hfs₁ hstopped⟩
  · have hmore := ends_changeFiles hmake
    obtain ⟨cause, hcause, rfl, rfl⟩ := World.ends_changeFiles_error.1 hmake
    exact ⟨[], hmore, .notMade hcause⟩

/-- Git was asked for all ten operations of a checkout, in their order, and did them. -/
structure Complete (c : SparseCheckout) (dest : Path) (log : List (GitCall × GitReply)) : Prop where
  calls : log.map (·.1) = (c.preparing ++ c.fetching).map (GitCall.mk dest)
  succeeded : ∀ call ∈ log, call.2.isSuccess = true

theorem Complete.length_log (h : c.Complete dest log) : log.length = 10 := by
  have hcalls := congrArg List.length h.calls
  rwa [List.length_map, List.length_map, List.length_append, length_preparing,
    length_fetching] at hcalls

theorem CheckedOut.complete {fs₁ fs₂ fs₃ fs₄ : FileSystem}
    (h : CheckedOut c git dest before fs fs₁ fs₂ fs₃ fs₄ fs' log log') :
    c.Complete dest (log ++ log') := by
  obtain ⟨hcalls, hall⟩ := h.prepared.calls
  obtain ⟨hcalls', hall'⟩ := h.fetched.calls
  constructor
  · rw [List.map_append, List.map_append, hcalls, hcalls']
  · intro call hcall
    rcases List.mem_append.1 hcall with hcall | hcall
    · exact hall call hcall
    · exact hall' call hcall

theorem CheckedOut.of_reached {fs₁ fs₂ fs₃ fs₄ : FileSystem}
    (h : CheckedOut c git.reached dest before fs fs₁ fs₂ fs₃ fs₄ fs' log log') :
    CheckedOut c git dest before fs fs₁ fs₂ fs₃ fs₄ fs' log log' :=
  ⟨⟨h.made, h.prepared.of_reached, h.madeInfo, h.wrote⟩, h.fetched.of_reached⟩

theorem Way.complete_or (h : c.Way git dest before fs r log fs') :
    (r = .ok () ∧ c.Complete dest log ∧
        ∃ fs₁ fs₂ fs₃ fs₄ log₁ log₂, log = log₁ ++ log₂ ∧
          CheckedOut c git dest before fs fs₁ fs₂ fs₃ fs₄ fs' log₁ log₂) ∨
      (∃ e, r = .error e) ∧ (log.length < 10 ∨ ∃ call ∈ log, call.2.isSuccess = false) := by
  cases h with
  | notMade _ => exact Or.inr ⟨⟨_, rfl⟩, Or.inl (by decide)⟩
  | notPrepared _ hstopped => exact Or.inr ⟨⟨_, rfl⟩, Or.inr hstopped.calls.2.exists_mem⟩
  | notWritten _ hprepared _ =>
    refine Or.inr ⟨⟨_, rfl⟩, Or.inl ?_⟩
    rw [hprepared.length_eq, length_preparing]
    decide
  | notFetched hwritten hstopped =>
    have hfailed := hstopped.calls.2.prepend hwritten.prepared.calls.2
    exact Or.inr ⟨⟨_, rfl⟩, Or.inr hfailed.exists_mem⟩
  | complete hdone => exact Or.inl ⟨rfl, hdone.complete, _, _, _, _, _, _, rfl, hdone⟩

/-- A checkout asks at most for its ten operations. If git does them all, the checkout ends well. -/
theorem ends_run (h : (c.run git dest).Ends w r w') : ∃ log, AskedMore w w' log ∧
      ((r = .ok () ∧ c.Complete dest log ∧
          ∃ fs₁ fs₂ fs₃ fs₄ log₁ log₂, CheckedOut c git dest (w.own.calls.map (·.1)) w.files fs₁ fs₂
            fs₃ fs₄ w'.files log₁ log₂) ∨
        (∃ e, r = .error e) ∧ (log.length < 10 ∨ ∃ call ∈ log, call.2.isSuccess = false)) := by
  obtain ⟨log, hmore, hway⟩ := ends_way h
  refine ⟨log, hmore, ?_⟩
  rcases hway.complete_or with ⟨hr, hcomplete, _, _, _, _, _, _, -, hdone⟩ | hfailed
  · exact Or.inl ⟨hr, hcomplete, _, _, _, _, _, _, hdone.of_reached⟩
  · exact Or.inr hfailed

end SparseCheckout
end SparseTransfer
