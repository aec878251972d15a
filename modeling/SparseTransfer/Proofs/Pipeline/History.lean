import SparseTransfer.Proofs.Pipeline

/- Histories of a pipeline. Its stages may be called in any order and with anything, and the files
may change in between; what a storage keeps in the end is what was uploaded, in order. -/
namespace SparseTransfer

namespace Storage

/-- A storage that fails and keeps nothing, or keeps what is in the file that it is given. What it
is asked to take is not its to note. -/
structure KeepsFiles (storage : Storage) : Prop where
  notes : ∀ {target : UploadTarget} {path : Path} {r : Except TransferError UploadReceipt}
    {w w' : World Ledger}, (storage target path).Ends w r w' → w'.own.puts = w.own.puts
  keeps : ∀ {target : UploadTarget} {path : Path} {receipt : UploadReceipt} {w w' : World Ledger},
    (storage target path).Ends w (.ok receipt) w' → ∃ content, w.files.read path = .ok content ∧
      w'.own.stored = w.own.stored ++ [(target, content)]
  fails : ∀ {target : UploadTarget} {path : Path} {e : TransferError} {w w' : World Ledger},
    (storage target path).Ends w (.error e) w' → w'.own.stored = w.own.stored

theorem keepsFiles_keeping (eTag : Option String) : (keeping eTag).KeepsFiles where
  notes hends := ((faithful_keeping eTag _).leaves hends).2.2
  keeps hends := (faithful_keeping eTag _).keeps hends
  fails hends := (faithful_keeping eTag _).fails hends

end Storage

namespace Pipeline

/-- What can happen next: a stage is called, or somebody else changes the files. -/
inductive Turn where
  | call (stage : StageCall)
  | change (files : FileSystem → FileSystem)

inductive Answer where
  | fetched (r : Except TransferError Path)
  | archived (r : Except TransferError ArchiveSummary)
  | uploaded (r : Except TransferError UploadReceipt)
  /-- What others do is not answered. -/
  | unnoticed

def Answer.failed : Answer → Bool
  | .fetched (.error _) | .archived (.error _) | .uploaded (.error _) => true
  | _ => false

structure Moment where
  turn : Turn
  before : World Ledger
  answer : Answer
  after : World Ledger

/-- What a turn is answered, and what it leaves. -/
def Turn.take (p : Pipeline Ledger) (w : World Ledger) : Turn → Answer × World Ledger
  | .call (.fetch workDir) =>
    let done := (p.fetch workDir).run w
    (.fetched done.result, done.state)
  | .call (.archive source workDir) =>
    let done := (p.archive source workDir).run w
    (.archived done.result, done.state)
  | .call (.upload archive) =>
    let done := (p.upload archive).run w
    (.uploaded done.result, done.state)
  | .change files => (.unnoticed, { w with files := files w.files })

def momentOf (p : Pipeline Ledger) (w : World Ledger) (turn : Turn) : Moment :=
  ⟨turn, w, (turn.take p w).1, (turn.take p w).2⟩

/-- The moments of a history, each beginning with what the one before it left. -/
def moments (p : Pipeline Ledger) : World Ledger → List Turn → List Moment
  | _, [] => []
  | w, turn :: turns => momentOf p w turn :: moments p (turn.take p w).2 turns

def leftBy (p : Pipeline Ledger) : World Ledger → List Turn → World Ledger
  | w, [] => w
  | w, turn :: turns => leftBy p (turn.take p w).2 turns

/-- What a storage is to be asked for: the archives with entries and bytes, and no others. -/
def Turn.offered? : Turn → Option Path
  | .call (.upload archive) =>
    if 0 < archive.entries ∧ 0 < archive.bytes then some archive.path else none
  | _ => none

/-- The path of an archive that was uploaded at this moment, and the files at that time. -/
def Moment.uploaded? (m : Moment) : Option (FileSystem × Path) :=
  match m.turn, m.answer with
  | .call (.upload archive), .uploaded (.ok _) => some (m.before.files, archive.path)
  | _, _ => none

section turns
variable {git : Git} {storage : Storage} {s : TransferSettings} {w : World Ledger}

/-- How a turn can go. The storage is asked by an upload only, once, and not for an empty
archive. -/
inductive Went (storage : Storage) (target : UploadTarget) : Moment → Prop where
  | fetched {workDir : Path} {r : Except TransferError Path} {w w' : World Ledger}
    {log : List (GitCall × GitReply)} (hown : w'.own = { w.own with calls := w.own.calls ++ log }) :
    Went storage target ⟨.call (.fetch workDir), w, .fetched r, w'⟩
  | archived {source workDir : Path} {r : Except TransferError ArchiveSummary} {w w' : World Ledger}
    (hown : w'.own = w.own) :
    Went storage target ⟨.call (.archive source workDir), w, .archived r, w'⟩
  | refused {archive : ArchiveSummary} {w : World Ledger}
    (hempty : archive.entries = 0 ∨ archive.bytes = 0) :
    Went storage target
      ⟨.call (.upload archive), w, .uploaded (.error (.emptyArchive archive.path)), w⟩
  | put {archive : ArchiveSummary} {r : Except TransferError UploadReceipt} {w w₁ w' : World Ledger}
    (hfull : 0 < archive.entries ∧ 0 < archive.bytes)
    (hnote : w₁ = { w with own := { w.own with puts := w.own.puts ++ [(target, archive.path)] } })
    (hput : (storage target archive.path).Ends w₁ r w') :
    Went storage target ⟨.call (.upload archive), w, .uploaded r, w'⟩
  | changed {files : FileSystem → FileSystem} {w : World Ledger} :
    Went storage target ⟨.change files, w, .unnoticed, { w with files := files w.files }⟩

theorem went_momentOf (git : Git) (storage : Storage) (s : TransferSettings) (w : World Ledger)
    (turn : Turn) : Went storage s.target (momentOf (transfer git storage s) w turn) := by
  cases turn with
  | call stage =>
    cases stage with
    | fetch workDir =>
      obtain ⟨log, hmore, -⟩ := ends_fetchWith (Action.ends_run (fetchWith git s workDir) w)
      exact .fetched hmore.own
    | archive source workDir =>
      obtain ⟨⟨files, hfiles⟩, -⟩ :=
        Archive.ends_packFolder
          (Action.ends_run (Archive.packFolder source (archiveFile workDir)) w)
      have hown : ((Archive.packFolder source (archiveFile workDir)).run w).state.own = w.own := by
        rw [hfiles]
      exact .archived hown
    | upload archive =>
      have hends := Action.ends_run (uploadTo storage s.target archive) w
      show Went storage s.target
        ⟨_, w, .uploaded ((uploadTo storage s.target archive).run w).result,
          ((uploadTo storage s.target archive).run w).state⟩
      by_cases hempty : archive.entries = 0 ∨ archive.bytes = 0
      · rw [uploadTo, if_pos hempty]
        exact .refused hempty
      · generalize (uploadTo storage s.target archive).run w = done at hends ⊢
        rw [uploadTo, if_neg hempty, Ledger.notePut, Action.ends_modify_bind] at hends
        exact .put (by omega) rfl hends
  | change files => exact .changed

/-- At each moment the storage is asked for what is offered. -/
theorem Went.puts {target : UploadTarget} {m : Moment} (hstorage : storage.KeepsFiles)
    (h : Went storage target m) : m.after.own.puts =
      m.before.own.puts ++ m.turn.offered?.toList.map fun path => (target, path) := by
  cases h with
  | fetched hown | archived hown => simp [hown, Turn.offered?]
  | changed => simp [Turn.offered?]
  | refused hempty =>
    rw [Turn.offered?, if_neg (by omega)]
    simp
  | put hfull hnote hput =>
    rw [Turn.offered?, if_pos hfull, hstorage.notes hput, hnote]
    rfl

/-- A storage keeps what is in the archive that is uploaded, and nothing at any other moment. -/
theorem Went.stored {target : UploadTarget} {m : Moment} (hstorage : storage.KeepsFiles)
    (h : Went storage target m) : ∃ contents : List Content,
      List.Forall₂ (fun found content => found.1.read found.2 = .ok content)
      m.uploaded?.toList contents ∧
      m.after.own.stored =
        m.before.own.stored ++ contents.map fun content => (target, content) := by
  cases h with
  | fetched hown | archived hown => exact ⟨[], .nil, by simp [hown]⟩
  | changed | refused hempty => exact ⟨[], .nil, by simp⟩
  | @put archive r w w₁ w' hfull hnote hput =>
    cases r with
    | error e =>
      have hstored := hstorage.fails hput
      rw [hnote] at hstored
      exact ⟨[], .nil, by simp [hstored]⟩
    | ok receipt =>
      obtain ⟨content, hread, hstored⟩ := hstorage.keeps hput
      rw [hnote] at hread hstored
      exact ⟨[content], .cons hread .nil, hstored⟩

theorem Went.of_failed {target : UploadTarget} {m : Moment} (hstorage : storage.KeepsFiles)
    (h : Went storage target m) (hfailed : m.answer.failed = true) :
    m.after.own.stored = m.before.own.stored := by
  obtain ⟨contents, hcontents, hstored⟩ := h.stored hstorage
  have hnone : m.uploaded? = none := by
    rw [Moment.uploaded?]
    split
    · next hanswer =>
      rw [hanswer] at hfailed
      cases hfailed
    · rfl
  rw [hnone] at hcontents
  cases hcontents
  rw [hstored, List.map_nil, List.append_nil]

theorem went_moments (turns : List Turn) (w : World Ledger) :
    ∀ m ∈ moments (transfer git storage s) w turns, Went storage s.target m := by
  induction turns generalizing w with
  | nil => simp [moments]
  | cons turn turns ih =>
    rw [moments, List.forall_mem_cons]
    exact ⟨went_momentOf git storage s w turn, ih _⟩

theorem puts_leftBy (hstorage : storage.KeepsFiles) (turns : List Turn) (w : World Ledger) :
    (leftBy (transfer git storage s) w turns).own.puts =
      w.own.puts ++ (turns.filterMap Turn.offered?).map fun path => (s.target, path) := by
  induction turns generalizing w with
  | nil => simp [leftBy]
  | cons turn turns ih =>
    have hputs := (went_momentOf git storage s w turn).puts hstorage
    simp only [momentOf] at hputs
    rw [leftBy, ih, hputs, List.append_assoc]
    cases hoffered : turn.offered? <;> simp [hoffered]

theorem stored_leftBy (hstorage : storage.KeepsFiles) (turns : List Turn) (w : World Ledger) :
    ∃ contents : List Content,
      List.Forall₂ (fun found content => found.1.read found.2 = .ok content)
        ((moments (transfer git storage s) w turns).filterMap Moment.uploaded?) contents ∧
      (leftBy (transfer git storage s) w turns).own.stored =
        w.own.stored ++ contents.map fun content => (s.target, content) := by
  induction turns generalizing w with
  | nil => exact ⟨[], .nil, by simp [leftBy]⟩
  | cons turn turns ih =>
    obtain ⟨first, hfirst, hstored⟩ := (went_momentOf git storage s w turn).stored hstorage
    obtain ⟨rest, hrest, hleft⟩ := ih (turn.take (transfer git storage s) w).2
    refine ⟨first ++ rest, ?_, ?_⟩
    · have hmoments :
          (moments (transfer git storage s) w (turn :: turns)).filterMap Moment.uploaded? =
            (momentOf (transfer git storage s) w turn).uploaded?.toList ++
              (moments (transfer git storage s) (turn.take (transfer git storage s) w).2
                turns).filterMap Moment.uploaded? := by
        rw [moments]
        cases huploaded : (momentOf (transfer git storage s) w turn).uploaded? <;> simp [huploaded]
      rw [hmoments]
      exact List.rel_append hfirst hrest
    · simp only [momentOf] at hstored
      rw [leftBy, hleft, hstored, List.map_append, List.append_assoc]

/-- Whatever is done with a pipeline: an upload asks the storage once, for the configured target, if
there is something in the archive, and nothing else does; a failed call stores nothing. What is
stored in the end is, in order, what was in the archives when they were uploaded. -/
theorem history_stores (hstorage : storage.KeepsFiles) (turns : List Turn) (w : World Ledger) :
    (∀ m ∈ moments (transfer git storage s) w turns, Went storage s.target m ∧
      (m.answer.failed = true → m.after.own.stored = m.before.own.stored)) ∧
    (leftBy (transfer git storage s) w turns).own.puts =
      w.own.puts ++ (turns.filterMap Turn.offered?).map (fun path => (s.target, path)) ∧
    ∃ contents : List Content,
    List.Forall₂ (fun found content => found.1.read found.2 = .ok content)
        ((moments (transfer git storage s) w turns).filterMap Moment.uploaded?) contents ∧
      (leftBy (transfer git storage s) w turns).own.stored =
        w.own.stored ++ contents.map fun content => (s.target, content) := by
  refine ⟨fun m hm => ?_, puts_leftBy hstorage turns w, stored_leftBy hstorage turns w⟩
  have hwent := went_moments turns w m hm
  exact ⟨hwent, hwent.of_failed hstorage⟩

end turns

section revised

/-- One file, `/a`. -/
def holding (content : Bytes) : FileSystem where
  items := [([[97]], .file ⟨0o644, .plain content⟩)]
  cwd := []
  distinct := by simp
  inDirectory := by simp
  named := by simp; decide

/-- A git that cannot be started. -/
def idleGit : Git := fun _ _ files => (files, .notStarted .nulInArgument)

/-- Uploads of summaries that nobody has returned, around a change of the file and an archiver that
fails. -/
def revisedTurns : List Turn :=
  [.call (.upload ⟨[47, 97], 1, 1⟩), .change fun _ => holding [2, 3],
    .call (.archive [47, 97] [47, 119]), .call (.upload ⟨[47, 97], 0, 2⟩),
    .call (.upload ⟨[47, 98], 1, 1⟩), .call (.upload ⟨[47, 97], 7, 7⟩)]

theorem history_stores_revised : (Storage.keeping none).KeepsFiles ∧
    (leftBy (transfer idleGit (Storage.keeping none) {}) ⟨holding [1], 0, {}⟩
        revisedTurns).own.puts =
      [[47, 97], [47, 98], [47, 97]].map (fun path => (⟨"sips", "transfer.zip"⟩, path)) ∧
    (leftBy (transfer idleGit (Storage.keeping none) {}) ⟨holding [1], 0, {}⟩
        revisedTurns).own.stored =
      [.plain [1], .plain [2, 3]].map fun content => (⟨"sips", "transfer.zip"⟩, content) := by
  have hstorage := Storage.keepsFiles_keeping none
  obtain ⟨-, hputs, contents, hcontents, hstored⟩ :=
    @history_stores idleGit (Storage.keeping none) {} hstorage revisedTurns ⟨holding [1], 0, {}⟩
  have huploaded : (moments (transfer idleGit (Storage.keeping none) {}) ⟨holding [1], 0, {}⟩
      revisedTurns).filterMap Moment.uploaded? =
        [(holding [1], [47, 97]), (holding [2, 3], [47, 97])] := by cbv
  rw [huploaded] at hcontents
  obtain ⟨first, rest, hfirst, hrest, rfl⟩ := List.forall₂_cons_left_iff.1 hcontents
  obtain ⟨second, others, hsecond, hothers, rfl⟩ := List.forall₂_cons_left_iff.1 hrest
  cases hothers
  cases hfirst
  cases hsecond
  exact ⟨hstorage, hputs, hstored⟩

end revised
end Pipeline
end SparseTransfer
