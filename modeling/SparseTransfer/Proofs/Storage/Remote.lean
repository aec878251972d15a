import SparseTransfer.Proofs.Action
import SparseTransfer.Proofs.Settings.Validation
import SparseTransfer.Proofs.Storage.Request
import SparseTransfer.Storage.Remote

/- Sending an archive to a storage over a network: whatever the network makes of it, one request at
most leaves, and it says where the archive is to be put. -/
namespace SparseTransfer

namespace Ledger

/-- What is left when something has been sent, or could not be. -/
def afterSend (network : Network) (q : Request) (w : World Ledger) : World Ledger :=
  { w with own := { w.own with
    requests := w.own.requests ++ if (network q).wasSent then [q] else [] } }

theorem ends_send {network : Network} {q : Request} {w w' : World Ledger}
    {r : Except TransferError Exchange} :
    (send network q).Ends w r w' ↔ r = .ok (network q) ∧ w' = afterSend network q w := by
  have hrequests : (if (network q).wasSent then w.own.requests ++ [q] else w.own.requests) =
      w.own.requests ++ if (network q).wasSent then [q] else [] := by
    split
    · rfl
    · rw [List.append_nil]
  rw [Action.Ends, Action.run, send, afterSend, ← hrequests]
  exact and_congr eq_comm eq_comm

end Ledger

namespace Exchange

/-- Only an answer can say that all is well. -/
theorem wasSent_of_accepted {x : Exchange} {headers : List (String × String)}
    (h : x.accepted = .ok headers) : x.wasSent = true := by
  cases x with
  | unreachable detail => cases h
  | broken detail => rfl
  | answered status headers' detail => rfl

theorem accepted_withheld (x : Exchange) : ∃ detail, x.withheld.accepted = .error detail := by
  cases x <;> exact ⟨_, rfl⟩

end Exchange

theorem Ledger.afterSend_of_accepted {network : Network} {q : Request}
    {headers : List (String × String)} (h : (network q).accepted = .ok headers) (w : World Ledger) :
    afterSend network q w = { w with own := { w.own with requests := w.own.requests ++ [q] } } := by
  rw [afterSend, if_pos (Exchange.wasSent_of_accepted h)]

namespace Storage

section remote
variable {network : Network} {s : StorageSettings} {target : UploadTarget} {path : Path}
  {w w' : World Ledger} {r : Except TransferError UploadReceipt}

/-- How sending the archive at a path goes, and what it leaves. -/
inductive Sending (network : Network) (s : StorageSettings) (target : UploadTarget) (path : Path)
    (w : World Ledger) : Except TransferError UploadReceipt → World Ledger → Prop where
  /-- The size of the file cannot be told, and nothing is sent. -/
  | unfound {cause : FileError} (hsize : Archive.sizeOf w.files path = .error cause) :
    Sending network s target path w (.error (.file cause)) w
  /-- There is something, but it cannot be read. -/
  | unread {bytes : Nat} {cause : FileError} (hsize : Archive.sizeOf w.files path = .ok bytes)
    (hread : w.files.read path = .error cause) :
    Sending network s target path w (.error (.upload target.bucket target.key cause.message)) w
  /-- There is no key for the object, and nothing is sent. -/
  | keyless {bytes : Nat} {body : Content} {detail : String}
    (hsize : Archive.sizeOf w.files path = .ok bytes) (hread : w.files.read path = .ok body)
    (hkey : target.key = "") :
    Sending network s target path w (.error (.upload target.bucket target.key detail)) w
  /-- No answer comes, or one that says that it is not well. -/
  | refused {bytes : Nat} {body : Content} {detail : String}
    (hsize : Archive.sizeOf w.files path = .ok bytes) (hread : w.files.read path = .ok body)
    (hanswer : (network (.put s.client target body)).accepted = .error detail) :
    Sending network s target path w (.error (.upload target.bucket target.key detail))
      (Ledger.afterSend network (.put s.client target body) w)
  | taken {bytes : Nat} {body : Content} {headers : List (String × String)}
    (hsize : Archive.sizeOf w.files path = .ok bytes) (hread : w.files.read path = .ok body)
    (hkey : target.key ≠ "")
    (hanswer : (network (.put s.client target body)).accepted = .ok headers) :
    Sending network s target path w (.ok ⟨target.bucket, target.key, bytes, header? headers "etag"⟩)
      (Ledger.afterSend network (.put s.client target body) w)

/-- An object without a key is not sent, and any other is sent once. -/
theorem ends_put {body : Content} {x : Except TransferError Exchange}
    (h : (put network s.client target body).Ends w x w') :
    (target.key = "" ∧ x = .ok (network (.put s.client target body)).withheld ∧ w' = w) ∨
      (target.key ≠ "" ∧ x = .ok (network (.put s.client target body)) ∧
        w' = Ledger.afterSend network (.put s.client target body) w) := by
  rw [put] at h
  split at h
  · next hkey =>
    obtain ⟨rfl, rfl⟩ := Action.ends_pure.1 h
    exact Or.inl ⟨hkey, rfl, rfl⟩
  · next hkey =>
    obtain ⟨rfl, rfl⟩ := Ledger.ends_send.1 h
    exact Or.inr ⟨hkey, rfl, rfl⟩

theorem ends_remote (h : (remote network s target path).Ends w r w') :
    Sending network s target path w r w' := by
  rw [remote, through, Action.ends_bind] at h
  rcases h with ⟨bytes, w₁, hsize, h⟩ | ⟨e, hsize, rfl⟩
  · obtain ⟨hsize, rfl⟩ := World.ends_inspectFiles_ok.1 hsize
    rw [Action.ends_report_bind, Action.ends_get_bind] at h
    cases hread : w₁.files.read path with
    | error cause =>
      simp only [hread] at h
      obtain ⟨rfl, rfl⟩ := Action.ends_fail.1 h
      exact .unread hsize hread
    | ok body =>
      simp only [hread] at h
      rcases Action.ends_bind.1 h with ⟨exchange, w₂, hsent, h⟩ | ⟨e, hsent, -⟩
      · obtain ⟨hkey, heq, rfl⟩ | ⟨hkey, heq, rfl⟩ := ends_put hsent
        · cases heq
          obtain ⟨detail, hwithheld⟩ := (network (.put s.client target body)).accepted_withheld
          simp only [hwithheld] at h
          obtain ⟨rfl, rfl⟩ := Action.ends_fail.1 h
          exact .keyless hsize hread hkey
        · cases heq
          cases hanswer : (network (.put s.client target body)).accepted with
          | error detail =>
            simp only [hanswer] at h
            obtain ⟨rfl, rfl⟩ := Action.ends_fail.1 h
            exact .refused hsize hread hanswer
          | ok headers =>
            simp only [hanswer] at h
            rw [Action.ends_report_bind] at h
            obtain ⟨rfl, rfl⟩ := Action.ends_pure.1 h
            exact .taken hsize hread hkey hanswer
      · obtain ⟨-, heq, -⟩ | ⟨-, heq, -⟩ := ends_put hsent <;> cases heq
  · obtain ⟨hr, rfl⟩ := World.ends_inspectFiles.1 hsize
    cases hfile : Archive.sizeOf w'.files path with
    | error cause =>
      rw [hfile] at hr
      cases hr
      exact .unfound hfile
    | ok bytes =>
      rw [hfile] at hr
      cases hr

theorem Sending.of_missing {cause : FileError} (h : Sending network s target path w r w')
    (hmissing : w.files.stat true path = .error cause) : r = .error (.file cause) ∧ w' = w := by
  have hsize : Archive.sizeOf w.files path = .error cause := by rw [Archive.sizeOf, hmissing]
  cases h with
  | unfound hsize' =>
    cases hsize.symm.trans hsize'
    exact ⟨rfl, rfl⟩
  | unread hsize' | keyless hsize' | refused hsize' | taken hsize' => cases hsize.symm.trans hsize'

/-- What was sent of a file: nothing, or the one request that puts its content in the target's
place. -/
theorem Sending.of_file {loc : Location} {data : FileData}
    (h : Sending network s target path w r w')
    (hfound : w.files.stat true path = .ok (loc, .file data)) :
    (∃ sent, w' = { w with own := { w.own with requests := w.own.requests ++ sent } } ∧
      (sent = [] ∨ sent = [.put s.client target data.content]) ∧
        ∃ detail, r = .error (.upload target.bucket target.key detail)) ∨
      ∃ headers, (network (.put s.client target data.content)).accepted = .ok headers ∧
        w' = { w with own := { w.own with
          requests := w.own.requests ++ [.put s.client target data.content] } } ∧
        r = .ok ⟨target.bucket, target.key, data.content.size, header? headers "etag"⟩ := by
  have hsize : Archive.sizeOf w.files path = .ok data.content.size := by rw [Archive.sizeOf, hfound]
  have hread : w.files.read path = .ok data.content := by rw [FileSystem.read, hfound]
  cases h with
  | unfound hsize' => cases hsize.symm.trans hsize'
  | unread _ hread' => cases hread.symm.trans hread'
  | keyless => exact Or.inl ⟨[], by rw [List.append_nil], Or.inl rfl, _, rfl⟩
  | refused _ hread' =>
    cases hread.symm.trans hread'
    refine Or.inl ⟨_, rfl, ?_, _, rfl⟩
    split
    · exact Or.inr rfl
    · exact Or.inl rfl
  | taken hsize' hread' _ hanswer =>
    cases hsize.symm.trans hsize'
    cases hread.symm.trans hread'
    exact Or.inr ⟨_, hanswer, Ledger.afterSend_of_accepted hanswer w, rfl⟩

/-- Whatever the network does: a file that is not found is not sent. Of one that is found, one
request at most leaves, which puts the content of the file in the target's place; there is a receipt
only if that request is accepted, and what fails names the target. No two targets are named by one
path. -/
theorem remote_sends_once {field : String}
    (hbucket : Rules.checkBucket field target.bucket = .ok ())
    (h : (connect s >>= fun _ => remote network s target path).Ends w r w') :
    (∀ cause, w.files.stat true path = .error cause → r = .error (.file cause) ∧ w' = w) ∧
      (∀ loc data, w.files.stat true path = .ok (loc, .file data) → ∃ sent,
        w' = { w with own := { w.own with requests := w.own.requests ++ sent } } ∧
        sent.length ≤ 1 ∧
        (∀ q ∈ sent, q.Puts target data.content) ∧
        (∀ receipt, r = .ok receipt → receipt.bucket = target.bucket ∧ receipt.key = target.key ∧
          receipt.bytes = data.content.size ∧ ∃ q headers, sent = [q] ∧
            (network q).accepted = .ok headers ∧ receipt.eTag = header? headers "etag") ∧
        ∀ e, r = .error e → ∃ detail, e = .upload target.bucket target.key detail) ∧
    ∀ {field' : String} {target' : UploadTarget} {content content' : Content} {q q' : Request},
      Rules.checkBucket field' target'.bucket = .ok () → q.Puts target content →
      q'.Puts target' content' → q.path = q'.path → target = target' := by
  rw [connect, Action.ends_report_bind] at h
  have hsending := ends_remote h
  refine ⟨fun cause hmissing => hsending.of_missing hmissing, fun loc data hfound => ?_,
    fun hbucket' hq hq' => hq.target_eq hq'
      (Rules.isBucketName_of_checkBucket hbucket).slash_notMem
      (Rules.isBucketName_of_checkBucket hbucket').slash_notMem⟩
  obtain ⟨sent, rfl, hsent, detail, rfl⟩ | ⟨headers, hanswer, rfl, rfl⟩ := hsending.of_file hfound
  · refine ⟨sent, rfl, ?_, ?_, ?_, ?_⟩
    · obtain rfl | rfl := hsent <;> simp
    · intro q hq
      obtain rfl | rfl := hsent
      · cases hq
      · rw [List.mem_singleton.1 hq]
        exact Request.puts_put s target data.content
    · intro receipt hreceipt
      cases hreceipt
    · intro e he
      cases he
      exact ⟨detail, rfl⟩
  · refine ⟨_, rfl, Nat.le_refl 1, ?_, ?_, ?_⟩
    · intro q hq
      rw [List.mem_singleton.1 hq]
      exact Request.puts_put s target data.content
    · intro receipt hreceipt
      cases hreceipt
      exact ⟨rfl, rfl, rfl, _, headers, rfl, hanswer, rfl⟩
    · intro e he
      cases he

end remote

/-- A file `/a` of three bytes. -/
def threeBytes : FileSystem where
  items := [([[97]], .file ⟨0o644, .plain [1, 2, 3]⟩)]
  cwd := []
  distinct := by decide
  inDirectory := by decide
  named := by decide

/-- A storage that takes everything. -/
def taking : Network := fun _ => .answered 204 [] ""

theorem remote_sends_once_accented :
    Rules.checkBucket "bucket" (⟨"sips", "é%/"⟩ : UploadTarget).bucket = .ok () ∧ ∃ w' q,
    (connect {} >>= fun _ => remote taking {} ⟨"sips", "é%/"⟩ [47, 97]).Ends ⟨threeBytes, 0, {}⟩
      (.ok ⟨"sips", "é%/", 3, none⟩) w' ∧
    w'.own.requests = [q] ∧ q.Puts ⟨"sips", "é%/"⟩ (.plain [1, 2, 3]) := by
  have hbucket : Rules.checkBucket "bucket" (⟨"sips", "é%/"⟩ : UploadTarget).bucket = .ok () := by
    rfl
  obtain ⟨w', hends⟩ : ∃ w', (connect {} >>= fun _ =>
      remote taking {} ⟨"sips", "é%/"⟩ [47, 97]).Ends ⟨threeBytes, 0, {}⟩
        (.ok ⟨"sips", "é%/", 3, none⟩) w' := ⟨_, by decide +kernel, rfl⟩
  have hfound : threeBytes.stat true [47, 97] =
      .ok ([[97]], .file ⟨0o644, .plain [1, 2, 3]⟩) := by rfl
  obtain ⟨-, hsent, -⟩ := remote_sends_once hbucket hends
  obtain ⟨sent, rfl, -, hputs, hreceipt, -⟩ := hsent _ _ hfound
  obtain ⟨-, -, -, q, headers, rfl, -⟩ := hreceipt _ rfl
  exact ⟨hbucket, _, q, hends, rfl, hputs q (List.mem_singleton_self q)⟩

end Storage
end SparseTransfer
