import SparseTransfer.Proofs.Storage.Remote

/- Storages that fail, or hold from then on what is in the file that they are given. What a storage
over a network holds shows in the requests that were accepted. -/
namespace SparseTransfer

/-- The objects behind a network: the body of each request that was accepted, in the place that its
path names. -/
def Network.held (network : Network) (own : Ledger) : List (UploadTarget × Content) :=
  own.requests.filterMap fun q =>
    match (network q).accepted with
    | .ok _ => q.target?.map fun target => (target, q.body)
    | .error _ => none

namespace Network
variable {network : Network} {q : Request} {w : World Ledger}

end Network

namespace Storage

/-- A storage that fails, or holds from then on what is in the file that it is given for the target.
It leaves everything else alone, and what is asked of git or handed over is nothing to what it
holds. The receipt is not spoken of. -/
structure Faithful (storage : Storage) (target : UploadTarget)
    (held : Ledger → List (UploadTarget × Content)) : Prop where
  unmoved : ∀ (own : Ledger) (calls : List (GitCall × GitReply))
    (puts : List (UploadTarget × Path)), held { own with calls, puts } = held own
  leaves : ∀ {path : Path} {r : Except TransferError UploadReceipt} {w w' : World Ledger},
    (storage target path).Ends w r w' →
    w'.files = w.files ∧ w'.own.calls = w.own.calls ∧ w'.own.puts = w.own.puts
  keeps : ∀ {path : Path} {receipt : UploadReceipt} {w w' : World Ledger},
    (storage target path).Ends w (.ok receipt) w' → ∃ content, w.files.read path = .ok content ∧
      held w'.own = held w.own ++ [(target, content)]
  fails : ∀ {path : Path} {e : TransferError} {w w' : World Ledger},
    (storage target path).Ends w (.error e) w' → held w'.own = held w.own

section keeping
variable {eTag : Option String} {target : UploadTarget} {path : Path} {w w' : World Ledger}

theorem ends_keeping {r : Except TransferError UploadReceipt}
    (h : (keeping eTag target path).Ends w r w') :
    (∃ content, w.files.read path = .ok content ∧
      r = .ok ⟨target.bucket, target.key, content.size, eTag⟩ ∧
      w' = { w with own := { w.own with stored := w.own.stored ++ [(target, content)] } }) ∨
    (∃ e, r = .error e) ∧ w' = w := by
  rw [keeping, Action.ends_bind] at h
  rcases h with ⟨content, w₁, hread, h⟩ | ⟨e, hread, rfl⟩
  · obtain ⟨hcontent, rfl⟩ := World.ends_inspectFiles_ok.1 hread
    rw [Ledger.keep, Action.ends_modify_bind, Action.ends_pure] at h
    obtain ⟨rfl, rfl⟩ := h
    exact Or.inl ⟨content, hcontent, rfl, rfl⟩
  · obtain ⟨-, rfl⟩ := World.ends_inspectFiles.1 hread
    exact Or.inr ⟨⟨e, rfl⟩, rfl⟩

theorem faithful_keeping (eTag : Option String) (target : UploadTarget) :
    Faithful (keeping eTag) target Ledger.stored where
  unmoved _ _ _ := rfl
  leaves h := by
    rcases ends_keeping h with ⟨content, -, -, rfl⟩ | ⟨-, rfl⟩ <;> exact ⟨rfl, rfl, rfl⟩
  keeps h := by
    rcases ends_keeping h with ⟨content, hread, -, rfl⟩ | ⟨⟨e, hr⟩, -⟩
    · exact ⟨content, hread, rfl⟩
    · cases hr
  fails h := by
    rcases ends_keeping h with ⟨content, -, hr, -⟩ | ⟨-, rfl⟩
    · cases hr
    · rfl

end keeping

end Storage
end SparseTransfer
