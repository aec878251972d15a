import SparseTransfer.Action
import SparseTransfer.Git.Call
import SparseTransfer.Storage.Request

/- What a transfer does outside its files: what it asks of git, what it hands to a storage, and what
leaves over the network. -/
namespace SparseTransfer

structure Ledger where
  calls : List (GitCall × GitReply) := []
  /-- The archives that a storage was asked to take. -/
  puts : List (UploadTarget × Path) := []
  /-- The objects that a storage keeps. -/
  stored : List (UploadTarget × Content) := []
  requests : List Request := []
  deriving Repr, DecidableEq

namespace Ledger

/-- Asks git for something. Nothing is started if an argument cannot be handed over. -/
def askGit (git : Git) (c : GitCall) : Action (World Ledger) GitReply := fun w =>
  let (files, reply) :=
    if c.hasNul then (w.files, .notStarted .nulInArgument)
    else git (w.own.calls.map (·.1)) c w.files
  ⟨.ok reply, { w with files, own := { w.own with calls := w.own.calls ++ [(c, reply)] } }, []⟩

def send (network : Network) (r : Request) : Action (World Ledger) Exchange := fun w =>
  let exchange := network r
  let requests := if exchange.wasSent then w.own.requests ++ [r] else w.own.requests
  ⟨.ok exchange, { w with own := { w.own with requests } }, []⟩

/-- Sends a request, and sends it again as often as it may be while it is not accepted. -/
def sendUntilAccepted (network : Network) (r : Request) : Nat → Action (World Ledger) Exchange
  | 0 => send network r
  | again + 1 => do
    let exchange ← send network r
    match exchange.accepted with
    | .ok _ => return exchange
    | .error _ => sendUntilAccepted network r again

/-- Notes that a storage is asked to take an archive. -/
def notePut (target : UploadTarget) (path : Path) : Action (World Ledger) Unit :=
  Action.modify fun w => { w with own := { w.own with puts := w.own.puts ++ [(target, path)] } }

def keep (target : UploadTarget) (content : Content) : Action (World Ledger) Unit :=
  Action.modify fun w =>
    { w with own := { w.own with stored := w.own.stored ++ [(target, content)] } }

end Ledger
end SparseTransfer
