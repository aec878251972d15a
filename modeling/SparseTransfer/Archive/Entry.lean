import SparseTransfer.Text.Utf8

/- The entries of an archive. -/
namespace SparseTransfer.Archive

structure Entry where
  name : String
  permissions : Nat
  content : Bytes
  deriving Repr, DecidableEq

/-- The mode of an entry: a regular file with its permissions. -/
def Entry.mode (e : Entry) : Nat := 0o100000 ||| (e.permissions &&& 0o777)

end SparseTransfer.Archive
