import SparseTransfer.Text.Utf8

/- The checksum of 32 bits that archives keep of every entry. -/
namespace SparseTransfer.Archive

/-- The polynomial, the lowest power in the highest bit. -/
def polynomial : UInt32 := 0xEDB88320

/-- Divides by the polynomial for `bits` bits. -/
def reduce : (bits : Nat) → UInt32 → UInt32
  | 0, r => r
  | bits + 1, r => reduce bits (if r &&& 1 = 1 then (r >>> 1) ^^^ polynomial else r >>> 1)

def checksum (content : Bytes) : UInt32 :=
  (content.foldl (fun r b => reduce 8 (r ^^^ b.toUInt32)) 0xFFFFFFFF) ^^^ 0xFFFFFFFF

end SparseTransfer.Archive
