import SparseTransfer.Archive.Checksum
import SparseTransfer.Archive.Entry

/- The bytes of an archive file: a record for each entry, a directory of all entries, and an end
record. Contents are written as deflate streams of stored blocks. -/
namespace SparseTransfer.Archive

/-- The lowest byte first. -/
def littleEndian : (width value : Nat) → Bytes
  | 0, _ => []
  | width + 1, value => value.toUInt8 :: littleEndian width (value / 256)

/-- Numbers with their widths in bytes. -/
def fields (values : List (Nat × Nat)) : Bytes :=
  values.flatMap fun (width, value) => littleEndian width value

def blockSize : Nat := 0xFFFF

/-- A stored block: whether it is the last, its length twice, the second time inverted, and its
bytes. -/
def storedBlock (last : Bool) (content : Bytes) : Bytes :=
  fields [(1, if last then 1 else 0), (2, content.length), (2, 0xFFFF - content.length)] ++ content

/-- A deflate stream with the given content. -/
def storedBlocks : (blocks : Nat) → Bytes → Bytes
  | 0, content => storedBlock true content
  | blocks + 1, content =>
    storedBlock false (content.take blockSize) ++ storedBlocks blocks (content.drop blockSize)

def deflated (content : Bytes) : Bytes :=
  storedBlocks ((content.length - 1) / blockSize) content

def deflateMethod : Nat := 8

/-- Version, flags, method, time, date, checksum, sizes and name length: what the record of an entry
and its place in the directory share. Bit 11 of the flags says that the name is UTF-8. -/
def commonFields (e : Entry) : List (Nat × Nat) :=
  [(2, 20), (2, 0x800), (2, deflateMethod), (2, 0), (2, 0x21), (4, (checksum e.content).toNat),
    (4, (deflated e.content).length), (4, e.content.length),
    (2, (Utf8.bytes e.name).length), (2, 0)]

def entryRecord (e : Entry) : Bytes :=
  fields ((4, 0x04034B50) :: commonFields e) ++ Utf8.bytes e.name ++ deflated e.content

/-- The place of an entry in the directory; `offset` is where its record begins. -/
def directoryRecord (offset : Nat) (e : Entry) : Bytes :=
  fields ([(4, 0x02014B50), (2, 0x0314)] ++ commonFields e ++
    [(2, 0), (2, 0), (2, 0), (4, e.mode * 0x10000), (4, offset)]) ++ Utf8.bytes e.name

/-- The directory of entries of which the first begins at `offset`. -/
def directory : (offset : Nat) → List Entry → Bytes
  | _, [] => []
  | offset, e :: rest =>
    directoryRecord offset e ++ directory (offset + (entryRecord e).length) rest

def endRecord (count size offset : Nat) : Bytes :=
  fields [(4, 0x06054B50), (2, 0), (2, 0), (2, count), (2, count), (4, size), (4, offset), (2, 0)]

def image (entries : List Entry) : Bytes :=
  let records := entries.flatMap entryRecord
  let dir := directory 0 entries
  records ++ dir ++ endRecord entries.length dir.length records.length

theorem length_littleEndian (width value : Nat) : (littleEndian width value).length = width := by
  induction width generalizing value with
  | zero => rfl
  | succ width ih => simp [littleEndian, ih]

theorem length_endRecord (count size offset : Nat) : (endRecord count size offset).length = 22 := by
  simp [endRecord, fields, length_littleEndian]

/-- Even an archive without entries has bytes. -/
theorem length_image_pos (entries : List Entry) : 0 < (image entries).length := by
  simp only [image, List.length_append, length_endRecord]
  omega

end SparseTransfer.Archive
