import SparseTransfer.Proofs.Text.Ascii
import SparseTransfer.Proofs.Text.Utf8
import SparseTransfer.Proofs.UploadTarget
import SparseTransfer.Storage.Request
import SparseTransfer.Url.Host

/- The path that a request names. Decoding it gives back the text of the target, byte for byte, so
no two targets have one path. -/
namespace SparseTransfer
open Host Text

theorem percentDecode_kept {b : UInt8} (hb : b ≠ 0x25) (rest : Bytes) :
    percentDecode (b :: rest) = b :: percentDecode rest := by
  rw [percentDecode]
  rintro _ _ _ rfl
  exact absurd rfl hb

theorem percentDecode_digits {a b : UInt8} {x y : Nat} (rest : Bytes)
    (ha : hexDigit? (Char.ofNat a.toNat) = some x) (hb : hexDigit? (Char.ofNat b.toNat) = some y) :
    percentDecode (0x25 :: a :: b :: rest) = (16 * x + y).toUInt8 :: percentDecode rest := by
  rw [percentDecode, ha, hb]

/-- The upper-case digits of base sixteen are characters of one byte, and are read as what they
write. -/
theorem encodeChar_hexDigit : ∀ n < 16, ∃ b, Utf8.encodeChar (Nat.digitChar n).toUpper = [b] ∧
    hexDigit? (Char.ofNat b.toNat) = some n := by
  intro n hn
  refine ⟨Utf8.byteOf (Nat.digitChar n).toUpper, ?_⟩
  revert n
  decide

theorem isKeptInPath_percent : isKeptInPath 0x25 = false := by decide

theorem toNat_lt_of_isKeptInPath {b : UInt8} (h : isKeptInPath b = true) : b.toNat < 0x80 := by
  rw [isKeptInPath, Bool.and_eq_true, decide_eq_true_eq] at h
  exact UInt8.lt_iff_toNat_lt.1 h.1

/-- One byte is read back, whatever follows. -/
theorem percentDecode_encodeByte (b : UInt8) (rest : Bytes) :
    percentDecode (Utf8.encode (percentEncodeByte b) ++ rest) = b :: percentDecode rest := by
  rw [percentEncodeByte]
  split
  · next hkept =>
    have hb : b ≠ 0x25 := by
      rintro rfl
      rw [isKeptInPath_percent] at hkept
      cases hkept
    rw [Utf8.encode_cons, Utf8.encode_nil, Utf8.encodeChar_one (toNat_lt_of_isKeptInPath hkept)]
    exact percentDecode_kept hb rest
  · have hbound := b.toNat_lt
    obtain ⟨high, hhigh, hx⟩ := encodeChar_hexDigit (b.toNat / 16) (by omega)
    obtain ⟨low, hlow, hy⟩ := encodeChar_hexDigit (b.toNat % 16) (by omega)
    have hpercent : Utf8.encodeChar '%' = [0x25] := by decide
    have hbyte : (16 * (b.toNat / 16) + b.toNat % 16).toUInt8 = b := by
      rw [Nat.div_add_mod]
      exact UInt8.ofNat_toNat
    simp only [Utf8.encode_cons, Utf8.encode_nil, hpercent, hhigh, hlow, List.cons_append,
      List.nil_append]
    rw [percentDecode_digits rest hx hy, hbyte]

theorem percentDecode_encodeBytes (b rest : Bytes) :
    percentDecode (Utf8.encode (b.flatMap percentEncodeByte) ++ rest) =
      b ++ percentDecode rest := by
  induction b with
  | nil => rfl
  | cons first b ih =>
    rw [List.flatMap_cons, Utf8.encode_append, List.append_assoc, percentDecode_encodeByte, ih]
    rfl

theorem percentDecode_percentEncode (b : Bytes) :
    percentDecode (Utf8.bytes (percentEncode b)) = b := by
  rw [Utf8.bytes, percentEncode, String.toList_ofList]
  simpa [percentDecode] using percentDecode_encodeBytes b []

namespace Request

/-- What the request asks for is that the content be put in the target's place. The content goes out
as it is, and the path alone names the target. -/
structure Puts (target : UploadTarget) (content : Content) (r : Request) : Prop where
  method : r.method = "PUT"
  contentType : r.contentType = "application/zip"
  body : r.body = content
  plain : r.checksummed = false
  subdomain : r.subdomain = none
  path : percentDecode (Utf8.bytes r.path) = Utf8.bytes ("/" ++ target.text)

theorem puts_put (s : StorageSettings) (target : UploadTarget) (content : Content) :
    (put s.client target content).Puts target content where
  method := rfl
  contentType := rfl
  body := rfl
  plain := rfl
  subdomain := rfl
  path := percentDecode_percentEncode _

theorem Puts.target_eq {target target' : UploadTarget} {content content' : Content} {r r' : Request}
    (h : r.Puts target content) (h' : r'.Puts target' content')
    (hbucket : '/' ∉ target.bucket.toList) (hbucket' : '/' ∉ target'.bucket.toList)
    (hpath : r.path = r'.path) : target = target' := by
  have htext : "/" ++ target.text = "/" ++ target'.text := by
    rw [← Utf8.bytes_inj, ← h.path, ← h'.path, hpath]
  rw [← String.toList_inj, String.toList_append, String.toList_append, List.append_cancel_left_eq,
    UploadTarget.toList_text, UploadTarget.toList_text] at htext
  obtain ⟨hbuckets, hkeys⟩ := append_cons_inj hbucket hbucket' htext
  cases target
  cases target'
  rw [UploadTarget.mk.injEq]
  exact ⟨String.toList_inj.1 hbuckets, String.toList_inj.1 hkeys⟩

/-- The target that the path of a request names. -/
def target? (r : Request) : Option UploadTarget :=
  match Utf8.decode? (percentDecode (Utf8.bytes r.path)) with
  | some ('/' :: text) => (UploadTarget.parse (String.ofList text)).toOption
  | _ => none

end Request
end SparseTransfer
