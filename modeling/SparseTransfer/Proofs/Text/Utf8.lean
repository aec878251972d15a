import SparseTransfer.Text.Utf8

/- What is read from bytes keeps all of them, and bytes that can be read as text are the bytes of
that text: a text is spelled in one way only, and read back from its bytes. -/
namespace SparseTransfer.Utf8

theorem toNat_ofNat {n : Nat} (h : n.isValidChar) : (Char.ofNat n).toNat = n := by
  rw [Char.ofNat, dif_pos h]
  rfl

variable {a b c d : UInt8}

theorem toUInt8_eq_iff {n : Nat} : n.toUInt8 = b ↔ n % 0x100 = b.toNat := by
  rw [← UInt8.toNat_inj]
  simp

theorem encodeChar_one (ha : a.toNat < 0x80) : encodeChar (Char.ofNat a.toNat) = [a] := by
  rw [encodeChar, toNat_ofNat (Or.inl (by omega)), if_pos ha]
  simp

theorem encodeChar_two (ha : 0xC2 ≤ a.toNat) (ha' : a.toNat < 0xE0) (hb : 0x80 ≤ b.toNat)
    (hb' : b.toNat ≤ 0xBF) :
    encodeChar (Char.ofNat ((a.toNat - 0xC0) * 0x40 + (b.toNat - 0x80))) = [a, b] := by
  rw [encodeChar, toNat_ofNat (Or.inl (by omega)), if_neg (by omega), if_pos (by omega)]
  simp only [List.cons.injEq, toUInt8_eq_iff, and_true]
  omega

/-- The second byte keeps out overlong forms and surrogates. -/
theorem encodeChar_three (ha : 0xE0 ≤ a.toNat) (ha' : a.toNat < 0xF0) (hb : 0x80 ≤ b.toNat)
    (hb' : b.toNat ≤ 0xBF) (hlow : a.toNat = 0xE0 → 0xA0 ≤ b.toNat)
    (hhigh : a.toNat = 0xED → b.toNat ≤ 0x9F) (hc : 0x80 ≤ c.toNat) (hc' : c.toNat ≤ 0xBF) :
    encodeChar (Char.ofNat
        (((a.toNat - 0xE0) * 0x40 + (b.toNat - 0x80)) * 0x40 + (c.toNat - 0x80))) = [a, b, c] := by
  have hvalid : (((a.toNat - 0xE0) * 0x40 + (b.toNat - 0x80)) * 0x40 +
      (c.toNat - 0x80)).isValidChar := by
    rw [Nat.isValidChar]
    omega
  rw [encodeChar, toNat_ofNat hvalid, if_neg (by omega), if_neg (by omega), if_pos (by omega)]
  simp only [List.cons.injEq, toUInt8_eq_iff, and_true]
  omega

/-- The second byte keeps out overlong forms and numbers above the last character. -/
theorem encodeChar_four (ha : 0xF0 ≤ a.toNat) (ha' : a.toNat < 0xF5) (hb : 0x80 ≤ b.toNat)
    (hb' : b.toNat ≤ 0xBF) (hlow : a.toNat = 0xF0 → 0x90 ≤ b.toNat)
    (hhigh : a.toNat = 0xF4 → b.toNat ≤ 0x8F) (hc : 0x80 ≤ c.toNat) (hc' : c.toNat ≤ 0xBF)
    (hd : 0x80 ≤ d.toNat) (hd' : d.toNat ≤ 0xBF) :
    encodeChar (Char.ofNat ((((a.toNat - 0xF0) * 0x40 + (b.toNat - 0x80)) * 0x40 +
        (c.toNat - 0x80)) * 0x40 + (d.toNat - 0x80))) = [a, b, c, d] := by
  have hvalid : ((((a.toNat - 0xF0) * 0x40 + (b.toNat - 0x80)) * 0x40 + (c.toNat - 0x80)) * 0x40 +
      (d.toNat - 0x80)).isValidChar := by
    rw [Nat.isValidChar]
    omega
  rw [encodeChar, toNat_ofNat hvalid, if_neg (by omega), if_neg (by omega), if_neg (by omega)]
  simp only [List.cons.injEq, toUInt8_eq_iff, and_true]
  omega

/-- However a character goes on of which `read` has been read, what is read is its bytes. -/
def Completes (bits : Nat) (read : Bytes) : UInt8 × UInt8 → List (UInt8 × UInt8) → Prop
  | next, [] => ∀ b : UInt8, next.1 ≤ b → b ≤ next.2 →
    encodeChar (Char.ofNat (bits * 0x40 + (b.toNat - 0x80))) = read ++ [b]
  | next, next' :: later => ∀ b : UInt8, next.1 ≤ b → b ≤ next.2 →
    Completes (bits * 0x40 + (b.toNat - 0x80)) (read ++ [b]) next' later

/-- The bytes that were read as a piece. -/
def Piece.bytes : Piece → Bytes
  | .char c => encodeChar c
  | .stray bytes => bytes

/-- The bytes of a character that has been opened. -/
def readOf : Option Opened → Bytes
  | none => []
  | some p => p.read

/-- What is so behind some bytes: the pieces read from them are these bytes, but for those that have
opened a character, and that goes on as a character. -/
structure Spelled (read : Bytes) (after : List Piece × Option Opened) : Prop where
  bytes : after.1.flatMap Piece.bytes ++ readOf after.2 = read
  completes : ∀ p, after.2 = some p → Completes p.bits p.read p.next p.later

theorem Spelled.of_char {read : Bytes} {ch : Char} (h : encodeChar ch = read) :
    Spelled read ([.char ch], none) :=
  ⟨by simpa [Piece.bytes, readOf] using h, fun p hp => by cases hp⟩

theorem Spelled.of_opened {read : Bytes} (p : Opened) (hread : p.read = read)
    (h : Completes p.bits p.read p.next p.later) : Spelled read ([], some p) := by
  refine ⟨hread, fun q hq => ?_⟩
  cases hq
  exact h

theorem Spelled.of_stray (read : Bytes) : Spelled read ([.stray read], none) :=
  ⟨by simp [Piece.bytes, readOf], fun p hp => by cases hp⟩

/-- What breaks off before some bytes is read, and then they are. -/
theorem Spelled.after_stray {read more : Bytes} {pieces : List Piece} {p : Option Opened}
    (h : Spelled more (pieces, p)) : Spelled (read ++ more) (.stray read :: pieces, p) := by
  refine ⟨?_, h.completes⟩
  rw [List.flatMap_cons, List.append_assoc, h.bytes]
  rfl

theorem bounds_of_continuation (hb : continuation.1 ≤ b) (hb' : b ≤ continuation.2) :
    0x80 ≤ b.toNat ∧ b.toNat ≤ 0xBF := ⟨hb, hb'⟩

/-- The range of a byte that is narrowed at one end behind each of two bytes. -/
theorem bounds_of_second {n low high : Nat} {lowRange highRange : UInt8 × UInt8}
    (hlow : 0x80 ≤ lowRange.1.toNat ∧ lowRange.2.toNat ≤ 0xBF)
    (hhigh : 0x80 ≤ highRange.1.toNat ∧ highRange.2.toNat ≤ 0xBF) (hne : low ≠ high)
    (hb : (if n = low then lowRange else if n = high then highRange else continuation).1 ≤ b)
    (hb' : b ≤ (if n = low then lowRange else if n = high then highRange else continuation).2) :
    (0x80 ≤ b.toNat ∧ b.toNat ≤ 0xBF) ∧ (n = low → lowRange.1.toNat ≤ b.toNat) ∧
      (n = high → b.toNat ≤ highRange.2.toNat) := by
  split at hb
  · next hn =>
    rw [if_pos hn] at hb'
    exact ⟨⟨Nat.le_trans hlow.1 hb, Nat.le_trans hb' hlow.2⟩, fun _ => hb,
      fun h => absurd (hn.symm.trans h) hne⟩
  · next hn =>
    rw [if_neg hn] at hb'
    split at hb
    · next hn' =>
      rw [if_pos hn'] at hb'
      exact ⟨⟨Nat.le_trans hhigh.1 hb, Nat.le_trans hb' hhigh.2⟩, fun h => absurd h hn,
        fun _ => hb'⟩
    · next hn' =>
      rw [if_neg hn'] at hb'
      exact ⟨⟨hb, hb'⟩, fun h => absurd h hn, fun h => absurd h hn'⟩

theorem spelled_lead (a : UInt8) : Spelled [a] (lead a) := by
  unfold lead
  dsimp only
  split
  · next ha => exact .of_char (encodeChar_one ha)
  split
  · exact .of_stray _
  split
  · refine .of_opened _ rfl fun b hb hb' => ?_
    obtain ⟨hlow, hhigh⟩ := bounds_of_continuation hb hb'
    exact encodeChar_two (by omega) (by omega) hlow hhigh
  split
  · refine .of_opened _ rfl fun b hb hb' c hc hc' => ?_
    obtain ⟨⟨hlow, hhigh⟩, hoverlong, hsurrogate⟩ :=
      bounds_of_second (by decide) (by decide) (by decide) hb hb'
    obtain ⟨hlow', hhigh'⟩ := bounds_of_continuation hc hc'
    exact encodeChar_three (by omega) (by omega) hlow hhigh hoverlong hsurrogate hlow' hhigh'
  split
  · refine .of_opened _ rfl fun b hb hb' c hc hc' d hd hd' => ?_
    obtain ⟨⟨hlow, hhigh⟩, hoverlong, hlast⟩ :=
      bounds_of_second (by decide) (by decide) (by decide) hb hb'
    obtain ⟨hlow', hhigh'⟩ := bounds_of_continuation hc hc'
    obtain ⟨hlow'', hhigh''⟩ := bounds_of_continuation hd hd'
    exact encodeChar_four (by omega) (by omega) hlow hhigh hoverlong hlast hlow' hhigh' hlow''
      hhigh''
  · exact .of_stray _

theorem spelled_follow {p : Opened} (hp : Completes p.bits p.read p.next p.later) (b : UInt8) :
    Spelled (p.read ++ [b]) (follow p b) := by
  obtain ⟨bits, next, later, read⟩ := p
  unfold follow
  split
  · next hb =>
    rw [Bool.and_eq_true, decide_eq_true_eq, decide_eq_true_eq] at hb
    cases later with
    | nil => exact .of_char (hp b hb.1 hb.2)
    | cons next' later => exact .of_opened _ rfl (hp b hb.1 hb.2)
  · exact (spelled_lead b).after_stray

/-- No byte is lost: the pieces of a text are its bytes. -/
theorem bytes_piecesFrom (text : Bytes) {p : Option Opened}
    (hp : ∀ q, p = some q → Completes q.bits q.read q.next q.later) :
    (piecesFrom p text).flatMap Piece.bytes = readOf p ++ text := by
  induction text generalizing p with
  | nil => cases p <;> simp [piecesFrom, Piece.bytes, readOf]
  | cons b rest ih =>
    -- what follows a byte is kept as far as the rest is
    have hstep {read : Bytes} {after : List Piece × Option Opened} (hafter : Spelled read after) :
        (after.1 ++ piecesFrom after.2 rest).flatMap Piece.bytes = read ++ rest := by
      rw [List.flatMap_append, ih hafter.completes, ← List.append_assoc, hafter.bytes]
    cases p with
    | none => exact hstep (spelled_lead b)
    | some q =>
      have hfollow := hstep (spelled_follow (hp q rfl) b)
      rw [List.append_assoc] at hfollow
      exact hfollow

theorem bytes_pieces (b : Bytes) : (pieces b).flatMap Piece.bytes = b :=
  bytes_piecesFrom b fun q hq => by cases hq

theorem map_char_of_mapM {ps : List Piece} {cs : List Char}
    (h : (ps.mapM fun | .char c => some c | .stray _ => none) = some cs) : ps = cs.map .char := by
  induction ps generalizing cs with
  | nil =>
    cases h
    rfl
  | cons p ps ih =>
    cases p with
    | stray bytes => cases h
    | char c =>
      rw [List.mapM_cons] at h
      obtain ⟨_, ⟨⟩, hrest⟩ := Option.bind_eq_some_iff.1 h
      obtain ⟨cs', hcs', hcons⟩ := Option.bind_eq_some_iff.1 hrest
      cases hcons
      rw [ih hcs', List.map_cons]

/-- Bytes that can be read as text are the bytes of that text. -/
theorem encode_of_decode? {b : Bytes} {text : List Char} (h : decode? b = some text) :
    b = encode text := by
  rw [← bytes_pieces b, map_char_of_mapM h, List.flatMap_map]
  rfl

/-- Bytes that can be read as text are shown as that text. -/
theorem decodeLossy_of_decode? {b : Bytes} {text : List Char} (h : decode? b = some text) :
    decodeLossy b = text := by
  rw [decodeLossy, map_char_of_mapM h, List.map_map]
  exact List.map_id _

theorem encode_decodeLossy {b : Bytes} (h : (decode? b).isSome = true) :
    encode (decodeLossy b) = b := by
  obtain ⟨text, htext⟩ := Option.isSome_iff_exists.1 h
  rw [decodeLossy_of_decode? htext]
  exact (encode_of_decode? htext).symm

theorem decodeLossy_eq_nil {b : Bytes} (h : decodeLossy b = []) : b = [] := by
  rw [← bytes_pieces b, List.map_eq_nil_iff.1 h]
  rfl

/-- A character that is shown and does not replace anything has been read. -/
theorem mem_of_mem_decodeLossy {b : Bytes} {ch : Char} (hne : ch ≠ '\uFFFD')
    (h : ch ∈ decodeLossy b) {byte : UInt8} (hbyte : byte ∈ encodeChar ch) : byte ∈ b := by
  obtain ⟨piece, hpiece, hlossy⟩ := List.mem_map.1 h
  rw [← bytes_pieces b]
  refine List.mem_flatMap.2 ⟨piece, hpiece, ?_⟩
  cases piece with
  | char read =>
    cases hlossy
    exact hbyte
  | stray bytes => exact absurd hlossy.symm hne

theorem toNat_toUInt8 {n : Nat} (h : n < 0x100) : n.toUInt8.toNat = n := by
  rw [← (toUInt8_eq_iff (b := n.toUInt8)).1 rfl, Nat.mod_eq_of_lt h]

/-- A byte in its range goes on with the character; the last one completes it. -/
theorem piecesFrom_follow {bits n : Nat} {next : UInt8 × UInt8} (later : List (UInt8 × UInt8))
    (read rest : Bytes) (hn : n < 0x40) (hlow : next.1.toNat ≤ 0x80 + n)
    (hhigh : 0x80 + n ≤ next.2.toNat) :
    piecesFrom (some ⟨bits, next, later, read⟩) ((0x80 + n).toUInt8 :: rest) = match later with
      | [] => .char (Char.ofNat (bits * 0x40 + n)) :: piecesFrom none rest
      | next :: later =>
        piecesFrom (some ⟨bits * 0x40 + n, next, later, read ++ [(0x80 + n).toUInt8]⟩) rest := by
  have hbyte : (0x80 + n).toUInt8.toNat = 0x80 + n := toNat_toUInt8 (by omega)
  have hin : (decide (next.1 ≤ (0x80 + n).toUInt8) && decide ((0x80 + n).toUInt8 ≤ next.2)) =
      true := by
    simp only [UInt8.le_iff_toNat_le, hbyte, Bool.and_eq_true, decide_eq_true_eq]
    exact ⟨hlow, hhigh⟩
  rw [piecesFrom, follow, if_pos hin, hbyte, Nat.add_sub_cancel_left]
  cases later <;> rfl

/-- The second byte of a longer character is in its range, which is narrowed behind two bytes. -/
theorem second_inRange {m n : Nat} (low high : Nat) (lowRange highRange : UInt8 × UInt8)
    (hn : n < 0x40) (hlow : m = low → lowRange.1.toNat ≤ 0x80 + n ∧ lowRange.2.toNat = 0xBF)
    (hhigh : m = high → highRange.1.toNat = 0x80 ∧ 0x80 + n ≤ highRange.2.toNat) :
    (if m = low then lowRange else if m = high then highRange else continuation).1.toNat ≤
        0x80 + n ∧
      0x80 + n ≤
        (if m = low then lowRange else if m = high then highRange else continuation).2.toNat := by
  have hcontinuation : continuation.1.toNat = 0x80 ∧ continuation.2.toNat = 0xBF := by decide
  split
  · next hm =>
    have := hlow hm
    omega
  · split
    · next hm =>
      have := hhigh hm
      omega
    · omega

/-- The bytes of a character are read as the character. -/
theorem piecesFrom_encodeChar (c : Char) (rest : Bytes) :
    piecesFrom none (encodeChar c ++ rest) = .char c :: piecesFrom none rest := by
  have hvalid : c.toNat < 0xD800 ∨ 0xDFFF < c.toNat ∧ c.toNat < 0x110000 := c.valid
  have hchar {n : Nat} (h : n = c.toNat) : Char.ofNat n = c := by rw [h, Char.ofNat_toNat]
  have hmod (n : Nat) : n % 0x40 < 0x40 := Nat.mod_lt n (by decide)
  have hcontinuation (n : Nat) : continuation.1.toNat ≤ 0x80 + n % 0x40 ∧
      0x80 + n % 0x40 ≤ continuation.2.toNat :=
    ⟨Nat.le_add_right _ _, Nat.add_le_add_left (Nat.le_of_lt_succ (hmod n)) _⟩
  rw [encodeChar]
  split
  · next hn =>
    rw [List.singleton_append, piecesFrom, lead, toNat_toUInt8 (by omega), if_pos hn, hchar rfl]
    rfl
  split
  · have hlead := toNat_toUInt8 (n := 0xC0 + c.toNat / 0x40) (by omega)
    obtain ⟨hlow, hhigh⟩ := hcontinuation c.toNat
    rw [List.cons_append, List.singleton_append, piecesFrom, lead, hlead, if_neg (by omega),
      if_neg (by omega), if_pos (by omega)]
    refine (piecesFrom_follow [] _ rest (hmod _) hlow hhigh).trans ?_
    dsimp only
    rw [hchar (by omega)]
  split
  · have hlead := toNat_toUInt8 (n := 0xE0 + c.toNat / 0x1000) (by omega)
    have hsecond := second_inRange (m := 0xE0 + c.toNat / 0x1000) 0xE0 0xED
      (0xA0, 0xBF) (0x80, 0x9F) (hmod (c.toNat / 0x40))
      (fun _ => ⟨by change 0xA0 ≤ _; omega, rfl⟩) (fun _ => ⟨rfl, by change _ ≤ 0x9F; omega⟩)
    obtain ⟨hlow, hhigh⟩ := hcontinuation c.toNat
    rw [List.cons_append, List.cons_append, List.singleton_append, piecesFrom, lead, hlead,
      if_neg (by omega), if_neg (by omega), if_neg (by omega), if_pos (by omega)]
    refine (piecesFrom_follow [continuation] _ _ (hmod _) hsecond.1 hsecond.2).trans ?_
    refine (piecesFrom_follow [] _ rest (hmod _) hlow hhigh).trans ?_
    dsimp only
    rw [hchar (by omega)]
  · have hlead := toNat_toUInt8 (n := 0xF0 + c.toNat / 0x40000) (by omega)
    have hsecond := second_inRange (m := 0xF0 + c.toNat / 0x40000) 0xF0 0xF4
      (0x90, 0xBF) (0x80, 0x8F) (hmod (c.toNat / 0x1000))
      (fun _ => ⟨by change 0x90 ≤ _; omega, rfl⟩) (fun _ => ⟨rfl, by change _ ≤ 0x8F; omega⟩)
    obtain ⟨hlow, hhigh⟩ := hcontinuation (c.toNat / 0x40)
    obtain ⟨hlow', hhigh'⟩ := hcontinuation c.toNat
    rw [List.cons_append, List.cons_append, List.cons_append, List.singleton_append,
      piecesFrom, lead, hlead, if_neg (by omega), if_neg (by omega), if_neg (by omega),
      if_neg (by omega), if_pos (by omega)]
    refine
      (piecesFrom_follow [continuation, continuation] _ _ (hmod _) hsecond.1 hsecond.2).trans ?_
    refine (piecesFrom_follow [continuation] _ _ (hmod _) hlow hhigh).trans ?_
    refine (piecesFrom_follow [] _ rest (hmod _) hlow' hhigh').trans ?_
    dsimp only
    rw [hchar (by omega)]

theorem pieces_encode (text : List Char) : pieces (encode text) = text.map .char := by
  rw [pieces]
  induction text with
  | nil => rfl
  | cons c text ih => rw [encode_cons, piecesFrom_encodeChar, ih, List.map_cons]

/-- A text is read back from its bytes. -/
theorem decode?_encode (text : List Char) : decode? (encode text) = some text := by
  rw [decode?, pieces_encode]
  induction text with
  | nil => rfl
  | cons c text ih => simp [List.mapM_cons, ih]

theorem bytes_inj {v w : String} : bytes v = bytes w ↔ v = w := by
  refine ⟨fun h => ?_, congrArg _⟩
  have hv := decode?_encode v.toList
  rw [show encode v.toList = encode w.toList from h, decode?_encode] at hv
  exact (String.toList_inj.1 (Option.some.inj hv)).symm

end SparseTransfer.Utf8
