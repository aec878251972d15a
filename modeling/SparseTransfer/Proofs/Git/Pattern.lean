import SparseTransfer.Proofs.Git.Operands
import SparseTransfer.Proofs.Pipeline

/- What the pattern of a checkout says: the lines of its file, and the path between the slashes of
the pattern. The path of the directory is put into it as it was given, so a path can be accepted
that stands for something else there. -/
namespace SparseTransfer
open Text SparseTransfer.Path

namespace SparseCheckout

/-- The path of the directory as the pattern has it, without slashes at its end. -/
def stem (dirPath : String) : List Char := trimEnd '/' dirPath.toList

section stem
variable {dirPath : String}

theorem toList_pattern (dirPath : String) :
    (pattern dirPath).toList = stem dirPath ++ ['/', '*', '\n'] := by
  rw [pattern, String.toList_append, String.toList_ofList]
  rfl

theorem exists_stem_append (dirPath : String) :
    ∃ n, dirPath.toList = stem dirPath ++ List.replicate n '/' :=
  ⟨_, eq_trimEnd_append '/' dirPath.toList⟩

theorem mem_stem {c : Char} (hc : c ≠ '/') : c ∈ stem dirPath ↔ c ∈ dirPath.toList := by
  obtain ⟨n, hstem⟩ := exists_stem_append dirPath
  rw [hstem, List.mem_append, List.mem_replicate]
  exact ⟨Or.inl, fun h => h.resolve_right fun hslash => hc hslash.2⟩

theorem stem_ne_nil (h : IsBelow dirPath) : stem dirPath ≠ [] := by
  obtain ⟨n, hstem⟩ := exists_stem_append dirPath
  intro hnil
  rw [hnil, List.nil_append] at hstem
  cases n with
  | zero => exact h.ne_empty (String.toList_eq_nil_iff.1 hstem)
  | succ n => exact h.relative (by rw [hstem]; rfl)

theorem head?_stem (h : IsBelow dirPath) : (stem dirPath).head? = dirPath.toList.head? := by
  obtain ⟨n, hstem⟩ := exists_stem_append dirPath
  rw [hstem, List.head?_append_of_ne_nil _ (stem_ne_nil h)]

/-- A file with one line, ended by a newline, that is neither a comment nor takes files out of the
checkout. -/
def OneInclusion (content : Bytes) : Prop :=
  ∃ line, content = line ++ [Utf8.byteOf '\n'] ∧ Utf8.byteOf '\n' ∉ line ∧
    line.head? ≠ some (Utf8.byteOf '#') ∧ line.head? ≠ some (Utf8.byteOf '!')

theorem bytes_pattern (dirPath : String) : Utf8.bytes (pattern dirPath) =
    Utf8.encode (stem dirPath ++ ['/', '*']) ++ [Utf8.byteOf '\n'] := by
  rw [Utf8.bytes, toList_pattern, Utf8.encode, Utf8.encode, List.flatMap_append,
    List.flatMap_append, List.append_assoc]
  rfl

theorem oneInclusion_iff (h : IsBelow dirPath) : OneInclusion (Utf8.bytes (pattern dirPath)) ↔
    '\n' ∉ dirPath.toList ∧ dirPath.toList.head? ≠ some '#' ∧ dirPath.toList.head? ≠ some '!' := by
  have hnewline : Utf8.byteOf '\n' ∈ Utf8.encode (stem dirPath ++ ['/', '*']) ↔
      '\n' ∈ dirPath.toList := by
    rw [Utf8.mem_encode (by decide), List.mem_append, mem_stem (by decide)]
    exact or_iff_left (by decide)
  have hhead {a : Char} (ha : a.toNat < 0x80) :
      (Utf8.encode (stem dirPath ++ ['/', '*'])).head? = some (Utf8.byteOf a) ↔
        dirPath.toList.head? = some a := by
    rw [Utf8.head?_encode ha, List.head?_append_of_ne_nil _ (stem_ne_nil h), head?_stem h]
  rw [← hnewline, Ne, Ne, ← hhead (a := '#') (by decide), ← hhead (a := '!') (by decide),
    bytes_pattern]
  constructor
  · rintro ⟨line, heq, hline⟩
    rwa [List.append_cancel_right heq]
  · exact fun hline => ⟨_, rfl, hline⟩

/-- The lines of the pattern's file, each ended by a newline. -/
theorem split_bytes_pattern (dirPath : String) :
    split (· == Utf8.byteOf '\n') (Utf8.bytes (pattern dirPath)) =
      (split (· == '\n') (stem dirPath ++ ['/', '*'])).map Utf8.encode ++ [[]] := by
  rw [bytes_pattern, @split_append_cons _ (· == Utf8.byteOf '\n') _ (beq_self_eq_true _),
    Utf8.split_encode (by decide)]
  rfl

end stem
end SparseCheckout

open SparseCheckout Pipeline

/-- The file that restricts a checkout to an accepted path has the path in it as it is: its lines
are those of the path, with the last made to end in a wildcard. It is one pattern that takes files
in exactly if the path has no newline and begins with neither of the characters that git treats
specially. -/
theorem pattern_oneInclusion_iff {field : String} {c : SparseCheckout}
    (haccepted : Rules.checkRelativePath field c.dirPath = .ok ()) :
    (∀ {dest : Path} {w : World Ledger} {fs : FileSystem},
      ((c.writePattern dest).run w).result = .ok () →
      w.files.createDirAll (infoDir dest) = .ok fs → fs.at? (fs.start dest) = some .directory →
      c.HasPattern dest ((c.writePattern dest).run w).state.files) ∧
    split (· == Utf8.byteOf '\n') (Utf8.bytes (pattern c.dirPath)) =
      (split (· == '\n') (stem c.dirPath ++ ['/', '*'])).map Utf8.encode ++ [[]] ∧
    (OneInclusion (Utf8.bytes (pattern c.dirPath)) ↔ '\n' ∉ c.dirPath.toList ∧
      c.dirPath.toList.head? ≠ some '#' ∧ c.dirPath.toList.head? ≠ some '!') := by
  refine ⟨fun {dest w fs} hok hmake hstart => ?_, split_bytes_pattern c.dirPath,
    oneInclusion_iff (Rules.checkRelativePath_eq_ok_iff.1 haccepted)⟩
  obtain ⟨-, fs', hmake', hwrite⟩ := ends_writePattern_ok ⟨hok, rfl⟩
  cases hmake.symm.trans hmake'
  exact hasPattern_of_write hstart hwrite

def docsCheckout : SparseCheckout := ⟨"u", "b", "docs/a"⟩

theorem pattern_oneInclusion_iff_docs :
    ((docsCheckout.writePattern [47, 114]).run ⟨FileSystem.empty, 0, {}⟩).result = .ok () ∧
      docsCheckout.HasPattern [47, 114]
        ((docsCheckout.writePattern [47, 114]).run ⟨FileSystem.empty, 0, {}⟩).state.files ∧
      OneInclusion (Utf8.bytes (pattern docsCheckout.dirPath)) := by
  have haccepted : Rules.checkRelativePath "dir_path" docsCheckout.dirPath = .ok () := by
    decide +kernel
  have hok : ((docsCheckout.writePattern [47, 114]).run ⟨FileSystem.empty, 0, {}⟩).result =
      .ok () := by decide +kernel
  obtain ⟨-, fs, hmake, -⟩ := ends_writePattern_ok ⟨hok, rfl⟩
  obtain ⟨hwritten, -, hiff⟩ := pattern_oneInclusion_iff haccepted
  exact ⟨hok, hwritten hok hmake fs.at?_root, hiff.2 (by decide)⟩

/-- Accepted paths whose pattern takes files out, is a comment, or has a second line, which takes in
everything. -/
theorem accepted_not_oneInclusion :
    (∀ dirPath ∈ ["!a", "#a", "a\n/"], Rules.checkRelativePath "dir_path" dirPath = .ok () ∧
      ¬ OneInclusion (Utf8.bytes (pattern dirPath))) ∧
    split (· == Utf8.byteOf '\n') (Utf8.bytes (pattern "a\n/")) =
      [Utf8.bytes "a", Utf8.bytes "/*", []] := by
  refine ⟨fun dirPath hmem => ?_, by decide +kernel⟩
  have hall : ∀ dirPath ∈ ["!a", "#a", "a\n/"],
      Rules.checkRelativePath "dir_path" dirPath = .ok () ∧ ¬ ('\n' ∉ dirPath.toList ∧
        dirPath.toList.head? ≠ some '#' ∧ dirPath.toList.head? ≠ some '!') := by decide +kernel
  obtain ⟨haccepted, hspecial⟩ := hall dirPath hmem
  refine ⟨haccepted, fun hone => hspecial ?_⟩
  exact (oneInclusion_iff (Rules.checkRelativePath_eq_ok_iff.1 haccepted)).1 hone

/-- Slashes at the end do not count. -/
theorem SparseCheckout.countedParts_stem (dirPath : String) (base : Path) :
    countedParts base (partsOfText dirPath.toList) =
      countedParts base (partsOfText (stem dirPath)) := by
  obtain ⟨n, hstem⟩ := exists_stem_append dirPath
  rw [hstem, partsOfText, @split_append_replicate _ (· == '/') _ (beq_self_eq_true _)]
  exact countedParts_append_nil (split_ne_nil _ _) n

/-- The pattern names the directory that is archived, part by part, exactly if there is no part in
it that leads nowhere. Of the parts that stand in the pattern, those alone are left out of the way
to the directory. -/
theorem pattern_names_source_iff {field : String} {s : TransferSettings}
    (haccepted : Rules.checkRelativePath field s.dirPath = .ok ()) :
    (∀ {git : Git} {workDir source : Path} {w : World Ledger},
      ((fetchWith git s workDir).run w).result = .ok source →
      source = append (stagingDir workDir) (ofText s.dirPath)) ∧
    (pattern (checkoutOf s).dirPath).toList = stem s.dirPath ++ ['/', '*', '\n'] ∧
    ∀ base : Path, ∃ below, components (append base (ofText s.dirPath)) = components base ++ below ∧
      below.map Component.bytes =
        (countedParts base (partsOfText (stem s.dirPath))).map Utf8.encode ∧
      ((partsOfText (stem s.dirPath)).map Utf8.encode = below.map Component.bytes ↔
        ∀ part ∈ (partsOfText (stem s.dirPath)).drop (fixedParts base), Leads part) := by
  refine ⟨fun {git workDir source w} hfetch => ?_, toList_pattern s.dirPath, fun base => ?_⟩
  · obtain ⟨log, -, hsource⟩ := ends_fetchWith (Action.ends_run (fetchWith git s workDir) w)
    exact (hsource source hfetch).1
  · obtain ⟨below, happend, hbelow⟩ :=
      (Rules.checkRelativePath_eq_ok_iff.1 haccepted).exists_below base
    rw [countedParts_stem] at hbelow
    refine ⟨below, happend, hbelow, ?_⟩
    rw [hbelow]
    constructor
    · intro heq
      have hlength := congrArg List.length heq
      rw [List.length_map, List.length_map] at hlength
      exact length_countedParts.1 hlength.symm
    · exact fun hall => congrArg (List.map Utf8.encode) (countedParts_eq_self.2 hall).symm

def nestedSettings : TransferSettings := { undashedSettings with dirPath := "a/..b/" }

/-- A working directory `r` where the checkout already has its directory. -/
def stagedFolder : FileSystem where
  items := [([[114]], .directory), ([[114], ofText "staging"], .directory),
    ([[114], ofText "staging", [97]], .directory),
    ([[114], ofText "staging", [97], ofText "..b"], .directory)]
  cwd := []
  distinct := by decide +kernel
  inDirectory := by decide +kernel
  named := by decide +kernel

theorem pattern_names_source_iff_nested :
    ∃ source, ((fetchWith idleGit nestedSettings [47, 114]).run ⟨stagedFolder, 0, {}⟩).result =
        .ok source ∧
      components source = [.root, .name [114], .name (ofText "staging"), .name (ofText "a"),
        .name (ofText "..b")] ∧
      (partsOfText (stem nestedSettings.dirPath)).map Utf8.encode = [ofText "a", ofText "..b"] := by
  have haccepted : Rules.checkRelativePath "dir_path" nestedSettings.dirPath = .ok () := by
    decide +kernel
  have hfetch : ((fetchWith idleGit nestedSettings [47, 114]).run ⟨stagedFolder, 0, {}⟩).result =
      .ok (ofText "/r/staging/a/..b/") := by decide +kernel
  obtain ⟨hsource, -, hparts⟩ := pattern_names_source_iff haccepted
  obtain ⟨below, happend, -, hiff⟩ := hparts (stagingDir [47, 114])
  have hbelow : components (append (stagingDir [47, 114]) (ofText nestedSettings.dirPath)) =
      components (stagingDir [47, 114]) ++ [.name (ofText "a"), .name (ofText "..b")] := by
    decide +kernel
  refine ⟨_, hfetch, ?_, ?_⟩
  · rw [hsource hfetch, hbelow]
    decide +kernel
  · rw [hiff.2 (by decide +kernel), List.append_cancel_left (happend.symm.trans hbelow)]
    rfl

/-- An accepted path whose pattern has a part that is not on the way to the directory that is
archived. -/
theorem accepted_named_otherwise :
    Rules.checkRelativePath "dir_path" "./a" = .ok () ∧ pattern "./a" = "./a/*\n" ∧
      ∀ below, components (append (ofText "/w/staging") (ofText "./a")) =
          components (ofText "/w/staging") ++ below →
        below.map Component.bytes = [ofText "a"] ∧
          (partsOfText (stem "./a")).map Utf8.encode = [ofText ".", ofText "a"] := by
  refine ⟨by decide +kernel, by decide +kernel, fun below happend => ?_⟩
  have hbelow : components (append (ofText "/w/staging") (ofText "./a")) =
      components (ofText "/w/staging") ++ [.name (ofText "a")] := by decide +kernel
  rw [← List.append_cancel_left (hbelow.symm.trans happend)]
  exact ⟨rfl, by decide +kernel⟩

end SparseTransfer
