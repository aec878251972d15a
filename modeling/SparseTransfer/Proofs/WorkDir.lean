import SparseTransfer.Proofs.Action
import SparseTransfer.Proofs.File.Writing

/- Working directories: one is made where a directory can hold a name that is drawn, and what has
been made is removed again, whatever has become of it. -/
namespace SparseTransfer
open SparseTransfer.Path

namespace FileSystem

/-- What a look-up that does not follow finds under a name. -/
def placeIn (fs : FileSystem) (dir : Location) (name : Bytes) : Place :=
  match fs.at? (dir ++ [name]) with
  | none => .free dir name false
  | some item => .occupied (dir ++ [name]) item

section name
variable {fs : FileSystem} {base : Path} {n : Bytes}

theorem descends_name (fs : FileSystem) (dir : Location) (hn : isName n = true) :
    Descends fs false false dir [n] (.place (fs.placeIn dir n)) := by
  have hmeet := meet_of_isName hn fs dir
  rw [placeIn]
  cases hitem : fs.at? (dir ++ [n]) with
  | none =>
    rw [hitem] at hmeet
    exact .missing hmeet
  | some item =>
    rw [hitem] at hmeet
    cases item with
    | directory => exact .into hmeet (.done _)
    | link target => exact .stop hmeet rfl rfl
    | file data | socket | device => exact .leaf hmeet rfl

theorem lookup_name (hbase : base ≠ []) (hn : isName n = true) {q : Place} :
    fs.lookup false (append base n) = .ok q ↔ IsUsable (append base n) ∧
      ∃ dir, fs.stat true base = .ok (dir, .directory) ∧ q = fs.placeIn dir n := by
  have hextends := extends_append hbase (isAbsolute_of_isName hn) (isName_iff.1 hn).1
  rw [namesOf_of_isName hn] at hextends
  have hslash := endsInSlash_append_name hbase hn
  constructor
  · intro h
    obtain ⟨dir, links, hstat, hresolves⟩ := hextends.of_lookup hbase h
    rw [hslash] at hresolves
    have hplace : Resolves fs false links false dir [n] (fs.placeIn dir n) :=
      .place (descends_name fs dir hn)
    have hsame := (resolves_iff.1 hresolves).symm.trans (resolves_iff.1 hplace)
    injection hsame with hsame
    exact ⟨(lookup_eq_ok_iff.1 h).1, dir, hstat, hsame⟩
  · rintro ⟨husable, dir, hstat, rfl⟩
    apply hextends.lookup hstat husable
    rw [hslash]
    exact descends_name fs dir hn

/-- Whether the directory to which a path leads can hold a new directory of some name, and where the
path leads. -/
structure CanHold (fs : FileSystem) (base : Path) (n : Bytes) (dir : Location) : Prop where
  isDirectory : fs.stat true base = .ok (dir, .directory)
  isFree : fs.at? (dir ++ [n]) = none
  isUsable : IsUsable (append base n)

/-- A directory can be made where one can be held, and nowhere else. -/
theorem createDir_name (hbase : base ≠ []) (hn : isName n = true) {files : FileSystem} :
    fs.createDir (append base n) = .ok files ↔
      ∃ dir, fs.CanHold base n dir ∧ files = fs.insert dir n .directory := by
  rw [createDir, make, withoutSlashes_of_endsInSlash (endsInSlash_append_name hbase hn)]
  constructor
  · intro h
    split at h
    · cases h
    · cases h
    · next dir name slash hlook =>
      cases h
      obtain ⟨husable, dir', hstat, hplace⟩ := (lookup_name hbase hn).1 hlook
      rw [placeIn] at hplace
      split at hplace
      · next hfree =>
        cases hplace
        exact ⟨_, ⟨hstat, hfree, husable⟩, rfl⟩
      · cases hplace
  · rintro ⟨dir, ⟨hstat, hfree, husable⟩, rfl⟩
    have hlook := (lookup_name hbase hn).2 ⟨husable, dir, hstat, rfl⟩
    rw [placeIn, hfree] at hlook
    rw [hlook]

theorem append_name (base : Path) : ∃ front, ∀ m, isName m = true → append base m = front ++ m := by
  by_cases hend : (base.isEmpty || decide (base.getLast? = some slash)) = true
  · exact ⟨base, fun m hm => by rw [append, isAbsolute_of_isName hm, if_neg (by simp), if_pos hend]⟩
  · refine ⟨base ++ [slash], fun m hm => ?_⟩
    rw [append, isAbsolute_of_isName hm, if_neg (by simp), if_neg hend, List.append_assoc,
      List.singleton_append]

/-- What can be looked up under one name can be under another that is as long. -/
theorem IsUsable.renamed {m : Bytes} (hn : isName n = true) (hm : isName m = true)
    (hlen : m.length = n.length) (hnul : 0 ∉ m) (h : IsUsable (append base n)) :
    IsUsable (append base m) := by
  obtain ⟨front, hfront⟩ := append_name base
  rw [hfront n hn] at h
  rw [hfront m hm]
  obtain ⟨hnul', -, hshort⟩ := h
  rw [List.length_append] at hshort
  refine ⟨?_, by simp [(isName_iff.1 hm).1], ?_⟩
  · intro hmem
    rcases List.mem_append.1 hmem with hmem | hmem
    · exact hnul' (List.mem_append_left _ hmem)
    · exact hnul hmem
  · rw [List.length_append]
    omega

/-- Nothing has changed but what is at a place, and no leaf stands there. -/
structure Within (loc : Location) (fs fs' : FileSystem) : Prop where
  agree : AgreeOutside loc fs fs'
  noLeaf : ∀ item, fs'.at? loc = some item → item.isLeaf = false

/-- A path leads to the directory to which it led, whatever has been made below that directory where
nothing was. -/
theorem CanHold.stat {fs fs' : FileSystem} {dir : Location} (h : fs.CanHold base n dir)
    (hagree : AgreeOutside (dir ++ [n]) fs fs') : fs'.stat true base = .ok (dir, .directory) := by
  have hdir := stat_eq_ok_iff.1 h.isDirectory
  rw [stat_eq_ok_iff]
  refine lookup_elsewhere (hagree.aside h.isFree) hagree.cwd hdir fun hpre => ?_
  have hlen : (dir ++ [n]).length ≤ dir.length := hpre.length_le
  rw [List.length_append, List.length_singleton] at hlen
  omega

/-- Removing what has been made where nothing was leaves what was there before. -/
theorem CanHold.removeTree {fs fs' : FileSystem} {dir : Location} (hbase : base ≠ [])
    (hn : isName n = true) (h : fs.CanHold base n dir) (hwithin : Within (dir ++ [n]) fs fs') :
    (∃ files, fs'.removeTree (append base n) = .ok files ∧ Same fs files) ∨
      (∃ e, fs'.removeTree (append base n) = .error e) ∧ Same fs fs' := by
  have hlook := (lookup_name hbase hn).2 ⟨h.isUsable, dir, h.stat hwithin.agree, rfl⟩
  rw [placeIn] at hlook
  cases hitem : fs'.at? (dir ++ [n]) with
  | none =>
    rw [hitem] at hlook
    refine Or.inr ⟨⟨.os .notFound, ?_⟩, hwithin.agree.same h.isFree hitem⟩
    rw [FileSystem.removeTree, FileSystem.stat, hlook]
  | some item =>
    rw [hitem] at hlook
    have hstat : fs'.stat false (append base n) = .ok (dir ++ [n], item) := stat_eq_ok_iff.2 hlook
    have hsame : Same fs (fs'.remove (dir ++ [n])) :=
      (hwithin.agree.trans (remove_agreeOutside fs' _)).same h.isFree
        (at?_remove_self fs' (by simp))
    have hleaf := hwithin.noLeaf item hitem
    cases item with
    | directory | link target =>
      refine Or.inl ⟨_, ?_, hsame⟩
      rw [FileSystem.removeTree, hstat]
    | file data | socket | device => cases hleaf

end name

theorem isAbsolute_pathOf (loc : Location) : isAbsolute (pathOf loc) = true := by
  cases loc with
  | nil => rfl
  | cons name rest => rfl

theorem isAbsolute_absolute (fs : FileSystem) (p : Path) : isAbsolute (fs.absolute p) = true := by
  rw [absolute]
  by_cases hp : isAbsolute p = true
  · rw [append, if_pos hp]
    exact hp
  · rw [Bool.not_eq_true] at hp
    have hroot := isAbsolute_pathOf fs.cwd
    rw [isAbsolute_append _ hp, hroot]
    intro hnil
    rw [hnil] at hroot
    cases hroot

theorem absolute_ne_nil (fs : FileSystem) (p : Path) : fs.absolute p ≠ [] := by
  intro hnil
  have habs := isAbsolute_absolute fs p
  rw [hnil] at habs
  cases habs

end FileSystem

/-- The texts for names of working directories: six letters or digits. -/
def Suffixes.Proper (suffixes : Suffixes) : Prop :=
  ∀ k, (suffixes k).length = 6 ∧ ∀ b ∈ suffixes k,
    (48 ≤ b ∧ b ≤ 57) ∨ (65 ≤ b ∧ b ≤ 90) ∨ (97 ≤ b ∧ b ≤ 122)

theorem Suffixes.proper_replicate {b : UInt8} (h : 97 ≤ b ∧ b ≤ 122) :
    Suffixes.Proper fun _ => List.replicate 6 b := by
  refine fun _ => ⟨List.length_replicate, fun c hc => ?_⟩
  rw [List.eq_of_mem_replicate hc]
  exact .inr (.inr h)

namespace WorkDir
open FileSystem

/-- A name that is drawn for a working directory. -/
def drawnName (suffixes : Suffixes) (k : Nat) : Bytes := nameStart ++ suffixes k

theorem length_drawnName {suffixes : Suffixes} (h : suffixes.Proper) (k : Nat) :
    (drawnName suffixes k).length = 20 := by
  rw [drawnName, List.length_append, (h k).1]
  rfl

theorem byte_drawnName {suffixes : Suffixes} (h : suffixes.Proper) (k : Nat) {b : UInt8}
    (hb : b ∈ drawnName suffixes k) : b ≠ 0 ∧ b ≠ slash := by
  rcases List.mem_append.1 hb with hb | hb
  · have hstart : ∀ b ∈ nameStart, b ≠ 0 ∧ b ≠ slash := by decide +kernel
    exact hstart b hb
  · have hrange := (h k).2 b hb
    constructor
    · rintro rfl
      revert hrange
      decide
    · rintro rfl
      revert hrange
      decide

theorem isName_drawnName {suffixes : Suffixes} (h : suffixes.Proper) (k : Nat) :
    isName (drawnName suffixes k) = true := by
  have hlen := length_drawnName h k
  refine isName_iff.2 ⟨?_, fun hslash => (byte_drawnName h k hslash).2 rfl, ?_, ?_, ?_⟩
  · rintro heq
    rw [heq] at hlen
    cases hlen
  · rintro heq
    rw [heq] at hlen
    cases hlen
  · rintro heq
    rw [heq] at hlen
    cases hlen
  · rw [hlen]
    decide

/-- If a directory cannot be made, and not because the name is taken, none can be made there. -/
theorem not_canHold_of_createDir {fs : FileSystem} {suffixes : Suffixes} {parent : Path}
    (hproper : suffixes.Proper) (hparent : parent ≠ []) {k : Nat} {e : FileError}
    (h : fs.createDir (Path.append parent (drawnName suffixes k)) = .error e)
    (he : e ≠ .os .alreadyExists) (j : Nat) (dir : Location) :
    ¬ fs.CanHold parent (drawnName suffixes j) dir := by
  rintro ⟨hdir, -, husable⟩
  have hk := isName_drawnName hproper k
  have husable' : IsUsable (Path.append parent (drawnName suffixes k)) :=
    husable.renamed (isName_drawnName hproper j) hk
      (by rw [length_drawnName hproper, length_drawnName hproper])
      fun hmem => (byte_drawnName hproper k hmem).1 rfl
  have hlook := (lookup_name hparent hk).2 ⟨husable', dir, hdir, rfl⟩
  rw [createDir, make,
    withoutSlashes_of_endsInSlash (endsInSlash_append_name hparent hk), hlook] at h
  split at h
  · next heq => cases heq
  · cases h
    exact he rfl
  · cases h

/-- The first name that can be held is given to a new directory. If there is none, nothing
changes. -/
theorem ends_createNamed {suffixes : Suffixes} {parent : Path} (hproper : suffixes.Proper)
    (hparent : parent ≠ []) {attempts : Nat} {w w' : World π} {r : Except TransferError Path}
    (h : (createNamed suffixes parent attempts).Ends w r w') :
    (∃ k dir, k < attempts ∧ w.files.CanHold parent (drawnName suffixes (w.drawn + k)) dir ∧
      r = .ok (Path.append parent (drawnName suffixes (w.drawn + k))) ∧
      w'.files = w.files.insert dir (drawnName suffixes (w.drawn + k)) .directory) ∨
    (∃ failure, r = .error (.file failure)) ∧ w'.files = w.files ∧
      ∀ k dir, k < attempts → ¬ w.files.CanHold parent (drawnName suffixes (w.drawn + k)) dir := by
  induction attempts generalizing w with
  | zero =>
    obtain ⟨rfl, rfl⟩ := Action.ends_fail.1 h
    exact Or.inr ⟨⟨_, rfl⟩, rfl, fun k dir hk => absurd hk (by omega)⟩
  | succ attempts ih =>
    rw [Action.Ends, Action.run, createNamed] at h
    simp only at h
    split at h
    · next files hmake =>
      obtain ⟨rfl, rfl⟩ := h
      obtain ⟨dir, hhold, rfl⟩ := (createDir_name hparent (isName_drawnName hproper _)).1 hmake
      exact Or.inl ⟨0, dir, by omega, hhold, rfl, rfl⟩
    · next e hmake =>
      split at h
      · next he =>
        have hfirst (dir : Location) :
            ¬ w.files.CanHold parent (drawnName suffixes w.drawn) dir := by
          intro hhold
          have hmade := (createDir_name hparent (isName_drawnName hproper _)).2 ⟨dir, hhold, rfl⟩
          rw [drawnName, hmake] at hmade
          cases hmade
        rcases ih (w := { w with drawn := w.drawn + 1 }) h with
          ⟨k, dir, hk, hhold, hr, hfiles⟩ | ⟨hr, hfiles, hnone⟩
        · rw [Nat.add_right_comm, Nat.add_assoc] at hhold hr hfiles
          exact Or.inl ⟨k + 1, dir, by omega, hhold, hr, hfiles⟩
        · refine Or.inr ⟨hr, hfiles, fun k dir hk => ?_⟩
          cases k with
          | zero => exact hfirst dir
          | succ k =>
            have hrest := hnone k dir (by omega)
            rw [Nat.add_right_comm, Nat.add_assoc] at hrest
            exact hrest
      · next he =>
        obtain ⟨rfl, rfl⟩ := h
        exact Or.inr ⟨⟨_, rfl⟩, rfl, fun k dir _ =>
          not_canHold_of_createDir hproper hparent hmake he _ dir⟩

end WorkDir

theorem own_createNamed {suffixes : Suffixes} {parent : Path} {attempts : Nat} {w w' : World π}
    {r : Except TransferError Path}
    (h : (WorkDir.createNamed suffixes parent attempts).Ends w r w') : w'.own = w.own := by
  induction attempts generalizing w with
  | zero =>
    obtain ⟨-, rfl⟩ := Action.ends_fail.1 h
    rfl
  | succ attempts ih =>
    rw [Action.Ends, Action.run, WorkDir.createNamed] at h
    simp only at h
    split at h
    · obtain ⟨-, rfl⟩ := h
      rfl
    · split at h
      · exact ih (w := { w with drawn := w.drawn + 1 }) h
      · obtain ⟨-, rfl⟩ := h
        rfl

theorem ends_create {suffixes : Suffixes} {parent : Path} {w w' : World π}
    {r : Except TransferError Path} (h : (WorkDir.create suffixes parent).Ends w r w') :
    (WorkDir.createNamed suffixes (w.files.absolute parent) WorkDir.attempts).Ends w r w' := by
  rw [WorkDir.create, Action.ends_get_bind, Action.ends_bind] at h
  rcases h with ⟨path, w₁, hnamed, h⟩ | ⟨failure, hnamed, rfl⟩
  · rw [Action.ends_report_bind, Action.ends_pure] at h
    obtain ⟨rfl, rfl⟩ := h
    exact hnamed
  · exact hnamed

theorem ends_remove {path : Path} {w w' : World π} {r : Except TransferError Unit}
    (h : (WorkDir.remove path).Ends w r w') :
    (∃ files, w.files.removeTree path = .ok files ∧ r = .ok () ∧ w' = { w with files }) ∨
      ∃ failure, w.files.removeTree path = .error failure ∧
        r = .error (.file (.atPath path failure)) ∧ w' = w := by
  rw [Action.Ends, Action.run, WorkDir.remove] at h
  split at h
  · next files hfiles =>
    obtain ⟨rfl, rfl⟩ := h
    exact Or.inl ⟨files, hfiles, rfl, rfl⟩
  · next failure hfailure =>
    obtain ⟨rfl, rfl⟩ := h
    exact Or.inr ⟨failure, hfailure, rfl, rfl⟩

theorem own_remove {path : Path} {w w' : World π} {r : Except TransferError Unit}
    (h : (WorkDir.remove path).Ends w r w') : w'.own = w.own := by
  obtain ⟨_, _, _, rfl⟩ | ⟨_, _, _, rfl⟩ := ends_remove h <;> rfl

end SparseTransfer
