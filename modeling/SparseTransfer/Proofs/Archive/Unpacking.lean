import SparseTransfer.Proofs.Archive.Listing
import SparseTransfer.Proofs.File.Placing

/- Unpacking. Where all names are text, the names of entries are the paths of the files: nothing is
in the way of anything when the entries are unpacked, and what is unpacked are the files of the
folder. -/
namespace SparseTransfer
open FileSystem

namespace Archive

/-- The path at which an entry is unpacked: what stands between the slashes of its name. -/
def Entry.path (e : Entry) : Location := (e.name.toList.splitOn '/').map Utf8.encode

/-- What is unpacked for an entry. -/
def Entry.item (e : Entry) : Item := .file ⟨e.permissions, .plain e.content⟩

/-- Unpacks entries one after another into a directory, unless there is a conflict. -/
def unpack (dir : Location) (fs : FileSystem) (entries : List Entry) : Option FileSystem :=
  placeAll dir fs (entries.map fun e => (e.path, e.item))

-- a file is in the way of what is to be below it
example : (unpack [] .empty [⟨"a", 0o644, [1]⟩, ⟨"a/b", 0o644, [2]⟩]).isNone = true := by cbv

/-- A file as it is unpacked. -/
def unpackedFile (data : FileData) : Item :=
  .file ⟨data.permissions &&& 0o777, .plain data.content.bytes⟩

/-- Entries from which the files of a folder can be had back, in a folder of the name `n`. -/
structure GivesBack (n : Bytes) (files : List (Location × FileData)) (entries : List Entry) :
    Prop where
  paths : (entries.map fun e => (e.path, e.item)) =
    files.map fun f => (n :: f.1, unpackedFile f.2)
  distinct : (entries.map Entry.name).Nodup
  /-- No entry is a directory for another. -/
  apart : ∀ a ∈ entries, ∀ b ∈ entries, ¬ (a.name ++ "/").toList <+: b.name.toList
  relative : ∀ e ∈ entries, ¬ ['/'] <+: e.name.toList
  plain : ∀ e ∈ entries, ∀ part ∈ e.name.toList.splitOn '/', part ≠ [] ∧ part ≠ ['.'] ∧
    part ≠ ['.', '.']
  /-- What is in an empty directory afterwards are the files, and the directories on the way to
  them. -/
  unpacks : ∀ {fs : FileSystem} {dir : Location}, fs.at? dir = some .directory →
    (∀ {names : Location}, names ≠ [] → fs.at? (dir ++ names) = none) →
    ∃ fs', unpack dir fs entries = some fs' ∧ AgreeOutside dir fs fs' ∧
      ∀ {names : Location} {item : Item}, names ≠ [] → (fs'.at? (dir ++ names) = some item ↔
        (∃ f ∈ files, names = n :: f.1 ∧ item = unpackedFile f.2) ∨
          item = .directory ∧ ∃ f ∈ files, names <+: n :: f.1 ∧ names ≠ n :: f.1)

section paths
variable {fs : FileSystem} {folder : Path} {n : Bytes} {names : Location}

/-- Nothing is below a file or a link, so no file is on the way to another. -/
theorem incomparable_filesOf (fs : FileSystem) (folder : Path) :
    (fs.filesOf folder).Pairwise fun f g => Incomparable f.1 g.1 := by
  rcases filesOf_cases fs folder with ⟨root, hroot⟩ | hnil | ⟨data, hone⟩
  · have hleaf {f g : Location × FileData} (hf : f ∈ fs.filesOf folder)
        (hg : g ∈ fs.filesOf folder) (hne : f.1 ≠ g.1) : ¬ f.1 <+: g.1 := by
      rintro ⟨rest, hrest⟩
      obtain ⟨-, item, hitem, hfile⟩ := (mem_filesOf hroot).1 hf
      obtain ⟨-, item', hitem', -⟩ := (mem_filesOf hroot).1 hg
      have hmore : rest ≠ [] := by
        rintro rfl
        exact hne (by rw [← hrest, List.append_nil])
      rw [← hrest, ← List.append_assoc] at hitem'
      cases hitem.symm.trans (at?_directory_of_append hitem' hmore)
      cases hfile
    refine (fs.pairwise_filesOf folder).imp_of_mem fun {f g} hf hg hlt => ?_
    have hne : f.1 ≠ g.1 := by
      intro heq
      rw [heq] at hlt
      exact List.lt_irrefl _ hlt
    exact ⟨hleaf hf hg hne, hleaf hg hf (Ne.symm hne)⟩
  · rw [hnil]
    exact .nil
  · rw [hone]
    exact List.pairwise_singleton _ _

/-- A name that is text is shown as what it is. -/
theorem decodeLossy_ne {m : Bytes} (hm : isName m = true) (htext : (Utf8.decode? m).isSome = true) :
    Utf8.decodeLossy m ≠ [] ∧ Utf8.decodeLossy m ≠ ['.'] ∧ Utf8.decodeLossy m ≠ ['.', '.'] := by
  obtain ⟨hne, -, hdot, hdots, -⟩ := isName_iff.1 hm
  have hback := Utf8.encode_decodeLossy htext
  refine ⟨fun heq => ?_, fun heq => ?_, fun heq => ?_⟩ <;> rw [heq] at hback
  · exact hne hback.symm
  · exact hdot hback.symm
  · exact hdots hback.symm

theorem splitOn_append_slash (xs ys : List Char) :
    (xs ++ '/' :: ys).splitOn '/' = xs.splitOn '/' ++ ys.splitOn '/' :=
  List.splitOnP_append_cons xs ys (by decide)

/-- A name that begins with another and a slash is the name of something below that. -/
theorem path_of_prefix {a b : Entry} (h : (a.name ++ "/").toList <+: b.name.toList) :
    a.path <+: b.path ∧ a.path ≠ b.path := by
  obtain ⟨more, hmore⟩ := h
  have hb : b.path = a.path ++ (more.splitOn '/').map Utf8.encode := by
    rw [Entry.path, ← hmore, String.toList_append, List.append_assoc]
    exact (congrArg _ (splitOn_append_slash _ _)).trans List.map_append
  refine ⟨⟨_, hb.symm⟩, fun heq => ?_⟩
  rw [heq] at hb
  have hnil := List.map_eq_nil_iff.1 (List.append_right_eq_self.1 hb.symm)
  exact List.splitOn_ne_nil _ _ hnil

section names
variable (hn : isName n = true) (hnames : ∀ m ∈ names, isName m = true)
  (htext : ∀ m ∈ n :: names, (Utf8.decode? m).isSome = true) (data : FileData)
include hn hnames

theorem splitOn_entryUnder : (entryUnder [n] names data).name.toList.splitOn '/' =
    (n :: names).map Utf8.decodeLossy := by
  refine splitOn_joined (by simp) fun m hm => ?_
  rcases List.mem_cons.1 hm with rfl | hm
  · exact isPiece_of_isName hn
  · exact isPiece_of_isName (hnames m hm)

include htext

theorem path_entryUnder : (entryUnder [n] names data).path = n :: names := by
  rw [Entry.path, splitOn_entryUnder hn hnames data, map_encode_decodeLossy htext]

theorem plain_entryUnder : ∀ part ∈ (entryUnder [n] names data).name.toList.splitOn '/',
    part ≠ [] ∧ part ≠ ['.'] ∧ part ≠ ['.', '.'] := by
  intro part hpart
  rw [splitOn_entryUnder hn hnames data] at hpart
  obtain ⟨m, hm, rfl⟩ := List.mem_map.1 hpart
  refine decodeLossy_ne ?_ (htext m hm)
  rcases List.mem_cons.1 hm with rfl | hm
  · exact hn
  · exact hnames m hm

end names

/-- Before a slash at the beginning of a name stands an empty part. -/
theorem relative_of_plain {e : Entry} (h : ∀ part ∈ e.name.toList.splitOn '/', part ≠ []) :
    ¬ ['/'] <+: e.name.toList := by
  rintro ⟨more, hmore⟩
  refine h [] ?_ rfl
  rw [← hmore]
  exact (splitOn_append_slash [] more) ▸ by simp

end paths

section unpack
variable {fs : FileSystem} {folder : Path} {n : Bytes}

/-- Paths of which none begins another can all be unpacked, in one order or another. -/
theorem exists_unpack {files : List (Location × FileData)} {entries : List Entry}
    (hpaths : (entries.map fun e => (e.path, e.item)) =
      files.map fun f => (n :: f.1, unpackedFile f.2))
    (hnames : ∀ f ∈ files, ∀ m ∈ n :: f.1, isName m = true)
    (hapart : files.Pairwise fun f g => Incomparable f.1 g.1) {dir : Location}
    (hdir : fs.at? dir = some .directory)
    (hempty : ∀ {names : Location}, names ≠ [] → fs.at? (dir ++ names) = none) :
    ∃ fs', unpack dir fs entries = some fs' ∧ AgreeOutside dir fs fs' ∧
      ∀ {names : Location} {item : Item}, names ≠ [] → (fs'.at? (dir ++ names) = some item ↔
        (∃ f ∈ files, names = n :: f.1 ∧ item = unpackedFile f.2) ∨
          item = .directory ∧ ∃ f ∈ files, names <+: n :: f.1 ∧ names ≠ n :: f.1) := by
  have hplaceable : ∀ e ∈ files.map (fun f => (n :: f.1, unpackedFile f.2)),
      e.1 ≠ [] ∧ ∀ m ∈ e.1, isName m = true := by
    intro e he
    obtain ⟨f, hf, rfl⟩ := List.mem_map.1 he
    exact ⟨by simp, hnames f hf⟩
  have hincomparable : (files.map fun f => (n :: f.1, unpackedFile f.2)).Pairwise
      fun a b => Incomparable a.1 b.1 := by
    refine List.pairwise_map.2 (hapart.imp fun {f g} h => ⟨fun hpre => ?_, fun hpre => ?_⟩)
    · exact h.1 (List.cons_prefix_cons.1 hpre).2
    · exact h.2 (List.cons_prefix_cons.1 hpre).2
  obtain ⟨fs', hall, hfilled⟩ := (Filled.start hdir hempty).exists_placeAll hplaceable hincomparable
  refine ⟨fs', by rw [unpack, hpaths, hall], hfilled.agree, fun {names item} hne => ?_⟩
  rw [hfilled.at? hne]
  simp only [Stands, List.nil_append, List.mem_map, Prod.mk.injEq]
  refine or_congr ?_ (and_congr_right fun _ => ?_)
  · constructor
    · rintro ⟨f, hf, rfl, rfl⟩
      exact ⟨f, hf, rfl, rfl⟩
    · rintro ⟨f, hf, rfl, rfl⟩
      exact ⟨f, hf, rfl, rfl⟩
  · constructor
    · rintro ⟨_, ⟨f, hf, rfl⟩, hway⟩
      exact ⟨f, hf, hway⟩
    · rintro ⟨f, hf, hway⟩
      exact ⟨_, ⟨f, hf, rfl⟩, hway⟩

/-- The entries for the files of a folder give the files back if all names are text. -/
theorem givesBack (hn : isName n = true)
    (htext : ∀ f ∈ fs.filesOf folder, ∀ m ∈ n :: f.1, (Utf8.decode? m).isSome = true) :
    GivesBack n (fs.filesOf folder)
      ((fs.filesOf folder).map fun f => entryUnder [n] f.1 f.2) := by
  have hpath : ∀ f ∈ fs.filesOf folder, (entryUnder [n] f.1 f.2).path = n :: f.1 := fun f hf =>
    path_entryUnder hn (isName_of_mem_filesOf hf) (htext f hf) f.2
  have hplain : ∀ e ∈ (fs.filesOf folder).map (fun f => entryUnder [n] f.1 f.2),
      ∀ part ∈ e.name.toList.splitOn '/', part ≠ [] ∧ part ≠ ['.'] ∧ part ≠ ['.', '.'] := by
    intro e he
    obtain ⟨f, hf, rfl⟩ := List.mem_map.1 he
    exact plain_entryUnder hn (isName_of_mem_filesOf hf) (htext f hf) f.2
  have hpaths : (((fs.filesOf folder).map fun f => entryUnder [n] f.1 f.2).map
      fun e => (e.path, e.item)) =
        (fs.filesOf folder).map fun f => (n :: f.1, unpackedFile f.2) := by
    rw [List.map_map]
    refine List.map_congr_left fun f hf => ?_
    rw [Function.comp_apply, hpath f hf]
    rfl
  have hapart := incomparable_filesOf fs folder
  constructor
  · exact hpaths
  · rw [List.map_map]
    refine List.pairwise_map.2 (hapart.imp_of_mem fun {f g} hf hg h heq => h.1 ?_)
    have hsame : (n :: f.1) = n :: g.1 := by
      rw [← hpath f hf, ← hpath g hg, Entry.path, Entry.path]
      exact congrArg (fun name : String => (name.toList.splitOn '/').map Utf8.encode) heq
    rw [(List.cons.inj hsame).2]
  · intro a ha b hb hpre
    obtain ⟨f, hf, rfl⟩ := List.mem_map.1 ha
    obtain ⟨g, hg, rfl⟩ := List.mem_map.1 hb
    obtain ⟨hway, hne⟩ := path_of_prefix hpre
    rw [hpath f hf, hpath g hg] at hway hne
    have hfg : f ≠ g := fun heq => hne (by rw [heq])
    have _ : Std.Symm fun f g : Location × FileData => Incomparable f.1 g.1 :=
      ⟨fun _ _ h => ⟨h.2, h.1⟩⟩
    exact (hapart.forall hf hg hfg).1 (List.cons_prefix_cons.1 hway).2
  · exact fun e he => relative_of_plain fun part hpart => (hplain e he part hpart).1
  · exact hplain
  · intro fs dir hdir hempty
    refine exists_unpack hpaths (fun f hf m hm => ?_) hapart hdir hempty
    rcases List.mem_cons.1 hm with rfl | hm
    · exact hn
    · exact isName_of_mem_filesOf hf m hm

end unpack

/-- Where the last component of its path and all names below it are text, the archive of a folder
can be unpacked without a conflict and gives its files back. A device keeps nothing that could be
unpacked. -/
theorem unpacks_to_files {w : World π} {folder out : Path} {n : Bytes} {summary : ArchiveSummary}
    (hn : (Path.components folder).getLast? = some (.name n)) (hapart : Apart w.files folder out)
    (htext : ∀ f ∈ w.files.filesOf folder, ∀ m ∈ n :: f.1, (Utf8.decode? m).isSome = true)
    (h : ((packFolder folder out).run w).result = .ok summary) :
    ∃ loc item, ((packFolder folder out).run w).state.files.stat true out = .ok (loc, item) ∧
      (item = .device ∨ ∃ permissions entries, item = .file ⟨permissions, .archive entries⟩ ∧
        GivesBack n (w.files.filesOf folder) entries) := by
  obtain ⟨loc, item, entries, hne, hentries, -, -, hstat, hitem⟩ :=
    ends_packFolder_ok hn hapart ⟨h, rfl⟩
  have hfiles : w.files.filesOf folder ≠ [] := by
    intro hnil
    rw [hnil] at hentries
    exact hne hentries
  obtain ⟨root, found, hfound⟩ := exists_stat_of_filesOf hfiles
  have hname : isName n = true :=
    isName_of_mem_components (stat_eq_ok_iff.1 hfound) (List.mem_of_getLast? hn)
  refine ⟨loc, item, hstat, hitem.imp And.left ?_⟩
  rintro ⟨permissions, rfl, -⟩
  refine ⟨permissions, entries, rfl, ?_⟩
  rw [hentries]
  exact givesBack hname htext

set_option maxRecDepth 100000 in
/-- The archive is a file, and can be unpacked. -/
theorem unpacks_to_files_nestedFolder :
    ((packFolder [47, 100] [47, 122]).run ⟨nestedFolder, 0, ()⟩).result = .ok ⟨[47, 122], 3, 292⟩ ∧
      (∀ f ∈ nestedFolder.filesOf [47, 100], ∀ m ∈ [100] :: f.1, (Utf8.decode? m).isSome = true) ∧
      ∃ loc permissions entries,
        ((packFolder [47, 100] [47, 122]).run ⟨nestedFolder, 0, ()⟩).state.files.stat true
          [47, 122] = .ok (loc, .file ⟨permissions, .archive entries⟩) ∧
        GivesBack [100] (nestedFolder.filesOf [47, 100]) entries := by
  have hrun : ((packFolder [47, 100] [47, 122]).run ⟨nestedFolder, 0, ()⟩).result =
      .ok ⟨[47, 122], 3, 292⟩ := by cbv
  have hsize : sizeOf ((packFolder [47, 100] [47, 122]).run ⟨nestedFolder, 0, ()⟩).state.files
      [47, 122] = .ok 292 := by cbv
  have htext : ∀ f ∈ nestedFolder.filesOf [47, 100], ∀ m ∈ [100] :: f.1,
      (Utf8.decode? m).isSome = true := by
    rw [filesOf_nestedFolder]
    decide
  obtain ⟨loc, item, hstat, hitem⟩ := unpacks_to_files (by decide) apart_nestedFolder htext hrun
  rcases hitem with rfl | ⟨permissions, entries, rfl, hback⟩
  · rw [sizeOf, hstat] at hsize
    cases hsize
  · exact ⟨hrun, htext, loc, permissions, entries, hstat, hback⟩

end Archive
end SparseTransfer
