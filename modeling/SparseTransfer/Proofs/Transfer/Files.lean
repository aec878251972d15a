import Mathlib
import SparseTransfer.Proofs.Git.Repository
import SparseTransfer.Proofs.Transfer.Contract

/- Which files a transfer hands over when git makes no links: those that were checked out in the
directory to transfer, and the metadata of the repository if that directory holds them. -/
namespace SparseTransfer
open FileSystem Pipeline Archive

/-- The names of the directory to transfer, from the staging directory on. -/
def TransferSettings.dirNames (s : TransferSettings) : Location :=
  undotted (namesOf (Path.ofText s.dirPath))

/-- Whether names lead from a staging directory into the metadata of its repository. -/
def InMetadata (names : Location) : Prop := names.head? = some metadataName

instance (names : Location) : Decidable (InMetadata names) :=
  inferInstanceAs (Decidable (names.head? = some metadataName))

theorem Tidy.at?_of_not_inMetadata {fs₀ fs : FileSystem} {home names : Location}
    (h : Tidy fs₀ home fs) (hne : names ≠ []) (hnames : ¬ InMetadata names) :
    fs.at? (home ++ [stagingName] ++ names) = none := by
  obtain ⟨name, rest, rfl⟩ := List.exists_cons_of_ne_nil hne
  rw [← List.append_cons]
  exact h.noTree rest fun hname => hnames (congrArg some hname)

/-- What has been handed to the storage, when git checked a tree out in `before`: the entries of the
archive are the files below the directory to transfer, and those that are no metadata are new. -/
structure Handed (git : Git) (s : TransferSettings) (calls : List (StageCall × World Ledger))
    (archive : ArchiveSummary) (workDir : Path) (w₁ w₂ w₃ : World Ledger) (staging : Location)
    (before : FileSystem) (history : List GitCall) (reply : GitReply)
    (files : List (Location × FileData)) (n : Bytes) : Prop where
  inOrder : calls = [(.fetch workDir, w₁), (.archive (sourceOf s workDir) workDir, w₂),
    (.upload archive, w₃)]
  located : w₂.files.stat true (stagingDir workDir) = .ok (staging, .directory)
  checkedOut : git history ⟨stagingDir workDir, .checkout s.branch⟩ before = (w₂.files, reply)
  lastName : (Path.components (sourceOf s workDir)).getLast? = some (.name n)
  holds : w₃.files.read archive.path = .ok (.archive (files.map fun f => entryOf n f.1 f.2))
  notEmpty : files ≠ []
  standing : ∀ names data, (names, data) ∈ files ↔
    w₂.files.at? (staging ++ s.dirNames ++ names) = some (.file data)
  created : ∀ f ∈ files, ¬ InMetadata (s.dirNames ++ f.1) →
    before.at? (staging ++ s.dirNames ++ f.1) = none

/-- Without links, the files of a folder are the files that stand below it. -/
theorem FileSystem.LinkFree.mem_filesOf {fs : FileSystem} {folder : Path} {root : Location}
    (hfree : LinkFree fs root) (hroot : fs.stat true folder = .ok (root, .directory))
    (hdir : fs.at? root = some .directory) {names : Location} {data : FileData} :
    (names, data) ∈ fs.filesOf folder ↔ fs.at? (root ++ names) = some (.file data) := by
  rw [filesOf_directory hroot, List.mem_filterMap]
  constructor
  · rintro ⟨⟨names', item⟩, hmem, hfile⟩
    obtain ⟨-, hitem⟩ := mem_below.1 hmem
    cases item with
    | file found =>
      cases hfile
      exact hitem
    | link target => exact absurd hitem (hfree names' target)
    | directory | socket | device => cases hfile
  · intro hitem
    have hne : names ≠ [] := by
      rintro rfl
      rw [List.append_nil, hdir] at hitem
      cases hitem
    exact ⟨(names, .file data), mem_below.2 ⟨hne, hitem⟩, rfl⟩

theorem Path.IsDownward.ne_dots {p : Path} (h : Path.IsDownward p) :
    ∀ n ∈ namesOf p, n ≠ [Path.dot, Path.dot] := by
  rintro n hn rfl
  obtain ⟨hmem, -⟩ := List.mem_filter.1 hn
  obtain ⟨m, hm⟩ := h.names .parent (List.mem_filterMap.2 ⟨_, hmem, rfl⟩)
  cases hm

/-- A working directory at `home` in which there are no links, and nothing beside the staging
directory. -/
structure LaidOut (workDir : Path) (home : Location) (fs : FileSystem) : Prop where
  isAbsolute : Path.isAbsolute workDir = true
  stat : fs.stat true workDir = .ok (home, .directory)
  linkFree : LinkFree fs home
  alone : ∀ {name : Bytes} (names : Location), name ≠ stagingName →
    fs.at? (home ++ name :: names) = none

/-- A checkout that keeps to the staging directory leaves a working directory laid out. -/
theorem Tidy.laidOut {fs₀ before fs : FileSystem} {base : Path} {n : Bytes} {dir : Location}
    (hbase : Path.isAbsolute base = true) (hn : isName n = true) (hhold : fs₀.CanHold base n dir)
    (htidy : Tidy fs₀ (dir ++ [n]) before)
    (hagree : AgreeOutside (dir ++ [n] ++ [stagingName]) before fs)
    (hfree : LinkFree fs (dir ++ [n] ++ [stagingName])) :
    LaidOut (Path.append base n) (dir ++ [n]) fs := by
  have hne := Path.ne_nil_of_isAbsolute hbase
  have hhome : fs.at? (dir ++ [n]) = some .directory := by
    rw [hagree.at? (by simp)]
    exact htidy.at?_home
  have halone {name : Bytes} (names : Location) (hname : name ≠ stagingName) :
      fs.at? (dir ++ [n] ++ name :: names) = none := by
    rw [hagree.at? (by simp [Ne.symm hname])]
    exact htidy.alone names hname
  refine ⟨(Path.isAbsolute_append hne (isAbsolute_of_isName hn)).trans hbase,
    hhold.stat_made hne hn (htidy.agree.trans (hagree.mono (List.prefix_append _ _))) hhome, ?_,
    halone⟩
  intro names target hlink
  cases names with
  | nil =>
    rw [List.append_nil, hhome] at hlink
    cases hlink
  | cons name rest =>
    by_cases hname : name = stagingName
    · subst hname
      rw [List.append_cons] at hlink
      exact hfree rest target hlink
    · rw [halone rest hname] at hlink
      cases hlink

namespace LaidOut
variable {s : TransferSettings} {workDir : Path} {home : Location} {fs : FileSystem}

theorem ne_nil (h : LaidOut workDir home fs) : workDir ≠ [] :=
  Path.ne_nil_of_isAbsolute h.isAbsolute

/-- Names below the working directory lead to the place that they say. -/
theorem loc_of_lookup (h : LaidOut workDir home fs) {p : Path} {names : List Bytes}
    (hp : Extends workDir p names) (hnames : ∀ n ∈ names, n ≠ [Path.dot, Path.dot]) {follow : Bool}
    {q : Place} (hlook : fs.lookup follow p = .ok q) : q.loc = home ++ undotted names := by
  obtain ⟨d, links, hfirst, hrest⟩ := hp.of_lookup h.ne_nil hlook
  cases h.stat.symm.trans hfirst
  exact h.linkFree.resolves hnames hrest

theorem extends_sourceOf (h : LaidOut workDir home fs) (haccepted : s.check = .ok ()) :
    Extends workDir (sourceOf s workDir) (stagingName :: namesOf (Path.ofText s.dirPath)) := by
  have hdown := s.isDownward haccepted
  have hstaging := isAbsolute_of_isName isName_staging
  have hfirst := extends_append h.ne_nil hstaging (isName_iff.1 isName_staging).1
  have hsecond :=
    extends_append (Path.append_ne_nil h.ne_nil stagingName) hdown.isRelative hdown.ne_nil
  refine ⟨hsecond.isAbsolute.trans hfirst.isAbsolute, ?_, by simp,
    hfirst.isPrefix.trans hsecond.isPrefix⟩
  have hnames := hsecond.namesOf
  rw [namesOf_append_name workDir isName_staging, List.append_assoc] at hnames
  exact hnames

theorem loc_of_source (h : LaidOut workDir home fs) (haccepted : s.check = .ok ()) {q : Place}
    (hlook : fs.lookup true (sourceOf s workDir) = .ok q) :
    q.loc = home ++ [stagingName] ++ s.dirNames := by
  have hloc := h.loc_of_lookup (h.extends_sourceOf haccepted) (fun n hn => ?_) hlook
  · rw [← List.singleton_append, undotted_append,
      undotted_of_isName (by simpa using isName_staging), ← List.append_assoc] at hloc
    exact hloc
  · rcases List.mem_cons.1 hn with rfl | hn
    · exact ne_dots_of_isName isName_staging
    · exact (s.isDownward haccepted).ne_dots n hn

theorem archive_ne_staging : Path.ofText "archive.zip" ≠ stagingName := by decide +kernel

theorem loc_of_archive (h : LaidOut workDir home fs) {q : Place}
    (hlook : fs.lookup true (archiveFile workDir) = .ok q) :
    q.loc = home ++ [Path.ofText "archive.zip"] ∧ fs.at? q.loc = none := by
  have hnames : ∀ n ∈ [Path.ofText "archive.zip"], isName n = true := by simpa using isName_archive
  have hextends := extends_archiveFile h.ne_nil
  rw [namesOf_of_isName isName_archive] at hextends
  have hloc := h.loc_of_lookup hextends (fun n hn => ne_dots_of_isName (hnames n hn)) hlook
  rw [undotted_of_isName hnames] at hloc
  refine ⟨hloc, ?_⟩
  rw [hloc]
  exact h.alone [] archive_ne_staging

theorem noDevice (h : LaidOut workDir home fs) (loc : Location) :
    fs.stat true (archiveFile workDir) ≠ .ok (loc, .device) := by
  intro hdevice
  have hlook := stat_eq_ok_iff.1 hdevice
  have hat := lookup_at? hlook (by simp [Place.item?])
  rw [(h.loc_of_archive hlook).2] at hat
  cases hat

theorem apart (h : LaidOut workDir home fs) (haccepted : s.check = .ok ()) :
    Apart fs (sourceOf s workDir) (archiveFile workDir) := by
  have hplace {p : Path} {place : Location} (hp : fs.leadsTo p = some place) :
      ∃ q, fs.lookup true p = .ok q ∧ q.loc = place := by
    rw [leadsTo] at hp
    split at hp
    · next q hlook =>
      cases hp
      exact ⟨q, hlook, rfl⟩
    · cases hp
  constructor
  · intro place root hout hroot hprefix
    obtain ⟨q, hlook, rfl⟩ := hplace hout
    obtain ⟨q', hlook', rfl⟩ := hplace hroot
    rw [(h.loc_of_archive hlook).1, h.loc_of_source haccepted hlook', List.append_assoc,
      List.prefix_append_right_inj] at hprefix
    have hname : stagingName = Path.ofText "archive.zip" ∧ s.dirNames = [] := by
      simpa using List.prefix_cons_iff.1 hprefix
    exact archive_ne_staging hname.1.symm
  · intro place root names target _ hstat hlink
    have hroot := h.loc_of_source haccepted (stat_eq_ok_iff.1 hstat)
    change root = _ at hroot
    rw [hroot, List.append_assoc, List.append_assoc] at hlink
    exact absurd hlink (h.linkFree _ target)

theorem stat_staging (h : LaidOut workDir home fs) (haccepted : s.check = .ok ())
    (hsource : fs.stat true (sourceOf s workDir) =
      .ok (home ++ [stagingName] ++ s.dirNames, .directory)) :
    fs.stat true (stagingDir workDir) = .ok (home ++ [stagingName], .directory) := by
  have hdown := s.isDownward haccepted
  have hlook := stat_eq_ok_iff.1 hsource
  have hextends :=
    extends_append (Path.append_ne_nil h.ne_nil stagingName) hdown.isRelative hdown.ne_nil
  have husable := hextends.isUsable (Path.append_ne_nil h.ne_nil stagingName)
    (lookup_eq_ok_iff.1 hlook).1
  have habs := (h.extends_sourceOf haccepted).isAbsolute.trans h.isAbsolute
  have hdir : fs.at? (home ++ [stagingName] ++ s.dirNames) = some .directory :=
    lookup_found habs hlook
  have hstaging : fs.at? (home ++ [stagingName]) = some .directory := by
    by_cases hnil : s.dirNames = []
    · rwa [hnil, List.append_nil] at hdir
    · exact at?_directory_of_append hdir hnil
  exact stat_followed (@stat_pathBelow _ [stagingName] fs _ _ h.stat (by simp) hstaging husable)
    (by simp)

end LaidOut

section handed
variable {git : Git} {s : TransferSettings} {base : Path} {n : Bytes} {dir : Location}
  {w₁ w₂ w₃ : World Ledger} {source : Path} {archive : ArchiveSummary}

/-- Stages of which the first two end well have an archive to hand over. -/
theorem handed_of_stages {fs₀ : FileSystem} (haccepted : s.check = .ok ())
    (hgit : git.KeepsToRepository) (hbase : Path.isAbsolute base = true) (hn : isName n = true)
    (hhold : fs₀.CanHold base n dir) (hmade : w₁.files = fs₀.insert dir n .directory)
    (hfetch : (fetchWith git s (Path.append base n)).Ends w₁ (.ok source) w₂)
    (harchive : (packFolder source (archiveFile (Path.append base n))).Ends w₂ (.ok archive) w₃) :
    ∃ staging before history reply files m, Handed git s
      [(.fetch (Path.append base n), w₁), (.archive source (Path.append base n), w₂),
        (.upload archive, w₃)] archive (Path.append base n) w₁ w₂ w₃ staging before history reply
        files m := by
  obtain ⟨log, -, hfetched⟩ := ends_fetchWith hfetch
  obtain ⟨rfl, hrun, -, hsource⟩ := hfetched source rfl
  obtain ⟨_, -, ⟨-, -, fs₁, fs₂, fs₃, fs₄, log₁, log₂, hchecked⟩ | ⟨⟨_, heq⟩, -⟩⟩ :=
    SparseCheckout.ends_run hrun
  · rw [hmade] at hchecked
    obtain ⟨history, before, reply, htidy, hreply, hagree, hfree⟩ :=
      hchecked.tree hgit hbase hn hhold
    have hlaid := htidy.laidOut hbase hn hhold hagree hfree
    obtain ⟨root, hroot⟩ := isDirectory_iff.1 hsource
    have hplace : root = _ := hlaid.loc_of_source haccepted (stat_eq_ok_iff.1 hroot)
    subst hplace
    have habs := (hlaid.extends_sourceOf haccepted).isAbsolute.trans hlaid.isAbsolute
    have hdir := lookup_found habs (stat_eq_ok_iff.1 hroot)
    obtain ⟨m, hm⟩ := getLast?_sourceOf haccepted hlaid.ne_nil
    obtain ⟨-, -, hbytes⟩ := full_of_packed hlaid.noDevice harchive
    obtain ⟨entries, hentries, hfiles, hpath, -, hread, -⟩ :=
      read_of_packed hm (hlaid.apart haccepted) hbytes harchive
    have hstanding (names : Location) (data : FileData) :
        (names, data) ∈ w₂.files.filesOf (sourceOf s (Path.append base n)) ↔
          w₂.files.at? (dir ++ [n] ++ [stagingName] ++ s.dirNames ++ names) = some (.file data) :=
      (hfree.mono s.dirNames).mem_filesOf hroot hdir
    refine ⟨dir ++ [n] ++ [stagingName], before, history, reply,
      w₂.files.filesOf (sourceOf s (Path.append base n)), m, ?_⟩
    exact {
      inOrder := rfl
      located := hlaid.stat_staging haccepted hroot
      checkedOut := hreply
      lastName := hm
      holds := by rw [hpath, hread, hfiles]
      notEmpty := by
        intro hnil
        rw [hnil] at hfiles
        exact hentries hfiles
      standing := hstanding
      created := by
        rintro ⟨names, data⟩ hmem hmetadata
        rw [List.append_assoc]
        refine htidy.at?_of_not_inMetadata (fun hnames => ?_) hmetadata
        -- the staging directory itself is no file
        obtain ⟨-, rfl⟩ := List.append_eq_nil_iff.1 hnames
        have hfile := (hstanding [] data).1 hmem
        rw [List.append_nil] at hfile
        cases hdir.symm.trans hfile }
  · cases heq

/-- None of the files is metadata, unless the directory to transfer is in the metadata or is the
staging directory with files in its metadata. -/
theorem Handed.clean_iff {calls : List (StageCall × World Ledger)} {workDir : Path}
    {staging : Location} {before : FileSystem} {history : List GitCall} {reply : GitReply}
    {files : List (Location × FileData)} {m : Bytes}
    (h : Handed git s calls archive workDir w₁ w₂ w₃ staging before history reply files m) :
    (∀ f ∈ files, ¬ InMetadata (s.dirNames ++ f.1)) ↔ ¬ InMetadata s.dirNames ∧
      (s.dirNames = [] → ∀ names data,
        w₂.files.at? (staging ++ metadataName :: names) ≠ some (.file data)) := by
  constructor
  · intro hclean
    refine ⟨fun hdir => ?_, fun hnil names data hfile => ?_⟩
    · obtain ⟨f, hf⟩ := List.exists_mem_of_ne_nil _ h.notEmpty
      exact hclean f hf (List.mem_head?_append_of_mem_head? hdir)
    · have hmem : (metadataName :: names, data) ∈ files := by
        rw [h.standing, hnil, List.append_nil]
        exact hfile
      exact hclean _ hmem (by rw [hnil]; rfl)
  · rintro ⟨hdir, hstaging⟩ ⟨names, data⟩ hmem hmetadata
    cases hnames : s.dirNames with
    | nil =>
      rw [hnames] at hmetadata
      have hfile := (h.standing names data).1 hmem
      rw [hnames, List.append_nil] at hfile
      obtain ⟨rest, rfl⟩ := List.head?_eq_some_iff.1 hmetadata
      exact hstaging hnames rest data hfile
    | cons name rest =>
      rw [hnames] at hdir hmetadata
      exact hdir hmetadata

/-- What a transfer hands to a storage, if git keeps to its repository. The files are new, and none
of them is metadata, unless the directory to transfer is in the metadata or is the staging directory
with files in its metadata. -/
theorem handed_files {storage : Storage} (monitor : Monitor) {suffixes : Suffixes}
    (haccepted : s.check = .ok ()) (hgit : git.KeepsToRepository) (hproper : suffixes.Proper)
    (parent : Path) (w : World Ledger)
    (hcall : (.upload archive, w₃) ∈
      (Engine.transfer git storage s monitor suffixes).calls parent w) :
    ∃ workDir w₁ w₂ staging before history reply files m,
      Handed git s ((Engine.transfer git storage s monitor suffixes).calls parent w) archive workDir
        w₁ w₂ w₃ staging before history reply files m ∧
      ((∀ f ∈ files, ¬ InMetadata (s.dirNames ++ f.1)) ↔ ¬ InMetadata s.dirNames ∧
        (s.dirNames = [] → ∀ names data,
          w₂.files.at? (staging ++ metadataName :: names) ≠ some (.file data))) := by
  have hpipeline : (Engine.transfer git storage s monitor suffixes).pipeline =
    Pipeline.transfer git storage s := rfl
  have hsuffixes : (Engine.transfer git storage s monitor suffixes).suffixes = suffixes := rfl
  generalize Engine.transfer git storage s monitor suffixes = e at hcall hpipeline hsuffixes ⊢
  rcases e.run_cases parent w with ⟨failure, -, -, hcalls⟩ |
    ⟨workDir, w₁, outcome, w₂, cleaned, hcreate, hstaged, -, -⟩
  · rw [hcalls] at hcall
    cases hcall
  · rw [hpipeline] at hstaged
    rw [hsuffixes] at hcreate
    have hbase := isAbsolute_absolute w.files parent
    rcases WorkDir.ends_createNamed hproper (absolute_ne_nil w.files parent)
      (ends_create hcreate) with ⟨k, dir, -, hhold, hr, hfiles⟩ | ⟨⟨cause, hr⟩, -, -⟩
    · cases hr
      have hn := WorkDir.isName_drawnName hproper (w.drawn + k)
      generalize e.calls parent w = calls at hcall hstaged ⊢
      cases hstaged with
      | fetchFails _ => simp at hcall
      | archiveFails _ _ => simp at hcall
      | uploadFails hfetch harchive _ | complete hfetch harchive _ =>
        obtain ⟨rfl, rfl⟩ : archive = _ ∧ w₃ = _ := by simpa using hcall
        obtain ⟨staging, before, history, reply, files, m, hhanded⟩ :=
          handed_of_stages haccepted hgit hbase hn hhold hfiles hfetch harchive
        exact ⟨_, _, _, staging, before, history, reply, files, m, hhanded, hhanded.clean_iff⟩
    · cases hr

end handed

section served

theorem keepsToRepository_serving : servingGit.KeepsToRepository := by
  -- only a checkout adds anything: a file, in the repository
  have hcases {before : List GitCall} {c : GitCall} {fs fs' : FileSystem} {reply : GitReply}
      {loc : Location} (hstat : fs.stat true c.dest = .ok (loc, .directory))
      (hreply : servingGit before c fs = (fs', reply)) : fs' = fs ∨
        (∃ branch, c.operation = .checkout branch) ∧
          fs' = fs.insert loc [97] (.file ⟨0o644, .plain [109]⟩) := by
    rw [servingGit, hstat] at hreply
    cases hoperation : c.operation <;> rw [hoperation] at hreply <;> cases hreply
    case checkout branch => exact .inr ⟨⟨branch, rfl⟩, rfl⟩
    all_goals exact .inl rfl
  constructor
  · intro before c fs fs' reply loc hoperation hstat hreply
    rcases hcases hstat hreply with rfl | ⟨⟨branch, hcheckout⟩, -⟩
    · exact AgreeOutside.refl _ _
    · exact absurd hcheckout (hoperation branch)
  · intro before c fs fs' reply loc hstat hreply
    rcases hcases hstat hreply with rfl | ⟨-, rfl⟩
    · exact AgreeOutside.refl _ _
    · exact (insert_agreeOutside fs loc [97] _).mono (List.prefix_append _ _)
  · intro before c fs fs' reply loc hstat hreply hfree
    rcases hcases hstat hreply with rfl | ⟨-, rfl⟩
    · exact hfree
    · exact hfree.insert loc [97] fun target hlink => by cases hlink

theorem proper_served : servedEngine.suffixes.Proper := Suffixes.proper_replicate (by decide)

theorem at?_servedPattern :
    servedLeft.at? (servedStaging ++ servedPattern) =
      some (.file ⟨0o644, .plain [46, 47, 42, 10]⟩) := by
  decide +kernel

/-- A transfer of a whole repository hands metadata over. -/
theorem handed_files_served : ∃ w₃ workDir w₁ w₂ staging before history reply files m,
    Handed servingGit wholeSettings (servedEngine.calls [47] ⟨FileSystem.empty, 0, {}⟩)
      ⟨servedArchive, 2, 273⟩ workDir w₁ w₂ w₃ staging before history reply files m ∧
    ¬ ∀ f ∈ files, ¬ InMetadata (wholeSettings.dirNames ++ f.1) := by
  obtain ⟨own, w₃, hcalls, -, -⟩ := served_calls
  have hcall : (.upload ⟨servedArchive, 2, 273⟩, w₃) ∈
      servedEngine.calls [47] ⟨FileSystem.empty, 0, {}⟩ := by
    rw [hcalls]
    simp
  obtain ⟨workDir, w₁, w₂, staging, before, history, reply, files, m, hhanded, hclean⟩ :=
    handed_files ⟨false, 0⟩ accepted_whole keepsToRepository_serving proper_served _ _ hcall
  refine ⟨w₃, workDir, w₁, w₂, staging, before, history, reply, files, m, hhanded, ?_⟩
  obtain ⟨rfl, rfl⟩ : servedDir = workDir ∧ ⟨servedLeft, 1, own⟩ = w₂ := by
    have horder := hcalls.symm.trans hhanded.inOrder
    simp only [List.cons.injEq, Prod.mk.injEq, StageCall.fetch.injEq] at horder
    exact ⟨horder.1.1, horder.2.1.2⟩
  have hstaging : servedLeft.stat true (stagingDir servedDir) =
      .ok (servedStaging, .directory) := by
    decide +kernel
  cases hstaging.symm.trans hhanded.located
  rw [hclean]
  rintro ⟨-, hnone⟩
  exact hnone (by decide +kernel) _ _ at?_servedPattern

set_option maxRecDepth 100000 in
theorem filesOf_served : servedLeft.filesOf servedSource =
    [(servedPattern, ⟨0o644, .plain [46, 47, 42, 10]⟩), ([[97]], ⟨0o644, .plain [109]⟩)] := by
  cbv

/-- The settings are accepted, and what is handed over has the pattern in it, which is metadata. -/
theorem served_metadata : wholeSettings.check = .ok () ∧ ∃ archive w₃ entries,
    (.upload archive, w₃) ∈ servedEngine.calls [47] ⟨FileSystem.empty, 0, {}⟩ ∧
    w₃.files.read archive.path = .ok (.archive entries) ∧
    ⟨"staging/.git/info/sparse-checkout", 0o644, [46, 47, 42, 10]⟩ ∈ entries := by
  obtain ⟨own, w₃, hcalls, -, harchive⟩ := served_calls
  have hread := served_read harchive
  rw [filesOf_served] at hread
  refine ⟨accepted_whole, ⟨servedArchive, 2, 273⟩, w₃, _, ?_, hread, ?_⟩
  · rw [hcalls]
    simp
  · apply List.mem_map.2
    exact ⟨_, List.mem_cons_self, by decide +kernel⟩

end served
end SparseTransfer
