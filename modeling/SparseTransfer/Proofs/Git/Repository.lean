import SparseTransfer.Pipeline
import SparseTransfer.Proofs.File.Making
import SparseTransfer.Proofs.Git.Checkout
import SparseTransfer.Proofs.WorkDir

/- A git that keeps to its repository. Until it checks a tree out, there is nothing but metadata in
the staging directory of a working directory. -/
namespace SparseTransfer
open FileSystem Pipeline

def stagingName : Bytes := Path.ofText "staging"

theorem isName_staging : isName stagingName = true := by decide +kernel

theorem isAbsolute_stagingDir {workDir : Path} (h : Path.isAbsolute workDir = true) :
    Path.isAbsolute (stagingDir workDir) = true := by
  have hne := Path.ne_nil_of_isAbsolute h
  exact (Path.isAbsolute_append hne (isAbsolute_of_isName isName_staging)).trans h

/-- Git changes nothing outside the repository for which it is called, only a checkout changes
anything but the metadata, and no links are made. -/
structure Git.KeepsToRepository (git : Git) : Prop where
  metadata : ∀ {before : List GitCall} {c : GitCall} {fs fs' : FileSystem} {reply : GitReply}
    {loc : Location}, (∀ branch, c.operation ≠ .checkout branch) →
    fs.stat true c.dest = .ok (loc, .directory) → git before c fs = (fs', reply) →
    AgreeOutside (loc ++ [metadataName]) fs fs'
  tree : ∀ {before : List GitCall} {c : GitCall} {fs fs' : FileSystem} {reply : GitReply}
    {loc : Location}, fs.stat true c.dest = .ok (loc, .directory) → git before c fs = (fs', reply) →
    AgreeOutside loc fs fs'
  linkFree : ∀ {before : List GitCall} {c : GitCall} {fs fs' : FileSystem} {reply : GitReply}
    {loc : Location}, fs.stat true c.dest = .ok (loc, .directory) → git before c fs = (fs', reply) →
    LinkFree fs loc → LinkFree fs' loc

/-- In the working directory at `home`, which was made in `fs₀`, is a staging directory in which
there is nothing but metadata, and nothing else. -/
structure Tidy (fs₀ : FileSystem) (home : Location) (fs : FileSystem) : Prop where
  agree : AgreeOutside home fs₀ fs
  isDirectory : fs.at? (home ++ [stagingName]) = some .directory
  alone : ∀ {name : Bytes} (names : Location), name ≠ stagingName →
    fs.at? (home ++ name :: names) = none
  noTree : ∀ {name : Bytes} (names : Location), name ≠ metadataName →
    fs.at? (home ++ stagingName :: name :: names) = none
  linkFree : LinkFree fs (home ++ [stagingName])

section tidy
variable {fs₀ fs fs' : FileSystem} {home : Location}

theorem Tidy.at?_home (h : Tidy fs₀ home fs) : fs.at? home = some .directory :=
  at?_directory_of_child h.isDirectory

theorem Tidy.of_metadata (h : Tidy fs₀ home fs)
    (hagree : AgreeOutside (home ++ [stagingName] ++ [metadataName]) fs fs')
    (hfree : LinkFree fs' (home ++ [stagingName])) : Tidy fs₀ home fs' := by
  have hsame {o : Location} (ho : ¬ [stagingName, metadataName] <+: o) :
      fs'.at? (home ++ o) = fs.at? (home ++ o) := by
    apply hagree.at?
    rw [List.append_assoc, List.prefix_append_right_inj]
    exact ho
  refine ⟨h.agree.trans (hagree.mono ?_), ?_, fun {name} names hname => ?_,
    fun {name} names hname => ?_, hfree⟩
  · rw [List.append_assoc]
    exact List.prefix_append _ _
  · rw [hsame (by simp)]
    exact h.isDirectory
  · rw [hsame (by simp [Ne.symm hname])]
    exact h.alone names hname
  · rw [hsame (by simp [Ne.symm hname])]
    exact h.noTree names hname

variable {base : Path} {n : Bytes} {dir : Location}

/-- A working directory leads to where it was made as long as a directory stands there. -/
theorem FileSystem.CanHold.stat_made (hbase : base ≠ []) (hn : isName n = true)
    (hhold : fs₀.CanHold base n dir) (hagree : AgreeOutside (dir ++ [n]) fs₀ fs)
    (hat : fs.at? (dir ++ [n]) = some .directory) :
    fs.stat true (Path.append base n) = .ok (dir ++ [n], .directory) := by
  apply stat_followed _ (by simp)
  rw [stat_eq_ok_iff, lookup_name hbase hn]
  exact ⟨hhold.isUsable, dir, hhold.stat hagree, by rw [placeIn, hat]⟩

theorem Tidy.stat_staging (hbase : base ≠ []) (hn : isName n = true)
    (hhold : fs₀.CanHold base n dir) (h : Tidy fs₀ (dir ++ [n]) fs)
    (husable : IsUsable (stagingDir (Path.append base n))) :
    fs.stat true (stagingDir (Path.append base n)) =
      .ok (dir ++ [n] ++ [stagingName], .directory) := by
  have hhome := hhold.stat_made hbase hn h.agree h.at?_home
  exact stat_followed (@stat_pathBelow _ [stagingName] fs _ _ hhome (by simp) h.isDirectory husable)
    (by simp)

/-- A staging directory that has just been made is all there is in a new working directory. -/
theorem tidy_of_made (hbase : Path.isAbsolute base = true) (hn : isName n = true)
    (hhold : fs₀.CanHold base n dir)
    (h : (fs₀.insert dir n .directory).createDirAll (stagingDir (Path.append base n)) = .ok fs) :
    Tidy fs₀ (dir ++ [n]) fs ∧ IsUsable (stagingDir (Path.append base n)) := by
  have hne := Path.ne_nil_of_isAbsolute hbase
  have hdir : fs₀.at? dir = some .directory :=
    lookup_found hbase (stat_eq_ok_iff.1 hhold.isDirectory)
  have hat (o : Location) : (fs₀.insert dir n .directory).at? o =
      if o = dir ++ [n] then some .directory else fs₀.at? o := at?_insert hdir hhold.isFree hn o
  have hinsert := insert_agreeOutside fs₀ dir n .directory
  have hhome := hhold.stat_made hne hn hinsert (by rw [hat, if_pos rfl])
  have hbelow {names : Location} (hnames : names ≠ []) :
      (fs₀.insert dir n .directory).at? (dir ++ [n] ++ names) = none := by
    rw [hat, if_neg (by simpa using hnames)]
    exact at?_eq_none_below hhold.isFree (List.prefix_append _ _)
  have hfree : LinkFree (fs₀.insert dir n .directory) (dir ++ [n]) :=
    (linkFree_of_none hhold.isFree).insert dir n fun target hlink => by cases hlink
  have habs : Path.isAbsolute (Path.append base n) = true :=
    (Path.isAbsolute_append hne (isAbsolute_of_isName hn)).trans hbase
  obtain ⟨hgrown, hstat⟩ := @createDirAll_pathBelow _ _ _ [stagingName] _ habs hhome hfree (by simp)
    (by simpa using isName_staging) h
  have hmade {o : Location} (ho : o ≠ dir ++ [n] ++ [stagingName]) :
      fs.at? o = (fs₀.insert dir n .directory).at? o := by
    rcases hgrown.at? o with hsame | ⟨-, -, k, hk⟩
    · exact hsame
    · exact absurd (by simpa using hk) ho
  have hlook := stat_eq_ok_iff.1 hstat
  have habs' := isAbsolute_stagingDir habs
  refine ⟨⟨hinsert.trans ⟨hgrown.cwd, fun {o} ho => hmade ?_⟩,
    lookup_found habs' hlook, ?_, ?_, ?_⟩, (lookup_eq_ok_iff.1 hlook).1⟩
  · rintro rfl
    exact ho (List.prefix_append _ _)
  · intro name names hname
    rw [hmade (by simp [hname])]
    exact hbelow (by simp)
  · intro name names hname
    rw [hmade (by simp)]
    exact hbelow (by simp)
  · exact (hgrown.linkFree hfree).mono [stagingName]

theorem Tidy.asked {git : Git} (hgit : git.KeepsToRepository) {dest : Path}
    (hdest : ∀ {fs}, Tidy fs₀ home fs → fs.stat true dest = .ok (home ++ [stagingName], .directory))
    {ops : List GitOperation} (hops : ∀ op ∈ ops, ∀ branch, op ≠ .checkout branch)
    {before : List GitCall} {log : List (GitCall × GitReply)} (hfs : Tidy fs₀ home fs)
    (h : Asked git dest ops before fs log fs') : Tidy fs₀ home fs' := by
  induction h with
  | nil before fs => exact hfs
  | @cons op ops before fs fs₁ fs' reply log hreply _ _ ih =>
    have hstat := hdest hfs
    have hagree := hgit.metadata (c := ⟨dest, op⟩) (hops op (by simp)) hstat hreply
    have hfree := hgit.linkFree (c := ⟨dest, op⟩) hstat hreply hfs.linkFree
    exact ih (fun op hop => hops op (List.mem_cons_of_mem _ hop)) (hfs.of_metadata hagree hfree)

theorem FileSystem.DifferAt.linkFree {loc place : Location} (h : DifferAt place fs fs')
    (hfree : LinkFree fs loc) : LinkFree fs' loc := by
  intro names target hlink
  by_cases hplace : loc ++ names = place
  · rw [hplace] at hlink
    cases h.leaf' hlink
  · rw [h.same hplace] at hlink
    exact hfree names target hlink

theorem FileSystem.Grown.agreeOutside {d : Location} {name : Bytes} {names : List Bytes}
    (h : Grown d (name :: names) fs fs') : AgreeOutside (d ++ [name]) fs fs' := by
  refine ⟨h.cwd, fun {o} ho => ?_⟩
  rcases h.at? o with hsame | ⟨-, -, k, rfl⟩
  · exact hsame
  · exact absurd ⟨names.take k, by simp⟩ ho

theorem Tidy.pattern {dest : Path} (habs : Path.isAbsolute dest = true)
    (hdest : ∀ {fs}, Tidy fs₀ home fs → fs.stat true dest = .ok (home ++ [stagingName], .directory))
    (hfs : Tidy fs₀ home fs) {mid : FileSystem}
    (hmade : fs.createDirAll (SparseCheckout.infoDir dest) = .ok mid) {content : Content}
    (hwrote : mid.write (SparseCheckout.patternFile dest) content = .ok fs') :
    Tidy fs₀ home fs' := by
  have hne := Path.ne_nil_of_isAbsolute habs
  have hnames : ∀ n ∈ [metadataName, Path.ofText "info", Path.ofText "sparse-checkout"],
      isName n = true := by
    simpa using ⟨isName_metadata, isName_info, isName_pattern⟩
  obtain ⟨hgrown, -⟩ := @createDirAll_pathBelow _ _ _ [metadataName, Path.ofText "info"] _ habs
    (hdest hfs) hfs.linkFree (by simp) (by simpa using ⟨isName_metadata, isName_info⟩) hmade
  have hmid := hfs.of_metadata hgrown.agreeOutside (hgrown.linkFree hfs.linkFree)
  rw [write] at hwrote
  cases hcreate : mid.create (SparseCheckout.patternFile dest) with
  | error e =>
    rw [hcreate] at hwrote
    cases hwrote
  | ok made =>
    obtain ⟨made, loc⟩ := made
    rw [hcreate] at hwrote
    cases hwrote
    obtain ⟨hdiffer, ⟨q, hlook, rfl, -, -⟩, hout⟩ := create_spec hcreate
    have hwritten := hdiffer.trans (writeAt_differAt content hout)
    have hextends := @extends_pathBelow dest _ hne (by simp) hnames
    obtain ⟨d, links, hfirst, hrest⟩ := hextends.of_lookup hne hlook
    cases (hdest hmid).symm.trans hfirst
    have hloc := hmid.linkFree.resolves (fun n hn => ne_dots_of_isName (hnames n hn)) hrest
    rw [undotted_of_isName hnames] at hloc
    refine hmid.of_metadata (hwritten.agreeOutside.mono ?_) (hwritten.linkFree hmid.linkFree)
    rw [hloc, List.prefix_append_right_inj]
    exact ⟨_, rfl⟩

/-- The tree that a checkout leaves was made by its last call, in a staging directory in which
nothing was but metadata. -/
theorem SparseCheckout.CheckedOut.tree {git : Git} {c : SparseCheckout}
    (hgit : git.KeepsToRepository) (hbase : Path.isAbsolute base = true) (hn : isName n = true)
    (hhold : fs₀.CanHold base n dir) {calls : List GitCall} {fs₁ fs₂ fs₃ fs₄ : FileSystem}
    {log log' : List (GitCall × GitReply)}
    (h : CheckedOut c git (stagingDir (Path.append base n)) calls (fs₀.insert dir n .directory) fs₁
      fs₂ fs₃ fs₄ fs' log log') :
    ∃ history before reply, Tidy fs₀ (dir ++ [n]) before ∧
      git history ⟨stagingDir (Path.append base n), .checkout c.branch⟩ before = (fs', reply) ∧
      AgreeOutside (dir ++ [n] ++ [stagingName]) before fs' ∧
      LinkFree fs' (dir ++ [n] ++ [stagingName]) := by
  have hne := Path.ne_nil_of_isAbsolute hbase
  obtain ⟨htidy, husable⟩ := tidy_of_made hbase hn hhold h.made
  have hdest {fs : FileSystem} (hfs : Tidy fs₀ (dir ++ [n]) fs) :=
    hfs.stat_staging hne hn hhold husable
  have habs :=
    isAbsolute_stagingDir ((Path.isAbsolute_append hne (isAbsolute_of_isName hn)).trans hbase)
  have hprepared := htidy.asked hgit hdest (by simp [preparing]) h.prepared
  have hpattern := hprepared.pattern habs hdest h.madeInfo h.wrote
  cases h.fetched with
  | cons hfetch _ hcheckout =>
    have hbefore := hpattern.asked hgit hdest (by simp) (.cons hfetch ‹_› (.nil _ _))
    cases hcheckout with
    | cons hreply _ hnil =>
      cases hnil
      have hstat := hdest hbefore
      exact ⟨_, _, _, hbefore, hreply, hgit.tree hstat hreply,
        hgit.linkFree hstat hreply hbefore.linkFree⟩

end tidy
end SparseTransfer
