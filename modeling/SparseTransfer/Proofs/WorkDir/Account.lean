import SparseTransfer.Proofs.WorkDir.Moves

/- The account of a history of working directories: which there are, where they are, and what the
next step can do to them. -/
namespace SparseTransfer.WorkDir
open FileSystem

section kept
variable {suffixes : Suffixes} {w : World π} {past : List Record} {s s' : Stock π}
  {spots : List Spot} {p : Spot} {k : Nat} {step : Step} {answer : Answer}

theorem Kept.length (h : Kept suffixes w past s spots) : s.handles.length = numberMade past := by
  rw [h.number]
  simpa using congrArg List.length h.paths

theorem Kept.held_next (h : Kept suffixes w past s spots)
    (hm : Moves suffixes past spots s step answer s') {j : Nat} {handle : Handle}
    (hj : s'.handles[j]? = some handle) :
    handle.held = true ↔ ¬ Happened (Record.givesUp j) (past ++ [⟨step, answer⟩]) j := by
  rw [happened_concat, ← h.length]
  cases hm.comes hj with
  | kept hbefore hspent =>
    rw [h.held hbefore, not_or]
    refine ⟨fun hnever => ⟨hnever, fun ⟨_, hgivesUp⟩ => ?_⟩, And.left⟩
    rw [(h.held hbefore).2 hnever] at hspent
    cases hspent hgivesUp
  | released hlt hgivesUp hheld => simp [hheld, hlt, hgivesUp]
  | new hlast hheld =>
    have hnever : ¬ Happened (Record.givesUp j) past j := by
      intro hhappened
      have hlt := hhappened.lt
      rw [← h.length] at hlt
      omega
    simp [hheld, hlast, hlast ▸ hnever]

theorem Kept.once_next (h : Kept suffixes w past s spots)
    (hm : Moves suffixes past spots s step answer s') (j : Nat) :
    List.countP (Record.removes j) (past ++ [⟨step, answer⟩]) ≤ 1 ∧
      (¬ Happened (Record.givesUp j) (past ++ [⟨step, answer⟩]) j →
        List.countP (Record.removes j) (past ++ [⟨step, answer⟩]) = 0) := by
  rw [happened_concat, List.countP_append, List.countP_singleton, ← h.length]
  by_cases hremoves : Record.removes j ⟨step, answer⟩ = true
  · obtain ⟨path, hheld⟩ := hm.held_of_removes hremoves
    have hzero := (h.once j).2 ((h.held hheld).1 rfl)
    rw [hzero, if_pos hremoves]
    refine ⟨Nat.le_refl 1, fun hnever => (hnever (.inr ⟨?_, ?_⟩)).elim⟩
    · exact (List.getElem?_eq_some_iff.1 hheld).1
    · exact (Bool.and_eq_true_iff.1 hremoves).1
  · rw [if_neg hremoves, Nat.add_zero]
    exact ⟨(h.once j).1, fun hnever => (h.once j).2 fun hhappened => hnever (.inl hhappened)⟩

theorem Kept.laid_next (h : Kept suffixes w past s spots)
    (hm : Moves suffixes past spots s step answer s')
    (hmakes : Record.makes ⟨step, answer⟩ = false) :
    Laid suffixes w.files s'.files spots (Standing (past ++ [⟨step, answer⟩])) := by
  cases hk : step.target? with
  | none =>
    refine h.laid.congr (hm.unmade hk hmakes).1 fun j => standing_other hmakes ?_
    simp [hk]
  | some k =>
    have hother (j : Nat) (hj : j ≠ k) :
        Standing (past ++ [⟨step, answer⟩]) j ↔ Standing past j := by
      refine standing_other hmakes ?_
      simpa [hk] using Ne.symm hj
    rcases hm.target hk with ⟨p, hp, -, hagree, hnow⟩ | ⟨hstands, hfiles⟩
    · exact h.laid.change hp hagree hnow hother
    · refine h.laid.congr hfiles fun j => ?_
      by_cases hj : j = k
      · subst hj
        exact iff_of_false (not_standing_concat hmakes hstands) hstands
      · exact hother j hj

theorem Kept.next_unmade (h : Kept suffixes w past s spots)
    (hm : Moves suffixes past spots s step answer s')
    (hmakes : Record.makes ⟨step, answer⟩ = false) :
    Kept suffixes w (past ++ [⟨step, answer⟩]) s' spots where
  laid := h.laid_next hm hmakes
  paths := (hm.paths hmakes).trans h.paths
  number := by
    rw [numberMade_concat, hmakes, h.number]
    rfl
  origin hp := by
    rw [List.filter_append, List.filter_singleton, hmakes]
    simpa using h.origin hp
  held hj := h.held_next hm hj
  once := h.once_next hm

/-- A name that no handle's path ends in is not the name of a spot. -/
theorem Kept.name_fresh (hproper : suffixes.Proper) (h : Kept suffixes w past s spots)
    (hbase : p.base ≠ []) (hname : isName p.name = true)
    (hfresh : ∀ handle ∈ s.handles,
      (Path.components handle.path).getLast? ≠ (Path.components p.path).getLast?) :
    p.name ∉ spots.map Spot.name := by
  intro hmem
  obtain ⟨q, hq, heq⟩ := List.mem_map.1 hmem
  have hpath : q.path ∈ s.handles.map Handle.path := by
    rw [h.paths]
    exact List.mem_map_of_mem hq
  obtain ⟨handle, hhandle, hqpath⟩ := List.mem_map.1 hpath
  apply hfresh handle hhandle
  rw [hqpath, (h.laid.isFor q hq).components hproper, Spot.path,
    components_append_name hbase hname, List.getLast?_concat, heq]

theorem Kept.next_made (hproper : suffixes.Proper) (h : Kept suffixes w past s spots)
    {parent : Path} {w' : World π} (hbase : p.base = s.files.absolute parent)
    (hdrawn : ∃ k, p.name = drawnName suffixes k) (hhold : s.files.CanHold p.base p.name p.dir)
    (hfiles : w'.files = s.files.insert p.dir p.name .directory)
    (houtside : w.files.stat true p.base = .ok (p.dir, .directory))
    (hfresh : ∀ handle ∈ s.handles,
      (Path.components handle.path).getLast? ≠ (Path.components p.path).getLast?) :
    Kept suffixes w (past ++ [⟨.create parent, .made (.ok p.path)⟩])
      ⟨w', s.handles ++ [⟨p.path, true⟩]⟩ (spots ++ [p]) := by
  have habs : Path.isAbsolute p.base = true := by
    rw [hbase]
    exact isAbsolute_absolute _ _
  have hfor := h.laid.isFor_of_canHold habs hdrawn hhold houtside
  have hm : Moves suffixes past spots s (.create parent) (.made (.ok p.path))
      ⟨w', s.handles ++ [⟨p.path, true⟩]⟩ := .made hbase hdrawn hhold hfiles
  constructor
  · rw [Stock.files, hfiles]
    refine h.laid.made hproper hfor hhold
      (h.name_fresh hproper hfor.base_ne_nil (hfor.isName hproper) hfresh) fun k => ?_
    rw [standing_concat, h.number]
    simp [Record.destroys, Record.givesUp, Record.makes, eq_comm]
  · simp [h.paths]
  · rw [numberMade_concat, h.number]
    simp [Record.makes]
  · intro k q hq
    rw [List.filter_append, List.filter_singleton]
    rcases getElem?_concat_eq_some hq with ⟨hq, -⟩ | ⟨rfl, rfl⟩
    · obtain ⟨parent', hmade, hparent⟩ := h.origin hq
      refine ⟨parent', ?_, hparent⟩
      rw [List.getElem?_append_left (List.getElem?_eq_some_iff.1 hmade).1]
      exact hmade
    · refine ⟨parent, ?_, ?_⟩
      · rw [← h.number, numberMade, List.countP_eq_length_filter]
        exact List.getElem?_concat_length
      · rw [hbase, absolute, absolute, h.laid.cwd]
  · exact fun hj => h.held_next hm hj
  · exact h.once_next hm

end kept

/-- The account of a history: which working directories there are, where, and that there is nothing
else new. -/
structure Accounted (w : World π) (past : List Record) (s : Stock π)
    (spots : List Spot) : Prop where
  /-- The directories are those that were made, in order. -/
  made : ∀ k : Nat, s.handles[k]?.map Handle.path = spots[k]?.map Spot.path ∧
    ∀ p : Spot, spots[k]? = some p → ∃ parent,
      (past.filter Record.makes)[k]? = some ⟨.create parent, .made (.ok p.path)⟩ ∧
        p.base = w.files.absolute parent
  number : numberMade past = spots.length
  /-- Each is directly in its parent. -/
  inParent : ∀ p ∈ spots, w.files.stat true p.base = .ok (p.dir, .directory) ∧
    Path.components p.path = Path.components p.base ++ [.name p.name] ∧ nameStart <+: p.name
  there : ∀ {k : Nat} {p : Spot}, spots[k]? = some p → Standing past k →
    s.files.stat false p.path = .ok (p.loc, .directory)
  gone : ∀ {k : Nat} {p : Spot}, spots[k]? = some p → ¬ Standing past k →
    s.files.stat false p.path = .error (.os .notFound) ∧ s.files.at? p.loc = none
  distinct : (spots.map Spot.path).Nodup
  apart : ∀ {i j : Nat} {p q : Spot}, spots[i]? = some p → spots[j]? = some q → i ≠ j →
    ¬ p.loc <+: q.loc
  elsewhere : s.files.cwd = w.files.cwd ∧
    ∀ o, (∀ p ∈ spots, ¬ p.loc <+: o) → s.files.at? o = w.files.at? o
  once : ∀ k, past.countP (Record.removes k) ≤ 1

/-- What a step leaves as it is, and how it is answered. -/
structure Careful (past : List Record) (s : Stock π) (spots : List Spot) (step : Step)
    (answer : Answer) (s' : Stock π) : Prop where
  only : ∀ {k : Nat} {p : Spot}, step.target? = some k → spots[k]? = some p →
    AgreeOutside p.loc s.files s'.files
  others : ∀ {j : Nat} {q : Spot}, spots[j]? = some q → step.target? ≠ some j → ∀ names,
    s'.files.at? (q.loc ++ names) = s.files.at? (q.loc ++ names)
  idle : ∀ {k}, step.target? = some k → ¬ Standing past k → s'.files = s.files
  made : ∀ {path}, answer = .made (.ok path) → ∃ loc, s.files.at? loc = none ∧
    s'.files.stat false path = .ok (loc, .directory) ∧ AgreeOutside loc s.files s'.files
  refused : ∀ {e}, answer = .made (.error e) → s'.files = s.files ∧ s'.handles = s.handles
  cleaned : ∀ {k : Nat} {path : Path}, step = .cleanup k → s.handles[k]? = some ⟨path, true⟩ →
    ∃ r, answer = .cleaned r ∧ ((∃ e, r = .error e) ↔ Happened (Record.destroys k) past k)
  dropped : ∀ {k : Nat} {path : Path}, step = .drop k → s.handles[k]? = some ⟨path, true⟩ →
    answer = .dropped
  spent : ∀ {k}, step = .cleanup k ∨ step = .drop k →
    Happened (Record.givesUp k) past k → answer = .gone ∧ s' = s

section account
variable {suffixes : Suffixes} {w : World π} {past : List Record} {s s' : Stock π}
  {spots : List Spot} {p : Spot} {k : Nat} {step : Step} {answer : Answer}

theorem Kept.distinct (hproper : suffixes.Proper) (h : Kept suffixes w past s spots) :
    (spots.map Spot.path).Nodup := by
  have hnames := h.laid.names
  rw [List.Nodup, List.pairwise_map] at hnames ⊢
  refine hnames.imp_of_mem fun {p q} hp hq hne heq => hne ?_
  have hcomponents := (h.laid.isFor p hp).components hproper
  rw [heq, (h.laid.isFor q hq).components hproper] at hcomponents
  injection hcomponents with hcomponents
  injection hcomponents with hname
  exact hname.symm

theorem Kept.accounted (hproper : suffixes.Proper) (h : Kept suffixes w past s spots) :
    Accounted w past s spots where
  made k := ⟨h.path k, fun _ hp => h.origin hp⟩
  number := h.number
  inParent p hp := by
    have hfor := h.laid.isFor p hp
    refine ⟨hfor.canHold.isDirectory,
      components_append_name hfor.base_ne_nil (hfor.isName hproper), ?_⟩
    obtain ⟨k, hk⟩ := hfor.drawn
    rw [hk]
    exact List.prefix_append _ _
  there hp hk := h.laid.stat_standing hproper hp hk
  gone hp hk := ⟨h.laid.stat_gone hproper hp hk, h.laid.gone hp hk⟩
  distinct := h.distinct hproper
  apart hp hq hne := h.laid.not_prefix hp hq hne
  elsewhere := ⟨h.laid.cwd, fun _ ho => h.laid.elsewhere ho⟩
  once k := (h.once k).1

/-- A held directory stands, or somebody has destroyed it. -/
theorem Kept.standing_iff {handle : Handle} (h : Kept suffixes w past s spots)
    (hk : s.handles[k]? = some handle) (hheld : handle.held = true) :
    Standing past k ↔ ¬ Happened (Record.destroys k) past k := by
  have hlt := (List.getElem?_eq_some_iff.1 hk).1
  rw [h.length] at hlt
  exact ⟨fun hstands => hstands.2.1, fun hnever => ⟨hlt, hnever, (h.held hk).1 hheld⟩⟩

theorem Kept.others_unmade (h : Kept suffixes w past s spots)
    (hm : Moves suffixes past spots s step answer s')
    (hmakes : Record.makes ⟨step, answer⟩ = false) {j : Nat} {q : Spot} (hq : spots[j]? = some q)
    (hj : step.target? ≠ some j) (names : Location) :
    s'.files.at? (q.loc ++ names) = s.files.at? (q.loc ++ names) := by
  cases hk : step.target? with
  | none => rw [(hm.unmade hk hmakes).1]
  | some k =>
    rcases hm.target hk with ⟨p, hp, -, hagree, -⟩ | ⟨-, hfiles⟩
    · have hne : k ≠ j := fun heq => hj (heq ▸ hk)
      exact h.laid.at?_other hp hq hne hagree names
    · rw [hfiles]

/-- The removal of a held directory fails if somebody has destroyed it before, and only then. -/
theorem Kept.cleaned (h : Kept suffixes w past s spots) {path : Path}
    (hm : Moves suffixes past spots s (.cleanup k) answer s')
    (hheld : s.handles[k]? = some ⟨path, true⟩) :
    ∃ r, answer = .cleaned r ∧ ((∃ e, r = .error e) ↔ Happened (Record.destroys k) past k) := by
  have hiff := h.standing_iff hheld rfl
  cases hm with
  | missed hstep hstands => obtain hstep | ⟨filling, hstep⟩ := hstep <;> cases hstep
  | removed hreleases hk hp hstands hagree hgone =>
    cases hreleases
    refine ⟨.ok (), rfl, iff_of_false ?_ (hiff.1 hstands)⟩
    rintro ⟨e, he⟩
    cases he
  | @notThere _ _ e _ _ _ hreleases hk hp hstands hfiles =>
    cases hreleases
    exact ⟨.error e, rfl, iff_of_true ⟨e, rfl⟩ (not_not.1 fun hnever => hstands (hiff.2 hnever))⟩
  | spent hstep hspent hstands =>
    obtain hstep | hstep := hstep <;> cases hstep
    exact absurd hheld (hspent path)

theorem Moves.dropped {path : Path} (hm : Moves suffixes past spots s (.drop k) answer s')
    (hheld : s.handles[k]? = some ⟨path, true⟩) : answer = .dropped := by
  cases hm with
  | missed hstep hstands => obtain hstep | ⟨filling, hstep⟩ := hstep <;> cases hstep
  | removed hreleases hk hp hstands hagree hgone =>
    cases hreleases
    rfl
  | notThere hreleases hk hp hstands hfiles =>
    cases hreleases
    rfl
  | spent hstep hspent hstands =>
    obtain hstep | hstep := hstep <;> cases hstep
    exact absurd hheld (hspent path)

theorem Moves.unmade_of_error {e : TransferError}
    (hm : Moves suffixes past spots s step (.made (.error e)) s') :
    s'.files = s.files ∧ s'.handles = s.handles := by
  cases hm with
  | refused hfiles => exact ⟨hfiles, rfl⟩
  | removed hreleases hheld hp hstands hagree hgone => cases hreleases
  | notThere hreleases hheld hp hstands hfiles => cases hreleases

/-- What has been given up is not given up again. -/
theorem Kept.spent (h : Kept suffixes w past s spots)
    (hm : Moves suffixes past spots s step answer s') (hstep : step = .cleanup k ∨ step = .drop k)
    (hhappened : Happened (Record.givesUp k) past k) : answer = .gone ∧ s' = s := by
  have hspent {i : Nat} {r : Except TransferError Unit} {path : Path}
      (hreleases : Releases i r step answer)
      (hheld : s.handles[i]? = some ⟨path, true⟩) : False := by
    obtain rfl : i = k := by
      obtain rfl | rfl := hstep <;> cases hreleases <;> rfl
    exact (h.held hheld).1 rfl hhappened
  cases hm with
  | made hbase hdrawn hhold hfiles => obtain hstep | hstep := hstep <;> cases hstep
  | refused hfiles => obtain hstep | hstep := hstep <;> cases hstep
  | filled hp hstands hagree hthere => obtain hstep | hstep := hstep <;> cases hstep
  | destroyed hp hstands hagree hgone => obtain hstep | hstep := hstep <;> cases hstep
  | missed hmissed hstands =>
    obtain rfl | ⟨filling, rfl⟩ := hmissed <;> obtain hstep | hstep := hstep <;> cases hstep
  | removed hreleases hheld hp hstands hagree hgone => exact (hspent hreleases hheld).elim
  | notThere hreleases hheld hp hstands hfiles => exact (hspent hreleases hheld).elim
  | spent _ _ _ => exact ⟨rfl, rfl⟩

theorem Kept.careful_unmade (h : Kept suffixes w past s spots)
    (hm : Moves suffixes past spots s step answer s')
    (hmakes : Record.makes ⟨step, answer⟩ = false) : Careful past s spots step answer s' where
  only {k p} hk hp := by
    rcases hm.target hk with ⟨p', hp', -, hagree, -⟩ | ⟨-, hfiles⟩
    · cases hp.symm.trans hp'
      exact hagree
    · rw [hfiles]
      exact AgreeOutside.refl _ _
  others hq hj names := h.others_unmade hm hmakes hq hj names
  idle {k} hk hstands := by
    rcases hm.target hk with ⟨p, -, hstands', -⟩ | ⟨-, hfiles⟩
    · exact absurd hstands' hstands
    · exact hfiles
  made hanswer := by
    rw [hanswer] at hmakes
    cases hmakes
  refused hanswer := by
    subst hanswer
    exact hm.unmade_of_error
  cleaned hstep hheld := by
    subst hstep
    exact h.cleaned hm hheld
  dropped hstep hheld := by
    subst hstep
    exact hm.dropped hheld
  spent hstep hhappened := h.spent hm hstep hhappened

theorem Kept.careful_made (hproper : suffixes.Proper) {parent : Path} {w' : World π}
    {handles : List Handle}
    (h : Kept suffixes w (past ++ [⟨.create parent, .made (.ok p.path)⟩]) ⟨w', handles⟩
      (spots ++ [p]))
    (hhold : s.files.CanHold p.base p.name p.dir)
    (hfiles : w'.files = s.files.insert p.dir p.name .directory)
    (hnumber : numberMade past = spots.length) :
    Careful past s spots (.create parent) (.made (.ok p.path)) ⟨w', handles⟩ where
  only hk := by cases hk
  others {j q} hq _ names := by
    have hlt := (List.getElem?_eq_some_iff.1 hq).1
    have hagree : AgreeOutside p.loc s.files w'.files := by
      rw [hfiles]
      exact insert_agreeOutside _ _ _ _
    have hq' : (spots ++ [p])[j]? = some q := by rwa [List.getElem?_append_left hlt]
    exact (h.laid.at?_other List.getElem?_concat_length hq' (Nat.ne_of_gt hlt) hagree.symm
      names).symm
  idle hk := by cases hk
  made {path} hanswer := by
    cases hanswer
    refine ⟨p.loc, hhold.isFree, ?_, ?_⟩
    · refine h.laid.stat_standing hproper List.getElem?_concat_length ?_
      exact standing_concat.2 (.inr ⟨rfl, hnumber⟩)
    · show AgreeOutside p.loc s.files w'.files
      rw [hfiles]
      exact insert_agreeOutside _ _ _ _
  refused hanswer := by cases hanswer
  cleaned hstep := by cases hstep
  dropped hstep := by cases hstep
  spent hstep := by obtain hstep | hstep := hstep <;> cases hstep

/-- A step keeps what holds, and where directories have been made before they stay. -/
theorem Kept.next (hproper : suffixes.Proper) (h : Kept suffixes w past s spots)
    (hfits : Fits suffixes w.files s step) : ∃ added,
      Kept suffixes w (past ++ [⟨step, (s.step suffixes step).1⟩]) (s.step suffixes step).2
        (spots ++ added) ∧
      Careful past s spots step (s.step suffixes step).1 (s.step suffixes step).2 := by
  have hm := h.moves hproper step
  obtain ⟨houtside, hfresh⟩ := hfits
  generalize (s.step suffixes step).1 = answer at hm hfresh ⊢
  generalize (s.step suffixes step).2 = s' at hm ⊢
  cases hmakes : Record.makes ⟨step, answer⟩ with
  | false => exact ⟨[], by simpa using h.next_unmade hm hmakes, h.careful_unmade hm hmakes⟩
  | true =>
    cases hm with
    | @made parent p _ hbase hdrawn hhold hfiles =>
      have hdir := hhold.isDirectory
      rw [hbase] at hdir
      have houtside := houtside rfl hdir
      rw [← hbase] at houtside
      have hnext := h.next_made hproper hbase hdrawn hhold hfiles houtside (hfresh rfl)
      exact ⟨[p], hnext, hnext.careful_made hproper hhold hfiles h.number⟩
    | removed hreleases hheld hp hstands hagree hgone => cases hreleases <;> cases hmakes
    | notThere hreleases hheld hp hstands hfiles => cases hreleases <;> cases hmakes
    | _ => cases hmakes

theorem History.kept (hproper : suffixes.Proper) (h : History suffixes w past s) :
    ∃ spots, Kept suffixes w past s spots := by
  induction h with
  | start => exact ⟨[], Kept.start suffixes w⟩
  | next step _ hfits ih =>
    obtain ⟨spots, hkept⟩ := ih
    obtain ⟨added, hnext, -⟩ := hkept.next hproper hfits
    exact ⟨_, hnext⟩

/-- After every history all working directories are accounted for, and the next step does no more
than it should. -/
theorem history_accounted (hproper : suffixes.Proper) (h : History suffixes w past s) :
    ∃ spots, Accounted w past s spots ∧ ∀ step, Fits suffixes w.files s step →
      Careful past s spots step (s.step suffixes step).1 (s.step suffixes step).2 := by
  obtain ⟨spots, hkept⟩ := h.kept hproper
  refine ⟨spots, hkept.accounted hproper, fun step hfits => ?_⟩
  obtain ⟨added, -, hcareful⟩ := hkept.next hproper hfits
  exact hcareful

end account

/-- A file system with two empty folders, `a` and `b`. -/
def twoFolders : FileSystem where
  items := [([[97]], .directory), ([[98]], .directory)]
  cwd := []
  distinct := by decide
  inDirectory := by decide
  named := by decide

def letters : Suffixes := fun k => List.replicate 6 (if k = 0 then 97 else 98)

theorem proper_letters : letters.Proper := by
  refine fun k => ⟨List.length_replicate, fun b hb => .inr (.inr ?_)⟩
  rw [List.eq_of_mem_replicate hb]
  split <;> decide

/-- A working directory has been made in `a`. -/
def oneMade : Stock Unit :=
  ((⟨⟨twoFolders, 0, ()⟩, []⟩ : Stock Unit).step letters (.create [47, 97])).2

/-- Another has been made in `b`. -/
def twoMade : Stock Unit := (oneMade.step letters (.create [47, 98])).2

/-- The one in `a` has been destroyed. -/
def oneLost : Stock Unit := (twoMade.step letters (.destroy 0)).2

def firstPath : Path := [47, 97, 47] ++ drawnName letters 0
def secondPath : Path := [47, 98, 47] ++ drawnName letters 1

def lostPast : List Record :=
  [⟨.create [47, 97], .made (.ok firstPath)⟩, ⟨.create [47, 98], .made (.ok secondPath)⟩,
    ⟨.destroy 0, .unnoticed⟩]

theorem history_oneLost : History letters ⟨twoFolders, 0, ()⟩ lostPast oneLost := by
  refine .next (.destroy 0) (.next (.create [47, 98]) (.next (.create [47, 97]) .start ⟨?_, ?_⟩)
    ⟨?_, ?_⟩) ⟨?_, ?_⟩
  · intro parent dir hstep hdir
    cases hstep
    exact hdir
  · intro path _ handle hmem
    cases hmem
  · intro parent dir hstep hdir
    cases hstep
    have hnow : oneMade.files.stat true (oneMade.files.absolute [47, 98]) =
        .ok ([[98]], .directory) := by decide +kernel
    cases hnow.symm.trans hdir
    decide +kernel
  · intro path hpath handle hmem
    have hmade : (oneMade.step letters (.create [47, 98])).1 = .made (.ok secondPath) := rfl
    cases hmade.symm.trans hpath
    have hhandles : oneMade.handles = [⟨firstPath, true⟩] := rfl
    have hmem' : handle ∈ oneMade.handles := hmem
    rw [hhandles] at hmem'
    cases List.mem_singleton.1 hmem'
    decide +kernel
  · intro parent dir hstep
    cases hstep
  · intro path hpath
    cases hpath

theorem history_accounted_oneLost : (letters.Proper ∧
    History letters ⟨twoFolders, 0, ()⟩ lostPast oneLost) ∧
    Happened (Record.destroys 0) lostPast 0 ∧
    ∃ spots, Accounted ⟨twoFolders, 0, ()⟩ lostPast oneLost spots ∧
      ∀ step, Fits letters twoFolders oneLost step →
        Careful lostPast oneLost spots step (oneLost.step letters step).1
          (oneLost.step letters step).2 :=
  ⟨⟨proper_letters, history_oneLost⟩,
    ⟨_, rfl, ⟨.destroy 0, .unnoticed⟩, List.mem_cons_of_mem _ List.mem_cons_self, rfl⟩,
    history_accounted proper_letters history_oneLost⟩

end SparseTransfer.WorkDir
