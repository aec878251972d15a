import SparseTransfer.Proofs.WorkDir.History

/- What the steps of a history do: each of them changes one directory at the most, and that where
the directory stands. -/
namespace SparseTransfer.WorkDir
open FileSystem

/-- The steps that give a directory up, with their answers to how its removal ends. -/
inductive Releases (k : Nat) (r : Except TransferError Unit) : Step → Answer → Prop
  | cleanup : Releases k r (.cleanup k) (.cleaned r)
  | drop : Releases k r (.drop k) .dropped

/-- What a step can do, if the directories made so far are at `spots`. -/
inductive Moves (suffixes : Suffixes) (past : List Record) (spots : List Spot) (s : Stock π) :
    Step → Answer → Stock π → Prop
  | made {parent : Path} {p : Spot} {w' : World π} (hbase : p.base = s.files.absolute parent)
      (hdrawn : ∃ k, p.name = drawnName suffixes k) (hhold : s.files.CanHold p.base p.name p.dir)
      (hfiles : w'.files = s.files.insert p.dir p.name .directory) :
      Moves suffixes past spots s (.create parent) (.made (.ok p.path))
        ⟨w', s.handles ++ [⟨p.path, true⟩]⟩
  | refused {parent : Path} {e : TransferError} {w' : World π} (hfiles : w'.files = s.files) :
      Moves suffixes past spots s (.create parent) (.made (.error e)) ⟨w', s.handles⟩
  | filled {k : Nat} {p : Spot} {filling : Filling} {w' : World π} (hp : spots[k]? = some p)
      (hstands : Standing past k) (hagree : AgreeOutside p.loc s.files w'.files)
      (hthere : w'.files.at? p.loc = some .directory) :
      Moves suffixes past spots s (.add k filling) .unnoticed ⟨w', s.handles⟩
  | destroyed {k : Nat} {p : Spot} {w' : World π} (hp : spots[k]? = some p)
      (hstands : Standing past k) (hagree : AgreeOutside p.loc s.files w'.files)
      (hgone : w'.files.at? p.loc = none) :
      Moves suffixes past spots s (.destroy k) .unnoticed ⟨w', s.handles⟩
  | missed {k : Nat} {step : Step} (hstep : step = .destroy k ∨ ∃ filling, step = .add k filling)
      (hstands : ¬ Standing past k) : Moves suffixes past spots s step .unnoticed s
  | removed {k : Nat} {p : Spot} {step : Step} {answer : Answer} {w' : World π}
      (hreleases : Releases k (.ok ()) step answer) (hheld : s.handles[k]? = some ⟨p.path, true⟩)
      (hp : spots[k]? = some p) (hstands : Standing past k)
      (hagree : AgreeOutside p.loc s.files w'.files) (hgone : w'.files.at? p.loc = none) :
      Moves suffixes past spots s step answer ⟨w', s.handles.set k ⟨p.path, false⟩⟩
  | notThere {k : Nat} {p : Spot} {e : TransferError} {step : Step} {answer : Answer} {w' : World π}
      (hreleases : Releases k (.error e) step answer) (hheld : s.handles[k]? = some ⟨p.path, true⟩)
      (hp : spots[k]? = some p) (hstands : ¬ Standing past k) (hfiles : w'.files = s.files) :
      Moves suffixes past spots s step answer ⟨w', s.handles.set k ⟨p.path, false⟩⟩
  | spent {k : Nat} {step : Step} (hstep : step = .cleanup k ∨ step = .drop k)
      (hspent : ∀ path, s.handles[k]? ≠ some ⟨path, true⟩) (hstands : ¬ Standing past k) :
      Moves suffixes past spots s step .gone s

/-- What is so after every history. -/
structure Kept (suffixes : Suffixes) (w : World π) (past : List Record) (s : Stock π)
    (spots : List Spot) : Prop where
  laid : Laid suffixes w.files s.files spots (Standing past)
  paths : s.handles.map Handle.path = spots.map Spot.path
  number : numberMade past = spots.length
  origin : ∀ {k : Nat} {p : Spot}, spots[k]? = some p → ∃ parent,
    (past.filter Record.makes)[k]? = some ⟨.create parent, .made (.ok p.path)⟩ ∧
      p.base = w.files.absolute parent
  held : ∀ {k : Nat} {h : Handle}, s.handles[k]? = some h →
    (h.held = true ↔ ¬ Happened (Record.givesUp k) past k)
  once : ∀ k, past.countP (Record.removes k) ≤ 1 ∧
    (¬ Happened (Record.givesUp k) past k → past.countP (Record.removes k) = 0)

section kept
variable {suffixes : Suffixes} {w : World π} {past : List Record} {s s' : Stock π}
  {spots : List Spot} {p : Spot} {k : Nat}

theorem Kept.start (suffixes : Suffixes) (w : World π) : Kept suffixes w [] ⟨w, []⟩ [] where
  laid := Laid.start suffixes w.files _
  paths := rfl
  number := rfl
  origin hp := by cases hp
  held hh := by cases hh
  once _ := ⟨Nat.zero_le 1, fun _ => rfl⟩

theorem Kept.path (h : Kept suffixes w past s spots) (k : Nat) :
    s.handles[k]?.map Handle.path = spots[k]?.map Spot.path := by
  rw [← List.getElem?_map, h.paths, List.getElem?_map]

theorem Kept.spot {handle : Handle} (h : Kept suffixes w past s spots)
    (hk : s.handles[k]? = some handle) : ∃ p, spots[k]? = some p ∧ handle.path = p.path := by
  have hpath := h.path k
  rw [hk, Option.map_some, eq_comm, Option.map_eq_some_iff] at hpath
  obtain ⟨p, hp, heq⟩ := hpath
  exact ⟨p, hp, heq.symm⟩

theorem Kept.not_standing (h : Kept suffixes w past s spots) (hk : s.handles[k]? = none) :
    ¬ Standing past k := by
  have hpath := h.path k
  rw [hk, Option.map_none, eq_comm, Option.map_eq_none_iff, List.getElem?_eq_none_iff] at hpath
  rintro ⟨hlt, -⟩
  rw [h.number] at hlt
  omega

theorem Kept.not_standing_of_spent (h : Kept suffixes w past s spots)
    (hspent : ∀ path, s.handles[k]? ≠ some ⟨path, true⟩) : ¬ Standing past k := by
  cases hk : s.handles[k]? with
  | none => exact h.not_standing hk
  | some handle =>
    obtain ⟨path, held⟩ := handle
    rintro ⟨-, -, hnever⟩
    obtain rfl : held = true := (h.held hk).2 hnever
    exact hspent path hk

theorem moves_create (hproper : suffixes.Proper) (past : List Record) (spots : List Spot)
    (s : Stock π) (parent : Path) : Moves suffixes past spots s (.create parent)
    (s.step suffixes (.create parent)).1 (s.step suffixes (.create parent)).2 := by
  have hends := ends_create (Action.ends_run (create suffixes parent) s.world)
  rcases ends_createNamed hproper (absolute_ne_nil _ _) hends with
    ⟨k, dir, -, hhold, hr, hfiles⟩ | ⟨⟨e, hr⟩, hfiles, -⟩
  · rw [Stock.step]
    simp only [hr]
    exact .made (p := ⟨s.files.absolute parent, dir, drawnName suffixes (s.world.drawn + k)⟩) rfl
      ⟨_, rfl⟩ hhold hfiles
  · rw [Stock.step]
    simp only [hr]
    exact .refused hfiles

section moves
variable (hproper : suffixes.Proper) (h : Kept suffixes w past s spots)
include hproper h

theorem Kept.moves_add (k : Nat) (filling : Filling) : Moves suffixes past spots s (.add k filling)
    (s.step suffixes (.add k filling)).1 (s.step suffixes (.add k filling)).2 := by
  rw [Stock.step, Stock.touched]
  split
  · next handle hk =>
    obtain ⟨p, hp, hpath⟩ := h.spot hk
    rw [hpath, Stock.filled]
    by_cases hstands : Standing past k
    · rw [h.laid.stat_standing hproper hp hstands]
      have hat := h.laid.standing hp hstands
      exact .filled hp hstands (filling.agree hat) (filling.stays hat)
    · rw [h.laid.stat_gone hproper hp hstands]
      exact .missed (.inr ⟨filling, rfl⟩) hstands
  · next hk => exact .missed (.inr ⟨filling, rfl⟩) (h.not_standing hk)

theorem Kept.moves_destroy (k : Nat) : Moves suffixes past spots s (.destroy k)
    (s.step suffixes (.destroy k)).1 (s.step suffixes (.destroy k)).2 := by
  rw [Stock.step, Stock.touched]
  split
  · next handle hk =>
    obtain ⟨p, hp, hpath⟩ := h.spot hk
    rw [hpath, Stock.destroyed]
    by_cases hstands : Standing past k
    · rw [h.laid.removeTree_standing hproper hp hstands]
      exact .destroyed hp hstands (remove_agreeOutside _ _) (at?_remove_self _ (by simp [Spot.loc]))
    · rw [h.laid.removeTree_gone hproper hp hstands]
      exact .missed (.inl rfl) hstands
  · next hk => exact .missed (.inl rfl) (h.not_standing hk)

/-- What gives a directory up ends as its removal does. -/
theorem Kept.moves_givenUp {step : Step} {release : Path → Action (World π) Unit}
    {answer : Except TransferError Unit → Answer} (hstep : step = .cleanup k ∨ step = .drop k)
    (hrelease : ∀ {path r w'}, (release path).Ends s.world r w' → ∃ r',
      Releases k r' step (answer r) ∧ (remove path).Ends s.world r' w') :
    Moves suffixes past spots s step (s.givenUp k release answer).1
      (s.givenUp k release answer).2 := by
  rw [Stock.givenUp]
  split
  · next path hk =>
    obtain ⟨p, hp, rfl⟩ := h.spot hk
    obtain ⟨r', hreleases, hends⟩ := hrelease (Action.ends_run (release p.path) s.world)
    by_cases hstands : Standing past k
    · have hremove := h.laid.removeTree_standing hproper hp hstands
      obtain ⟨files, hfiles, rfl, hw⟩ | ⟨failure, hfailure, -⟩ := ends_remove hends
      · cases hremove.symm.trans hfiles
        refine .removed hreleases hk hp hstands ?_ ?_
        · rw [hw]
          exact remove_agreeOutside _ _
        · rw [hw]
          exact at?_remove_self _ (by simp [Spot.loc])
      · cases hremove.symm.trans hfailure
    · have hremove := h.laid.removeTree_gone hproper hp hstands
      obtain ⟨files, hfiles, -⟩ | ⟨failure, -, rfl, hw⟩ := ends_remove hends
      · cases hremove.symm.trans hfiles
      · exact .notThere hreleases hk hp hstands (by rw [hw]; rfl)
  · next hspent => exact .spent hstep (fun path => hspent path) (h.not_standing_of_spent hspent)

theorem Kept.moves (step : Step) : Moves suffixes past spots s step (s.step suffixes step).1
    (s.step suffixes step).2 := by
  cases step with
  | create parent => exact moves_create hproper past spots s parent
  | add k filling => exact h.moves_add hproper k filling
  | destroy k => exact h.moves_destroy hproper k
  | cleanup k =>
    refine h.moves_givenUp hproper (.inl rfl) fun {path r w'} hends => ⟨r, .cleanup, ?_⟩
    rwa [cleanup, Action.ends_report_bind] at hends
  | drop k =>
    refine h.moves_givenUp hproper (.inr rfl) fun {path r w'} hends => ?_
    rw [drop, Action.ends_attempt_bind] at hends
    obtain ⟨r', w₁, hremove, hpure⟩ := hends
    obtain ⟨-, rfl⟩ := Action.ends_pure.1 hpure
    exact ⟨r', .drop, hremove⟩

end moves

variable {step : Step} {answer : Answer}

/-- What a step does to the directory it is about. -/
theorem Moves.target (hm : Moves suffixes past spots s step answer s')
    (hk : step.target? = some k) :
    (∃ p, spots[k]? = some p ∧ Standing past k ∧ AgreeOutside p.loc s.files s'.files ∧
      ((Standing (past ++ [⟨step, answer⟩]) k ∧ s'.files.at? p.loc = some .directory) ∨
        (¬ Standing (past ++ [⟨step, answer⟩]) k ∧ s'.files.at? p.loc = none))) ∨
    ¬ Standing past k ∧ s'.files = s.files := by
  cases hm with
  | made hbase hdrawn hhold hfiles => cases hk
  | refused hfiles => cases hk
  | filled hp hstands hagree hthere =>
    cases hk
    refine .inl ⟨_, hp, hstands, hagree,
      .inl ⟨standing_concat.2 (.inl ⟨hstands, rfl, rfl⟩), hthere⟩⟩
  | destroyed hp hstands hagree hgone =>
    cases hk
    refine .inl ⟨_, hp, hstands, hagree, .inr ⟨?_, hgone⟩⟩
    simp [standing_concat, Record.destroys, Record.makes]
  | missed hstep hstands =>
    obtain rfl | ⟨filling, rfl⟩ := hstep <;> cases hk <;> exact .inr ⟨hstands, rfl⟩
  | removed hreleases hheld hp hstands hagree hgone =>
    cases hreleases <;> cases hk <;>
    · refine .inl ⟨_, hp, hstands, hagree, .inr ⟨?_, hgone⟩⟩
      simp [standing_concat, Record.givesUp, Record.makes]
  | notThere hreleases hheld hp hstands hfiles =>
    cases hreleases <;> cases hk <;> exact .inr ⟨hstands, hfiles⟩
  | spent hstep hspent hstands =>
    obtain rfl | rfl := hstep <;> cases hk <;> exact .inr ⟨hstands, rfl⟩

/-- What a step that makes nothing does not touch stands as it did. -/
theorem standing_other {r : Record} {j : Nat} (hmakes : r.makes = false)
    (hj : r.step.target? ≠ some j) : Standing (past ++ [r]) j ↔ Standing past j := by
  have hdestroys : r.destroys j = false := by
    rw [Record.destroys]
    split
    · next i hstep =>
      rw [hstep] at hj
      exact beq_eq_false_iff_ne.2 fun heq => hj (congrArg some heq)
    · rfl
  have hgivesUp : r.givesUp j = false := by
    rw [Record.givesUp]
    split
    · next i hstep =>
      rw [hstep] at hj
      exact beq_eq_false_iff_ne.2 fun heq => hj (congrArg some heq)
    · next i hstep =>
      rw [hstep] at hj
      exact beq_eq_false_iff_ne.2 fun heq => hj (congrArg some heq)
    · rfl
  rw [standing_concat]
  simp [hdestroys, hgivesUp, hmakes]

/-- Once it no longer stands, a directory does not stand again. -/
theorem not_standing_concat {r : Record} (hmakes : r.makes = false) (h : ¬ Standing past k) :
    ¬ Standing (past ++ [r]) k := by
  rw [standing_concat, hmakes]
  simp [h]

/-- Where what there is under a number after a step comes from. -/
inductive Comes (handles : List Handle) (j : Nat) (givesUp : Bool) (handle : Handle) : Prop
  | kept (hbefore : handles[j]? = some handle) (hspent : givesUp = true → handle.held = false)
  | released (hlt : j < handles.length) (hgivesUp : givesUp = true) (hheld : handle.held = false)
  | new (hlast : j = handles.length) (hheld : handle.held = true)

theorem comes_of_releases {handles : List Handle} {r : Except TransferError Unit} {path : Path}
    {j : Nat} {handle : Handle} (hreleases : Releases k r step answer)
    (hheld : handles[k]? = some ⟨path, true⟩)
    (hj : (handles.set k ⟨path, false⟩)[j]? = some handle) :
    Comes handles j (Record.givesUp j ⟨step, answer⟩) handle := by
  have hgivesUp : Record.givesUp j ⟨step, answer⟩ = (k == j) := by cases hreleases <;> rfl
  have hlt := (List.getElem?_eq_some_iff.1 hheld).1
  by_cases hkj : k = j
  · subst hkj
    rw [List.getElem?_set_self hlt] at hj
    cases hj
    exact .released hlt (by simpa using hgivesUp) rfl
  · rw [List.getElem?_set_ne hkj] at hj
    refine .kept hj fun h => ?_
    rw [hgivesUp, beq_iff_eq] at h
    exact absurd h hkj

theorem Moves.comes {j : Nat} {handle : Handle} (hm : Moves suffixes past spots s step answer s')
    (hj : s'.handles[j]? = some handle) :
    Comes s.handles j (Record.givesUp j ⟨step, answer⟩) handle := by
  cases hm with
  | made hbase hdrawn hhold hfiles =>
    rcases getElem?_concat_eq_some hj with ⟨hbefore, -⟩ | ⟨rfl, hlast⟩
    · exact .kept hbefore fun hgivesUp => by cases hgivesUp
    · exact .new hlast rfl
  | refused hfiles => exact .kept hj fun hgivesUp => by cases hgivesUp
  | filled hp hstands hagree hthere => exact .kept hj fun hgivesUp => by cases hgivesUp
  | destroyed hp hstands hagree hgone => exact .kept hj fun hgivesUp => by cases hgivesUp
  | missed hstep hstands =>
    obtain rfl | ⟨filling, rfl⟩ := hstep <;> exact .kept hj fun hgivesUp => by cases hgivesUp
  | removed hreleases hheld hp hstands hagree hgone => exact comes_of_releases hreleases hheld hj
  | notThere hreleases hheld hp hstands hfiles => exact comes_of_releases hreleases hheld hj
  | @spent i _ hstep hspent hstands =>
    refine .kept hj fun hgivesUp => ?_
    obtain rfl : i = j := by
      obtain rfl | rfl := hstep <;> exact beq_iff_eq.1 hgivesUp
    obtain ⟨path, held⟩ := handle
    cases held with
    | false => rfl
    | true => exact absurd hj (hspent path)

/-- Only what is held can be removed. -/
theorem Moves.held_of_removes {j : Nat} (hm : Moves suffixes past spots s step answer s')
    (hj : Record.removes j ⟨step, answer⟩ = true) : ∃ path, s.handles[j]? = some ⟨path, true⟩ := by
  have hreleased {k : Nat} {r : Except TransferError Unit} {path : Path}
      (hreleases : Releases k r step answer) (hheld : s.handles[k]? = some ⟨path, true⟩) :
      ∃ path, s.handles[j]? = some ⟨path, true⟩ := by
    obtain rfl : k = j := by
      cases hreleases <;> simpa [Record.removes, Record.givesUp] using hj
    exact ⟨path, hheld⟩
  cases hm with
  | removed hreleases hheld hp hstands hagree hgone => exact hreleased hreleases hheld
  | notThere hreleases hheld hp hstands hfiles => exact hreleased hreleases hheld
  | missed hstep hstands =>
    obtain rfl | ⟨filling, rfl⟩ := hstep <;> simp [Record.removes, Record.givesUp] at hj
  | _ => simp [Record.removes, Record.givesUp] at hj

theorem Moves.paths (hm : Moves suffixes past spots s step answer s')
    (hmakes : Record.makes ⟨step, answer⟩ = false) :
    s'.handles.map Handle.path = s.handles.map Handle.path := by
  have hset {k : Nat} {path : Path} (hheld : s.handles[k]? = some ⟨path, true⟩) :
      (s.handles.set k ⟨path, false⟩).map Handle.path = s.handles.map Handle.path := by
    have hpath : (s.handles.map Handle.path)[k]? = some path := by
      rw [List.getElem?_map, hheld]; rfl
    rw [List.map_set]
    obtain ⟨hlt, hget⟩ := List.getElem?_eq_some_iff.1 hpath
    rw [← hget]
    exact List.set_getElem_self hlt
  cases hm with
  | made hbase hdrawn hhold hfiles => cases hmakes
  | removed hreleases hheld hp hstands hagree hgone => exact hset hheld
  | notThere hreleases hheld hp hstands hfiles => exact hset hheld
  | _ => rfl

/-- A directory that is not made leaves no trace. -/
theorem Moves.unmade (hm : Moves suffixes past spots s step answer s') (hnone : step.target? = none)
    (hmakes : Record.makes ⟨step, answer⟩ = false) :
    s'.files = s.files ∧ s'.handles = s.handles := by
  cases hm with
  | made hbase hdrawn hhold hfiles => cases hmakes
  | refused hfiles => exact ⟨hfiles, rfl⟩
  | filled hp hstands hagree hthere => cases hnone
  | destroyed hp hstands hagree hgone => cases hnone
  | missed hstep hstands => exact ⟨rfl, rfl⟩
  | removed hreleases hheld hp hstands hagree hgone => cases hreleases <;> cases hnone
  | notThere hreleases hheld hp hstands hfiles => cases hreleases <;> cases hnone
  | spent hstep hspent hstands => exact ⟨rfl, rfl⟩

end kept

end SparseTransfer.WorkDir
