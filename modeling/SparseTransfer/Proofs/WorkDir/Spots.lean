import SparseTransfer.Proofs.WorkDir

/- Where working directories are. Each is at a spot of its own, which was free before any of them
was made; none is in another, and what leads to one of them leads through no other. -/
namespace SparseTransfer.WorkDir
open FileSystem

theorem getElem?_concat_eq_some {xs : List α} {x y : α} {k : Nat} (h : (xs ++ [x])[k]? = some y) :
    (xs[k]? = some y ∧ k ≠ xs.length) ∨ (y = x ∧ k = xs.length) := by
  by_cases hk : k < xs.length
  · rw [List.getElem?_append_left hk] at h
    exact .inl ⟨h, by omega⟩
  · rw [List.getElem?_append_right (by omega), List.getElem?_singleton] at h
    split at h
    · cases h
      exact .inr ⟨rfl, by omega⟩
    · cases h

/-- Where a working directory is: the path of its parent, where that leads, and its name there. -/
structure Spot where
  base : Path
  dir : Location
  name : Bytes

namespace Spot

def path (p : Spot) : Path := Path.append p.base p.name

def loc (p : Spot) : Location := p.dir ++ [p.name]

/-- In `fs` a working directory could be made at the spot. -/
structure IsFor (suffixes : Suffixes) (fs : FileSystem) (p : Spot) : Prop where
  isAbsolute : Path.isAbsolute p.base = true
  drawn : ∃ k, p.name = drawnName suffixes k
  canHold : fs.CanHold p.base p.name p.dir

section isFor
variable {suffixes : Suffixes} {fs : FileSystem} {p q : Spot}

theorem IsFor.isName (h : p.IsFor suffixes fs) (hproper : suffixes.Proper) :
    FileSystem.isName p.name = true := by
  obtain ⟨k, hk⟩ := h.drawn
  rw [hk]
  exact isName_drawnName hproper k

theorem IsFor.base_ne_nil (h : p.IsFor suffixes fs) : p.base ≠ [] :=
  Path.ne_nil_of_isAbsolute h.isAbsolute

theorem IsFor.at?_dir (h : p.IsFor suffixes fs) : fs.at? p.dir = some .directory :=
  lookup_found h.isAbsolute (stat_eq_ok_iff.1 h.canHold.isDirectory)

/-- Where nothing has been made yet, no spot is below another. -/
theorem IsFor.not_prefix_dir (hp : p.IsFor suffixes fs) (hq : q.IsFor suffixes fs) :
    ¬ p.loc <+: q.dir := by
  intro hpre
  have hnone := at?_eq_none_below hp.canHold.isFree hpre
  rw [hq.at?_dir] at hnone
  cases hnone

theorem IsFor.components (h : p.IsFor suffixes fs) (hproper : suffixes.Proper) :
    (Path.components p.path).getLast? = some (.name p.name) := by
  rw [path, components_append_name h.base_ne_nil (h.isName hproper), List.getLast?_concat]

end isFor
end Spot

/-- Working directories have been made at some spots of `bare`, and some of them stand in `fs`. -/
structure Laid (suffixes : Suffixes) (bare fs : FileSystem) (spots : List Spot)
    (stands : Nat → Prop) : Prop where
  cwd : fs.cwd = bare.cwd
  isFor : ∀ p ∈ spots, p.IsFor suffixes bare
  names : (spots.map Spot.name).Nodup
  standing : ∀ {k : Nat} {p : Spot}, spots[k]? = some p → stands k →
    fs.at? p.loc = some .directory
  gone : ∀ {k : Nat} {p : Spot}, spots[k]? = some p → ¬ stands k → fs.at? p.loc = none
  elsewhere : ∀ {o : Location}, (∀ p ∈ spots, ¬ p.loc <+: o) → fs.at? o = bare.at? o

namespace Laid
variable {suffixes : Suffixes} {bare fs fs' : FileSystem} {spots : List Spot}
  {stands stands' : Nat → Prop} {p q : Spot} {i j k : Nat}

theorem start (suffixes : Suffixes) (bare : FileSystem) (stands : Nat → Prop) :
    Laid suffixes bare bare [] stands where
  cwd := rfl
  isFor _ hp := by cases hp
  names := .nil
  standing hp _ := by cases hp
  gone hp _ := by cases hp
  elsewhere _ := rfl

/-- No two spots have one name, and none is in another. -/
theorem not_prefix (h : Laid suffixes bare fs spots stands) (hp : spots[i]? = some p)
    (hq : spots[j]? = some q) (hne : i ≠ j) : ¬ p.loc <+: q.loc := by
  intro hpre
  have hpfor := h.isFor p (List.mem_of_getElem? hp)
  have hqfor := h.isFor q (List.mem_of_getElem? hq)
  rcases List.prefix_concat_iff.1 hpre with heq | hdir
  · have hname : p.name = q.name := by
      simpa [Spot.loc] using congrArg List.getLast? heq
    have hi : (spots.map Spot.name)[i]? = some p.name := by rw [List.getElem?_map, hp]; rfl
    have hj : (spots.map Spot.name)[j]? = some p.name := by rw [List.getElem?_map, hq, hname]; rfl
    obtain ⟨hlt, -⟩ := List.getElem?_eq_some_iff.1 hi
    exact hne ((List.getElem?_inj hlt h.names).1 (hi.trans hj.symm))
  · exact hpfor.not_prefix_dir hqfor hdir

/-- What leads to a spot does not lead through any of the working directories. -/
theorem stat_base (h : Laid suffixes bare fs spots stands) (hp : p ∈ spots) :
    fs.stat true p.base = .ok (p.dir, .directory) := by
  have hfor := h.isFor p hp
  have haside : Aside (fun o => ∃ q ∈ spots, q.loc <+: o) bare fs := by
    refine ⟨fun ho => h.elsewhere fun q hq hpre => ho ⟨q, hq, hpre⟩, ?_⟩
    rintro o item ⟨q, hq, hpre⟩ hitem
    rw [at?_eq_none_below (h.isFor q hq).canHold.isFree hpre] at hitem
    cases hitem
  rw [stat_eq_ok_iff]
  refine lookup_elsewhere haside h.cwd (stat_eq_ok_iff.1 hfor.canHold.isDirectory) ?_
  rintro ⟨q, hq, hpre⟩
  exact (h.isFor q hq).not_prefix_dir hfor hpre

section look
variable (hproper : suffixes.Proper)
include hproper

theorem lookup (h : Laid suffixes bare fs spots stands) (hp : p ∈ spots) :
    fs.lookup false p.path = .ok (fs.placeIn p.dir p.name) := by
  have hfor := h.isFor p hp
  exact (lookup_name hfor.base_ne_nil (hfor.isName hproper)).2
    ⟨hfor.canHold.isUsable, p.dir, h.stat_base hp, rfl⟩

theorem stat_standing (h : Laid suffixes bare fs spots stands) (hp : spots[k]? = some p)
    (hk : stands k) : fs.stat false p.path = .ok (p.loc, .directory) := by
  have hat : fs.at? (p.dir ++ [p.name]) = some .directory := h.standing hp hk
  have hlook := h.lookup hproper (List.mem_of_getElem? hp)
  rw [placeIn, hat] at hlook
  exact stat_eq_ok_iff.2 hlook

theorem stat_gone (h : Laid suffixes bare fs spots stands) (hp : spots[k]? = some p)
    (hk : ¬ stands k) : fs.stat false p.path = .error (.os .notFound) := by
  have hat : fs.at? (p.dir ++ [p.name]) = none := h.gone hp hk
  have hlook := h.lookup hproper (List.mem_of_getElem? hp)
  rw [placeIn, hat] at hlook
  rw [FileSystem.stat, hlook]

theorem removeTree_standing (h : Laid suffixes bare fs spots stands) (hp : spots[k]? = some p)
    (hk : stands k) : fs.removeTree p.path = .ok (fs.remove p.loc) := by
  rw [FileSystem.removeTree, h.stat_standing hproper hp hk]

theorem removeTree_gone (h : Laid suffixes bare fs spots stands) (hp : spots[k]? = some p)
    (hk : ¬ stands k) : fs.removeTree p.path = .error (.os .notFound) := by
  rw [FileSystem.removeTree, h.stat_gone hproper hp hk]

end look

/-- What changes at one spot only changes nothing at the others. -/
theorem at?_other (h : Laid suffixes bare fs spots stands) (hp : spots[i]? = some p)
    (hq : spots[j]? = some q) (hne : i ≠ j) (hagree : AgreeOutside p.loc fs fs')
    (names : Location) : fs'.at? (q.loc ++ names) = fs.at? (q.loc ++ names) := by
  apply hagree.at?
  intro hpre
  rcases List.prefix_or_prefix_of_prefix hpre (List.prefix_append q.loc names) with hle | hle
  · exact h.not_prefix hp hq hne hle
  · exact h.not_prefix hq hp (Ne.symm hne) hle

theorem change (h : Laid suffixes bare fs spots stands) (hp : spots[k]? = some p)
    (hagree : AgreeOutside p.loc fs fs')
    (hnow : (stands' k ∧ fs'.at? p.loc = some .directory) ∨ (¬ stands' k ∧ fs'.at? p.loc = none))
    (hothers : ∀ j, j ≠ k → (stands' j ↔ stands j)) : Laid suffixes bare fs' spots stands' where
  cwd := hagree.cwd.trans h.cwd
  isFor := h.isFor
  names := h.names
  standing := by
    intro j q hq hj
    by_cases hjk : j = k
    · subst hjk
      cases hp.symm.trans hq
      rcases hnow with ⟨-, hat⟩ | ⟨hnot, -⟩
      · exact hat
      · exact absurd hj hnot
    · have hsame := h.at?_other hp hq (Ne.symm hjk) hagree []
      rw [List.append_nil] at hsame
      rw [hsame]
      exact h.standing hq ((hothers j hjk).1 hj)
  gone := by
    intro j q hq hj
    by_cases hjk : j = k
    · subst hjk
      cases hp.symm.trans hq
      rcases hnow with ⟨hstands, -⟩ | ⟨-, hat⟩
      · exact absurd hstands hj
      · exact hat
    · have hsame := h.at?_other hp hq (Ne.symm hjk) hagree []
      rw [List.append_nil] at hsame
      rw [hsame]
      exact h.gone hq fun hstands => hj ((hothers j hjk).2 hstands)
  elsewhere := by
    intro o ho
    rw [hagree.at? (ho p (List.mem_of_getElem? hp))]
    exact h.elsewhere ho

theorem congr (h : Laid suffixes bare fs spots stands) (hfiles : fs' = fs)
    (hstands : ∀ k, stands' k ↔ stands k) : Laid suffixes bare fs' spots stands' := by
  obtain rfl : stands' = stands := funext fun k => propext (hstands k)
  rw [hfiles]
  exact h

/-- A spot that is free in the directory to which a path leads without the working directories is
one at which nothing was in the beginning. -/
theorem isFor_of_canHold (h : Laid suffixes bare fs spots stands)
    (habs : Path.isAbsolute p.base = true) (hdrawn : ∃ k, p.name = drawnName suffixes k)
    (hhold : fs.CanHold p.base p.name p.dir)
    (houtside : bare.stat true p.base = .ok (p.dir, .directory)) : p.IsFor suffixes bare := by
  refine ⟨habs, hdrawn, houtside, ?_, hhold.isUsable⟩
  by_cases hin : ∃ q ∈ spots, q.loc <+: p.loc
  · obtain ⟨q, hq, hpre⟩ := hin
    exact at?_eq_none_below (h.isFor q hq).canHold.isFree hpre
  · have hsame := h.elsewhere fun q hq hpre => hin ⟨q, hq, hpre⟩
    exact hsame.symm.trans hhold.isFree

theorem made (hproper : suffixes.Proper) (h : Laid suffixes bare fs spots stands)
    (hfor : p.IsFor suffixes bare) (hhold : fs.CanHold p.base p.name p.dir)
    (hfresh : p.name ∉ spots.map Spot.name)
    (hstands : ∀ k, stands' k ↔ stands k ∨ k = spots.length) :
    Laid suffixes bare (fs.insert p.dir p.name .directory) (spots ++ [p]) stands' := by
  have hdir : fs.at? p.dir = some .directory :=
    lookup_found hfor.isAbsolute (stat_eq_ok_iff.1 hhold.isDirectory)
  have hat (o : Location) : (fs.insert p.dir p.name .directory).at? o =
      if o = p.loc then some .directory else fs.at? o :=
    at?_insert hdir hhold.isFree (hfor.isName hproper) o
  have hother {q : Spot} (hq : q ∈ spots) : q.loc ≠ p.loc := by
    intro heq
    have hname : q.name = p.name := by simpa [Spot.loc] using congrArg List.getLast? heq
    exact hfresh (hname ▸ List.mem_map_of_mem hq)
  constructor
  · exact (insert_agreeOutside fs p.dir p.name .directory).cwd.trans h.cwd
  · intro q hq
    rcases List.mem_append.1 hq with hq | hq
    · exact h.isFor q hq
    · rw [List.mem_singleton.1 hq]
      exact hfor
  · rw [List.map_append]
    refine List.nodup_append.2 ⟨h.names, by simp, fun n hn m hm heq => hfresh ?_⟩
    rw [← List.mem_singleton.1 hm, ← heq]
    exact hn
  · intro k q hq hk
    rw [hat]
    rcases getElem?_concat_eq_some hq with ⟨hq, hne⟩ | ⟨rfl, -⟩
    · rw [if_neg (hother (List.mem_of_getElem? hq))]
      exact h.standing hq (((hstands k).1 hk).resolve_right hne)
    · exact if_pos rfl
  · intro k q hq hk
    rw [hat]
    rcases getElem?_concat_eq_some hq with ⟨hq, -⟩ | ⟨rfl, hlast⟩
    · rw [if_neg (hother (List.mem_of_getElem? hq))]
      exact h.gone hq fun hstands' => hk ((hstands k).2 (Or.inl hstands'))
    · exact absurd ((hstands k).2 (Or.inr hlast)) hk
  · intro o ho
    have hne : o ≠ p.loc := by
      rintro rfl
      exact ho p (by simp) List.prefix_rfl
    rw [hat, if_neg hne]
    exact h.elsewhere fun q hq => ho q (List.mem_append_left _ hq)

end Laid
end SparseTransfer.WorkDir
