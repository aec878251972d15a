import SparseTransfer.Proofs.File.Lookup

/- Look-ups where there are no links: names lead where they say, and single dots do not count. -/
namespace SparseTransfer.FileSystem
open SparseTransfer.Path

/-- No link stands at a place or below it. -/
def LinkFree (fs : FileSystem) (loc : Location) : Prop :=
  ∀ names target, fs.at? (loc ++ names) ≠ some (.link target)

/-- Names without single dots. -/
def undotted (names : List Bytes) : Location := names.filter (· != [dot])

theorem undotted_append (xs ys : List Bytes) : undotted (xs ++ ys) = undotted xs ++ undotted ys :=
  List.filter_append ..

theorem undotted_of_isName {names : List Bytes} (h : ∀ n ∈ names, isName n = true) :
    undotted names = names := by
  rw [undotted, List.filter_eq_self]
  intro n hn
  simpa using (isName_iff.1 (h n hn)).2.2.1

theorem ne_dots_of_isName {n : Bytes} (h : isName n = true) : n ≠ [dot, dot] :=
  (isName_iff.1 h).2.2.2.1

theorem LinkFree.mono {fs : FileSystem} {loc : Location} (h : LinkFree fs loc) (below : Location) :
    LinkFree fs (loc ++ below) := by
  intro names target
  rw [List.append_assoc]
  exact h (below ++ names) target

theorem LinkFree.insert {fs : FileSystem} {loc : Location} (h : LinkFree fs loc) (dir : Location)
    (name : Bytes) {item : Item} (hitem : ∀ target, item ≠ .link target) :
    LinkFree (fs.insert dir name item) loc := by
  intro names target hlink
  rcases insert_cases fs dir name item with hsame | ⟨-, hat⟩
  · rw [hsame] at hlink
    exact h names target hlink
  · rw [hat] at hlink
    split at hlink
    · injection hlink with hlink
      exact hitem target hlink
    · exact h names target hlink

theorem linkFree_of_none {fs : FileSystem} {loc : Location} (h : fs.at? loc = none) :
    LinkFree fs loc := by
  intro names target hlink
  rw [at?_eq_none_below h (List.prefix_append loc names)] at hlink
  cases hlink

theorem loc_of_meet {fs : FileSystem} {dir loc : Location} {name : Bytes}
    (hdots : name ≠ [dot, dot]) (h : fs.meet dir name = .ok (.directory loc)) :
    loc = dir ++ undotted [name] := by
  by_cases hdot : name = [dot]
  · subst hdot
    cases h
    exact (List.append_nil _).symm
  · have hkeep : undotted [name] = [name] := by simp [undotted, hdot]
    rw [meet, if_neg hdot, if_neg hdots] at h
    split at h
    · cases h
    · injection h with h
      rcases hitem : fs.at? (dir ++ [name]) with _ | (_ | _ | _ | _ | _) <;> rw [hitem] at h <;>
        cases h
      rw [hkeep]

theorem undotted_of_meet {fs : FileSystem} {dir : Location} {name : Bytes} {met : Met}
    (h : fs.meet dir name = .ok met) (hmet : ∀ loc, met ≠ .directory loc) :
    undotted [name] = [name] := by
  have hdot : name ≠ [dot] := by
    rintro rfl
    cases h
    exact hmet dir rfl
  simp [undotted, hdot]

section linkFree
variable {fs : FileSystem} {follow slash : Bool} {dir : Location} {names : List Bytes}

/-- Without links, names that do not go up lead down to the place that they say. -/
theorem LinkFree.descends {r : Reached} (hfree : LinkFree fs dir)
    (hnames : ∀ n ∈ names, n ≠ [dot, dot]) (h : Descends fs follow slash dir names r) :
    ∃ p, r = .place p ∧ p.loc = dir ++ undotted names := by
  induction h with
  | done dir => exact ⟨_, rfl, (List.append_nil dir).symm⟩
  | @into dir loc name rest r hmeet _ ih =>
    have hloc := loc_of_meet (hnames name (by simp)) hmeet
    subst hloc
    obtain ⟨p, hr, hp⟩ := ih (hfree.mono _) fun n hn => hnames n (List.mem_cons_of_mem _ hn)
    refine ⟨p, hr, ?_⟩
    rw [hp, List.append_assoc, ← undotted_append]
    rfl
  | missing hmeet => exact ⟨_, rfl, by rw [undotted_of_meet hmeet (by simp)]; rfl⟩
  | stop hmeet _ _ => exact absurd (at?_of_meet_link hmeet) (hfree _ _)
  | go hmeet _ => exact absurd (at?_of_meet_link hmeet) (hfree _ _)
  | leaf hmeet _ => exact ⟨_, rfl, by rw [undotted_of_meet hmeet (by simp)]; rfl⟩

theorem LinkFree.resolves {links : Nat} {p : Place} (hfree : LinkFree fs dir)
    (hnames : ∀ n ∈ names, n ≠ [dot, dot]) (h : Resolves fs follow links slash dir names p) :
    p.loc = dir ++ undotted names := by
  cases h with
  | place hdesc =>
    obtain ⟨q, hq, hloc⟩ := hfree.descends hnames hdesc
    cases hq
    exact hloc
  | link hdesc _ =>
    obtain ⟨q, hq, -⟩ := hfree.descends hnames hdesc
    cases hq

end linkFree

theorem Resolves.unique {fs : FileSystem} {follow slash : Bool} {links : Nat} {dir : Location}
    {names : List Bytes} {p q : Place} (hp : Resolves fs follow links slash dir names p)
    (hq : Resolves fs follow links slash dir names q) : p = q := by
  have hsame := (resolves_iff.1 hp).symm.trans (resolves_iff.1 hq)
  injection hsame

/-- The second names are the first without some of the single dots. -/
inductive Undots : List Bytes → List Bytes → Prop
  | nil : Undots [] []
  | keep {xs ys : List Bytes} (n : Bytes) (hrest : Undots xs ys) : Undots (n :: xs) (n :: ys)
  | drop {xs ys : List Bytes} (hrest : Undots xs ys) : Undots ([dot] :: xs) ys

theorem Undots.append_left {xs ys : List Bytes} (h : Undots xs ys) (zs : List Bytes) :
    Undots (zs ++ xs) (zs ++ ys) := by
  induction zs with
  | nil => exact h
  | cons n zs ih => exact .keep n ih

section undots
variable {fs : FileSystem} {dir d : Location} {xs ys rest : List Bytes}

/-- A directory is found without the dots too. -/
theorem Descends.undots (hxs : Undots xs ys)
    (h : Descends fs true true dir xs (.place (.occupied d .directory))) :
    Descends fs true true dir ys (.place (.occupied d .directory)) := by
  induction hxs generalizing dir with
  | nil => exact h
  | keep n _ ih =>
    cases h with
    | into hmeet hrest => exact .into hmeet (ih hrest)
    | leaf _ hslash => cases hslash
  | drop _ ih =>
    cases h with
    | into hmeet hrest =>
      cases hmeet
      exact ih hrest
    | leaf hmeet _ => cases hmeet

/-- A link that is met is met without the dots too, and what is left of the names is without
them. -/
theorem Descends.undots_link {target : Path} (hxs : Undots xs ys)
    (h : Descends fs true true dir xs (.link d target rest)) :
    ∃ rest', Undots rest rest' ∧ Descends fs true true dir ys (.link d target rest') := by
  induction hxs generalizing dir with
  | nil => cases h
  | @keep xs ys n hrest ih =>
    cases h with
    | into hmeet hgo =>
      obtain ⟨rest', hrest', hgo'⟩ := ih hgo
      exact ⟨rest', hrest', .into hmeet hgo'⟩
    | go hmeet _ => exact ⟨ys, hrest, .go hmeet (Or.inr (Or.inl rfl))⟩
  | drop hrest ih =>
    cases h with
    | into hmeet hgo =>
      cases hmeet
      exact ih hgo
    | go hmeet _ => cases hmeet

theorem Resolves.undots {links : Nat} {slash : Bool} (hslash : slash = true) (hxs : Undots xs ys)
    (h : Resolves fs true links slash dir xs (.occupied d .directory)) :
    Resolves fs true links true dir ys (.occupied d .directory) := by
  generalize hplace : Place.occupied d .directory = place at h
  induction h generalizing ys with
  | place hdesc =>
    subst hslash hplace
    exact .place (hdesc.undots hxs)
  | link hdesc _ ih =>
    subst hslash
    obtain ⟨rest', hrest, hdesc'⟩ := hdesc.undots_link hxs
    refine .link hdesc' ?_
    rw [Bool.true_or]
    exact ih (Bool.true_or _) (hrest.append_left _) hplace

end undots
end SparseTransfer.FileSystem
