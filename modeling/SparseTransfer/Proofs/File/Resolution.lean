import SparseTransfer.Proofs.File.Paths
import SparseTransfer.Proofs.File.Places

/- How paths are looked up, as two relations: names lead from a directory to a place or to a link
that has to be followed, and through links to a place. A look-up of more names goes on from the
directory to which the first ones lead, and what is not on its way does not change it. -/
namespace SparseTransfer

/-- Neither a directory nor a link. -/
def Item.isLeaf : Item → Bool
  | .directory | .link _ => false
  | .file _ | .socket | .device => true

namespace FileSystem
open SparseTransfer.Path

/-- What a name in a directory leads to, before any link is followed. -/
inductive Met where
  | nothing
  | directory (loc : Location)
  | link (target : Path)
  | other (item : Item)

def Met.of (loc : Location) : Option Item → Met
  | none => .nothing
  | some .directory => .directory loc
  | some (.link target) => .link target
  | some item => .other item

theorem Met.of_eq_nothing {loc : Location} {found : Option Item} :
    Met.of loc found = .nothing ↔ found = none := by
  rcases found with _ | (_ | _ | _ | _ | _) <;> simp [Met.of]

theorem Met.of_eq_link {loc : Location} {found : Option Item} {target : Path} :
    Met.of loc found = .link target ↔ found = some (.link target) := by
  rcases found with _ | (_ | _ | _ | _ | _) <;> simp [Met.of]

theorem Met.of_eq_other {loc : Location} {found : Option Item} {item : Item} :
    Met.of loc found = .other item ↔ found = some item ∧ item.isLeaf = true := by
  constructor
  · intro h
    rcases found with _ | (_ | _ | _ | _ | _) <;> cases h <;> exact ⟨rfl, rfl⟩
  · rintro ⟨rfl, hleaf⟩
    cases item with
    | directory | link target => cases hleaf
    | file data | socket | device => rfl

/-- Looks one name up. -/
def meet (fs : FileSystem) (dir : Location) (name : Bytes) : Except OsError Met :=
  if name = [dot] then .ok (.directory dir)
  else if name = [dot, dot] then .ok (.directory dir.dropLast)
  else if name.length > maxName then .error .nameTooLong
  else .ok (Met.of (dir ++ [name]) (fs.at? (dir ++ [name])))

/-- Dots and names that are too long mean the same in every file system; what any other name leads
to is what stands at its place. -/
theorem meet_cases (dir : Location) (name : Bytes) :
    (∃ r : Except OsError Location, ∀ fs : FileSystem, fs.meet dir name = r.map Met.directory) ∨
    ∀ fs : FileSystem,
      fs.meet dir name = .ok (Met.of (dir ++ [name]) (fs.at? (dir ++ [name]))) := by
  by_cases hdot : name = [dot]
  · exact Or.inl ⟨.ok dir, fun fs => by rw [meet, if_pos hdot]; rfl⟩
  · by_cases hdots : name = [dot, dot]
    · exact Or.inl ⟨.ok dir.dropLast, fun fs => by rw [meet, if_neg hdot, if_pos hdots]; rfl⟩
    · by_cases hlen : name.length > maxName
      · exact Or.inl ⟨.error .nameTooLong, fun fs => by
          rw [meet, if_neg hdot, if_neg hdots, if_pos hlen]; rfl⟩
      · exact Or.inr fun fs => by rw [meet, if_neg hdot, if_neg hdots, if_neg hlen]

theorem meet_of_isName {name : Bytes} (h : isName name = true) (fs : FileSystem) (dir : Location) :
    fs.meet dir name = .ok (Met.of (dir ++ [name]) (fs.at? (dir ++ [name]))) := by
  obtain ⟨-, -, hdot, hdots, hlen⟩ := isName_iff.1 h
  rw [meet, if_neg hdot, if_neg hdots, if_neg (by omega)]

/-- What is met is what stands there, unless it is a directory. -/
theorem meet_eq {fs : FileSystem} {dir : Location} {name : Bytes} {met : Met}
    (h : fs.meet dir name = .ok met) (hmet : ∀ loc, met ≠ .directory loc) :
    Met.of (dir ++ [name]) (fs.at? (dir ++ [name])) = met := by
  rcases meet_cases dir name with ⟨r, hr⟩ | hat
  · rw [hr] at h
    cases r with
    | error e => cases h
    | ok loc =>
      cases h
      exact absurd rfl (hmet loc)
  · rw [hat] at h
    injection h

theorem at?_of_meet_nothing {fs : FileSystem} {dir : Location} {name : Bytes}
    (h : fs.meet dir name = .ok .nothing) : fs.at? (dir ++ [name]) = none :=
  Met.of_eq_nothing.1 (meet_eq h (by simp))

theorem at?_of_meet_link {fs : FileSystem} {dir : Location} {name : Bytes} {target : Path}
    (h : fs.meet dir name = .ok (.link target)) : fs.at? (dir ++ [name]) = some (.link target) :=
  Met.of_eq_link.1 (meet_eq h (by simp))

theorem at?_of_meet_other {fs : FileSystem} {dir : Location} {name : Bytes} {item : Item}
    (h : fs.meet dir name = .ok (.other item)) :
    fs.at? (dir ++ [name]) = some item ∧ item.isLeaf = true :=
  Met.of_eq_other.1 (meet_eq h (by simp))

/-- The names lead from a directory to a place, or to a link that has to be followed. -/
inductive Descends (fs : FileSystem) (follow slash : Bool) :
    Location → List Bytes → Reached → Prop
  | done (dir : Location) : Descends fs follow slash dir [] (.place (.occupied dir .directory))
  | into {dir loc : Location} {name : Bytes} {rest : List Bytes} {r : Reached}
      (hmeet : fs.meet dir name = .ok (.directory loc))
      (hrest : Descends fs follow slash loc rest r) : Descends fs follow slash dir (name :: rest) r
  | missing {dir : Location} {name : Bytes} (hmeet : fs.meet dir name = .ok .nothing) :
      Descends fs follow slash dir [name] (.place (.free dir name slash))
  | stop {dir : Location} {name : Bytes} {target : Path}
      (hmeet : fs.meet dir name = .ok (.link target)) (hfollow : follow = false)
      (hslash : slash = false) :
      Descends fs follow slash dir [name] (.place (.occupied (dir ++ [name]) (.link target)))
  | go {dir : Location} {name : Bytes} {target : Path} {rest : List Bytes}
      (hmeet : fs.meet dir name = .ok (.link target))
      (hgo : rest ≠ [] ∨ follow = true ∨ slash = true) :
      Descends fs follow slash dir (name :: rest) (.link dir target rest)
  | leaf {dir : Location} {name : Bytes} {item : Item}
      (hmeet : fs.meet dir name = .ok (.other item)) (hslash : slash = false) :
      Descends fs follow slash dir [name] (.place (.occupied (dir ++ [name]) item))

theorem descend_cons (fs : FileSystem) (follow slash : Bool) (dir : Location) (name : Bytes)
    (rest : List Bytes) :
    fs.descend follow slash dir (name :: rest) =
      match fs.meet dir name with
      | .error e => .error e
      | .ok .nothing =>
        if rest.isEmpty then .ok (.place (.free dir name slash)) else .error .notFound
      | .ok (.directory loc) => fs.descend follow slash loc rest
      | .ok (.link target) =>
        if rest.isEmpty && !follow && !slash then
          .ok (.place (.occupied (dir ++ [name]) (.link target)))
        else .ok (.link dir target rest)
      | .ok (.other item) =>
        if rest.isEmpty && !slash then .ok (.place (.occupied (dir ++ [name]) item))
        else .error .notADirectory := by
  simp only [descend, meet]
  split
  · rfl
  · split
    · rfl
    · split
      · rfl
      · cases h : fs.at? (dir ++ [name]) with
        | none => rfl
        | some item => cases item <;> rfl

theorem descends_iff {fs : FileSystem} {follow slash : Bool} {dir : Location} {names : List Bytes}
    {r : Reached} :
    Descends fs follow slash dir names r ↔ fs.descend follow slash dir names = .ok r := by
  constructor
  · intro h
    induction h with
    | done dir => rfl
    | into hmeet _ ih => rw [descend_cons, hmeet]; exact ih
    | missing hmeet => rw [descend_cons, hmeet]; rfl
    | stop hmeet hfollow hslash => rw [descend_cons, hmeet, hfollow, hslash]; rfl
    | @go dir name target rest hmeet hgo =>
      rw [descend_cons, hmeet]
      rcases hgo with h | h | h <;> simp [h]
    | leaf hmeet hslash => rw [descend_cons, hmeet, hslash]; rfl
  · intro h
    induction names generalizing dir with
    | nil =>
      cases h
      exact .done dir
    | cons name rest ih =>
      rw [descend_cons] at h
      cases hmeet : fs.meet dir name with
      | error e =>
        rw [hmeet] at h
        cases h
      | ok met =>
        rw [hmeet] at h
        cases met with
        | directory loc => exact .into hmeet (ih h)
        | nothing =>
          cases rest with
          | nil =>
            cases h
            exact .missing hmeet
          | cons next more => cases h
        | link target =>
          simp only [Bool.and_eq_true, List.isEmpty_iff, Bool.not_eq_true'] at h
          split at h
          · next hstop =>
            cases h
            obtain ⟨⟨rfl, hfollow⟩, hslash⟩ := hstop
            exact .stop hmeet hfollow hslash
          · next hgo =>
            cases h
            refine .go hmeet ?_
            by_cases hrest : rest = []
            · cases follow <;> cases slash <;> simp_all
            · exact Or.inl hrest
        | other item =>
          simp only [Bool.and_eq_true, List.isEmpty_iff, Bool.not_eq_true'] at h
          split at h
          · next hleaf =>
            cases h
            obtain ⟨rfl, hslash⟩ := hleaf
            exact .leaf hmeet hslash
          · cases h

/-- The names lead to a place, through at most `links` links. -/
inductive Resolves (fs : FileSystem) (follow : Bool) :
    (links : Nat) → (slash : Bool) → Location → List Bytes → Place → Prop
  | place {links : Nat} {slash : Bool} {dir : Location} {names : List Bytes} {p : Place}
      (hdesc : Descends fs follow slash dir names (.place p)) :
      Resolves fs follow links slash dir names p
  | link {links : Nat} {slash : Bool} {dir d : Location} {names rest : List Bytes} {target : Path}
      {p : Place} (hdesc : Descends fs follow slash dir names (.link d target rest))
      (hnext : Resolves fs follow links (slash || (rest.isEmpty && endsInSlash target))
        (if isAbsolute target then [] else d) (namesOf target ++ rest) p) :
      Resolves fs follow (links + 1) slash dir names p

theorem resolves_iff {fs : FileSystem} {follow slash : Bool} {links : Nat} {dir : Location}
    {names : List Bytes} {p : Place} :
    Resolves fs follow links slash dir names p ↔
      fs.descendThrough follow links slash dir names = .ok p := by
  constructor
  · intro h
    induction h with
    | place hdesc => rw [descendThrough, descends_iff.1 hdesc]
    | link hdesc _ ih => rw [descendThrough, descends_iff.1 hdesc]; exact ih
  · intro h
    induction links generalizing slash dir names with
    | zero =>
      rw [descendThrough] at h
      split at h
      · cases h
      · next q hdesc =>
        cases h
        exact .place (descends_iff.2 hdesc)
      · cases h
    | succ links ih =>
      rw [descendThrough] at h
      split at h
      · cases h
      · next q hdesc =>
        cases h
        exact .place (descends_iff.2 hdesc)
      · next d target rest hdesc => exact .link (descends_iff.2 hdesc) (ih h)

section append
variable {fs : FileSystem} {follow slash : Bool} {dir d : Location} {xs ys rest : List Bytes}

/-- Going on needs a directory: the first names are looked up as if a slash came after them. -/
theorem Descends.append {item : Item} {r : Reached}
    (hxs : Descends fs true true dir xs (.place (.occupied d item)))
    (hys : Descends fs follow slash d ys r) : Descends fs follow slash dir (xs ++ ys) r := by
  generalize hfound : Reached.place (.occupied d item) = found at hxs
  induction hxs with
  | done dir =>
    cases hfound
    exact hys
  | into hmeet _ ih => exact .into hmeet (ih hfound)
  | missing _ => cases hfound
  | stop _ hfollow _ => cases hfollow
  | go _ _ => cases hfound
  | leaf _ hslash => cases hslash

theorem Descends.append_link {target : Path}
    (hxs : Descends fs true true dir xs (.link d target rest)) (hys : ys ≠ []) :
    Descends fs follow slash dir (xs ++ ys) (.link d target (rest ++ ys)) := by
  generalize hfound : Reached.link d target rest = found at hxs
  induction hxs with
  | done _ => cases hfound
  | into hmeet _ ih => exact .into hmeet (ih hfound)
  | missing _ => cases hfound
  | stop _ _ _ => cases hfound
  | go hmeet _ =>
    cases hfound
    exact .go hmeet (Or.inl (by simp [hys]))
  | leaf _ _ => cases hfound

theorem Descends.of_append {r : Reached} (h : Descends fs follow slash dir (xs ++ ys) r)
    (hys : ys ≠ []) :
    (∃ d, Descends fs true true dir xs (.place (.occupied d .directory)) ∧
      Descends fs follow slash d ys r) ∨
    ∃ d target rest, Descends fs true true dir xs (.link d target rest) ∧
      r = .link d target (rest ++ ys) := by
  induction xs generalizing dir with
  | nil => exact Or.inl ⟨dir, .done dir, h⟩
  | cons name more ih =>
    have hmore : more ++ ys ≠ [] := by simp [hys]
    rw [List.cons_append] at h
    generalize hback : more ++ ys = back at h hmore
    cases h with
    | into hmeet hrest =>
      subst hback
      rcases ih hrest with ⟨d, hmore, hys⟩ | ⟨d, target, rest, hmore, rfl⟩
      · exact Or.inl ⟨d, .into hmeet hmore, hys⟩
      · exact Or.inr ⟨d, target, rest, .into hmeet hmore, rfl⟩
    | missing _ => exact absurd rfl hmore
    | stop _ _ _ => exact absurd rfl hmore
    | go hmeet _ =>
      subst hback
      exact Or.inr ⟨dir, _, more, .go hmeet (Or.inr (Or.inl rfl)), rfl⟩
    | leaf _ _ => exact absurd rfl hmore

/-- A directory that is found is found whatever may come after it. -/
theorem Descends.directory (h : Descends fs follow slash dir xs (.place (.occupied d .directory)))
    (follow' slash' : Bool) :
    Descends fs follow' slash' dir xs (.place (.occupied d .directory)) := by
  generalize hfound : Reached.place (.occupied d .directory) = found at h
  induction h with
  | done dir =>
    cases hfound
    exact .done _
  | into hmeet _ ih => exact .into hmeet (ih hfound)
  | missing _ => cases hfound
  | stop _ _ _ => cases hfound
  | go _ _ => cases hfound
  | leaf hmeet _ =>
    cases hfound
    cases (at?_of_meet_other hmeet).2

/-- A link that has to be followed has to be followed whatever comes after it. -/
theorem Descends.link {target : Path} (h : Descends fs follow slash dir xs (.link d target rest))
    (slash' : Bool) : Descends fs true slash' dir xs (.link d target rest) := by
  generalize hfound : Reached.link d target rest = found at h
  induction h with
  | done _ => cases hfound
  | into hmeet _ ih => exact .into hmeet (ih hfound)
  | missing _ => cases hfound
  | stop _ _ _ => cases hfound
  | go hmeet _ =>
    cases hfound
    exact .go hmeet (Or.inr (Or.inl rfl))
  | leaf _ _ => cases hfound

/-- What is found without following the last link and is no link is found with following too. -/
theorem Descends.followed {p : Place} (h : Descends fs false slash dir xs (.place p))
    (hp : ∀ loc target, p ≠ .occupied loc (.link target)) :
    Descends fs true slash dir xs (.place p) := by
  generalize hfound : Reached.place p = found at h
  induction h with
  | done dir =>
    cases hfound
    exact .done dir
  | into hmeet _ ih => exact .into hmeet (ih hfound)
  | missing hmeet =>
    cases hfound
    exact .missing hmeet
  | stop _ _ _ =>
    cases hfound
    exact absurd rfl (hp _ _)
  | go _ _ => cases hfound
  | leaf hmeet hslash =>
    cases hfound
    exact .leaf hmeet hslash

/-- What is found without going through a link is found without following one. -/
theorem Descends.unfollowed_place {p : Place} (h : Descends fs true slash dir xs (.place p)) :
    Descends fs false slash dir xs (.place p) := by
  generalize hfound : Reached.place p = found at h
  induction h with
  | done dir =>
    cases hfound
    exact .done dir
  | into hmeet _ ih => exact .into hmeet (ih hfound)
  | missing hmeet =>
    cases hfound
    exact .missing hmeet
  | stop _ hfollow _ => cases hfollow
  | go _ _ => cases hfound
  | leaf hmeet hslash =>
    cases hfound
    exact .leaf hmeet hslash

/-- Where a link would be followed, the link itself is found if it is the last name and no slash is
after it. -/
theorem Descends.unfollowed {target : Path}
    (h : Descends fs true slash dir xs (.link d target rest)) (slash' : Bool) :
    Descends fs false slash' dir xs (.link d target rest) ∨
      ∃ loc, Descends fs false slash' dir xs (.place (.occupied loc (.link target))) := by
  generalize hfound : Reached.link d target rest = found at h
  induction h with
  | done _ => cases hfound
  | into hmeet _ ih =>
    rcases ih hfound with h | ⟨loc, h⟩
    · exact Or.inl (.into hmeet h)
    · exact Or.inr ⟨loc, .into hmeet h⟩
  | missing _ => cases hfound
  | stop _ _ _ => cases hfound
  | @go dir name target rest hmeet _ =>
    cases hfound
    by_cases hrest : rest = []
    · subst hrest
      cases slash' with
      | false => exact Or.inr ⟨_, .stop hmeet rfl rfl⟩
      | true => exact Or.inl (.go hmeet (Or.inr (Or.inr rfl)))
    · exact Or.inl (.go hmeet (Or.inl hrest))
  | leaf _ _ => cases hfound

theorem Resolves.append {links : Nat} {ask : Bool} {item : Item}
    (hxs : Resolves fs true links ask dir xs (.occupied d item)) (hask : ask = true)
    (hys : ys ≠ []) :
    ∃ links', ∀ p, Resolves fs follow links' slash d ys p →
      Resolves fs follow links slash dir (xs ++ ys) p := by
  generalize hplace : Place.occupied d item = place at hxs
  induction hxs with
  | @place links ask dir xs place hdesc =>
    subst hplace hask
    refine ⟨links, fun p hp => ?_⟩
    cases hp with
    | place hys => exact .place (hdesc.append hys)
    | link hys hnext => exact .link (hdesc.append hys) hnext
  | @link links ask dir d' xs rest target place hdesc _ ih =>
    subst hask
    obtain ⟨links', hgo⟩ := ih (Bool.true_or _) hplace
    refine ⟨links', fun p hp => .link (hdesc.append_link hys) ?_⟩
    have hempty : (rest ++ ys).isEmpty = false := by simp [hys]
    rw [hempty, Bool.false_and, Bool.or_false, ← List.append_assoc]
    exact hgo p hp

theorem Resolves.of_append {links : Nat} {p : Place}
    (h : Resolves fs follow links slash dir (xs ++ ys) p) (hys : ys ≠ []) :
    ∃ d links', Resolves fs true links true dir xs (.occupied d .directory) ∧
      Resolves fs follow links' slash d ys p := by
  generalize hnames : xs ++ ys = names at h
  induction h generalizing xs with
  | @place links slash dir names p hdesc =>
    subst hnames
    rcases hdesc.of_append hys with ⟨d, hxs, hys⟩ | ⟨d, target, rest, _, hr⟩
    · exact ⟨d, links, .place hxs, .place hys⟩
    · cases hr
  | @link links slash dir d names rest target p hdesc hnext ih =>
    subst hnames
    rcases hdesc.of_append hys with ⟨d', hxs, hys'⟩ | ⟨d', target', rest', hxs, hr⟩
    · exact ⟨d', links + 1, .place hxs, .link hys' hnext⟩
    · cases hr
      have hempty : (rest' ++ ys).isEmpty = false := by simp [hys]
      rw [hempty, Bool.false_and, Bool.or_false] at ih
      obtain ⟨d'', links', hxs', hys'⟩ := ih (List.append_assoc _ _ _)
      refine ⟨d'', links', .link hxs ?_, hys'⟩
      rw [Bool.true_or]
      exact hxs'

end append

/-- A directory that is found is found whatever may come after it. -/
theorem Resolves.directory {fs : FileSystem} {follow slash : Bool} {links : Nat}
    {dir d : Location} {names : List Bytes}
    (h : Resolves fs follow links slash dir names (.occupied d .directory)) (slash' : Bool) :
    Resolves fs true links slash' dir names (.occupied d .directory) := by
  generalize hplace : Place.occupied d .directory = place at h
  induction h generalizing slash' with
  | place hdesc =>
    subst hplace
    exact .place (hdesc.directory true slash')
  | link hdesc _ ih => exact .link (hdesc.link slash') (ih _ hplace)

/-- What is found without following the last link and is no link is found with following too. -/
theorem Resolves.followed {fs : FileSystem} {slash : Bool} {links : Nat} {dir : Location}
    {names : List Bytes} {p : Place} (h : Resolves fs false links slash dir names p)
    (hp : ∀ loc target, p ≠ .occupied loc (.link target)) :
    Resolves fs true links slash dir names p := by
  induction h with
  | place hdesc => exact .place (hdesc.followed hp)
  | link hdesc _ ih => exact .link (hdesc.link _) (ih hp)

/-- Where following leads to a place, not following leads to it or to a link. -/
theorem Resolves.unfollowed_place {fs : FileSystem} {slash : Bool} {links : Nat} {dir : Location}
    {names : List Bytes} {p : Place} (h : Resolves fs true links slash dir names p) :
    Resolves fs false links slash dir names p ∨
      ∃ loc target, Resolves fs false links slash dir names (.occupied loc (.link target)) := by
  induction h with
  | place hdesc => exact Or.inl (.place hdesc.unfollowed_place)
  | @link _ slash _ _ _ _ _ _ hdesc _ ih =>
    rcases hdesc.unfollowed slash with hdesc' | ⟨loc, hdesc'⟩
    · exact ih.imp (.link hdesc') fun ⟨loc, target, hfound⟩ => ⟨loc, target, .link hdesc' hfound⟩
    · exact Or.inr ⟨loc, _, .place hdesc'⟩

/-- Where following leads to a directory, not following leads to it or to a link. -/
theorem Resolves.unfollowed {fs : FileSystem} {slash : Bool} {links : Nat} {dir d : Location}
    {names : List Bytes} (h : Resolves fs true links slash dir names (.occupied d .directory))
    (slash' : Bool) :
    ∃ loc item, Resolves fs false links slash' dir names (.occupied loc item) ∧
      item.isLeaf = false := by
  generalize hplace : Place.occupied d .directory = place at h
  induction h generalizing slash' with
  | place hdesc =>
    subst hplace
    exact ⟨d, .directory, .place (hdesc.directory false slash'), rfl⟩
  | link hdesc _ ih =>
    rcases hdesc.unfollowed slash' with hdesc' | ⟨loc, hdesc'⟩
    · obtain ⟨loc, item, hfound, hitem⟩ := ih _ hplace
      exact ⟨loc, item, .link hdesc' hfound, hitem⟩
    · exact ⟨loc, _, .place hdesc', rfl⟩

/-- The place itself: a free one is where the name would stand. -/
def Place.loc : Place → Location
  | .occupied loc _ => loc
  | .free dir name _ => dir ++ [name]

/-- What was found at the place. -/
def Place.item? : Place → Option Item
  | .occupied _ item => some item
  | .free .. => none

/-- What stands at a place that was found. -/
def Found (fs : FileSystem) : Place → Prop
  | .occupied loc item => fs.at? loc = some item
  | .free dir name _ =>
    fs.at? dir = some .directory ∧ fs.at? (dir ++ [name]) = none ∧ isName name = true

/-- What stands between slashes. -/
def IsPiece (n : Bytes) : Prop := n ≠ [] ∧ slash ∉ n

theorem isPiece_of_mem_namesOf {p : Path} {n : Bytes} (h : n ∈ namesOf p) : IsPiece n := by
  obtain ⟨hmem, hne⟩ := List.mem_filter.1 h
  refine ⟨by simpa using hne, fun hslash => ?_⟩
  have := Text.sep_eq_false_of_mem_split hmem hslash
  simp at this

section soundness
variable {fs : FileSystem} {follow slash : Bool} {dir : Location} {names : List Bytes}

/-- A directory is met where a directory stands. -/
theorem at?_of_meet_directory {loc : Location} {name : Bytes} (hdir : fs.at? dir = some .directory)
    (h : fs.meet dir name = .ok (.directory loc)) : fs.at? loc = some .directory := by
  simp only [meet] at h
  split at h
  · cases h
    exact hdir
  · split at h
    · cases h
      by_cases hroot : dir = []
      · subst hroot
        exact at?_root fs
      · rw [← List.dropLast_append_getLast hroot] at hdir
        exact at?_directory_of_child hdir
    · split at h
      · cases h
      · injection h with h
        rcases hitem : fs.at? (dir ++ [name]) with _ | (_ | _ | _ | _ | _) <;> rw [hitem] at h <;>
          cases h
        exact hitem

theorem isName_of_meet_nothing {name : Bytes} (hname : IsPiece name)
    (h : fs.meet dir name = .ok .nothing) : isName name = true := by
  simp only [meet] at h
  split at h
  · cases h
  · next hdot =>
    split at h
    · cases h
    · next hdots =>
      split at h
      · cases h
      · next hlen => exact isName_iff.2 ⟨hname.1, hname.2, hdot, hdots, by omega⟩

/-- What was found stands there. The directory in which a look-up begins is not looked at. -/
theorem Descends.at? {p : Place} (h : Descends fs follow slash dir names (.place p))
    (hp : p.item? ≠ some .directory) : fs.at? p.loc = p.item? := by
  generalize hplace : Reached.place p = r at h
  induction h with
  | done dir =>
    cases hplace
    exact absurd rfl hp
  | into _ _ ih => exact ih hplace
  | missing hmeet =>
    cases hplace
    exact at?_of_meet_nothing hmeet
  | stop hmeet _ _ =>
    cases hplace
    exact at?_of_meet_link hmeet
  | go _ _ => cases hplace
  | leaf hmeet _ =>
    cases hplace
    exact (at?_of_meet_other hmeet).1

theorem Resolves.at? {links : Nat} {p : Place} (h : Resolves fs follow links slash dir names p)
    (hp : p.item? ≠ some .directory) : fs.at? p.loc = p.item? := by
  induction h with
  | place hdesc => exact hdesc.at? hp
  | link _ _ ih => exact ih hp

theorem Descends.found {p : Place} (h : Descends fs follow slash dir names (.place p))
    (hdir : fs.at? dir = some .directory) (hnames : ∀ n ∈ names, IsPiece n) : Found fs p := by
  generalize hplace : Reached.place p = r at h
  induction h with
  | done dir =>
    cases hplace
    exact hdir
  | into hmeet _ ih =>
    exact ih (at?_of_meet_directory hdir hmeet) (fun n hn => hnames n (List.mem_cons_of_mem _ hn))
      hplace
  | missing hmeet =>
    cases hplace
    exact ⟨hdir, at?_of_meet_nothing hmeet, isName_of_meet_nothing (hnames _ (by simp)) hmeet⟩
  | stop hmeet _ _ =>
    cases hplace
    exact at?_of_meet_link hmeet
  | go _ _ => cases hplace
  | leaf hmeet _ =>
    cases hplace
    exact (at?_of_meet_other hmeet).1

theorem Descends.found_link {d : Location} {target : Path} {rest : List Bytes}
    (h : Descends fs follow slash dir names (.link d target rest))
    (hdir : fs.at? dir = some .directory) :
    fs.at? d = some .directory ∧ ∀ n ∈ rest, n ∈ names := by
  generalize hplace : Reached.link d target rest = r at h
  induction h with
  | done _ => cases hplace
  | into hmeet _ ih =>
    obtain ⟨hd, hrest⟩ := ih (at?_of_meet_directory hdir hmeet) hplace
    exact ⟨hd, fun n hn => List.mem_cons_of_mem _ (hrest n hn)⟩
  | missing _ => cases hplace
  | stop _ _ _ => cases hplace
  | go _ _ =>
    cases hplace
    exact ⟨hdir, fun n hn => List.mem_cons_of_mem _ hn⟩
  | leaf _ _ => cases hplace

/-- A look-up that begins in a directory tells what stands at the place to which it leads. -/
theorem Resolves.found {links : Nat} {p : Place} (h : Resolves fs follow links slash dir names p)
    (hdir : fs.at? dir = some .directory) (hnames : ∀ n ∈ names, IsPiece n) : Found fs p := by
  induction h with
  | place hdesc => exact hdesc.found hdir hnames
  | @link links slash dir d names rest target p hdesc _ ih =>
    obtain ⟨hd, hrest⟩ := hdesc.found_link hdir
    apply ih
    · split
      · exact at?_root fs
      · exact hd
    · intro n hn
      rcases List.mem_append.1 hn with hn | hn
      · exact isPiece_of_mem_namesOf hn
      · exact hnames n (hrest n hn)

theorem length_of_meet {name : Bytes} {met : Met} (h : fs.meet dir name = .ok met) :
    name.length ≤ maxName := by
  rw [meet] at h
  split at h
  · next hdot =>
    rw [hdot]
    decide
  · split at h
    · next hdots =>
      rw [hdots]
      decide
    · split at h
      · cases h
      · omega

/-- What is still to be looked up. -/
def Reached.rest : Reached → List Bytes
  | .place _ => []
  | .link _ _ rest => rest

theorem Descends.short {r : Reached} (h : Descends fs follow slash dir names r) :
    ∀ n ∈ names, n.length ≤ maxName ∨ n ∈ r.rest := by
  have hfirst {name : Bytes} {met : Met} {dir : Location} {rest more : List Bytes}
      (hmeet : fs.meet dir name = .ok met)
      (hrest : ∀ n ∈ rest, n.length ≤ maxName ∨ n ∈ more) :
      ∀ n ∈ name :: rest, n.length ≤ maxName ∨ n ∈ more := by
    intro n hn
    rcases List.mem_cons.1 hn with rfl | hn
    · exact Or.inl (length_of_meet hmeet)
    · exact hrest n hn
  induction h with
  | done _ => exact fun n hn => by cases hn
  | into hmeet _ ih => exact hfirst hmeet ih
  | missing hmeet => exact hfirst hmeet fun n hn => by cases hn
  | stop hmeet _ _ => exact hfirst hmeet fun n hn => by cases hn
  | go hmeet _ => exact hfirst hmeet fun n hn => Or.inr hn
  | leaf hmeet _ => exact hfirst hmeet fun n hn => by cases hn

/-- No name that leads somewhere is too long. -/
theorem Resolves.short {links : Nat} {p : Place} (h : Resolves fs follow links slash dir names p) :
    ∀ n ∈ names, n.length ≤ maxName := by
  induction h with
  | place hdesc => exact fun n hn => (hdesc.short n hn).resolve_right fun hmore => by cases hmore
  | link hdesc _ ih =>
    exact fun n hn => (hdesc.short n hn).elim id fun hmore => ih n (List.mem_append_right _ hmore)

/-- With following, no link is what is found. -/
theorem Resolves.ne_link {links : Nat} {p : Place} (h : Resolves fs true links slash dir names p)
    (loc : Location) (target : Path) : p ≠ .occupied loc (.link target) := by
  induction h with
  | @place links slash dir names p hdesc =>
    rintro rfl
    generalize hplace : Reached.place (.occupied loc (.link target)) = r at hdesc
    induction hdesc with
    | done _ => cases hplace
    | into _ _ ih => exact ih hplace
    | missing _ => cases hplace
    | stop _ hfollow _ => cases hfollow
    | go _ _ => cases hplace
    | leaf hmeet _ =>
      cases hplace
      cases (at?_of_meet_other hmeet).2
  | link _ _ ih => exact ih

/-- Ordinary names lead down to what stands below a directory. -/
theorem Descends.of_at? {item : Item} (hdir : fs.at? dir = some .directory)
    (hitem : fs.at? (dir ++ names) = some item)
    (hend : item = .directory ∨ slash = false ∧ (follow = false ∨ item.isLeaf = true)) :
    Descends fs follow slash dir names (.place (.occupied (dir ++ names) item)) := by
  induction names generalizing dir with
  | nil =>
    rw [List.append_nil] at hitem ⊢
    rw [hdir] at hitem
    cases hitem
    exact .done dir
  | cons name rest ih =>
    have hname : isName name = true := isName_of_at? hitem (by simp)
    rw [List.append_cons] at hitem ⊢
    have hmeet := meet_of_isName hname fs dir
    by_cases hrest : rest = []
    · subst hrest
      rw [List.append_nil] at hitem ⊢
      rw [hitem] at hmeet
      rcases hend with rfl | ⟨hslash, hend⟩
      · exact .into hmeet (.done _)
      · cases item with
        | directory => exact .into hmeet (.done _)
        | link target => exact .stop hmeet (hend.resolve_right (by simp [Item.isLeaf])) hslash
        | file data | socket | device => exact .leaf hmeet hslash
    · have hnext := at?_directory_of_append hitem hrest
      rw [hnext] at hmeet
      exact .into hmeet (ih hnext hitem)

end soundness

section change
variable {fs fs' : FileSystem} {follow slash : Bool} {dir : Location} {names : List Bytes}

/-- Places where only leaves stood are no part of the way to another place. -/
structure Aside (away : Location → Prop) (fs fs' : FileSystem) : Prop where
  same : ∀ {o : Location}, ¬ away o → fs'.at? o = fs.at? o
  leaf : ∀ {o : Location} {item : Item}, away o → fs.at? o = some item → item.isLeaf = true

variable {away : Location → Prop}

theorem Aside.meet {name : Bytes} {met : Met} (h : Aside away fs fs')
    (hmeet : fs.meet dir name = .ok met)
    (hmet : away (dir ++ [name]) → met ≠ .nothing ∧ ∀ item, met ≠ .other item) :
    fs'.meet dir name = .ok met := by
  rcases meet_cases dir name with ⟨r, hr⟩ | hat
  · rw [hr] at hmeet ⊢
    exact hmeet
  · rw [hat] at hmeet ⊢
    by_cases ho : away (dir ++ [name])
    · obtain ⟨hnothing, hother⟩ := hmet ho
      injection hmeet with hmeet
      cases hitem : fs.at? (dir ++ [name]) with
      | none =>
        rw [hitem] at hmeet
        exact absurd hmeet.symm hnothing
      | some item =>
        rw [hitem] at hmeet
        have hleaf : Met.of (dir ++ [name]) (some item) = .other item :=
          Met.of_eq_other.2 ⟨rfl, h.leaf ho hitem⟩
        exact absurd (hmeet.symm.trans hleaf) (hother item)
    · rw [h.same ho]
      exact hmeet

/-- A look-up that leads elsewhere does not notice what has changed aside. -/
theorem Descends.elsewhere {r : Reached} (ha : Aside away fs fs')
    (h : Descends fs follow slash dir names r) (hr : ∀ p, r = .place p → ¬ away p.loc) :
    Descends fs' follow slash dir names r := by
  induction h with
  | done dir => exact .done dir
  | into hmeet _ ih => exact .into (ha.meet hmeet (by simp)) (ih hr)
  | missing hmeet => exact .missing (ha.meet hmeet fun ho => absurd ho (hr _ rfl))
  | stop hmeet hfollow hslash => exact .stop (ha.meet hmeet (by simp)) hfollow hslash
  | go hmeet hgo => exact .go (ha.meet hmeet (by simp)) hgo
  | leaf hmeet hslash => exact .leaf (ha.meet hmeet fun ho => absurd ho (hr _ rfl)) hslash

theorem Resolves.elsewhere {links : Nat} {p : Place} (ha : Aside away fs fs')
    (h : Resolves fs follow links slash dir names p) (hp : ¬ away p.loc) :
    Resolves fs' follow links slash dir names p := by
  induction h with
  | place hdesc =>
    refine .place (hdesc.elsewhere ha fun q hq => ?_)
    cases hq
    exact hp
  | link hdesc _ ih =>
    refine .link (hdesc.elsewhere ha fun q hq => ?_) (ih hp)
    cases hq

/-- A look-up that led to a free place leads to the directory that has been made there. -/
theorem Descends.filled {place : Location} {n : Bytes} {asked : Bool}
    (ha : Aside (place ++ [n] <+: ·) fs fs') (hnow : fs'.at? (place ++ [n]) = some .directory)
    (h : Descends fs follow slash dir names (.place (.free place n asked))) :
    Descends fs' follow slash dir names (.place (.occupied (place ++ [n]) .directory)) := by
  generalize hplace : Reached.place (.free place n asked) = r at h
  induction h with
  | done _ => cases hplace
  | into hmeet _ ih => exact .into (ha.meet hmeet (by simp)) (ih hplace)
  | @missing dir name hmeet =>
    cases hplace
    rcases meet_cases place n with ⟨r, hr⟩ | hat
    · rw [hr] at hmeet
      cases r <;> cases hmeet
    · have hmeet' := hat fs'
      rw [hnow] at hmeet'
      exact .into hmeet' (.done _)
  | stop _ _ _ => cases hplace
  | go _ _ => cases hplace
  | leaf _ _ => cases hplace

theorem Resolves.filled {place : Location} {n : Bytes} {asked : Bool} {links : Nat}
    (ha : Aside (place ++ [n] <+: ·) fs fs') (hnow : fs'.at? (place ++ [n]) = some .directory)
    (h : Resolves fs follow links slash dir names (.free place n asked)) :
    Resolves fs' follow links slash dir names (.occupied (place ++ [n]) .directory) := by
  generalize hplace : Place.free place n asked = p at h
  induction h with
  | place hdesc =>
    subst hplace
    exact .place (hdesc.filled ha hnow)
  | link hdesc _ ih =>
    refine .link (hdesc.elsewhere ha fun q hq => ?_) (ih hplace)
    cases hq

/-- Whether a free place is one for a directory. -/
def Place.asked : Place → Bool
  | .occupied _ _ => false
  | .free _ _ slash => slash

/-- A last name at whose place nothing or a leaf stands leads to that place. -/
theorem Descends.last {name : Bytes} {met : Met} (hmeet : fs.meet dir name = .ok met)
    (hmet : ∀ loc, met ≠ .directory loc)
    (hleaf : ∀ item, fs'.at? (dir ++ [name]) = some item → item.isLeaf = true) :
    ∃ p, Descends fs' follow false dir [name] (.place p) ∧ p.loc = dir ++ [name] ∧
      p.asked = false ∧ p.item? ≠ some .directory := by
  have hmeet' : fs'.meet dir name = .ok (Met.of (dir ++ [name]) (fs'.at? (dir ++ [name]))) := by
    rcases meet_cases dir name with ⟨r, hr⟩ | hat
    · rw [hr] at hmeet
      cases r with
      | error e => cases hmeet
      | ok loc =>
        cases hmeet
        exact absurd rfl (hmet loc)
    · exact hat fs'
  cases hitem : fs'.at? (dir ++ [name]) with
  | none =>
    rw [hitem] at hmeet'
    exact ⟨.free dir name false, .missing hmeet', rfl, rfl, by simp [Place.item?]⟩
  | some item =>
    have hitem' := hleaf item hitem
    rw [hitem, Met.of_eq_other.2 ⟨rfl, hitem'⟩] at hmeet'
    refine ⟨.occupied (dir ++ [name]) item, .leaf hmeet' rfl, rfl, rfl, ?_⟩
    rintro heq
    cases heq
    cases hitem'

/-- A look-up that leads to a place where nothing or a leaf stood leads there also when that has
changed, unless it asks for a directory. -/
theorem Descends.there {p : Place} (ha : Aside (· = p.loc) fs fs')
    (hleaf : ∀ item, fs'.at? p.loc = some item → item.isLeaf = true)
    (h : Descends fs follow slash dir names (.place p)) (hasked : p.asked = false) :
    ∃ p', Descends fs' follow slash dir names (.place p') ∧ p'.loc = p.loc ∧
      p'.asked = false ∧ (p.item? ≠ some .directory → p'.item? ≠ some .directory) := by
  generalize hplace : Reached.place p = r at h
  induction h with
  | done dir =>
    cases hplace
    exact ⟨_, .done dir, rfl, rfl, id⟩
  | into hmeet _ ih =>
    obtain ⟨p', hrest, hp'⟩ := ih hplace
    exact ⟨p', .into (ha.meet hmeet (by simp)) hrest, hp'⟩
  | missing hmeet =>
    cases hplace
    cases hasked
    obtain ⟨p', hlast, hloc, hasked, hitem⟩ := Descends.last hmeet (by simp) hleaf
    exact ⟨p', hlast, hloc, hasked, fun _ => hitem⟩
  | stop hmeet _ _ =>
    cases hplace
    cases ha.leaf rfl (at?_of_meet_link hmeet)
  | go _ _ => cases hplace
  | leaf hmeet hslash =>
    cases hplace
    subst hslash
    obtain ⟨p', hlast, hloc, hasked, hitem⟩ := Descends.last hmeet (by simp) hleaf
    exact ⟨p', hlast, hloc, hasked, fun _ => hitem⟩

theorem Resolves.there {links : Nat} {p : Place} (ha : Aside (· = p.loc) fs fs')
    (hleaf : ∀ item, fs'.at? p.loc = some item → item.isLeaf = true)
    (h : Resolves fs follow links slash dir names p) (hasked : p.asked = false) :
    ∃ p', Resolves fs' follow links slash dir names p' ∧ p'.loc = p.loc ∧
      p'.asked = false ∧ (p.item? ≠ some .directory → p'.item? ≠ some .directory) := by
  induction h with
  | place hdesc =>
    obtain ⟨p', hdesc', hp'⟩ := hdesc.there ha hleaf hasked
    exact ⟨p', .place hdesc', hp'⟩
  | link hdesc _ ih =>
    obtain ⟨p', hnext, hp'⟩ := ih ha hleaf hasked
    refine ⟨p', .link (hdesc.elsewhere ha fun q hq => ?_) hnext, hp'⟩
    cases hq

end change

end FileSystem
end SparseTransfer
