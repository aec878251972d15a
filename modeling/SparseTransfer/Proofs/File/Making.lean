import SparseTransfer.Proofs.File.Unlinked

/- Making a directory together with those that are missing above it. Below a directory without links
that is there already, only directories with the names of the path are made. -/
namespace SparseTransfer.FileSystem
open SparseTransfer.Path Text

/-- The names of the components are the names of the path without single dots. -/
theorem undots_namesOf (p : Path) : Undots (namesOf p) ((innerParts p).map Component.bytes) := by
  rw [namesOf, innerParts]
  induction split (· == slash) p with
  | nil => exact .nil
  | cons piece rest ih =>
    by_cases hnil : piece = []
    · subst hnil
      exact ih
    · have hkeep : (piece :: rest).filter (!·.isEmpty) = piece :: rest.filter (!·.isEmpty) :=
        List.filter_cons_of_pos (by simpa using hnil)
      rw [hkeep]
      by_cases hdot : piece = [dot]
      · subst hdot
        exact .drop ih
      · obtain ⟨b, more, rfl⟩ := List.exists_cons_of_ne_nil hnil
        by_cases hdots : b :: more = [dot, dot]
        · rw [hdots]
          exact .keep _ ih
        · have hpiece : Component.ofPiece (b :: more) = some (.name (b :: more)) := by
            simp [Component.ofPiece, hdot, hdots]
          rw [List.filterMap_cons_some hpiece]
          exact .keep _ ih

section rooted
variable {cs : List Component}

theorem split_rooted (h : ∀ c ∈ cs, c.IsInner) (hne : cs ≠ []) :
    split (· == slash) (ofComponents (.root :: cs)) = [] :: cs.map Component.bytes := by
  have hof : ofComponents (.root :: cs) = slash :: join [slash] (cs.map Component.bytes) := rfl
  rw [hof, split, if_pos (by simp), split_join_bytes h hne]

/-- A path that is written from the root down has the names of its components. -/
theorem namesOf_rooted (h : ∀ c ∈ cs, c.IsInner) :
    namesOf (ofComponents (.root :: cs)) = cs.map Component.bytes := by
  by_cases hne : cs = []
  · subst hne
    rfl
  · rw [namesOf, split_rooted h hne]
    have hall : ∀ n ∈ cs.map Component.bytes, (!n.isEmpty) = true := by
      intro n hn
      obtain ⟨c, hc, rfl⟩ := List.mem_map.1 hn
      simpa using (Component.bytes_ne (h c hc)).1
    rw [List.filter_cons_of_neg (by simp), List.filter_eq_self.2 hall]

theorem getLast?_split_of_endsInSlash {p : Path} (h : endsInSlash p = true) :
    (split (· == slash) p).getLast? = some [] := by
  obtain ⟨front, rfl⟩ := List.getLast?_eq_some_iff.1 (by simpa [endsInSlash] using h)
  rw [split_append_cons (by simp)]
  simp [split]

theorem withoutSlashes_rooted (h : ∀ c ∈ cs, c.IsInner) :
    withoutSlashes (ofComponents (.root :: cs)) = ofComponents (.root :: cs) := by
  by_cases hne : cs = []
  · subst hne
    rfl
  · apply withoutSlashes_of_endsInSlash
    rw [Bool.eq_false_iff]
    intro hslash
    have hlast := getLast?_split_of_endsInSlash hslash
    rw [split_rooted h hne, List.getLast?_cons, List.getLast?_map] at hlast
    obtain ⟨c, hc⟩ := Option.ne_none_iff_exists'.1 (mt List.getLast?_eq_none_iff.1 hne)
    rw [hc] at hlast
    have hempty : c.bytes = [] := by simpa using hlast
    exact (Component.bytes_ne (h c (List.mem_of_getLast? hc))).1 hempty

/-- The paths above an absolute path, and the path itself. -/
theorem mem_ancestors {p a : Path} (habs : isAbsolute p = true) (h : a ∈ ancestors p) :
    a = p ∨ ∃ k < (innerParts p).length, a = ofComponents (.root :: (innerParts p).take k) := by
  have hparts : components p = .root :: innerParts p := by
    rw [components_eq, leading, if_pos habs]
    rfl
  rw [ancestors, hparts] at h
  rcases List.mem_append.1 h with h | h
  · exact Or.inl (by simpa using h)
  · obtain ⟨hmem, hne⟩ := List.mem_filter.1 h
    obtain ⟨k, hk, rfl⟩ := List.mem_map.1 hmem
    have hk' : k < (innerParts p).length + 1 := by simpa using hk
    cases k with
    | zero => exact absurd hne (by simp [ofComponents, join])
    | succ k => exact Or.inr ⟨k, by omega, rfl⟩

theorem ancestors_eq_cons {p : Path} (habs : isAbsolute p = true) :
    ∃ above, ancestors p = p :: above := by
  have hparts : components p = .root :: innerParts p := by
    rw [components_eq, leading, if_pos habs]
    rfl
  exact ⟨_, by rw [ancestors, hparts]; rfl⟩

end rooted

section createDirs
variable {P : FileSystem → Prop}

/-- What every single directory that is made preserves is preserved when several are made. -/
theorem createDirs_preserves {paths : List Path}
    (hstep : ∀ p ∈ paths, ∀ fs fs' : FileSystem, P fs → fs.createDir p = .ok fs' → P fs')
    {fs fs' : FileSystem} (hfs : P fs) (h : fs.createDirs paths = .ok fs') : P fs' := by
  induction paths generalizing fs fs' with
  | nil =>
    cases h
    exact hfs
  | cons p above ih =>
    have hp := hstep p (by simp)
    have habove {mid : FileSystem} (hmid : fs.createDirs above = .ok mid) : P mid :=
      ih (fun q hq => hstep q (List.mem_cons_of_mem _ hq)) hfs hmid
    rw [createDirs] at h
    split at h
    · next made hmade =>
      cases h
      exact hp _ _ hfs hmade
    · split at h
      · split at h
        · cases h
        · next mid hmid =>
          split at h
          · next made hmade =>
            cases h
            exact hp _ _ (habove hmid) hmade
          · split at h
            · cases h
              exact habove hmid
            · cases h
      · split at h
        · cases h
          exact hfs
        · cases h
    · cases h

/-- In the end the first of the directories has been made, or was there. -/
theorem createDirs_made {p : Path} {above : List Path}
    (hstep : ∀ q ∈ p :: above, ∀ fs fs' : FileSystem, P fs → fs.createDir q = .ok fs' → P fs')
    {fs fs' : FileSystem} (hfs : P fs) (h : fs.createDirs (p :: above) = .ok fs') :
    fs'.isDirectory p = true ∨ ∃ mid, P mid ∧ mid.createDir p = .ok fs' := by
  rw [createDirs] at h
  split at h
  · next made hmade =>
    cases h
    exact Or.inr ⟨fs, hfs, hmade⟩
  · split at h
    · split at h
      · cases h
      · next mid hmid =>
        have hmid' : P mid :=
          createDirs_preserves (fun q hq => hstep q (List.mem_cons_of_mem _ hq)) hfs hmid
        split at h
        · next made hmade =>
          cases h
          exact Or.inr ⟨mid, hmid', hmade⟩
        · split at h
          · next hdir =>
            cases h
            exact Or.inl hdir
          · cases h
    · split at h
      · next hdir =>
        cases h
        exact Or.inl hdir
      · cases h
  · cases h

end createDirs

/-- Where nothing was, directories have been made below `d` that have the first of some names, and
nothing else has changed. -/
structure Grown (d : Location) (names : List Bytes) (fs fs' : FileSystem) : Prop where
  cwd : fs'.cwd = fs.cwd
  at? : ∀ o, fs'.at? o = fs.at? o ∨
    (fs.at? o = none ∧ fs'.at? o = some .directory ∧ ∃ k, o = d ++ names.take (k + 1))

section grown
variable {fs mid fs' : FileSystem} {d : Location} {names : List Bytes} {b : Path}

theorem Grown.refl (d : Location) (names : List Bytes) (fs : FileSystem) : Grown d names fs fs :=
  ⟨rfl, fun _ => Or.inl rfl⟩

theorem Grown.at?_of_some (h : Grown d names fs fs') {o : Location} {item : Item}
    (ho : fs.at? o = some item) : fs'.at? o = some item := by
  rcases h.at? o with hsame | ⟨hnone, -, -⟩
  · rw [hsame, ho]
  · rw [hnone] at ho
    cases ho

theorem Grown.linkFree (h : Grown d names fs fs') {loc : Location} (hfree : LinkFree fs loc) :
    LinkFree fs' loc := by
  intro more target hlink
  rcases h.at? (loc ++ more) with hsame | ⟨-, hdir, -⟩
  · exact hfree more target (hsame ▸ hlink)
  · rw [hdir] at hlink
    cases hlink

theorem Grown.insert (h : Grown d names fs mid) {dir : Location} {name : Bytes} {k : Nat}
    (hdir : mid.at? dir = some .directory) (hfree : mid.at? (dir ++ [name]) = none)
    (hname : isName name = true) (hplace : dir ++ [name] = d ++ names.take (k + 1)) :
    Grown d names fs (mid.insert dir name .directory) := by
  have hat (o : Location) : (mid.insert dir name .directory).at? o =
      if o = dir ++ [name] then some .directory else mid.at? o := at?_insert hdir hfree hname o
  refine ⟨(insert_agreeOutside mid dir name .directory).cwd.trans h.cwd, fun o => ?_⟩
  rw [hat]
  by_cases ho : o = dir ++ [name]
  · subst ho
    rw [if_pos rfl]
    refine Or.inr ⟨?_, rfl, k, hplace⟩
    rcases h.at? (dir ++ [name]) with hsame | ⟨hnone, -, -⟩
    · rw [← hsame, hfree]
    · exact hnone
  · rw [if_neg ho]
    exact h.at? o

/-- What leads to a directory leads there also when others have been made. -/
theorem Grown.stat (h : Grown d names fs fs') (hb : isAbsolute b = true) {loc : Location}
    (hstat : fs.stat true b = .ok (loc, .directory)) : fs'.stat true b = .ok (loc, .directory) := by
  rw [stat_eq_ok_iff] at hstat ⊢
  have haside : Aside (fun o => fs'.at? o ≠ fs.at? o) fs fs' := by
    refine ⟨fun ho => not_not.1 ho, fun {o item} ho hitem => ?_⟩
    exact absurd ((h.at?_of_some hitem).trans hitem.symm) ho
  have hloc : fs.at? loc = some .directory := lookup_found hb hstat
  exact lookup_elsewhere haside h.cwd hstat fun ho => ho ((h.at?_of_some hloc).trans hloc.symm)

theorem createDir_eq_ok {p : Path} (hp : withoutSlashes p = p) (h : fs.createDir p = .ok fs') :
    ∃ dir name slash, fs.lookup false p = .ok (.free dir name slash) ∧
      fs' = fs.insert dir name .directory := by
  rw [createDir, make, hp] at h
  split at h
  · cases h
  · cases h
  · next dir name slash hlook =>
    cases h
    exact ⟨dir, name, slash, hlook, rfl⟩

/-- A directory that is made behind names which lead to `d` is one below `d`. -/
theorem Grown.createDir_behind (h : Grown d names fs mid) (hfree : LinkFree fs d)
    (hall : ∀ n ∈ names, isName n = true) {a : Path} (ha : isAbsolute a = true)
    (hslash : withoutSlashes a = a) {xs : List Bytes} {k : Nat} (hk : k < names.length)
    (hxs : Resolves mid true maxLinks true [] xs (.occupied d .directory))
    (hnames : namesOf a = xs ++ names.take (k + 1)) (hmade : mid.createDir a = .ok fs') :
    Grown d names fs fs' := by
  obtain ⟨dir, name, slash, hlook, rfl⟩ := createDir_eq_ok hslash hmade
  obtain ⟨hdir, hnone, hname⟩ := lookup_found ha hlook
  obtain ⟨-, hresolves⟩ := lookup_eq_ok_iff.1 hlook
  rw [start, if_pos ha, hnames] at hresolves
  have htake : names.take (k + 1) ≠ [] := by
    rw [ne_eq, List.take_eq_nil_iff]
    rintro (hzero | rfl)
    · omega
    · simp at hk
  have htaken : ∀ n ∈ names.take (k + 1), isName n = true :=
    fun n hn => hall n (List.take_subset _ _ hn)
  obtain ⟨d', links, hfirst, hrest⟩ := hresolves.of_append htake
  cases hfirst.unique hxs
  have hplace := (h.linkFree hfree).resolves (fun n hn => ne_dots_of_isName (htaken n hn)) hrest
  rw [undotted_of_isName htaken] at hplace
  exact h.insert hdir hnone hname hplace

/-- Where the first names of a path lead to a directory, none is made. -/
theorem createDir_ne_ok {a : Path} (ha : isAbsolute a = true) (hslash : withoutSlashes a = a)
    {rest : List Bytes} {loc : Location}
    (h : Resolves mid true maxLinks true [] (namesOf a ++ rest) (.occupied loc .directory)) :
    mid.createDir a ≠ .ok fs' := by
  intro hmade
  obtain ⟨dir, name, slash, hlook, -⟩ := createDir_eq_ok hslash hmade
  obtain ⟨-, hresolves⟩ := lookup_eq_ok_iff.1 hlook
  rw [start, if_pos ha] at hresolves
  obtain ⟨loc', hfirst⟩ : ∃ loc', Resolves mid true maxLinks true [] (namesOf a)
      (.occupied loc' .directory) := by
    by_cases hrest : rest = []
    · subst hrest
      rw [List.append_nil] at h
      exact ⟨loc, h⟩
    · obtain ⟨loc', _, hfirst, -⟩ := h.of_append hrest
      exact ⟨loc', hfirst⟩
  obtain ⟨_, _, hfound, -⟩ := hfirst.unfollowed (endsInSlash a)
  cases hfound.unique hresolves

theorem Grown.createDir (h : Grown d names fs mid) (hb : isAbsolute b = true)
    (hstat : fs.stat true b = .ok (d, .directory)) (hfree : LinkFree fs d) (hne : names ≠ [])
    (hall : ∀ n ∈ names, isName n = true) {a : Path} (ha : a ∈ ancestors (pathBelow b names))
    (hmade : mid.createDir a = .ok fs') : Grown d names fs fs' := by
  have hbne := Path.ne_nil_of_isAbsolute hb
  have habs : isAbsolute (pathBelow b names) = true := (isAbsolute_pathBelow hbne hall).trans hb
  have hlength : 0 < names.length := List.length_pos_iff.2 hne
  obtain ⟨-, hresolves⟩ := lookup_eq_ok_iff.1 (stat_eq_ok_iff.1 (h.stat hb hstat))
  rw [start, if_pos hb] at hresolves
  rcases mem_ancestors habs ha with rfl | ⟨k, hk, rfl⟩
  · have hslash := withoutSlashes_of_endsInSlash (endsInSlash_pathBelow hbne hne hall)
    apply h.createDir_behind hfree hall habs hslash (k := names.length - 1) (by omega)
      (hresolves.directory true) _ hmade
    rw [namesOf_pathBelow hall, List.take_of_length_le (by omega)]
  · -- the dots of `b` are not in the paths above
    have hinner := hresolves.directory true |>.undots rfl (undots_namesOf b)
    have hcs : ∀ c ∈ (innerParts (pathBelow b names)).take k, c.IsInner := fun c hc =>
      Component.isInner_of_mem_inner (List.take_subset _ _ hc)
    have hnames : namesOf (ofComponents (.root :: (innerParts (pathBelow b names)).take k)) =
        ((innerParts b).map Component.bytes ++ names).take k := by
      rw [namesOf_rooted hcs, inner_pathBelow hall, List.map_take, List.map_append, List.map_map]
      congr 2
      exact List.map_id names
    rw [inner_pathBelow hall, List.length_append, List.length_map] at hk
    generalize hxs : (innerParts b).map Component.bytes = xs at hinner hnames
    have hlen : xs.length = (innerParts b).length := by rw [← hxs, List.length_map]
    by_cases hshort : k ≤ xs.length
    · rw [List.take_append_of_le_length hshort] at hnames
      rw [← List.take_append_drop k xs, ← hnames] at hinner
      exact absurd hmade (createDir_ne_ok rfl (withoutSlashes_rooted hcs) hinner)
    · apply h.createDir_behind hfree hall rfl (withoutSlashes_rooted hcs) (k := k - xs.length - 1)
        (by omega) hinner _ hmade
      rw [hnames, List.take_append, List.take_of_length_le (by omega)]
      congr 2
      omega

/-- Making a path below a directory without links makes directories below it that have the names of
the path, up to the last. -/
theorem createDirAll_pathBelow (hb : isAbsolute b = true)
    (hstat : fs.stat true b = .ok (d, .directory)) (hfree : LinkFree fs d) (hne : names ≠ [])
    (hall : ∀ n ∈ names, isName n = true)
    (h : fs.createDirAll (pathBelow b names) = .ok fs') :
    Grown d names fs fs' ∧ fs'.stat true (pathBelow b names) = .ok (d ++ names, .directory) := by
  have hbne := Path.ne_nil_of_isAbsolute hb
  have habs : isAbsolute (pathBelow b names) = true := (isAbsolute_pathBelow hbne hall).trans hb
  have hstep : ∀ a ∈ ancestors (pathBelow b names), ∀ mid made : FileSystem,
      Grown d names fs mid → mid.createDir a = .ok made → Grown d names fs made :=
    fun a ha mid made hmid hmade => hmid.createDir hb hstat hfree hne hall ha hmade
  have hgrown : Grown d names fs fs' := createDirs_preserves hstep (Grown.refl _ _ _) h
  obtain ⟨above, hcons⟩ := ancestors_eq_cons habs
  rw [createDirAll, hcons] at h
  rw [hcons] at hstep
  have hplace {fs'' : FileSystem} {follow : Bool} {q : Place} (hg : Grown d names fs fs'')
      (hlook : fs''.lookup follow (pathBelow b names) = .ok q) : q.loc = d ++ names := by
    obtain ⟨d', links, hfirst, hrest⟩ := (extends_pathBelow hbne hne hall).of_lookup hbne hlook
    cases (hg.stat hb hstat).symm.trans hfirst
    have hloc := (hg.linkFree hfree).resolves (fun n hn => ne_dots_of_isName (hall n hn)) hrest
    rwa [undotted_of_isName hall] at hloc
  refine ⟨hgrown, ?_⟩
  rcases createDirs_made hstep (Grown.refl _ _ _) h with hdir | ⟨mid, hmid, hmade⟩
  · obtain ⟨loc, hfound⟩ := isDirectory_iff.1 hdir
    have hloc : loc = d ++ names := hplace hgrown (stat_eq_ok_iff.1 hfound)
    rw [hfound, hloc]
  · have hslash := withoutSlashes_of_endsInSlash (endsInSlash_pathBelow hbne hne hall)
    obtain ⟨dir, name, slash, hlook, rfl⟩ := createDir_eq_ok hslash hmade
    obtain ⟨hdir, hnone, hname⟩ := lookup_found habs hlook
    have hloc : dir ++ [name] = d ++ names := hplace hmid hlook
    have hnow : (mid.insert dir name .directory).at? (d ++ names) = some .directory := by
      rw [at?_insert hdir hnone hname, if_pos hloc.symm]
    have husable := (lookup_eq_ok_iff.1 hlook).1
    exact stat_followed (stat_pathBelow (hgrown.stat hb hstat) hne hnow husable) (by simp)

end grown
end SparseTransfer.FileSystem
