import SparseTransfer.Proofs.File.Places

/- Putting things into a directory at the ends of paths, with the directories on the way. If no path
begins another, nothing is in the way of anything, in whatever order they are put. -/
namespace SparseTransfer.FileSystem

/-- Puts an item at the end of a path below a directory, after the directories on the way that are
missing. There is a conflict if anything stands at its place, or something else than a directory on
the way. -/
def place (fs : FileSystem) (dir : Location) (item : Item) : Location → Option FileSystem
  | [] => none
  | [name] =>
    if isName name ∧ fs.at? (dir ++ [name]) = none then some (fs.insert dir name item) else none
  | name :: next :: rest =>
    match fs.at? (dir ++ [name]) with
    | none =>
      if isName name then place (fs.insert dir name .directory) (dir ++ [name]) item (next :: rest)
      else none
    | some .directory => place fs (dir ++ [name]) item (next :: rest)
    | some _ => none

def placeAll (dir : Location) : FileSystem → List (Location × Item) → Option FileSystem
  | fs, [] => some fs
  | fs, (path, item) :: rest => (place fs dir item path).bind fun fs => placeAll dir fs rest

/-- An item has been put at the end of a path below a directory, and nothing else has changed. -/
structure Put (dir path : Location) (item : Item) (fs fs' : FileSystem) : Prop where
  cwd : fs'.cwd = fs.cwd
  there : fs'.at? (dir ++ path) = some item
  onTheWay : ∀ {above : Location}, above <+: path → above ≠ path →
    fs'.at? (dir ++ above) = some .directory
  same : ∀ {o : Location}, (∀ above, above ≠ [] → above <+: path → o ≠ dir ++ above) →
    fs'.at? o = fs.at? o

/-- What is at the end of names if some items are at the ends of their paths: one of them, or a
directory on the way to one. -/
def Stands (items : List (Location × Item)) (names : Location) (item : Item) : Prop :=
  (names, item) ∈ items ∨ item = .directory ∧ ∃ e ∈ items, names <+: e.1 ∧ names ≠ e.1

/-- All that is below a directory, which was empty, are some items at the ends of their paths and
the directories on the way to them. -/
structure Filled (dir : Location) (items : List (Location × Item))
    (fs fs' : FileSystem) : Prop where
  agree : AgreeOutside dir fs fs'
  isDirectory : fs'.at? dir = some .directory
  at? : ∀ {names : Location} {item : Item}, names ≠ [] →
    (fs'.at? (dir ++ names) = some item ↔ Stands items names item)

section place
variable {fs fs' : FileSystem} {dir path : Location} {item : Item}

theorem insert_put {name : Bytes} (hdir : fs.at? dir = some .directory)
    (hfree : fs.at? (dir ++ [name]) = none) (hname : isName name = true) :
    Put dir [name] item fs (fs.insert dir name item) := by
  have hat (o : Location) : (fs.insert dir name item).at? o =
      if o = dir ++ [name] then some item else fs.at? o := at?_insert hdir hfree hname o
  constructor
  · exact (insert_agreeOutside fs dir name item).cwd
  · rw [hat, if_pos rfl]
  · intro above hpre hne
    obtain rfl : above = [] := by
      rcases List.prefix_concat_iff.1 (show above <+: [] ++ [name] from hpre) with h | h
      · exact absurd h hne
      · exact List.prefix_nil.1 h
    rw [List.append_nil, hat, if_neg (by simp)]
    exact hdir
  · intro o ho
    rw [hat, if_neg (ho [name] (by simp) List.prefix_rfl)]

/-- What is put below a directory that stands in another, or was put there, is put below that. -/
theorem Put.cons {name : Bytes} {mid : FileSystem} (hdir : mid.at? dir = some .directory)
    (hcwd : mid.cwd = fs.cwd)
    (hmid : ∀ {o : Location}, o ≠ dir ++ [name] → mid.at? o = fs.at? o)
    (h : Put (dir ++ [name]) path item mid fs') : Put dir (name :: path) item fs fs' := by
  have hbelow (names : Location) : dir ++ name :: names = dir ++ [name] ++ names := by simp
  have hsame {o : Location}
      (ho : ∀ above, above ≠ [] → above <+: name :: path → o ≠ dir ++ above) :
      fs'.at? o = mid.at? o := by
    refine h.same fun above _ hpre => ?_
    rw [← hbelow]
    exact ho _ (by simp) (List.cons_prefix_cons.2 ⟨rfl, hpre⟩)
  constructor
  · exact h.cwd.trans hcwd
  · rw [hbelow]
    exact h.there
  · intro above hpre hne
    cases above with
    | nil =>
      rw [List.append_nil, h.same, hdir]
      intro above habove _ heq
      have hlen := congrArg List.length heq
      simp at hlen
    | cons first rest =>
      obtain ⟨rfl, hrest⟩ := List.cons_prefix_cons.1 hpre
      rw [hbelow]
      exact h.onTheWay hrest fun heq => hne (by rw [heq])
  · intro o ho
    rw [hsame ho, hmid]
    exact ho [name] (by simp) (List.cons_prefix_cons.2 ⟨rfl, List.nil_prefix⟩)

/-- An item can be put where nothing is in the way. -/
theorem exists_put (hne : path ≠ []) (hnames : ∀ n ∈ path, isName n = true)
    (hdir : fs.at? dir = some .directory)
    (hway : ∀ {above : Location} {found : Item}, above ≠ [] → above <+: path → above ≠ path →
      fs.at? (dir ++ above) = some found → found = .directory)
    (hfree : fs.at? (dir ++ path) = none) :
    ∃ fs', place fs dir item path = some fs' ∧ Put dir path item fs fs' := by
  induction path generalizing fs dir with
  | nil => exact absurd rfl hne
  | cons name rest ih =>
    have hname := hnames name List.mem_cons_self
    cases rest with
    | nil => exact ⟨_, by rw [place, if_pos ⟨hname, hfree⟩], insert_put hdir hfree hname⟩
    | cons next rest =>
      have hbelow (names : Location) : dir ++ name :: names = dir ++ [name] ++ names := by simp
      have hrest : ∀ n ∈ next :: rest, isName n = true := fun n hn =>
        hnames n (List.mem_cons_of_mem _ hn)
      rw [hbelow] at hfree
      rw [place]
      cases hfound : fs.at? (dir ++ [name]) with
      | none =>
        have hat (o : Location) : (fs.insert dir name .directory).at? o =
            if o = dir ++ [name] then some .directory else fs.at? o :=
          at?_insert hdir hfound hname o
        have hmid {o : Location} (ho : o ≠ dir ++ [name]) :
            (fs.insert dir name .directory).at? o = fs.at? o := by rw [hat, if_neg ho]
        rw [if_pos hname]
        obtain ⟨fs', hplace, hput⟩ : ∃ fs',
            place (fs.insert dir name .directory) (dir ++ [name]) item
            (next :: rest) = some fs' ∧ Put (dir ++ [name]) (next :: rest) item
              (fs.insert dir name .directory) fs' := by
          apply ih (by simp) hrest
          · rw [hat, if_pos rfl]
          · intro above found hne _ _ habove
            -- below a directory that has just been made there is nothing
            rw [hmid (by simpa using hne),
              at?_eq_none_below hfound (List.prefix_append _ _)] at habove
            cases habove
          · rw [hmid (by simp)]
            exact hfree
        refine ⟨fs', hplace, hput.cons ?_ (insert_agreeOutside fs dir name .directory).cwd hmid⟩
        rw [hmid (by simp)]
        exact hdir
      | some found =>
        obtain rfl : found = .directory :=
          hway (by simp) (List.cons_prefix_cons.2 ⟨rfl, List.nil_prefix⟩) (by simp) hfound
        obtain ⟨fs', hplace, hput⟩ : ∃ fs',
          place fs (dir ++ [name]) item (next :: rest) = some fs' ∧
            Put (dir ++ [name]) (next :: rest) item fs fs' := by
          apply ih (by simp) hrest hfound
          · intro above found hne hpre hother habove
            rw [← hbelow] at habove
            exact hway (by simp) (List.cons_prefix_cons.2 ⟨rfl, hpre⟩)
              (by simpa using hother) habove
          · exact hfree
        exact ⟨fs', hplace, hput.cons hdir rfl fun _ => rfl⟩

end place

/-- Neither of two paths begins the other. -/
def Incomparable (path path' : Location) : Prop := ¬ path <+: path' ∧ ¬ path' <+: path

section fill
variable {fs₀ fs fs' : FileSystem} {dir path : Location} {item : Item}
  {items rest : List (Location × Item)}

theorem Filled.start (hdir : fs.at? dir = some .directory)
    (hempty : ∀ {names : Location}, names ≠ [] → fs.at? (dir ++ names) = none) :
    Filled dir [] fs fs := by
  refine ⟨AgreeOutside.refl dir fs, hdir, fun {names item} hne => ?_⟩
  rw [hempty hne]
  simp [Stands]

section stands
variable {names : Location} {found : Item}

theorem stands_end (hpaths : ∀ e ∈ items, Incomparable e.1 path) :
    Stands (items ++ [(path, item)]) path found ↔ found = item := by
  constructor
  · rintro (hmem | ⟨-, e, he, hway, hother⟩)
    · rcases List.mem_append.1 hmem with hmem | hmem
      · exact absurd List.prefix_rfl (hpaths _ hmem).1
      · cases List.mem_singleton.1 hmem
        rfl
    · rcases List.mem_append.1 he with he | he
      · exact absurd hway (hpaths e he).2
      · rw [List.mem_singleton.1 he] at hother
        exact absurd rfl hother
  · rintro rfl
    exact Or.inl (by simp)

theorem stands_onTheWay (hpaths : ∀ e ∈ items, Incomparable e.1 path) (hpre : names <+: path)
    (hne : names ≠ path) :
    Stands (items ++ [(path, item)]) names found ↔ found = .directory := by
  constructor
  · rintro (hmem | ⟨rfl, -⟩)
    · rcases List.mem_append.1 hmem with hmem | hmem
      · exact absurd hpre (hpaths _ hmem).1
      · cases List.mem_singleton.1 hmem
        exact absurd rfl hne
    · rfl
  · rintro rfl
    exact Or.inr ⟨rfl, (path, item), by simp, hpre, hne⟩

theorem stands_elsewhere (hpre : ¬ names <+: path) :
    Stands (items ++ [(path, item)]) names found ↔ Stands items names found := by
  have hother : (names, found) ≠ (path, item) := by
    intro heq
    cases heq
    exact hpre List.prefix_rfl
  rw [Stands, Stands]
  simp only [List.mem_append, List.mem_singleton, hother, or_false]
  refine or_congr_right (and_congr_right fun _ => ?_)
  constructor
  · rintro ⟨e, he | rfl, hway⟩
    · exact ⟨e, he, hway⟩
    · exact absurd hway.1 hpre
  · rintro ⟨e, he, hway⟩
    exact ⟨e, Or.inl he, hway⟩

end stands

/-- What is put in where no path begins its path, or is begun by it, is put in beside the others. -/
theorem Filled.put (h : Filled dir items fs₀ fs) (hpath : path ≠ [])
    (hpaths : ∀ e ∈ items, Incomparable e.1 path) (hput : Put dir path item fs fs') :
    Filled dir (items ++ [(path, item)]) fs₀ fs' := by
  have hagree : AgreeOutside dir fs fs' := by
    refine ⟨hput.cwd, fun {o} ho => hput.same fun above _ _ heq => ho ?_⟩
    rw [heq]
    exact List.prefix_append _ _
  constructor
  · exact h.agree.trans hagree
  · have hdir := hput.onTheWay List.nil_prefix (Ne.symm hpath)
    rwa [List.append_nil] at hdir
  · intro names found hne
    by_cases hpre : names <+: path
    · by_cases heq : names = path
      · subst heq
        rw [hput.there, stands_end hpaths, Option.some_inj, eq_comm]
      · rw [hput.onTheWay hpre heq, stands_onTheWay hpaths hpre heq, Option.some_inj, eq_comm]
    · have hsame : fs'.at? (dir ++ names) = fs.at? (dir ++ names) := by
        refine hput.same fun above _ habove heq => hpre ?_
        rw [List.append_cancel_left heq]
        exact habove
      rw [hsame, h.at? hne, stands_elsewhere hpre]

theorem Filled.exists_place (h : Filled dir items fs₀ fs) (hpath : path ≠ [])
    (hnames : ∀ n ∈ path, isName n = true) (hpaths : ∀ e ∈ items, Incomparable e.1 path) :
    ∃ fs', place fs dir item path = some fs' ∧ Filled dir (items ++ [(path, item)]) fs₀ fs' := by
  obtain ⟨fs', hplace, hput⟩ : ∃ fs', place fs dir item path = some fs' ∧
      Put dir path item fs fs' := by
    apply exists_put hpath hnames h.isDirectory
    · intro above found hne hpre _ habove
      rcases (h.at? hne).1 habove with hmem | ⟨rfl, -⟩
      · exact absurd hpre (hpaths _ hmem).1
      · rfl
    · cases hfound : fs.at? (dir ++ path) with
      | none => rfl
      | some found =>
        rcases (h.at? hpath).1 hfound with hmem | ⟨-, e, he, hway, -⟩
        · exact absurd List.prefix_rfl (hpaths _ hmem).1
        · exact absurd hway (hpaths e he).2
  exact ⟨fs', hplace, h.put hpath hpaths hput⟩

/-- Items of which no path begins another can all be put into an empty directory. -/
theorem Filled.exists_placeAll (h : Filled dir items fs₀ fs)
    (hrest : ∀ e ∈ rest, e.1 ≠ [] ∧ ∀ n ∈ e.1, isName n = true)
    (hpaths : (items ++ rest).Pairwise fun a b => Incomparable a.1 b.1) :
    ∃ fs', placeAll dir fs rest = some fs' ∧ Filled dir (items ++ rest) fs₀ fs' := by
  induction rest generalizing items fs with
  | nil => exact ⟨fs, rfl, by rwa [List.append_nil]⟩
  | cons e rest ih =>
    obtain ⟨path, item⟩ := e
    obtain ⟨hpath, hnames⟩ := hrest (path, item) List.mem_cons_self
    have hbefore := (List.pairwise_append.1 hpaths).2.2
    obtain ⟨fs₁, hplace, hfilled⟩ : ∃ fs₁, place fs dir item path = some fs₁ ∧
        Filled dir (items ++ [(path, item)]) fs₀ fs₁ :=
      h.exists_place hpath hnames fun e he => hbefore e he (path, item) List.mem_cons_self
    rw [List.append_cons] at hpaths ⊢
    obtain ⟨fs', hall, hfilled'⟩ :=
      ih hfilled (fun e he => hrest e (List.mem_cons_of_mem _ he)) hpaths
    refine ⟨fs', ?_, hfilled'⟩
    rw [placeAll, hplace]
    exact hall

end fill

end SparseTransfer.FileSystem
