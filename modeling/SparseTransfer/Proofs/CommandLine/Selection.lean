import SparseTransfer.Proofs.CommandLine.Switches

/- Options on a command line, each given in one of its spellings. What is read depends on the
options that are selected and not on how or in which order they are given, and no option is given
twice. -/
namespace SparseTransfer
open CommandLine

/-- The argument that gives an option with a value, or is followed by the value. -/
def ValueOption.flag (o : ValueOption) : Bytes := Utf8.bytes ("--" ++ o.name)

/-- An option, with the bytes given for it if it has a value. -/
inductive Given where
  | switch (s : Switch)
  | value (o : ValueOption) (bytes : Bytes)
  deriving Repr, DecidableEq

namespace Given

def option : Given → CliOption
  | .switch s => .switch s
  | .value o _ => .value o

/-- What may be given: texts of any kind, a path that is not empty, a format by its name. -/
def Admissible : Given → Prop
  | .switch _ => True
  | .value (.text _) bytes => ∃ text : String, bytes = Utf8.bytes text
  | .value .config bytes => bytes ≠ []
  | .value .logFormat bytes => ∃ f : LogFormat, bytes = Utf8.bytes f.name

/-- How an option is given by its name: a value stands behind an equals sign, or is the next
argument if it does not begin like an option. -/
inductive Spelled : Given → List Bytes → Prop
  | switch (s : Switch) : Spelled (.switch s) [s.flag]
  | joined (o : ValueOption) (bytes : Bytes) :
      Spelled (.value o bytes) [o.flag ++ equalsSign :: bytes]
  | apart (o : ValueOption) {bytes : Bytes} (h : bytes.head? ≠ some hyphen) :
      Spelled (.value o bytes) [o.flag, bytes]

/-- The letter that stands for a switch. -/
def letter : UInt8 := 0x76

/-- Arguments that give options one after the other. The one switch that has a letter is given once
for each letter behind a hyphen. -/
inductive Writes : List Given → List Bytes → Prop
  | nil : Writes [] []
  | cons {g : Given} {gs : List Given} {words args : List Bytes} (h : g.Spelled words)
      (hrest : Writes gs args) : Writes (g :: gs) (words ++ args)
  | letters (n : Nat) {gs : List Given} {args : List Bytes} (hrest : Writes gs args) :
      Writes (List.replicate (n + 1) (.switch .verbose) ++ gs)
        ((hyphen :: List.replicate (n + 1) letter) :: args)

/-- Takes an option into a command line. -/
def take (g : Given) (c : CommandLine) : Except UsageError CommandLine :=
  match g with
  | .switch s => c.takeSwitch s
  | .value o bytes => c.takeValue o bytes

end Given

namespace CommandLine

section reading
variable {g : Given} {gs : List Given} {words args : List Bytes}

theorem argumentOf_valueFlag (o : ValueOption) :
    Argument.of o.flag = .long (Utf8.bytes o.name) none := by
  cases o with
  | text t => cases t <;> rfl
  | config | logFormat => rfl

theorem argumentOf_joined (o : ValueOption) (bytes : Bytes) :
    Argument.of (o.flag ++ equalsSign :: bytes) = .long (Utf8.bytes o.name) (some bytes) := by
  cases o with
  | text t => cases t <;> rfl
  | config | logFormat => rfl

theorem named_valueOption (o : ValueOption) :
    ((Utf8.decode? (Utf8.bytes o.name)).bind fun n => CliOption.named (String.ofList n)) =
      some (.value o) := by
  cases o with
  | text t => cases t <;> rfl
  | config | logFormat => rfl

theorem argumentOf_word {bytes : Bytes} (h : bytes.head? ≠ some hyphen) :
    Argument.of bytes = .word := by
  cases bytes with
  | nil => rfl
  | cons b rest =>
    have hb : b ≠ hyphen := fun heq => h (congrArg some heq)
    unfold Argument.of
    split
    · next heq => exact absurd (List.cons.inj heq).1 hb
    · next heq => exact absurd (List.cons.inj heq).1 hb
    · rfl

theorem readFrom_joined (o : ValueOption) (bytes : Bytes) (c : CommandLine)
    (pending : Option Pending) (rest : List Bytes) :
    readFrom c pending ((o.flag ++ equalsSign :: bytes) :: rest) =
      (c.settle pending >>= (·.takeValue o bytes)) >>= (readFrom · none rest) := by
  rw [readFrom_cons (by rw [argumentOf_joined]; exact Argument.noConfusion), reading.eq_def,
    argumentOf_joined]
  simp only [named_valueOption]

theorem readFrom_valueFlag (o : ValueOption) (c : CommandLine) (pending : Option Pending)
    (rest : List Bytes) : readFrom c pending (o.flag :: rest) =
      c.settle pending >>= (readFrom · (some ⟨o, none⟩) rest) := by
  rw [readFrom_cons (by rw [argumentOf_valueFlag]; exact Argument.noConfusion), reading.eq_def,
    argumentOf_valueFlag]
  simp only [named_valueOption]

theorem readFrom_word (o : ValueOption) {bytes : Bytes} (h : bytes.head? ≠ some hyphen)
    (c : CommandLine) (rest : List Bytes) : readFrom c (some ⟨o, none⟩) (bytes :: rest) =
      readFrom c (some ⟨o, some bytes⟩) rest := by
  rw [readFrom_cons (by rw [argumentOf_word h]; exact Argument.noConfusion), reading.eq_def,
    argumentOf_word h]
  rfl

theorem pieces_letters (n : Nat) :
    Utf8.pieces (List.replicate n Given.letter) = List.replicate n (.char 'v') := by
  have hbytes : List.replicate n Given.letter = Utf8.encode (List.replicate n 'v') := by
    rw [Utf8.encode, List.flatMap_replicate]
    exact List.flatten_replicate_singleton.symm
  rw [hbytes, Utf8.pieces_encode, List.map_replicate]

/-- Letters give their switch one after the other. -/
theorem takeLetters_replicate (n : Nat) (c : CommandLine) :
    c.takeLetters (List.replicate n (.char 'v')) =
      (List.replicate n (Given.switch .verbose)).foldlM (fun c g => g.take c) c := by
  induction n generalizing c with
  | zero => rfl
  | succ n ih =>
    rw [List.replicate_succ, List.replicate_succ, takeLetters_cons, List.foldlM_cons]
    exact congrArg (_ >>= ·) (funext ih)

theorem readFrom_letters (n : Nat) (c : CommandLine) (pending : Option Pending)
    (rest : List Bytes) :
    readFrom c pending ((hyphen :: List.replicate (n + 1) Given.letter) :: rest) =
      (c.settle pending >>= fun c =>
        (List.replicate (n + 1) (Given.switch .verbose)).foldlM (fun c g => g.take c) c) >>=
        (readFrom · none rest) := by
  have hform : Argument.of (hyphen :: List.replicate (n + 1) Given.letter) =
      .short (List.replicate (n + 1) Given.letter) := rfl
  have hfirst : firstLettered (List.replicate (n + 1) (.char 'v')) = some (.switch .verbose) := rfl
  rw [readFrom_cons (by rw [hform]; exact Argument.noConfusion), reading.eq_def, hform]
  simp only [pieces_letters, hfirst, takeLetters_replicate]

/-- What waits for its value to be taken is settled before another option is read. -/
theorem readFrom_settle (h : Given.Writes gs args) (c : CommandLine) (pending : Option Pending) :
    readFrom c pending args = c.settle pending >>= (readFrom · none args) := by
  cases h with
  | nil =>
    change c.settle pending = _
    cases c.settle pending <;> rfl
  | letters n hrest =>
    simp only [readFrom_letters]
    cases c.settle pending <;> rfl
  | cons hg hrest =>
    cases hg with
    | switch s =>
      simp only [List.singleton_append, readFrom_flag]
      cases c.settle pending <;> rfl
    | joined o bytes =>
      simp only [List.singleton_append, readFrom_joined]
      cases c.settle pending <;> rfl
    | apart o hbytes =>
      simp only [List.cons_append, readFrom_valueFlag]
      cases c.settle pending <;> rfl

theorem readFrom_given (hg : g.Spelled words) (hrest : Given.Writes gs args) (c : CommandLine) :
    readFrom c none (words ++ args) = g.take c >>= (readFrom · none args) := by
  cases hg with
  | switch s => exact readFrom_flag s c none args
  | joined o bytes => exact readFrom_joined o bytes c none args
  | apart o hbytes =>
    rw [List.cons_append, List.singleton_append, readFrom_valueFlag]
    exact (readFrom_word o hbytes c args).trans (readFrom_settle hrest c _)

/-- Options are taken in the order in which they are given, whatever their spelling. -/
theorem readFrom_writes (h : Given.Writes gs args) (c : CommandLine) :
    readFrom c none args = gs.foldlM (fun c g => g.take c) c := by
  induction h generalizing c with
  | nil => rfl
  | cons hg hrest ih =>
    rw [readFrom_given hg hrest, List.foldlM_cons]
    exact congrArg (_ >>= ·) (funext ih)
  | letters n hrest ih =>
    rw [readFrom_letters, List.foldlM_append]
    exact congrArg (_ >>= ·) (funext ih)

end reading

/-- A command line asks for what has been given, and for nothing else. -/
structure Holds (gs : List Given) (c : CommandLine) : Prop where
  admissible : ∀ g ∈ gs, g.Admissible
  switch : ∀ s, c.switch s = true ↔ .switch s ∈ gs
  text : ∀ o v, c.text o = some v ↔ .value (.text o) (Utf8.bytes v) ∈ gs
  config : ∀ path, c.config = some path ↔ .value .config path ∈ gs
  logFormat : ∀ f, c.logFormat = some f ↔ .value .logFormat (Utf8.bytes f.name) ∈ gs

section holds
variable {g : Given} {gs gs' done : List Given} {c c' : CommandLine}

theorem bytes_name_inj {f f' : LogFormat} : Utf8.bytes f.name = Utf8.bytes f'.name ↔ f = f' := by
  cases f <;> cases f' <;> decide

theorem holds_nil : Holds [] {} where
  admissible := by simp
  switch _ := by simp
  text _ _ := by simp
  config _ := by simp
  logFormat _ := by simp

theorem Holds.of_perm (h : Holds gs c) (hperm : gs.Perm gs') : Holds gs' c where
  admissible g hg := h.admissible g (hperm.mem_iff.2 hg)
  switch s := (h.switch s).trans hperm.mem_iff
  text o v := (h.text o v).trans hperm.mem_iff
  config path := (h.config path).trans hperm.mem_iff
  logFormat f := (h.logFormat f).trans hperm.mem_iff

theorem Holds.unique (h : Holds gs c) (h' : Holds gs c') : c = c' := by
  refine ext_text (fun o => Option.ext fun v => (h.text o v).trans (h'.text o v).symm)
    (Option.ext fun path => (h.config path).trans (h'.config path).symm)
    (Option.ext fun f => (h.logFormat f).trans (h'.logFormat f).symm) (funext fun s => ?_)
  rw [Bool.eq_iff_iff, h.switch, h'.switch]

theorem Holds.has_iff (h : Holds gs c) (o : CliOption) :
    c.has o = true ↔ o ∈ gs.map Given.option := by
  rw [List.mem_map]
  constructor
  · intro hhas
    cases o with
    | switch s => exact ⟨_, (h.switch s).1 hhas, rfl⟩
    | value o =>
      cases o with
      | text o =>
        obtain ⟨v, hv⟩ := Option.isSome_iff_exists.1 hhas
        exact ⟨_, (h.text o v).1 hv, rfl⟩
      | config =>
        obtain ⟨path, hpath⟩ := Option.isSome_iff_exists.1 hhas
        exact ⟨_, (h.config path).1 hpath, rfl⟩
      | logFormat =>
        obtain ⟨f, hf⟩ := Option.isSome_iff_exists.1 hhas
        exact ⟨_, (h.logFormat f).1 hf, rfl⟩
    | help | version => cases hhas
  · rintro ⟨g, hg, rfl⟩
    have hadmissible := h.admissible g hg
    cases g with
    | switch s => exact (h.switch s).2 hg
    | value o bytes =>
      cases o with
      | text o =>
        obtain ⟨v, rfl⟩ := hadmissible
        exact Option.isSome_iff_exists.2 ⟨v, (h.text o v).2 hg⟩
      | config => exact Option.isSome_iff_exists.2 ⟨bytes, (h.config bytes).2 hg⟩
      | logFormat =>
        obtain ⟨f, rfl⟩ := hadmissible
        exact Option.isSome_iff_exists.2 ⟨f, (h.logFormat f).2 hg⟩

theorem take_of_has (h : c.has g.option = true) : g.take c = .error (.repeated g.option) := by
  cases g with
  | switch s => exact if_pos h
  | value o bytes => exact if_pos h

/-- A value that may not be given is refused. -/
theorem take_of_not_admissible (h : c.has g.option = false) (hg : ¬ g.Admissible) :
    ∃ e, g.take c = .error e := by
  cases g with
  | switch s => exact absurd trivial hg
  | value o bytes =>
    have hhas : c.has (.value o) = false := h
    rw [Given.take, takeValue.eq_def, hhas]
    cases o with
    | text o =>
      cases hdecode : Utf8.decode? bytes with
      | none => exact ⟨_, rfl⟩
      | some chars =>
        refine absurd ⟨String.ofList chars, ?_⟩ hg
        rw [Utf8.bytes, String.toList_ofList]
        exact Utf8.encode_of_decode? hdecode
    | config =>
      cases bytes with
      | nil => exact ⟨_, rfl⟩
      | cons b rest => exact absurd (List.cons_ne_nil b rest) hg
    | logFormat =>
      cases hempty : bytes.isEmpty with
      | true => exact ⟨_, rfl⟩
      | false =>
        cases hfind : [LogFormat.compact, .json].find? fun f => Utf8.bytes f.name == bytes with
        | none => exact ⟨_, rfl⟩
        | some f =>
          have hname := List.find?_some hfind
          exact absurd ⟨f, (beq_iff_eq.1 hname).symm⟩ hg

/-- An option that is given for the first time is taken as it is given. -/
theorem Holds.take (h : Holds gs c) (hnew : c.has g.option = false) (hg : g.Admissible) :
    ∃ d, g.take c = .ok d ∧ Holds (g :: gs) d := by
  have hadmissible : ∀ x ∈ g :: gs, x.Admissible := List.forall_mem_cons.2 ⟨hg, h.admissible⟩
  cases g with
  | switch s =>
    have hoff : c.switch s = false := hnew
    refine ⟨c.setSwitch s, if_neg (by simp [hoff]), hadmissible, fun t => ?_, ?_, ?_, ?_⟩
    · by_cases hts : t = s
      · simp [hts, setSwitch]
      · simp [hts, setSwitch, h.switch]
    · simp [setSwitch, h.text]
    · simp [setSwitch, h.config]
    · simp [setSwitch, h.logFormat]
  | value o bytes =>
    have hhas : c.has (.value o) = false := hnew
    rw [Given.take, takeValue.eq_def, hhas]
    cases o with
    | text o =>
      obtain ⟨v, rfl⟩ := hg
      have hnone : c.text o = none := by simpa [has] using hhas
      refine ⟨c.setText o v, ?_, hadmissible, ?_, fun p w => ?_, ?_, ?_⟩
      · rw [Utf8.bytes, Utf8.decode?_encode]
        change Except.ok (c.setText o (String.ofList v.toList)) = _
        rw [String.ofList_toList]
      · simp [setText, h.switch]
      · have hout : .value (.text o) (Utf8.bytes w) ∉ gs := fun hmem => by
          rw [← h.text, hnone] at hmem
          cases hmem
        by_cases hpo : p = o
        · subst hpo
          simp [setText, hout, Utf8.bytes_inj, eq_comm]
        · simp [setText, hpo, h.text]
      · simp [setText, h.config]
      · simp [setText, h.logFormat]
    | config =>
      have hnone : c.config = none := by simpa [has] using hhas
      refine ⟨{ c with config := some bytes }, ?_, hadmissible, ?_, ?_, fun path => ?_, ?_⟩
      · cases bytes with
        | nil => exact absurd rfl hg
        | cons b rest => rfl
      · simp [h.switch]
      · simp [h.text]
      · have hout : .value .config path ∉ gs := fun hmem => by
          rw [← h.config, hnone] at hmem
          cases hmem
        simp [hout, eq_comm]
      · simp [h.logFormat]
    | logFormat =>
      obtain ⟨f, rfl⟩ := hg
      have hnone : c.logFormat = none := by simpa [has] using hhas
      refine ⟨{ c with logFormat := some f }, ?_, hadmissible, ?_, ?_, ?_, fun f' => ?_⟩
      · cases f <;> rfl
      · simp [h.switch]
      · simp [h.text]
      · simp [h.config]
      · have hout : .value .logFormat (Utf8.bytes f'.name) ∉ gs := fun hmem => by
          rw [← h.logFormat, hnone] at hmem
          cases hmem
        simp [hout, bytes_name_inj, eq_comm]

/-- Options that are given once each are all taken. -/
theorem Holds.foldlM_ok (h : Holds done c) (hgs : ∀ g ∈ gs, g.Admissible)
    (hdistinct : ((gs ++ done).map Given.option).Nodup) :
    ∃ d, gs.foldlM (fun c g => g.take c) c = .ok d ∧ Holds (gs ++ done) d := by
  induction gs generalizing done c with
  | nil => exact ⟨c, rfl, h⟩
  | cons g gs ih =>
    obtain ⟨hg, hrest⟩ := List.forall_mem_cons.1 hgs
    have hnew : c.has g.option = false := by
      rw [Bool.eq_false_iff, Ne, h.has_iff]
      rw [List.cons_append, List.map_cons, List.map_append] at hdistinct
      exact fun hmem => (List.nodup_cons.1 hdistinct).1 (List.mem_append_right _ hmem)
    obtain ⟨d, htake, hd⟩ := h.take hnew hg
    have hmiddle : (gs ++ g :: done).Perm (g :: gs ++ done) := List.perm_middle
    obtain ⟨d', hfold, hd'⟩ := ih hd hrest ((hmiddle.map _).nodup_iff.2 hdistinct)
    refine ⟨d', ?_, hd'.of_perm hmiddle⟩
    rw [List.foldlM_cons, htake, ok_bind, hfold]

/-- An option that is given a second time is refused, if no value has been before. -/
theorem Holds.foldlM_error (h : Holds done c) (hdone : (done.map Given.option).Nodup)
    (htwice : ¬ ((gs ++ done).map Given.option).Nodup) :
    ∃ e, gs.foldlM (fun c g => g.take c) c = .error e ∧ ((∀ g ∈ gs, g.Admissible) →
      ∃ o, 2 ≤ ((gs ++ done).map Given.option).count o ∧ e = .repeated o) := by
  induction gs generalizing done c with
  | nil => exact absurd hdone htwice
  | cons g gs ih =>
    rw [List.foldlM_cons]
    cases hhas : c.has g.option with
    | true =>
      refine ⟨_, by rw [take_of_has hhas]; rfl, fun _ => ⟨g.option, ?_, rfl⟩⟩
      have hbefore : 0 < (done.map Given.option).count g.option :=
        List.count_pos_iff.2 ((h.has_iff _).1 hhas)
      rw [List.cons_append, List.map_cons, List.count_cons_self, List.map_append, List.count_append]
      omega
    | false =>
      by_cases hg : g.Admissible
      · obtain ⟨d, htake, hd⟩ := h.take hhas hg
        have hmiddle := (@List.perm_middle _ g gs done).map Given.option
        have hnew : g.option ∉ done.map Given.option := fun hmem => by
          rw [(h.has_iff _).2 hmem] at hhas
          cases hhas
        obtain ⟨e, herror, hrepeated⟩ := ih hd (List.nodup_cons.2 ⟨hnew, hdone⟩)
          fun hnodup => htwice (hmiddle.nodup_iff.1 hnodup)
        refine ⟨e, by rw [htake, ok_bind, herror], fun hgs => ?_⟩
        obtain ⟨o, hcount, he⟩ := hrepeated (List.forall_mem_cons.1 hgs).2
        rw [hmiddle.count_eq] at hcount
        exact ⟨o, hcount, he⟩
      · obtain ⟨e, he⟩ := take_of_not_admissible hhas hg
        exact ⟨e, by rw [he]; rfl, fun hgs => absurd (hgs g List.mem_cons_self) hg⟩

end holds
/-- An environment in which each of the two variables is absent or has a text. -/
def Environment.ofTexts (accessKey secretKey : Option String) : Environment where
  accessKey := accessKey.map Utf8.bytes
  secretKey := secretKey.map Utf8.bytes

/-- What is selected is on the command line as it is given, and of all else only the two keys, if
the environment has them. -/
structure Carries (accessKey secretKey : Option String) (selection : List Given) (c : CommandLine) :
    Prop where
  switch : ∀ s, c.switch s = true ↔ .switch s ∈ selection
  text : ∀ o v, .value (.text o) (Utf8.bytes v) ∈ selection → c.text o = some v
  accessKey : .value (.text .accessKey) ∉ selection.map Given.option → c.text .accessKey = accessKey
  secretKey : .value (.text .secretKey) ∉ selection.map Given.option → c.text .secretKey = secretKey
  noText : ∀ o, o ≠ .accessKey → o ≠ .secretKey →
    .value (.text o) ∉ selection.map Given.option → c.text o = none
  config : ∀ path, c.config = some path ↔ .value .config path ∈ selection
  format : ∀ f, .value .logFormat (Utf8.bytes f.name) ∈ selection → c.format = f
  compact : .value .logFormat ∉ selection.map Given.option → c.format = .compact

section environment
variable {accessKey secretKey : Option String} {gs : List Given} {c : CommandLine}

theorem secret?_ofTexts (o : TextOption) {bytes : Bytes}
    (h : (Environment.ofTexts accessKey secretKey).secret? o = some bytes) :
    ∃ v : String, bytes = Utf8.bytes v := by
  cases o with
  | accessKey | secretKey =>
    obtain ⟨v, -, hv⟩ := Option.map_eq_some_iff.1 h
    exact ⟨v, hv.symm⟩
  | _ => cases h

theorem bind_bytes (text : Option String) :
    ((text.map Utf8.bytes).bind fun b => (Utf8.decode? b).map String.ofList) = text := by
  cases text with
  | none => rfl
  | some v =>
    rw [Option.map_some, Option.bind_some, Utf8.bytes, Utf8.decode?_encode, Option.map_some,
      String.ofList_toList]

theorem fits_ofTexts (c : CommandLine) : c.Fits (.ofTexts accessKey secretKey) := by
  intro o bytes h
  obtain ⟨v, rfl⟩ := secret?_ofTexts o h
  exact Or.inr (by rw [Utf8.bytes, Utf8.decode?_encode, Option.isSome_some])

theorem text_filled (c : CommandLine) (env : Environment) (o : TextOption) :
    (c.filled env).text o = (c.text o).or (env.text? o) := rfl

theorem Holds.carries (h : Holds gs c) :
    Carries accessKey secretKey gs (c.filled (.ofTexts accessKey secretKey)) := by
  have houtside {o : TextOption} (ho : .value (.text o) ∉ gs.map Given.option) :
      (c.filled (.ofTexts accessKey secretKey)).text o =
        (Environment.ofTexts accessKey secretKey).text? o := by
    have hnone : c.text o = none := by
      rw [← h.has_iff] at ho
      simpa [has] using ho
    rw [text_filled, hnone, Option.none_or]
  refine ⟨h.switch, fun o v hv => ?_, fun ho => ?_, fun ho => ?_, fun o ha hs ho => ?_, h.config,
    fun f hf => ?_, fun ho => ?_⟩
  · rw [text_filled, (h.text o v).2 hv, Option.some_or]
  · exact (houtside ho).trans (bind_bytes accessKey)
  · exact (houtside ho).trans (bind_bytes secretKey)
  · rw [houtside ho]
    cases o with
    | accessKey => exact absurd rfl ha
    | secretKey => exact absurd rfl hs
    | _ => rfl
  · rw [filled, format, (h.logFormat f).2 hf, Option.getD_some]
  · have hnone : c.logFormat = none := by
      rw [← h.has_iff] at ho
      simpa [has] using ho
    rw [filled, format, hnone, Option.getD_none]

theorem parse_of_error {env : Environment} {args : List Bytes} {e : UsageError}
    (h : readFrom {} none args = .error e) : parse env args = .error e := by
  rw [parse, h]
  rfl

end environment

/-- Options that are selected once each, with values that may be given, come to one command line in
whatever order and spelling they are given, and it carries what is selected. Arguments that give an
option twice are refused, and for that reason if nothing else is wrong with them. -/
theorem selection_decides (accessKey secretKey : Option String) {selection : List Given}
    (hadmissible : ∀ g ∈ selection, g.Admissible)
    (hdistinct : (selection.map Given.option).Nodup) :
    (∃ c, Carries accessKey secretKey selection c ∧ ∀ gs args, gs.Perm selection →
      Given.Writes gs args → parse (.ofTexts accessKey secretKey) args = .ok c) ∧
    ∀ gs args, Given.Writes gs args → ¬ (gs.map Given.option).Nodup →
      ∃ e, parse (.ofTexts accessKey secretKey) args = .error e ∧ ((∀ g ∈ gs, g.Admissible) →
        ∃ o, 2 ≤ (gs.map Given.option).count o ∧ e = .repeated o) := by
  have hread {gs : List Given} (hperm : gs.Perm selection) :
      ∃ d, gs.foldlM (fun c g => g.take c) {} = .ok d ∧ Holds selection d := by
    have hgs : ((gs ++ []).map Given.option).Nodup := by
      rw [List.append_nil]
      exact (hperm.map _).nodup_iff.2 hdistinct
    obtain ⟨d, hfold, hd⟩ :=
      holds_nil.foldlM_ok (fun g hg => hadmissible g (hperm.mem_iff.1 hg)) hgs
    rw [List.append_nil] at hd
    exact ⟨d, hfold, hd.of_perm hperm⟩
  constructor
  · obtain ⟨d, -, hd⟩ := hread (.refl selection)
    refine ⟨_, hd.carries,
      fun gs args hperm hargs => parse_eq_ok_iff.2 ⟨d, ?_, fits_ofTexts d, rfl⟩⟩
    obtain ⟨d', hfold, hd'⟩ := hread hperm
    rw [readFrom_writes hargs, hfold, hd'.unique hd]
  · intro gs args hargs htwice
    rw [← List.append_nil gs] at htwice
    obtain ⟨e, herror, hrepeated⟩ := holds_nil.foldlM_error List.nodup_nil htwice
    rw [List.append_nil] at hrepeated
    exact ⟨e, parse_of_error ((readFrom_writes hargs {}).trans herror), hrepeated⟩

/-- Two orders and two spellings of the same options, with a value that holds an equals sign. -/
theorem selection_decides_reordered :
    ∃ c, Carries none (some "env") [.switch .secure, .value (.text .branch) (Utf8.bytes "a=b")] c ∧
      parse (.ofTexts none (some "env"))
        [ValueOption.flag (.text .branch), Utf8.bytes "a=b", Switch.flag .secure] = .ok c ∧
      parse (.ofTexts none (some "env"))
        [Switch.flag .secure, ValueOption.flag (.text .branch) ++ equalsSign :: Utf8.bytes "a=b"] =
          .ok c := by
  have hadmissible : ∀ g ∈ [Given.switch .secure, .value (.text .branch) (Utf8.bytes "a=b")],
      g.Admissible := by
    simp only [List.forall_mem_cons]
    exact ⟨trivial, ⟨_, rfl⟩, by simp⟩
  obtain ⟨⟨c, hc, hparse⟩, -⟩ := selection_decides none (some "env") hadmissible (by decide)
  refine ⟨c, hc, hparse _ _ (.swap _ _ _) ?_, hparse _ _ (.refl _) ?_⟩
  · exact .cons (.apart (.text .branch) (by decide)) (.cons (.switch .secure) .nil)
  · exact .cons (.switch .secure) (.cons (.joined (.text .branch) _) .nil)

end CommandLine
end SparseTransfer
