import SparseTransfer.CommandLine
import SparseTransfer.Proofs.Action

/- What a command line comes to: what its arguments give, and secrets of the environment where they
give none. -/
namespace SparseTransfer.CommandLine

theorem ext_text {c c' : CommandLine} (htext : ∀ o, c.text o = c'.text o)
    (hconfig : c.config = c'.config) (hlogFormat : c.logFormat = c'.logFormat)
    (hswitch : c.switch = c'.switch) : c = c' := by
  obtain ⟨text, config, logFormat, switch⟩ := c
  obtain ⟨text', config', logFormat', switch'⟩ := c'
  obtain rfl : text = text' := funext htext
  cases hconfig
  cases hlogFormat
  cases hswitch
  rfl

/-- The bytes that the environment has for an option. -/
def Environment.secret? (env : Environment) : TextOption → Option Bytes
  | .accessKey => env.accessKey
  | .secretKey => env.secretKey
  | _ => none

/-- The text that the environment has for an option. -/
def Environment.text? (env : Environment) (o : TextOption) : Option String :=
  (env.secret? o).bind fun value => (Utf8.decode? value).map String.ofList

/-- The options of a command line; an environment stands in for those that are not given. -/
def filled (c : CommandLine) (env : Environment) : CommandLine :=
  { c with text := fun o => (c.text o).or (env.text? o) }

/-- Where an option is not given, the environment has text or nothing. -/
def Fits (c : CommandLine) (env : Environment) : Prop :=
  ∀ o value, env.secret? o = some value →
    (c.text o).isSome = true ∨ (Utf8.decode? value).isSome = true

/-- An option that is given is left alone, and a value that is no text is refused for any other. -/
theorem takeDefault_eq_ok {c c' : CommandLine} {o : TextOption} {value : Option Bytes}
    (h : c.takeDefault o value = .ok c') :
    (∀ b, value = some b → (c.text o).isSome = true ∨ (Utf8.decode? b).isSome = true) ∧
      c'.config = c.config ∧ c'.logFormat = c.logFormat ∧ c'.switch = c.switch ∧
      ∀ p, c'.text p = if p = o then
        (c.text p).or (value.bind fun b => (Utf8.decode? b).map String.ofList) else c.text p := by
  cases value with
  | none =>
    cases h
    simp
  | some b =>
    rw [takeDefault] at h
    cases htext : c.text o with
    | some v =>
      rw [htext] at h
      cases h
      refine ⟨by simp, rfl, rfl, rfl, fun p => ?_⟩
      split
      · next hp => rw [hp, htext, Option.some_or]
      · rfl
    | none =>
      rw [htext, Option.isSome_none, if_neg (by simp), takeValue, has, htext, Option.isSome_none,
        if_neg (by simp)] at h
      cases hdecode : Utf8.decode? b with
      | none =>
        rw [hdecode] at h
        cases h
      | some chars =>
        rw [hdecode] at h
        cases h
        refine ⟨by simp [hdecode], rfl, rfl, rfl, fun p => ?_⟩
        simp only [setText]
        split
        · next hp => rw [hp, htext, Option.none_or, Option.bind_some, hdecode, Option.map_some]
        · rfl

theorem takeDefault_isOk {c : CommandLine} {o : TextOption} {value : Option Bytes}
    (h : ∀ b, value = some b → (c.text o).isSome = true ∨ (Utf8.decode? b).isSome = true) :
    ∃ c', c.takeDefault o value = .ok c' := by
  cases value with
  | none => exact ⟨c, rfl⟩
  | some b =>
    rw [takeDefault]
    cases htext : c.text o with
    | some v => exact ⟨c, rfl⟩
    | none =>
      obtain ⟨chars, hchars⟩ :=
        Option.isSome_iff_exists.1 ((h b rfl).resolve_left (by simp [htext]))
      refine ⟨c.setText o (String.ofList chars), ?_⟩
      simp only [Option.isSome_none, takeValue, has, htext, hchars]
      rfl

theorem text_secretKey_of_takeDefault {c c' : CommandLine} {value : Option Bytes}
    (h : c.takeDefault .accessKey value = .ok c') : c'.text .secretKey = c.text .secretKey := by
  obtain ⟨-, -, -, -, htext⟩ := takeDefault_eq_ok h
  exact (htext .secretKey).trans (if_neg (by decide))

theorem filled_of_takeDefault {env : Environment} {c c₁ c₂ : CommandLine}
    (h₁ : c.takeDefault .accessKey env.accessKey = .ok c₁)
    (h₂ : c₁.takeDefault .secretKey env.secretKey = .ok c₂) : c.Fits env ∧ c₂ = c.filled env := by
  have hsecret := text_secretKey_of_takeDefault h₁
  obtain ⟨hfits₁, hconfig₁, hformat₁, hswitch₁, htext₁⟩ := takeDefault_eq_ok h₁
  obtain ⟨hfits₂, hconfig₂, hformat₂, hswitch₂, htext₂⟩ := takeDefault_eq_ok h₂
  constructor
  · intro o value hvalue
    cases o with
    | accessKey => exact hfits₁ value hvalue
    | secretKey =>
      rw [← hsecret]
      exact hfits₂ value hvalue
    | _ => cases hvalue
  · refine ext_text (fun o => ?_) (hconfig₂.trans hconfig₁) (hformat₂.trans hformat₁)
      (hswitch₂.trans hswitch₁)
    rw [htext₂, filled]
    cases o with
    | secretKey =>
      rw [if_pos rfl, hsecret]
      rfl
    | accessKey =>
      rw [if_neg (by decide), htext₁, if_pos rfl]
      rfl
    | _ =>
      rw [if_neg (by decide), htext₁, if_neg (by decide)]
      exact (Option.or_none).symm

/-- A command line that is accepted holds what its arguments give, and what the environment has for
secrets that they do not give. -/
theorem parse_eq_ok_iff {env : Environment} {args : List Bytes} {c : CommandLine} :
    parse env args = .ok c ↔
      ∃ given, readFrom {} none args = .ok given ∧ given.Fits env ∧ c = given.filled env := by
  rw [parse]
  cases readFrom {} none args with
  | error e =>
    constructor
    · intro h
      cases h
    · rintro ⟨_, h, -⟩
      cases h
  | ok given =>
    change (given.takeDefault .accessKey env.accessKey >>= fun c =>
      c.takeDefault .secretKey env.secretKey) = _ ↔ _
    constructor
    · intro h
      obtain ⟨c₁, h₁, h₂⟩ := ok_of_bind h
      obtain ⟨hfits, hfilled⟩ := filled_of_takeDefault h₁ h₂
      exact ⟨given, rfl, hfits, hfilled⟩
    · rintro ⟨_, ⟨⟩, hfits, rfl⟩
      obtain ⟨c₁, h₁⟩ := takeDefault_isOk (hfits .accessKey)
      obtain ⟨c₂, h₂⟩ : ∃ c₂, c₁.takeDefault .secretKey env.secretKey = .ok c₂ := by
        apply takeDefault_isOk
        rw [text_secretKey_of_takeDefault h₁]
        exact hfits .secretKey
      obtain ⟨-, rfl⟩ := filled_of_takeDefault h₁ h₂
      change (given.takeDefault .accessKey (env.secret? .accessKey) >>= _) = _
      rw [h₁]
      exact h₂

end SparseTransfer.CommandLine
