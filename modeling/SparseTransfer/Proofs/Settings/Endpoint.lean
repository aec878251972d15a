import SparseTransfer.Proofs.Settings.Transport

/- The URL of an endpoint as a text. It is the endpoint itself or the endpoint behind a scheme, it
always names a scheme, and a URL that has been made once is not changed again. Endpoints that name
no scheme are found again in their URLs. -/
namespace SparseTransfer

/-- Somewhere in the text a scheme is parted from what follows it. -/
def NamesScheme (text : String) : Prop := ∃ front back, text = front ++ "://" ++ back

theorem namesScheme_eq_true {text : List Char} :
    namesScheme text = true ↔ "://".toList <:+: text := by
  induction text with
  | nil => simp [namesScheme]
  | cons c rest ih =>
    rw [namesScheme, Bool.or_eq_true, List.isPrefixOf_iff_prefix, ih, List.infix_cons_iff]

theorem namesScheme_iff {text : String} : namesScheme text.toList = true ↔ NamesScheme text := by
  rw [namesScheme_eq_true]
  constructor
  · rintro ⟨front, back, htext⟩
    refine ⟨String.ofList front, String.ofList back, String.toList_inj.1 ?_⟩
    simp only [String.toList_append, String.toList_ofList]
    exact htext.symm
  · rintro ⟨front, back, rfl⟩
    exact ⟨front.toList, back.toList, by simp only [String.toList_append]⟩

instance (text : String) : Decidable (NamesScheme text) := decidable_of_iff _ namesScheme_iff

namespace StorageSettings
variable {s s' : StorageSettings}

theorem endpointUrl_of_namesScheme (h : NamesScheme s.endpoint) : s.endpointUrl = s.endpoint :=
  endpointUrl_of_named (namesScheme_iff.2 h)

theorem endpointUrl_of_not_namesScheme (h : ¬ NamesScheme s.endpoint) :
    s.endpointUrl = s.scheme ++ "://" ++ s.endpoint := by
  rw [endpointUrl, if_neg (mt namesScheme_iff.1 h)]

theorem namesScheme_endpointUrl (s : StorageSettings) : NamesScheme s.endpointUrl := by
  by_cases h : NamesScheme s.endpoint
  · rwa [endpointUrl_of_namesScheme h]
  · exact ⟨s.scheme, s.endpoint, endpointUrl_of_not_namesScheme h⟩

theorem colon_notMem_scheme (s : StorageSettings) : ':' ∉ s.scheme.toList := by
  rw [scheme]
  split <;> decide

theorem scheme_inj : s.scheme = s'.scheme ↔ s.secure = s'.secure := by
  rw [scheme, scheme]
  cases s.secure <;> cases s'.secure <;> decide

/-- The first colon of the URL stands behind the scheme, whatever colons the endpoint has. -/
theorem endpointUrl_inj (h : ¬ NamesScheme s.endpoint) (h' : ¬ NamesScheme s'.endpoint) :
    s.endpointUrl = s'.endpointUrl ↔ s.secure = s'.secure ∧ s.endpoint = s'.endpoint := by
  constructor
  · intro hurl
    rw [← namesScheme_iff, Bool.not_eq_true] at h h'
    have htext := congrArg String.toList hurl
    rw [toList_endpointUrl h, toList_endpointUrl h'] at htext
    obtain ⟨hscheme, hrest⟩ :=
      Text.append_cons_inj s.colon_notMem_scheme s'.colon_notMem_scheme htext
    have hendpoint := (List.cons.inj (List.cons.inj hrest).2).2
    exact ⟨scheme_inj.1 (String.toList_inj.1 hscheme), String.toList_inj.1 hendpoint⟩
  · rintro ⟨hsecure, hendpoint⟩
    rw [endpointUrl_of_not_namesScheme h, endpointUrl_of_not_namesScheme h', scheme_inj.2 hsecure,
      hendpoint]

/-- The URL of an endpoint names a scheme: that of the endpoint, which then is the URL, or the one
that the setting asks for, put in front of an endpoint that names none. The URL of a URL is that URL
again. Endpoints that name no scheme have the same URL only if they are the same and ask for the
same. -/
theorem endpointUrl_settled (s : StorageSettings) :
    NamesScheme s.endpointUrl ∧
    (s.endpointUrl = s.endpoint ↔ NamesScheme s.endpoint) ∧
    (¬ NamesScheme s.endpoint →
      s.endpointUrl = (if s.secure then "https://" else "http://") ++ s.endpoint) ∧
    (∀ s' : StorageSettings, s'.endpoint = s.endpointUrl → s'.endpointUrl = s.endpointUrl) ∧
    (∀ s' : StorageSettings, ¬ NamesScheme s.endpoint → ¬ NamesScheme s'.endpoint →
      (s.endpointUrl = s'.endpointUrl ↔ s.secure = s'.secure ∧ s.endpoint = s'.endpoint)) := by
  have hnamed := s.namesScheme_endpointUrl
  refine ⟨hnamed, ⟨fun h => h ▸ hnamed, endpointUrl_of_namesScheme⟩, fun h => ?_, fun s' h => ?_,
    fun s' => endpointUrl_inj⟩
  · rw [endpointUrl_of_not_namesScheme h, scheme]
    cases s.secure <;> rfl
  · rw [endpointUrl_of_namesScheme (h ▸ hnamed), h]

/-- Slashes and a colon at the edges of an endpoint name no scheme. Its URL can be the endpoint of
other settings, and is the URL of those. -/
theorem endpointUrl_settled_edges :
    ¬ NamesScheme "//a:" ∧
    ({ endpoint := "//a:" } : StorageSettings).endpointUrl = "http:////a:" ∧
    ({ endpoint := "http:////a:", secure := true } : StorageSettings).endpointUrl = "http:////a:" ∧
    ({ endpoint := "//a:", secure := true } : StorageSettings).endpointUrl ≠ "http:////a:" := by
  have hbare : ¬ NamesScheme "//a:" := by decide
  obtain ⟨-, -, hplain, hagain, hsame⟩ := endpointUrl_settled { endpoint := "//a:" }
  have hurl : ({ endpoint := "//a:" } : StorageSettings).endpointUrl = "http:////a:" := hplain hbare
  refine ⟨hbare, hurl, (hagain _ hurl.symm).trans hurl, fun h => ?_⟩
  have hboth := (hsame { endpoint := "//a:", secure := true } hbare hbare).1 (hurl.trans h.symm)
  exact absurd hboth.1 (by decide)

end StorageSettings
end SparseTransfer
