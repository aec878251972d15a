import SparseTransfer.Proofs.Settings
import SparseTransfer.Proofs.Url.Scheme

/- Whether an archive travels without encryption, and whether that is said. What is said follows the
setting; where the archive travels follows the URL of the endpoint. The two agree for every endpoint
that names no scheme. -/
namespace SparseTransfer

def httpScheme : List Char := "http".toList

def httpsScheme : List Char := "https".toList

namespace StorageSettings

/-- The URL of the endpoint is read as one without encryption. -/
def SendsPlain (s : StorageSettings) : Prop :=
  ∃ url, Url.parse s.endpointUrl = .ok url ∧ url.scheme = httpScheme

/-- The endpoint is written as a URL without encryption. -/
def WrittenPlain (s : StorageSettings) : Prop :=
  httpScheme ++ [':'] <+: (Url.cleaned s.endpoint.toList).map Char.toLower

instance (s : StorageSettings) : Decidable s.WrittenPlain :=
  inferInstanceAs (Decidable (_ <+: _))

theorem endpointUrl_of_named {s : StorageSettings} (h : namesScheme s.endpoint.toList = true) :
    s.endpointUrl = s.endpoint := by
  rw [endpointUrl, if_pos h]

theorem toList_endpointUrl {s : StorageSettings} (h : namesScheme s.endpoint.toList = false) :
    s.endpointUrl.toList = s.scheme.toList ++ ':' :: '/' :: '/' :: s.endpoint.toList := by
  rw [endpointUrl, if_neg (by simp [h]), String.toList_append, String.toList_append]
  simp

/-- The scheme that is put in front of an endpoint is the scheme of its URL. -/
theorem scheme_of_unnamed {s : StorageSettings} (h : namesScheme s.endpoint.toList = false)
    {url : Url} (hparse : Url.parse s.endpointUrl = .ok url) : url.scheme = s.scheme.toList := by
  have htext := toList_endpointUrl h
  rw [scheme] at htext ⊢
  cases hsecure : s.secure with
  | true =>
    rw [hsecure] at htext
    exact Url.scheme_of_parse_append 'h' ['t', 't', 'p', 's'] (by decide) (by decide) htext
      hparse
  | false =>
    rw [hsecure] at htext
    exact Url.scheme_of_parse_append 'h' ['t', 't', 'p'] (by decide) (by decide) htext hparse

/-- An endpoint that names no scheme has the scheme that the setting asks for. -/
theorem sendsPlain_of_unnamed {s : StorageSettings} (h : namesScheme s.endpoint.toList = false)
    {url : Url} (hparse : Url.parse s.endpointUrl = .ok url) : s.SendsPlain ↔ s.secure = false := by
  have hscheme := scheme_of_unnamed h hparse
  rw [scheme] at hscheme
  constructor
  · rintro ⟨url', hparse', hplain⟩
    cases hparse.symm.trans hparse'
    rw [hplain] at hscheme
    cases hsecure : s.secure with
    | true =>
      rw [hsecure] at hscheme
      exact absurd hscheme (by decide)
    | false => rfl
  · intro hsecure
    rw [hsecure] at hscheme
    exact ⟨url, hparse, hscheme⟩

/-- An endpoint that names a scheme is read as it is written, whatever the setting asks for. -/
theorem sendsPlain_of_named {s : StorageSettings} (h : namesScheme s.endpoint.toList = true)
    {url : Url} (hparse : Url.parse s.endpointUrl = .ok url) : s.SendsPlain ↔ s.WrittenPlain := by
  have hwritten : url.scheme = httpScheme ↔ s.WrittenPlain := by
    rw [WrittenPlain, Url.scheme_eq_iff hparse (by decide), endpointUrl_of_named h]
  rw [← hwritten]
  constructor
  · rintro ⟨url', hparse', hplain⟩
    cases hparse.symm.trans hparse'
    exact hplain
  · exact fun hplain => ⟨url, hparse, hplain⟩

end StorageSettings

/-- A URL that is accepted is read with one of two schemes. -/
theorem Rules.of_checkUrl {field value : String} (h : Rules.checkUrl field value = .ok ()) :
    ∃ url, Url.parse value = .ok url ∧ (url.scheme = httpScheme ∨ url.scheme = httpsScheme) ∧
      url.host.isSome = true := by
  rw [Rules.checkUrl] at h
  split at h
  · cases h
  · split at h
    · cases h
    · next url hparse =>
      split at h
      · next hscheme =>
        split at h
        · next hhost =>
          rw [Bool.or_eq_true, decide_eq_true_eq, decide_eq_true_eq] at hscheme
          exact ⟨url, hparse, hscheme, hhost⟩
        · cases h
      · cases h

/-- Checking the settings says that the archive travels without encryption. -/
def TransferSettings.WarnsOfPlain (s : TransferSettings) (w : σ) : Prop :=
  ∃ endpoint, .plaintext endpoint ∈ (s.validate.run w).events

theorem TransferSettings.warnsOfPlain_iff {s : TransferSettings} (hs : s.check = .ok ()) (w : σ) :
    s.WarnsOfPlain w ↔ s.storage.secure = false := by
  rw [WarnsOfPlain, run_validate, if_pos hs, remarks]
  cases s.storage.secure <;> simp

/-- What is said of accepted settings follows the setting; where the archive travels follows the URL
of the endpoint, which has one of two schemes. Both are the same exactly if the endpoint names no
scheme, or names the one that the setting asks for. -/
theorem plain_told_iff {s : TransferSettings} (hs : s.check = .ok ()) (w : σ) :
    (∃ url, Url.parse s.storage.endpointUrl = .ok url ∧
      (url.scheme = httpScheme ∨ url.scheme = httpsScheme)) ∧
    (s.WarnsOfPlain w ↔ s.storage.secure = false) ∧
    (namesScheme s.storage.endpoint.toList = false →
      (s.WarnsOfPlain w ↔ s.storage.SendsPlain)) ∧
    (namesScheme s.storage.endpoint.toList = true →
      (s.storage.SendsPlain ↔ s.storage.WrittenPlain)) ∧
    ((s.WarnsOfPlain w ↔ s.storage.SendsPlain) ↔
      namesScheme s.storage.endpoint.toList = false ∨
        (s.storage.secure = false ↔ s.storage.WrittenPlain)) := by
  obtain ⟨url, hparse, hscheme, -⟩ := Rules.of_checkUrl (s.accepted_of_check hs).endpoint
  have hwarns := s.warnsOfPlain_iff hs w
  have hunnamed (h : namesScheme s.storage.endpoint.toList = false) :
      s.WarnsOfPlain w ↔ s.storage.SendsPlain :=
    hwarns.trans (StorageSettings.sendsPlain_of_unnamed h hparse).symm
  have hnamed (h : namesScheme s.storage.endpoint.toList = true) :
      s.storage.SendsPlain ↔ s.storage.WrittenPlain :=
    StorageSettings.sendsPlain_of_named h hparse
  refine ⟨⟨url, hparse, hscheme⟩, hwarns, hunnamed, hnamed, ?_⟩
  cases h : namesScheme s.storage.endpoint.toList with
  | false => exact iff_of_true (hunnamed h) (Or.inl rfl)
  | true => simp [hwarns, hnamed h]

def loopbackSettings (endpoint : String) (secure : Bool) : TransferSettings where
  storage := { endpoint, secure }

theorem plain_told_iff_bare : (loopbackSettings "[::1]:9000" false).check = .ok () ∧
    (loopbackSettings "[::1]:9000" false).WarnsOfPlain () ∧
    (loopbackSettings "[::1]:9000" false).storage.SendsPlain := by
  have hs : (loopbackSettings "[::1]:9000" false).check = .ok () := by decide +kernel
  obtain ⟨-, hwarns, hsame, -, -⟩ := plain_told_iff hs ()
  have hwarned := hwarns.2 rfl
  exact ⟨hs, hwarned, (hsame (by decide)).1 hwarned⟩

/-- Two endpoints that name a scheme against the setting: a warning about an upload that is
encrypted, and an upload that is not encrypted and that nothing warns of. -/
theorem plain_mistold :
    ((loopbackSettings "https://[::1]" false).check = .ok () ∧
      (loopbackSettings "https://[::1]" false).WarnsOfPlain () ∧
      ¬ (loopbackSettings "https://[::1]" false).storage.SendsPlain) ∧
    ((loopbackSettings "http://[::1]" true).check = .ok () ∧
      ¬ (loopbackSettings "http://[::1]" true).WarnsOfPlain () ∧
      (loopbackSettings "http://[::1]" true).storage.SendsPlain) := by
  have hencrypted : Url.parse "https://[::1]" = .ok ⟨httpsScheme, some (.ipv6 "::1".toList)⟩ := by
    decide +kernel
  have hplain : Url.parse "http://[::1]" = .ok ⟨httpScheme, some (.ipv6 "::1".toList)⟩ := by
    decide +kernel
  have hs : (loopbackSettings "https://[::1]" false).check = .ok () := by decide +kernel
  have hs' : (loopbackSettings "http://[::1]" true).check = .ok () := by decide +kernel
  refine ⟨⟨hs, (TransferSettings.warnsOfPlain_iff hs ()).2 rfl, ?_⟩, hs', ?_, ⟨_, hplain, rfl⟩⟩
  · rintro ⟨url, hparse, hscheme⟩
    cases hencrypted.symm.trans hparse
    exact absurd hscheme (by decide)
  · rw [TransferSettings.warnsOfPlain_iff hs' ()]
    decide

end SparseTransfer
