import SellerApi.Proofs.Client.Sending
import SellerApi.Proofs.Text.Integer
import SellerApi.Settings.Yaml

/-! # Settings in layers

What the environment and the command line leave of the settings in a file. The environment is
refused only for a number of seconds that is none (`Environment.Misstates`); what it says takes the
place of what the file says (`Settings.withEnvironment_eq_ok_iff`).
-/

namespace SellerApi

open SellerApi.Text

/-! ## Files -/

/-- What a mapping says of a key: its one entry is read, or a default counts. -/
inductive Yaml.Node.Tells {α : Type} (entries : List (String × Node)) (key : String)
    (fallback : α) (read : Node → Option α) : α → Prop where
  | entry {v : Node} {x : α} (h : entries.filter (·.1 = key) = [(key, v)]) (hx : read v = some x) :
    Tells entries key fallback read x
  | missing (h : ∀ p ∈ entries, p.1 ≠ key) : Tells entries key fallback read fallback

theorem Yaml.Node.tells_of_entryOr {α : Type} {entries : List (String × Node)} {key : String}
    {fallback x : α} {read : Node → Option α} (h : entryOr entries key fallback read = some x) :
    Tells entries key fallback read x := by
  unfold entryOr valueAt? at h
  split at h
  · next hnone =>
    cases h
    exact .missing fun p hp => by simpa using List.filter_eq_nil_iff.1 hnone p hp
  · next k v hone =>
    have hkey : k = key := by
      have hmem : (k, v) ∈ entries.filter (·.1 = key) := hone ▸ List.mem_singleton_self _
      simpa using (List.mem_filter.1 hmem).2
    exact .entry (hkey ▸ hone) h
  · cases h

/-- What a file says of the base URL and of secrets. -/
structure Settings.ToldBy (s : Settings) (entries : List (String × Yaml.Node)) : Prop where
  baseUrl : Yaml.Node.Tells entries "base_url" defaultBaseUrl Yaml.Node.text? s.baseUrl
  secrets : Yaml.Node.Tells entries "auth" {} Yaml.Node.secrets? s.secrets

theorem Settings.toldBy_default : ({} : Settings).ToldBy [] :=
  ⟨.missing (List.forall_mem_nil _), .missing (List.forall_mem_nil _)⟩

theorem Yaml.Node.toldBy_of_settings? {n : Node} {s : Settings} (h : n.settings? = some s) :
    ∃ entries, n.entries? = some entries ∧ s.ToldBy entries := by
  simp only [settings?, Option.bind_eq_bind, Option.bind_eq_some_iff, Option.pure_def,
    Option.some.injEq] at h
  obtain ⟨entries, hentries, _, hbase, _, -, _, -, _, -, _, hsecrets, _, -, _, -, rfl⟩ := h
  exact ⟨entries, hentries, tells_of_entryOr hbase, tells_of_entryOr hsecrets⟩

/-- The entries of the mapping that a text holds; a text that says nothing has none. -/
inductive Yaml.Holds (text : String) : List (String × Node) → Prop where
  | nothing (h : isAllBlank text = true ∨ Node.read text = .ok none) : Holds text []
  | mapping {n : Node} {entries : List (String × Node)} (hn : Node.read text = .ok (some n))
    (hentries : n.entries? = some entries) : Holds text entries

theorem Settings.toldBy_of_ofYaml [Yaml.Wording] {text : String} {s : Settings}
    (h : ofYaml text = .ok s) :
    ∃ entries, Yaml.Holds text entries ∧ s.ToldBy entries := by
  unfold ofYaml at h
  split at h
  · next hblank =>
    cases h
    exact ⟨[], .nothing (.inl hblank), toldBy_default⟩
  · split at h
    · cases h
    · next hnone =>
      cases h
      exact ⟨[], .nothing (.inr hnone), toldBy_default⟩
    · next n hn =>
      split at h
      · next s' hs' =>
        cases h
        obtain ⟨entries, hentries, htold⟩ := Yaml.Node.toldBy_of_settings? hs'
        exact ⟨entries, .mapping hn hentries, htold⟩
      · cases h

/-! ## The environment -/

/-- Digits of a number of 64 bits, maybe behind a plus sign, maybe between blanks. -/
def Denotes (text : String) (n : Nat) : Prop :=
  ∃ ds, (trimChars text.toList = ds ∨ trimChars text.toList = '+' :: ds) ∧ ds ≠ [] ∧
    (∀ d ∈ ds, isAsciiDigit d = true) ∧ digitsValue ds = n ∧ n < bound64

theorem denotes_iff {text : String} {n : Nat} :
    Denotes text n ↔ readBelow? bound64 (trimChars text.toList) = some n :=
  readBelow?_eq_some_iff.symm

namespace Environment

variable {e : Environment}

/-- The seconds that the environment gives a request, or else those given. -/
inductive Seconds (e : Environment) (fallback : Nat) : Nat → Prop where
  | unset (h : e.get? timeoutVariable = none) : Seconds e fallback fallback
  | denoted {text : String} {n : Nat} (h : e.get? timeoutVariable = some text)
    (hn : Denotes text n) : Seconds e fallback n

/-- The environment has a number of seconds that is none, and is refused for it. -/
inductive Misstates (e : Environment) : Failure → Prop where
  | intro {text : String} (h : e.get? timeoutVariable = some text) (hn : ∀ n, ¬Denotes text n) :
    Misstates e (.settings (timeoutVariable ++ " must be a whole number, got '" ++ text ++ "'"))

theorem seconds_or_misstates (e : Environment) (fallback : Nat) :
    (∃ n, e.Seconds fallback n) ∨ ∃ f, e.Misstates f := by
  cases htext : e.get? timeoutVariable with
  | none => exact .inl ⟨fallback, .unset htext⟩
  | some text =>
    by_cases hn : ∃ n, Denotes text n
    · obtain ⟨n, hn⟩ := hn
      exact .inl ⟨n, .denoted htext hn⟩
    · exact .inr ⟨_, .intro htext (not_exists.1 hn)⟩

end Environment

namespace Settings

variable {s s' : Settings} {e : Environment}

/-- What the environment makes of settings if it gives a request so many seconds. -/
def told (s : Settings) (e : Environment) (seconds : Nat) : Settings :=
  { s with
    baseUrl := (e.get? baseUrlVariable).getD s.baseUrl
    timeoutSeconds := seconds
    secrets := { s.secrets with
      bearerToken := (e.get? accessTokenVariable).or s.secrets.bearerToken
      apiKey := (e.get? apiKeyVariable).or s.secrets.apiKey } }

theorem withEnvironment_of_seconds {n : Nat} (h : e.Seconds s.timeoutSeconds n) :
    s.withEnvironment e = .ok (s.told e n) := by
  cases h with
  | unset h =>
    rw [withEnvironment, h]
    rfl
  | denoted h hn =>
    rw [withEnvironment, h]
    simp only [denotes_iff.1 hn]
    rfl

theorem withEnvironment_of_misstates {f : Failure} (h : e.Misstates f) :
    s.withEnvironment e = .error f := by
  obtain ⟨h, hn⟩ := h
  rw [withEnvironment, h]
  simp only [Option.eq_none_iff_forall_ne_some.2 fun n hread => hn n (denotes_iff.2 hread)]
  rfl

theorem withEnvironment_eq_ok_iff :
    s.withEnvironment e = .ok s' ↔ ∃ n, e.Seconds s.timeoutSeconds n ∧ s' = s.told e n := by
  constructor
  · intro h
    rcases e.seconds_or_misstates s.timeoutSeconds with ⟨n, hn⟩ | ⟨f, hf⟩
    · rw [withEnvironment_of_seconds hn] at h
      exact ⟨n, hn, (Except.ok.inj h).symm⟩
    · exact nomatch (withEnvironment_of_misstates hf).symm.trans h
  · rintro ⟨n, hn, rfl⟩
    exact withEnvironment_of_seconds hn

theorem withEnvironment_eq_error_iff {f : Failure} :
    s.withEnvironment e = .error f ↔ e.Misstates f := by
  refine ⟨fun h => ?_, withEnvironment_of_misstates⟩
  rcases e.seconds_or_misstates s.timeoutSeconds with ⟨n, hn⟩ | ⟨f', hf⟩
  · exact nomatch (withEnvironment_of_seconds hn).symm.trans h
  · cases (withEnvironment_of_misstates hf).symm.trans h
    exact hf

end Settings
end SellerApi
