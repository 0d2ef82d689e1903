import SellerApi.Proofs.Client.Bearing
import SellerApi.Proofs.Command.Asking
import SellerApi.Proofs.Settings.Layers

/-! # Settings and credentials of a run

The settings of a run are those of its file, changed by the environment and then by the command line
(`Invocation.Layered`). The credential is the first one of all layers in a fixed order
(`Invocation.chosen`), and each message of the run bears it, in its own form only
(`Invocation.run_bears_chosen`).
-/

namespace SellerApi

open SellerApi.Http SellerApi.Text

theorem Settings.exists_adds (s : Settings) : ∃ fields pairs, s.credential.Adds fields pairs := by
  unfold credential Secrets.credential
  split
  · exact ⟨_, _, .bearer _⟩
  · exact ⟨_, _, .apiKey _⟩
  · exact ⟨_, _, .none⟩

namespace Command.Invocation

section

variable [Yaml.Wording] {i : Invocation} {e : Environment} {d : Disk} {file settings : Settings}
  {f : Failure}

/-! ## The file -/

/-- The entries of the settings file. A file that is not named or that is not there has none. -/
inductive Reads (i : Invocation) (d : Disk) : List (String × Yaml.Node) → Prop where
  | unnamed (h : i.config = none) : Reads i d []
  | missing {path : String} (h : i.config = some path) (hd : d.read path = .error .missing) :
    Reads i d []
  | file {path : String} {octets : List UInt8} {text : List Char}
    {entries : List (String × Yaml.Node)} (h : i.config = some path)
    (hd : d.read path = .ok (.octets octets)) (htext : Utf8.text? octets = some text)
    (hentries : Yaml.Holds (String.ofList text) entries) : Reads i d entries

/-- The settings before the environment and the command line change them. -/
def ground (i : Invocation) (d : Disk) : Except Failure Settings :=
  match i.config with
  | some path => fileSettings d path
  | none => .ok {}

theorem toldBy_of_ground (h : i.ground d = .ok file) :
    ∃ entries, i.Reads d entries ∧ file.ToldBy entries := by
  unfold ground at h
  split at h
  · next path hconfig =>
    unfold fileSettings at h
    dsimp only at h
    split at h
    · next octets hread =>
      split at h
      · next text htext =>
        obtain ⟨entries, hentries, htold⟩ := Settings.toldBy_of_ofYaml h
        exact ⟨entries, .file hconfig hread htext hentries, htold⟩
      · cases h
    · cases h
    · next hmissing =>
      cases h
      exact ⟨[], .missing hconfig hmissing, Settings.toldBy_default⟩
    · cases h
  · next hconfig =>
    cases h
    exact ⟨[], .unnamed hconfig, Settings.toldBy_default⟩

/-! ## The layers -/

/-- The credentials of all layers, each before those that it takes precedence over. -/
def candidates (i : Invocation) (e : Environment) (file : Settings) : List (Option Credential) :=
  [i.token.map .bearer, i.apiKey.map .apiKey,
    (e.get? accessTokenVariable).map .bearer, file.secrets.bearerToken.map .bearer,
    (e.get? apiKeyVariable).map .apiKey, file.secrets.apiKey.map .apiKey]

def chosen (i : Invocation) (e : Environment) (file : Settings) : Credential :=
  ((i.candidates e file).findSome? id).getD .none

structure Layered (i : Invocation) (e : Environment) (file settings : Settings) : Prop where
  baseUrl : settings.baseUrl = i.baseUrl.getD ((e.get? baseUrlVariable).getD file.baseUrl)
  seconds : e.Seconds file.timeoutSeconds settings.timeoutSeconds
  /-- A key on the command line takes away the token of any other layer. -/
  bearerToken : settings.secrets.bearerToken = i.token.or
    (if i.apiKey.isSome then none
      else (e.get? accessTokenVariable).or file.secrets.bearerToken)
  apiKey : settings.secrets.apiKey =
    i.apiKey.or ((e.get? apiKeyVariable).or file.secrets.apiKey)
  /-- Without these four all is as in the file. -/
  kept : { settings with
      baseUrl := file.baseUrl
      timeoutSeconds := file.timeoutSeconds
      secrets := { settings.secrets with
        bearerToken := file.secrets.bearerToken
        apiKey := file.secrets.apiKey } } = file

theorem settings_eq (i : Invocation) (e : Environment) (d : Disk) :
    i.settings e d = (i.ground d >>= fun s => s.withEnvironment e >>= fun s =>
      .ok ({ s with baseUrl := i.baseUrl.getD s.baseUrl }.withSecrets i.token i.apiKey)) := by
  unfold settings ground
  cases i.config <;> rfl

theorem layered_of_settings (h : i.settings e d = .ok settings) :
    ∃ file, i.ground d = .ok file ∧ i.Layered e file settings := by
  rw [settings_eq] at h
  obtain ⟨file, hfile, h⟩ := bind_eq_ok_iff.1 h
  obtain ⟨_, henv, h⟩ := bind_eq_ok_iff.1 h
  obtain ⟨n, hn, rfl⟩ := Settings.withEnvironment_eq_ok_iff.1 henv
  cases h
  refine ⟨file, hfile, ?_⟩
  unfold Settings.withSecrets
  cases hkey : i.apiKey <;> cases htoken : i.token <;>
    exact ⟨rfl, hn, by rw [htoken, hkey]; rfl, by rw [hkey]; rfl, rfl⟩

/-- Settings are refused for the file, or else for the seconds in the environment. -/
theorem settings_eq_error_iff : i.settings e d = .error f ↔
    i.ground d = .error f ∨ (∃ file, i.ground d = .ok file) ∧ e.Misstates f := by
  rw [settings_eq]
  cases i.ground d with
  | error f' => simp [bind, Except.bind]
  | ok file =>
    rw [← Settings.withEnvironment_eq_error_iff (s := file)]
    show (file.withEnvironment e >>= _) = _ ↔ _
    cases file.withEnvironment e <;> simp [bind, Except.bind]

omit [Yaml.Wording] in
/-- Of the secrets in settings the one that counts is the first one of all layers. -/
theorem Layered.credential_eq (h : i.Layered e file settings) :
    settings.credential = i.chosen e file := by
  unfold Settings.credential Secrets.credential
  rw [h.bearerToken, h.apiKey, chosen, candidates]
  cases i.token with
  | some token => rfl
  | none =>
  cases i.apiKey with
  | some key => rfl
  | none =>
  cases e.get? accessTokenVariable with
  | some token => rfl
  | none =>
  cases file.secrets.bearerToken with
  | some token => rfl
  | none => cases e.get? apiKeyVariable <;> cases file.secrets.apiKey <;> rfl

/-! ## Messages -/

/-- All messages of a run bear its credential, under its base URL. -/
theorem bears_of_run {s : Session} (hsettings : i.settings e s.disk = .ok settings) :
    ∃ messages used, s.link.Exchanged (i.run e s).2.link messages used ∧ ∀ m ∈ messages,
      ∃ base fields pairs, Url.read settings.baseUrl = .ok base ∧
        settings.credential.Adds fields pairs ∧ m.Bears base fields pairs := by
  cases hclient : Client.of settings.transport with
  | error f =>
    rw [link_run_of_client_error hsettings hclient]
    exact ⟨[], [], .none rfl rfl, List.forall_mem_nil _⟩
  | ok client =>
    let c : Client := { client with credential := settings.credential }
    obtain ⟨messages, used, hl, hmessages, -⟩ := Call.exchanged_gather
      (i.task.unwatched settings.pageSize) i.task.all c s.link
    rw [← link_run_eq hsettings hclient] at hl
    refine ⟨messages, used, hl, fun m hm => ?_⟩
    obtain ⟨r, asked, hr, hmessage⟩ := hmessages m hm
    obtain ⟨fields, pairs, hadds⟩ := settings.exists_adds
    obtain ⟨⟨segs, hpath⟩, -⟩ := Client.of_eq_ok hclient
    have hheaders := Settings.headers_of hclient
    exact ⟨client.base, fields, pairs, Settings.base_of hclient, hadds,
      Client.bears_of_messageOf (c := c) hadds hpath hheaders hr hmessage⟩

/-- The settings of a run are those of its file, the defaults where it has none, changed by the
environment and then by the command line. They are refused for the file, or else exactly if the
environment has a number of seconds that is none. The credential is the first one of all layers, and
every message bears it as a header field or as a last pair of the query, or not at all if there is
none. -/
theorem run_bears_chosen (i : Invocation) (e : Environment) (s : Session) :
    (∀ file, i.ground s.disk = .ok file →
      ∃ entries, i.Reads s.disk entries ∧ file.ToldBy entries) ∧
    (∀ f, i.settings e s.disk = .error f ↔ i.ground s.disk = .error f ∨
      (∃ file, i.ground s.disk = .ok file) ∧ e.Misstates f) ∧
    ∀ settings, i.settings e s.disk = .ok settings →
      ∃ file, i.ground s.disk = .ok file ∧ i.Layered e file settings ∧
        settings.credential = i.chosen e file ∧
        ∃ messages used, s.link.Exchanged (i.run e s).2.link messages used ∧ ∀ m ∈ messages,
          ∃ base fields pairs, Url.read settings.baseUrl = .ok base ∧
            (i.chosen e file).Adds fields pairs ∧ m.Bears base fields pairs := by
  refine ⟨fun file => toldBy_of_ground, fun f => settings_eq_error_iff,
    fun settings hsettings => ?_⟩
  obtain ⟨file, hfile, hlayered⟩ := layered_of_settings hsettings
  have hcredential := hlayered.credential_eq
  have hbears := bears_of_run hsettings
  rw [hcredential] at hbears
  exact ⟨file, hfile, hlayered, hcredential, hbears⟩

end

/-- A key on the command line. -/
def sampleKeyed : Invocation :=
  { baseUrl := some "http://ads.example/v1/", apiKey := some "a&b", task := .adClients {} {} }

/-- The token in the environment gives way to the key, which is read at the end of the query. -/
theorem run_bears_chosen_key :
    let e : Environment := [(accessTokenVariable, "token"), (timeoutVariable, " +5 ")]
    let s : Session := { link := answering ["{}"] }
    ∃ m, (sampleKeyed.run e s).2.link.sent = [m] ∧
      m.headers.filter (·.name = "authorization") = [] ∧
      m.url.queryPairs.getLast? = some ("key", "a&b") := by
  intro e s
  have hsettings : sampleKeyed.settings e s.disk = .ok
      { sampleSettings with timeoutSeconds := 5, secrets := { apiKey := some "a&b" } } := by
    rfl
  have hread : Url.read "http://ads.example/v1/" = .ok Pager.sampleClient.base := by decide +kernel
  have hlength : (sampleKeyed.run e s).2.link.sent.length = 1 := by decide +kernel
  obtain ⟨-, -, hbears⟩ := run_bears_chosen sampleKeyed e s
  obtain ⟨file, -, -, -, messages, used, hl, hmessages⟩ := hbears _ hsettings
  have hsent : (sampleKeyed.run e s).2.link.sent = messages := hl.sent
  rw [hsent] at hlength ⊢
  obtain ⟨m, rfl⟩ := List.length_eq_one_iff.1 hlength
  obtain ⟨base, fields, pairs, hbase, hadds, hm⟩ := hmessages m (List.mem_singleton_self m)
  cases hread.symm.trans hbase
  have hkey : Credential.Adds (.apiKey "a&b") fields pairs := hadds
  cases hkey
  obtain ⟨_, _, -, -, -, hquery⟩ := hm.url
  refine ⟨m, rfl, hm.fields, ?_⟩
  rw [hquery, List.getLast?_concat]

end Command.Invocation
end SellerApi
