import SellerApi.Proofs.Client.Secrecy
import SellerApi.Settings.Yaml

/-! # Settings with different secrets

Settings that are alike but for the texts of their secrets (`Settings.Swapped`) come from YAML
documents that are alike but for the scalars that hold these (`Settings.swapped_of_texts`), and the
environment and the command line keep them so. Whether secrets are there, and how many, is the same
for both, and so are the clients that they make but for the secrets. Only what the reader of a text
that it refuses has to say may differ (`UpToWording`), since it may name a place behind a secret.
-/

namespace SellerApi

open SellerApi.Http SellerApi.Text

/-! ## Settings -/

structure Secrets.Swapped (s t : Secrets) : Prop where
  bearerToken : SellerApi.Swapped s.bearerToken t.bearerToken
  apiKey : SellerApi.Swapped s.apiKey t.apiKey
  scope : s.scope = t.scope

/-- Settings that are alike but for the texts of their secrets. -/
inductive Settings.Swapped : Settings → Settings → Prop where
  | mk (s : Settings) {a b : Secrets} (h : a.Swapped b) :
    Swapped { s with secrets := a } { s with secrets := b }

theorem Secrets.Swapped.refl (s : Secrets) : s.Swapped s := ⟨.same _, .same _, rfl⟩

theorem Settings.Swapped.refl (s : Settings) : s.Swapped s := .mk s (.refl s.secrets)

namespace Secrets.Swapped

variable {s t : Secrets} (h : s.Swapped t)
include h

theorem credential : s.credential.Swapped t.credential := by
  obtain ⟨token, key, scope⟩ := s
  obtain ⟨token', key', scope'⟩ := t
  have hkeys : SellerApi.Swapped key key' := h.apiKey
  cases h.bearerToken with
  | same token =>
    cases token with
    | some token => exact .same _
    | none =>
      cases hkeys with
      | same key => exact .same _
      | secret => exact .apiKey _ _
  | secret ht hu => exact .bearer ht hu

end Secrets.Swapped

theorem Settings.withSecrets_eq (s : Settings) (token key : Option String) :
    s.withSecrets token key = { s with
      secrets := { s.secrets with
        bearerToken := token.or (if key.isSome then none else s.secrets.bearerToken)
        apiKey := key.or s.secrets.apiKey } } := by
  unfold withSecrets
  cases key <;> cases token <;> rfl

namespace Settings.Swapped

variable {s t : Settings} (h : s.Swapped t)
include h

theorem secrets : s.secrets.Swapped t.secrets := by
  cases h with
  | mk s h => exact h

theorem transport_eq : s.transport = t.transport := by
  cases h
  rfl

theorem withSecrets {token token' key key' : Option String}
    (htoken : SellerApi.Swapped token token') (hkey : SellerApi.Swapped key key') :
    (s.withSecrets token key).Swapped (t.withSecrets token' key') := by
  cases h with
  | @mk s a b h =>
    rw [withSecrets_eq, withSecrets_eq, ← hkey.isSome_eq]
    have hold : SellerApi.Swapped (if key.isSome then none else a.bearerToken)
        (if key.isSome then none else b.bearerToken) := by
      split
      · exact .same none
      · exact h.bearerToken
    exact .mk s ⟨htoken.or hold, hkey.or h.apiKey, h.scope⟩

end Settings.Swapped

/-! ## The environment -/

/-- A variable with the same value, or one for a secret with another one. -/
inductive Environment.Entry.Swapped : String × String → String × String → Prop where
  | same (v : String × String) : Swapped v v
  | secret {name t u : String} (hname : name = accessTokenVariable ∨ name = apiKeyVariable)
    (ht : IsSecret t) (hu : IsSecret u) : Swapped (name, t) (name, u)

/-- Environments that are alike but for the texts of secrets. -/
def Environment.Swapped (e e' : Environment) : Prop := List.Forall₂ Environment.Entry.Swapped e e'

theorem Environment.get?_cons (name : String) (v : String × String) (e : Environment) :
    get? (v :: e) name =
      if v.1 = name then (some v.2).filter fun value => !isAllBlank value else get? e name := by
  unfold get?
  rw [List.find?_cons]
  by_cases h : v.1 = name <;> simp [h]

theorem Environment.Swapped.get? {e e' : Environment} (h : e.Swapped e') (name : String) :
    SellerApi.Swapped (e.get? name) (e'.get? name) ∧
      (name ≠ accessTokenVariable → name ≠ apiKeyVariable → e.get? name = e'.get? name) := by
  induction h with
  | nil => exact ⟨.same _, fun _ _ => rfl⟩
  | cons hv _ ih =>
    rw [get?_cons, get?_cons]
    cases hv with
    | same v =>
      split
      · exact ⟨.same _, fun _ _ => rfl⟩
      · exact ih
    | @secret name' t u hname ht hu =>
      by_cases heq : name' = name
      · subst heq
        simp only [if_true, Option.filter_some, ht.notBlank, hu.notBlank, Bool.not_false]
        refine ⟨.secret ht hu, fun htoken hkey => ?_⟩
        rcases hname with rfl | rfl
        · exact absurd rfl htoken
        · exact absurd rfl hkey
      · rw [if_neg heq, if_neg heq]
        exact ih

theorem Settings.Swapped.withEnvironment {s t : Settings} (h : s.Swapped t) {e e' : Environment}
    (he : e.Swapped e') :
    SameOutcome Settings.Swapped (s.withEnvironment e) (t.withEnvironment e') := by
  cases h with
  | @mk s a b h =>
    have hbase : e.get? baseUrlVariable = e'.get? baseUrlVariable :=
      (he.get? _).2 (by decide) (by decide)
    have htimeout : e.get? timeoutVariable = e'.get? timeoutVariable :=
      (he.get? _).2 (by decide) (by decide)
    have hsecrets : Secrets.Swapped
        { a with
          bearerToken := (e.get? accessTokenVariable).or a.bearerToken
          apiKey := (e.get? apiKeyVariable).or a.apiKey }
        { b with
          bearerToken := (e'.get? accessTokenVariable).or b.bearerToken
          apiKey := (e'.get? apiKeyVariable).or b.apiKey } :=
      ⟨(he.get? _).1.or h.bearerToken, (he.get? _).1.or h.apiKey, h.scope⟩
    unfold Settings.withEnvironment
    dsimp only
    rw [hbase, htimeout]
    cases e'.get? timeoutVariable with
    | none =>
      exact .ok (.mk { s with baseUrl := (e'.get? baseUrlVariable).getD s.baseUrl } hsecrets)
    | some text =>
      cases hread : readBelow? bound64 (trimChars text.toList) with
      | none =>
        simp only [hread]
        exact .error _
      | some seconds =>
        simp only [hread]
        exact .ok (.mk { s with
          baseUrl := (e'.get? baseUrlVariable).getD s.baseUrl
          timeoutSeconds := seconds } hsecrets)

/-! ## Documents -/

theorem rel_bind {α β γ δ : Type} {R : α → β → Prop} {S : γ → δ → Prop} {x : Option α}
    {y : Option β} (h : Option.Rel R x y) {f : α → Option γ} {g : β → Option δ}
    (hnext : ∀ a b, R a b → Option.Rel S (f a) (g b)) : Option.Rel S (x.bind f) (y.bind g) := by
  cases h with
  | none => exact .none
  | some h => exact hnext _ _ h

namespace Yaml

/-- A value that is there and says a secret. -/
structure Node.HoldsSecret (n : Node) : Prop where
  present : n.isMissing? = some false
  text : ∃ t, n.text? = some t ∧ IsSecret t

/-- An entry with the same value, or with another one that its key allows. -/
inductive Entry.Swapped (S : String → Node → Node → Prop) : Node × Node → Node × Node → Prop where
  | same (entry : Node × Node) : Swapped S entry entry
  | value {key v v' : Node} {name : String} (hkey : key.text? = some name) (h : S name v v') :
    Swapped S (key, v) (key, v')

/-- Mappings whose entries are alike but for values that their keys allow. -/
inductive Node.SwappedIn (S : String → Node → Node → Prop) : Node → Node → Prop where
  | mapping (tag : Option String) {entries entries' : List (Node × Node)}
    (h : List.Forall₂ (Entry.Swapped S) entries entries') :
    SwappedIn S (.mapping tag entries) (.mapping tag entries')

/-- The key of a secret, and two values that say secrets. -/
def SecretEntry (name : String) (v v' : Node) : Prop :=
  (name = "bearer_token" ∨ name = "api_key") ∧ v.HoldsSecret ∧ v'.HoldsSecret

def AuthEntry (name : String) (v v' : Node) : Prop :=
  name = "auth" ∧ Node.SwappedIn SecretEntry v v'

/-- Documents that are alike but for the scalars of their secrets. -/
def Node.Swapped : Node → Node → Prop := SwappedIn AuthEntry

namespace Node

variable {S : String → Node → Node → Prop} {n n' : Node} {es es' : List (String × Node)}

/-- The same value, or one that the key allows in its place. -/
def Allowed (S : String → Node → Node → Prop) (name : String) (v v' : Node) : Prop :=
  v = v' ∨ S name v v'

/-- The entries of two mappings, by their keys. -/
def EntriesSwapped (S : String → Node → Node → Prop) :
    List (String × Node) → List (String × Node) → Prop :=
  List.Forall₂ fun e e' => e.1 = e'.1 ∧ Allowed S e.1 e.2 e'.2

theorem SwappedIn.entries? (h : SwappedIn S n n') :
    Option.Rel (EntriesSwapped S) n.entries? n'.entries? := by
  obtain ⟨tag, h⟩ := h
  dsimp only [Node.entries?]
  induction h with
  | nil => exact .some .nil
  | @cons entry entry' _ _ hentry _ ih =>
    have hkey : entry.1 = entry'.1 ∧
        ∀ name, entry.1.text? = some name → Allowed S name entry.2 entry'.2 := by
      cases hentry with
      | same => exact ⟨rfl, fun _ _ => .inl rfl⟩
      | value hkey h =>
        refine ⟨rfl, fun name hname => .inr ?_⟩
        rw [← Option.some.inj (hkey.symm.trans hname)]
        exact h
    rw [List.mapM_cons, List.mapM_cons, ← hkey.1]
    cases hname : entry.1.text? with
    | none => exact .none
    | some name =>
      exact rel_bind ih fun _ _ hrest => .some (.cons ⟨rfl, hkey.2 name hname⟩ hrest)

theorem EntriesSwapped.found (h : EntriesSwapped S es es') (key : String) :
    Option.Rel (Option.Rel (Allowed S key)) (valueAt? es key) (valueAt? es' key) := by
  have hfilter : EntriesSwapped S (es.filter (·.1 = key)) (es'.filter (·.1 = key)) := by
    induction h with
    | nil => exact .nil
    | @cons e e' _ _ he _ ih =>
      by_cases hkey : e.1 = key
      · rw [List.filter_cons_of_pos (by simpa using hkey),
          List.filter_cons_of_pos (by simpa using he.1 ▸ hkey)]
        exact .cons he ih
      · rw [List.filter_cons_of_neg (by simpa using hkey),
          List.filter_cons_of_neg (by simpa using he.1 ▸ hkey)]
        exact ih
  have hmem : ∀ e ∈ es.filter (·.1 = key), e.1 = key := fun e he => by
    simpa using (List.mem_filter.1 he).2
  unfold valueAt?
  generalize es.filter (·.1 = key) = found at hfilter hmem
  generalize es'.filter (·.1 = key) = found' at hfilter
  match found, found', hfilter with
  | [], [], _ => exact .some .none
  | [(name, v)], [(name', v')], .cons he .nil =>
    have hname : name = key := hmem _ List.mem_cons_self
    exact .some (.some (hname ▸ he.2))
  | _ :: _ :: _, _ :: _ :: _, _ => exact .none

theorem EntriesSwapped.entryOr {β : Type} {ρ : β → β → Prop} (h : EntriesSwapped S es es')
    (key : String) {fallback : β} (hfallback : ρ fallback fallback) {read : Node → Option β}
    (hread : ∀ v v', Allowed S key v v' → Option.Rel ρ (read v) (read v')) :
    Option.Rel ρ (Node.entryOr es key fallback read) (Node.entryOr es' key fallback read) := by
  have hfound := h.found key
  unfold Node.entryOr
  generalize valueAt? es key = found, valueAt? es' key = found' at hfound
  cases hfound with
  | none => exact .none
  | some hvalue =>
    cases hvalue with
    | none => exact .some hfallback
    | some hv => exact hread _ _ hv

end Node
end Yaml

/-- Texts of files that hold such documents. A text that holds no document has no place for a
secret and may be any other one. -/
inductive Yaml.TextsSwapped (text text' : String) : Prop where
  | documents {n n' : Node} (hblank : isAllBlank text = false) (hblank' : isAllBlank text' = false)
    (hread : Node.read text = .ok (some n)) (hread' : Node.read text' = .ok (some n'))
    (h : n.Swapped n')
  | undocumented {fault fault' : Fault} (hblank : isAllBlank text = false)
    (hblank' : isAllBlank text' = false) (hread : Node.read text = .error fault)
    (hread' : Node.read text' = .error fault')

/-- Related results or the same failure, or else two failures of a reader of YAML texts, where these
may differ: it may tell them in other words. -/
inductive UpToWording (differ : Prop) {α β : Type} (R : α → β → Prop) :
    Except Failure α → Except Failure β → Prop where
  | same {x : Except Failure α} {y : Except Failure β} (h : SameOutcome R x y) :
    UpToWording differ R x y
  | refused (h : differ) (told told' : String) :
    UpToWording differ R (.error (.yaml told)) (.error (.yaml told'))

theorem UpToWording.bind {differ : Prop} {α β γ δ : Type} {R : α → β → Prop} {S : γ → δ → Prop}
    {x : Except Failure α} {y : Except Failure β} (h : UpToWording differ R x y)
    {f : α → Except Failure γ} {g : β → Except Failure δ}
    (hnext : ∀ a b, R a b → SameOutcome S (f a) (g b)) :
    UpToWording differ S (x >>= f) (y >>= g) := by
  cases h with
  | same h => exact .same (h.bind hnext)
  | refused h told told' => exact .refused h told told'

end SellerApi
