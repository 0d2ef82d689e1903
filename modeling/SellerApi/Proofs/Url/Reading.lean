import SellerApi.Proofs.Outcome
import SellerApi.Proofs.Url.Path
import SellerApi.Url.Reader

/-! # What is known of a URL that was read

A URL of a web scheme names a host, and its path has segments without slashes in them: `IsWeb`,
which every text that is read as such a URL comes to (`isWeb_of_read`). -/

namespace SellerApi.Url

open SellerApi.Text

/-- A URL to which requests over the web can go. -/
structure IsWeb (u : Url) : Prop where
  scheme : u.scheme = "http" ∨ u.scheme = "https"
  hasHost : u.hasHost = true
  path : ∃ segs, u.path = .segments segs ∧ Divided segs

/-! ## The host -/

theorem readHost_ne {cs : List Char} {host : Host} (h : readHost cs = .ok host) :
    host ≠ .name "" := by
  unfold readHost at h
  split at h
  · unfold readBracketed at h
    split at h <;> simp at h
    subst h
    simp
  · split at h
    · simp at h
    split at h
    · simp at h
    next name _ hname =>
    split at h
    · split at h <;> simp at h
      subst h
      simp
    · simp at h
      subst h
      simpa using hname

theorem readHost_of_readAuthority {scheme : String} {cs rest : List Char} {a : Authority}
    (hs : isSpecial scheme = true) (h : readAuthority scheme cs = .ok (a, rest)) :
    ∃ text, readHost text = .ok a.host := by
  simp only [readAuthority, hs, bind_eq_ok_iff, if_true] at h
  obtain ⟨⟨username, password, cs⟩, huser, h⟩ := h
  split at h
  · obtain ⟨_, ht, -⟩ := bind_eq_ok_iff.1 h
    cases ht
  obtain ⟨host, hhost, h⟩ := bind_eq_ok_iff.1 h
  refine ⟨_, hhost.trans (congrArg Except.ok ?_)⟩
  split at h
  · split at h
    · obtain ⟨_, ht, -⟩ := bind_eq_ok_iff.1 h
      cases ht
    · obtain ⟨⟨port, rest'⟩, -, h⟩ := bind_eq_ok_iff.1 h
      cases h
      rfl
  · split at h
    · obtain ⟨_, ht, -⟩ := bind_eq_ok_iff.1 h
      cases ht
    · cases h
      rfl

/-! ## The path -/

theorem slash_not_mem_escape {cs : List Char} (h : '/' ∉ cs) : '/' ∉ escape pathSet cs := by
  intro he
  rcases mem_escape he with he | he | ⟨hm, -⟩
  · revert he; decide
  · revert he; decide
  · exact h hm

section

variable {scheme : String} (hweb : scheme = "http" ∨ scheme = "https")
include hweb

theorem divided_followPieces {before : List String} (hbefore : Divided before)
    {pieces : List (List Char)} (hpieces : ∀ p ∈ pieces, '/' ∉ p) :
    Divided (followPieces scheme before pieces) := by
  induction pieces generalizing before with
  | nil => exact hbefore
  | cons piece pieces ih =>
    obtain ⟨hpiece, hpieces⟩ := List.forall_mem_cons.1 hpieces
    have hseg := slash_not_mem_escape hpiece
    cases pieces with
    | nil => exact divided_pushSegment hweb hbefore hseg
    | cons piece' pieces =>
      refine ih ?_ hpieces
      split
      · exact fun s hs => hbefore s (parentOf_subset _ hs)
      split
      · exact hbefore
      · rw [driveForm_eq hweb]
        exact divided_append hbefore (divided_singleton (by rwa [String.toList_ofList]))

theorem readSegments_eq (cs : List Char) :
    ∃ segs, readSegments scheme cs = .segments segs ∧ Divided segs := by
  refine ⟨_, rfl, ?_⟩
  rw [fileForm_eq hweb]
  exact divided_followPieces hweb (fun s hs => absurd hs List.not_mem_nil)
    fun p hp => (of_mem_splitAt hp).1

theorem isSpecial_of_web : isSpecial scheme = true := by
  rcases hweb with rfl | rfl <;> decide

theorem isWebScheme_of_web : isWebScheme scheme = true := by
  rcases hweb with rfl | rfl <;> decide

theorem readPath_eq (cs : List Char) :
    ∃ segs, readPath scheme cs = .segments segs ∧ Divided segs := by
  unfold readPath
  split
  · rw [if_pos (isSpecial_of_web hweb)]
    exact ⟨_, rfl, divided_singleton (by decide)⟩
  · split <;> exact readSegments_eq hweb _

end

/-! ## The whole URL -/

/-- A URL of a web scheme has an authority, and its path is what follows the authority. -/
theorem readAuthority_of_read {text : String} {u : Url} (h : read text = .ok u)
    (hs : isWebScheme u.scheme = true) :
    ∃ cs a rest, readAuthority u.scheme cs = .ok (a, rest) ∧ u.authority = some a ∧
      u.path = readPath u.scheme rest := by
  dsimp only [Url.read] at h
  split at h
  · next scheme cs hscheme =>
    split at h
    · obtain ⟨⟨a, rest⟩, ha, h⟩ := bind_eq_ok_iff.1 h
      cases h
      exact ⟨_, a, rest, ha, rfl, rfl⟩
    next hweb =>
    -- every other scheme is kept as well, and is no web scheme
    have hu : u.scheme = scheme := by
      split at h
      · split at h
        · split at h
          · obtain ⟨_, -, h⟩ := bind_eq_ok_iff.1 h
            cases h
            rfl
          · cases h
            rfl
        · cases h
          rfl
      · split at h
        · obtain ⟨_, -, h⟩ := bind_eq_ok_iff.1 h
          cases h
          rfl
        all_goals
          cases h
          rfl
    exact absurd (hu ▸ hs) hweb
  · cases h

theorem isWeb_of_read {text : String} {u : Url} (h : read text = .ok u)
    (hweb : u.scheme = "http" ∨ u.scheme = "https") : u.IsWeb := by
  obtain ⟨cs, a, rest, ha, hauth, hpath⟩ := readAuthority_of_read h (isWebScheme_of_web hweb)
  obtain ⟨host, hhost⟩ := readHost_of_readAuthority (isSpecial_of_web hweb) ha
  refine ⟨hweb, ?_, hpath ▸ readPath_eq hweb rest⟩
  simpa [hasHost, hauth] using readHost_ne hhost

end SellerApi.Url
