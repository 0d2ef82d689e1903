import SellerApi.Proofs.Call.Distinct
import SellerApi.Proofs.Client.Attempt

/-! # What a message shows of a credential

A credential that does not change adds the same header fields and the same pairs to every message.
No request has a pair or a field of that name itself, so the credential is there in this form and in
no other one (`Message.Bears`).
-/

namespace SellerApi

open SellerApi.Http SellerApi.Text

/-! ## The keys of requests -/

/-- The keys that a request can have in its query. -/
def Request.keys : List String :=
  ["alt", "includeInactive", "maxResults", "pageToken", "fields", "startDate", "endDate",
    "dimension", "metric", "filter", "sort", "locale", "startIndex"]

/-- All keys of a query are those of requests. -/
def Query.IsNamed (pairs : List (String × String)) : Prop := ∀ p ∈ pairs, p.1 ∈ Request.keys

theorem Query.IsNamed.append {ps qs : List (String × String)} (hp : IsNamed ps) (hq : IsNamed qs) :
    IsNamed (ps ++ qs) := fun p h => (List.mem_append.1 h).elim (hp p) (hq p)

theorem Query.isNamed_map {β : Type} {key : String} (hkey : key ∈ Request.keys) (xs : List β)
    (f : β → String) : IsNamed (xs.map fun x => (key, f x)) := by
  intro p hp
  obtain ⟨x, -, rfl⟩ := List.mem_map.1 hp
  exact hkey

theorem CallOptions.isNamed_apply {o : CallOptions} {r : Request}
    (h : Query.IsNamed r.query.pairs) : Query.IsNamed (o.apply r).query.pairs := by
  rw [apply, Request.select_eq]
  refine h.append ?_
  rw [FieldMask.pairs_eq]
  exact Query.isNamed_map (by decide) _ _

theorem ReportWindow.isNamed_apply {w : ReportWindow} {q : Query} (h : Query.IsNamed q.pairs) :
    Query.IsNamed (w.apply q).pairs := by
  rw [apply, Query.pairs_pushCount, Query.pairs_pushCount, Query.pairs_pushOption]
  exact ((h.append (Query.isNamed_map (by decide) _ _)).append
    (Query.isNamed_map (by decide) _ _)).append (Query.isNamed_map (by decide) _ _)

theorem Endpoint.Asks.isNamed {e : Endpoint} {r : Request} (h : e.Asks r) :
    Query.IsNamed r.query.pairs := by
  induction h with
  | list call token =>
    refine CallOptions.isNamed_apply ?_
    rw [PageOptions.apply, Query.pairs_pushOption, Query.pairs_pushCount, Query.pairs_pushOption]
    exact ((Query.IsNamed.append (List.forall_mem_nil _) (Query.isNamed_map (by decide) _ _)).append
      (Query.isNamed_map (by decide) _ _)).append (Query.isNamed_map (by decide) _ _)
  | lookup call => exact CallOptions.isNamed_apply (List.forall_mem_nil _)
  | report h =>
    obtain ⟨-, -, h⟩ := bind_eq_ok_iff.1 h
    cases h
    refine CallOptions.isNamed_apply (ReportWindow.isNamed_apply ?_)
    exact (((((Query.isNamed_map (by decide) [_] id).append
      (Query.isNamed_map (by decide) [_] id)).append
      (Query.isNamed_map (by decide) _ id)).append (Query.isNamed_map (by decide) _ id)).append
      (Query.isNamed_map (by decide) _ id)).append (Query.isNamed_map (by decide) _ id)
  | savedReport h =>
    obtain ⟨-, -, h⟩ := bind_eq_ok_iff.1 h
    cases h
    exact CallOptions.isNamed_apply (ReportWindow.isNamed_apply (List.forall_mem_nil _))
  | sent _ _ _ ih => exact ih

theorem Endpoint.Asks.ne_key {e : Endpoint} {r : Request} (h : e.Asks r) {p : String × String}
    (hp : p ∈ r.pairs) : p.1 ≠ "key" := by
  have hnamed : p.1 ∈ Request.keys := by
    rcases List.mem_cons.1 hp with rfl | hp
    · exact show "alt" ∈ Request.keys by decide
    · exact h.isNamed p hp
  intro hkey
  have hout : "key" ∉ Request.keys := by decide
  exact hout (hkey ▸ hnamed)

/-! ## Messages -/

/-- A message under this base has these header fields and these pairs in addition to what its
request says: to the user in the base, if any, and to pairs that are not named like a key. -/
structure Http.Message.Bears (m : Message) (base : Url) (fields pairs : List (String × String)) :
    Prop where
  fields : m.headers.filter (·.name = "authorization") =
    (base.userFields ++ fields).map fun f => Header.of f.1 f.2
  url : ∃ (r : Request) (url : Url), r.resolve base = .ok url ∧
    m.url = url.asked.appendPairs pairs ∧ (∀ p ∈ r.pairs, p.1 ≠ "key") ∧
    m.url.queryPairs = base.queryPairs ++ r.pairs ++ pairs

theorem Draft.eq_of_message {d : Http.Draft} {m : Message} (h : d.message = .ok m) :
    ∃ url, d.url = some url ∧ m = ⟨url, d.fields.map fun f => Header.of f.1 f.2⟩ := by
  obtain ⟨_ | url, fields⟩ := d
  · cases h
  · rw [Draft.message] at h
    dsimp only at h
    split at h
    · cases h
    split at h
    · cases h
      exact ⟨url, rfl, rfl⟩
    · cases h

theorem Credential.Adds.authorization_of_mem {k : Credential}
    {fields pairs : List (String × String)} (h : k.Adds fields pairs) {f : String × String}
    (hf : f ∈ fields) : f.1 = "authorization" := by
  cases h with
  | bearer | source => rw [List.mem_singleton.1 hf]
  | none | apiKey => contradiction

theorem Url.authorization_of_mem {u : Url} {f : String × String} (hf : f ∈ u.userFields) :
    f.1 = "authorization" := by
  unfold userFields at hf
  split at hf
  · rw [List.mem_singleton.1 hf]
    rfl
  · contradiction

theorem Url.queryPairs_asked (u : Url) : u.asked.queryPairs = u.queryPairs := by
  unfold asked
  split <;> rfl

namespace Client

variable {c : Client} {r : Request} {m : Message} {asked : Nat}
  {fields pairs : List (String × String)}

theorem message_eq (hcred : c.credential.Adds fields pairs) {segs : List String}
    (hpath : c.base.path = .segments segs) (h : c.messageOf r asked = .ok m) :
    ∃ url, r.resolve c.base = .ok url ∧ url.queryPairs = c.base.queryPairs ++ r.pairs ∧
      m = ⟨url.asked.appendPairs pairs,
        (c.wireFields r fields).map fun f => Header.of f.1 f.2⟩ := by
  obtain ⟨d, hdraft, h⟩ := bind_eq_ok_iff.1 h
  obtain ⟨url, hurl, hd⟩ := bind_eq_ok_iff.1 hdraft
  obtain ⟨raws, hexp, -⟩ := bind_eq_ok_iff.1 hurl
  have hresolved := hurl
  rw [Request.resolve_eq hpath hexp] at hurl
  cases hurl
  cases hd
  rw [Credential.attach_eq hcred, draft_to_eq] at h
  dsimp only [Except.bind, Draft.addAll, Draft.addPairs, Option.map] at h
  rw [signed_eq] at h
  obtain ⟨url, hurl, rfl⟩ := Draft.eq_of_message h
  cases hurl
  exact ⟨_, hresolved, Url.queryPairs_appendPairs _ r.pairs, rfl⟩

/-- The client's name and the cache tag are no part of what stands for a user. -/
theorem filter_wireFields (hheaders : c.settings.headers = [])
    (hfields : ∀ f ∈ fields, f.1 = "authorization") (r : Request) :
    (c.wireFields r fields).filter (fun f => lowercase f.1 = "authorization") =
      c.base.userFields ++ fields := by
  have hname : lowercase "authorization" = "authorization" := by decide
  have hkept : ∀ fs : List (String × String), (∀ f ∈ fs, f.1 = "authorization") →
      fs.filter (fun f => lowercase f.1 = "authorization") = fs := by
    intro fs hfs
    refine List.filter_eq_self.2 fun f hf => ?_
    rw [hfs f hf, hname]
    rfl
  have htag : (c.fields r).filter (fun f => lowercase f.1 = "authorization") = [] := by
    rw [Client.fields, hheaders]
    cases r.cacheTag with
    | none => rfl
    | some tag =>
      have htag : lowercase "if-none-match" ≠ "authorization" := by decide
      exact List.filter_cons_of_neg (by simpa using htag)
  have hown : (c.base.userFields ++ c.fields r ++ fields).filter
      (fun f => lowercase f.1 = "authorization") = c.base.userFields ++ fields := by
    rw [List.filter_append, List.filter_append, htag, hkept _ fun f => Url.authorization_of_mem,
      hkept _ hfields, List.append_nil]
  have hagent : lowercase "user-agent" ≠ "authorization" := by decide
  unfold wireFields
  dsimp only
  split
  · exact hown
  · rw [List.filter_append, hown, List.filter_cons_of_neg (by simpa using hagent),
      List.filter_nil, List.append_nil]

theorem bears_of_messageOf (hcred : c.credential.Adds fields pairs) {segs : List String}
    (hpath : c.base.path = .segments segs) (hheaders : c.settings.headers = []) {e : Endpoint}
    (hr : e.Asks r) (h : c.messageOf r asked = .ok m) : m.Bears c.base fields pairs := by
  obtain ⟨url, hurl, hquery, rfl⟩ := message_eq hcred hpath h
  refine ⟨?_, r, url, hurl, rfl, fun p => hr.ne_key, ?_⟩
  · rw [List.filter_map]
    exact congrArg _ (filter_wireFields hheaders (fun f => hcred.authorization_of_mem) r)
  · rw [Url.queryPairs_appendPairs, Url.queryPairs_asked, hquery]

end Client
end SellerApi
