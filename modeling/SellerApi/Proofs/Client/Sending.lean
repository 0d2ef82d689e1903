import SellerApi.Client.Basic
import SellerApi.Proofs.Request.Resolve

/-! # Sending with a fixed credential

With a credential that does not change, the message of a request is the same whenever it is sent:
`Client.Sends`. Its header fields are those of the client, the cache tag, what the credential adds
and the client's name (`Client.wireFields`); its URL is the resolved one without a user
(`Client.sends_of_sendable`).
-/

namespace SellerApi

open SellerApi.Http SellerApi.Text

/-! ## Header values -/

namespace Text.Base64

theorem letter_mem (n : Nat) : letter n ∈ alphabet := by
  have hlt : n % 64 < alphabet.length := by
    rw [show alphabet.length = 64 from rfl]
    omega
  rw [letter, List.getD_eq_getElem?_getD, List.getElem?_eq_getElem hlt, Option.getD_some]
  exact List.getElem_mem hlt

theorem mem_encode (octets : List UInt8) : ∀ c ∈ encode octets, c ∈ '=' :: alphabet := by
  fun_induction encode octets with
  | case1 => exact List.forall_mem_nil _
  | case2 | case3 => simp [letter_mem]
  | case4 a b d rest n ih =>
    simp only [List.forall_mem_cons]
    have hletter : ∀ k, letter k ∈ '=' :: alphabet := fun k => List.mem_cons_of_mem _ (letter_mem k)
    exact ⟨hletter _, hletter _, hletter _, hletter _, ih⟩

end Text.Base64

/-- Fields that can be put on the wire. -/
def Sendable (fields : List (String × String)) : Prop :=
  ∀ f ∈ fields, isHeaderName f.1 = true ∧ isHeaderValue f.2 = true

instance (fields : List (String × String)) : Decidable (Sendable fields) :=
  List.decidableBAll (fun f : String × String => isHeaderName f.1 = true ∧ isHeaderValue f.2 = true)
    fields

theorem Sendable.append {fs gs : List (String × String)} (hf : Sendable fs) (hg : Sendable gs) :
    Sendable (fs ++ gs) := fun f h => (List.mem_append.1 h).elim (hf f) (hg f)

theorem isHeaderValue_append {s t : String} (hs : isHeaderValue s = true)
    (ht : isHeaderValue t = true) : isHeaderValue (s ++ t) = true := by
  rw [isHeaderValue, String.toList_append, List.all_append, Bool.and_eq_true]
  exact ⟨hs, ht⟩

theorem sendable_basicField (name : String) (password : Option String) :
    Sendable [basicField name password] := by
  intro f hf
  rw [List.mem_singleton.1 hf]
  have hname : isHeaderName "authorization" = true := by decide
  refine ⟨hname, isHeaderValue_append (by decide) (List.all_eq_true.2 fun c hc => ?_)⟩
  have hall : ('=' :: Base64.alphabet).all
      (fun c => c = '\t' || (0x20 ≤ c.toNat && c.toNat != 0x7F)) = true := by decide
  rw [String.toList_ofList] at hc
  exact List.all_eq_true.1 hall c (Base64.mem_encode _ c hc)

/-! ## Credentials -/

/-- What a credential adds to every message: header fields, and pairs behind the query. -/
inductive Credential.Adds : Credential → (fields pairs : List (String × String)) → Prop where
  | none : Adds .none [] []
  | bearer (token : String) : Adds (.bearer token) [("authorization", "Bearer " ++ token)] []
  | apiKey (key : String) : Adds (.apiKey key) [] [("key", key)]
  /-- A source with one answer to every question. -/
  | source {token : String} {answer : Nat → Except Failure String} (h : ∀ n, answer n = .ok token) :
    Adds (.source answer) [("authorization", "Bearer " ++ token)] []

theorem Draft.addAll_nil (d : Http.Draft) : d.addAll [] = d := by
  simp [Draft.addAll]

theorem Draft.addPairs_nil (d : Http.Draft) : d.addPairs [] = d := by
  cases d with
  | mk url fields => cases url <;> rfl

theorem Credential.attach_eq {k : Credential} {fields pairs : List (String × String)}
    (h : k.Adds fields pairs) (asked : Nat) (d : Http.Draft) :
    k.attach asked d = .ok ((d.addAll fields).addPairs pairs) := by
  cases h with
  | none => rw [Draft.addPairs_nil, Draft.addAll_nil]; rfl
  | bearer token => rw [Draft.addPairs_nil]; rfl
  | apiKey key => rw [Draft.addAll_nil]; rfl
  | source h => rw [Draft.addPairs_nil, attach, h]; rfl

/-- The fields that stand for the user in a URL. -/
def Url.userFields (u : Url) : List (String × String) :=
  match userOf? u with
  | some (name, password) => [basicField name password]
  | none => []

/-- A URL as it is asked for: its user goes into a field. -/
def Url.asked (u : Url) : Url := if (userOf? u).isSome then u.withoutUser else u

theorem draft_to_eq (u : Url) : Draft.to u = ⟨some u.asked, u.userFields⟩ := by
  unfold Draft.to Url.asked Url.userFields
  split
  · next h => simp [h]
  · next h => simp [h]

theorem Url.takesRequests_asked (u : Url) : u.asked.takesRequests = u.takesRequests := by
  unfold asked
  split
  · cases h : u.authority <;> simp [withoutUser, takesRequests, hasHost, h]
  · rfl

theorem Url.takesRequests_appendPairs (u : Url) (pairs : List (String × String)) :
    (u.appendPairs pairs).takesRequests = u.takesRequests := rfl

theorem Url.takesRequests_congr {u v : Url} (hscheme : u.scheme = v.scheme)
    (hauth : u.authority = v.authority) : u.takesRequests = v.takesRequests := by
  rw [takesRequests, takesRequests, hasHost, hasHost, hscheme, hauth]

/-- What only reads the authority is the same for URLs of one authority. -/
theorem Url.userFields_congr {u v : Url} (h : u.authority = v.authority) :
    u.userFields = v.userFields := by
  simp [userFields, userOf?, h]

namespace Client

theorem exists_base_of_eq_ok {t : Transport} {c : Client} (h : Client.of t = .ok c) :
    ∃ base, Url.read t.baseUrl = .ok base ∧ base.isRootless = false ∧
      isHeaderValue t.userAgent = true ∧ c = { settings := t, base } := by
  unfold Client.of at h
  split at h
  · cases h
  next base hread =>
  split at h
  · cases h
  next hroot =>
  split at h
  · next hagent =>
    cases h
    exact ⟨base, hread, Bool.eq_false_iff.2 hroot, hagent, rfl⟩
  · cases h

theorem settings_of {t : Transport} {c : Client} (h : Client.of t = .ok c) : c.settings = t := by
  obtain ⟨base, -, -, -, rfl⟩ := exists_base_of_eq_ok h
  rfl

theorem base_of {t : Transport} {c : Client} (h : Client.of t = .ok c) :
    Url.read t.baseUrl = .ok c.base := by
  obtain ⟨base, hread, -, -, rfl⟩ := exists_base_of_eq_ok h
  exact hread

/-- A client's base takes segments, and its name can be sent. -/
theorem of_eq_ok {t : Transport} {c : Client} (h : Client.of t = .ok c) :
    (∃ segs, c.base.path = .segments segs) ∧ isHeaderValue c.settings.userAgent = true := by
  obtain ⟨base, -, hroot, hagent, rfl⟩ := exists_base_of_eq_ok h
  refine ⟨?_, hagent⟩
  cases hpath : base.path with
  | segments segs => exact ⟨segs, rfl⟩
  | whole text => simp [Url.isRootless, hpath] at hroot

/-- Whenever the request is sent, it goes out as this message. -/
def Sends (c : Client) (r : Request) (m : Message) : Prop :=
  ∃ d, c.draft r = .ok d ∧
    ∀ asked, ((c.credential.attach asked d).bind fun d => (c.signed d).message) = .ok m

/-- The header fields of a request, with those that the credential adds. -/
def wireFields (c : Client) (r : Request) (added : List (String × String)) :
    List (String × String) :=
  let fields := c.base.userFields ++ c.fields r ++ added
  if fields.any fun f => lowercase f.1 = "user-agent" then fields
  else fields ++ [("user-agent", c.settings.userAgent)]

theorem signed_eq (c : Client) (d : Http.Draft) :
    c.signed d = { d with
      fields := if d.fields.any fun f => lowercase f.1 = "user-agent" then d.fields
        else d.fields ++ [("user-agent", c.settings.userAgent)] } := by
  unfold signed
  split
  · rfl
  · rfl

theorem sendable_wireFields {c : Client} (hagent : isHeaderValue c.settings.userAgent = true)
    {r : Request} {added : List (String × String)} (h : Sendable (c.fields r ++ added)) :
    Sendable (c.wireFields r added) := by
  have huser : Sendable c.base.userFields := by
    unfold Url.userFields
    split
    · exact sendable_basicField _ _
    · exact fun f hf => absurd hf List.not_mem_nil
  have hfields : Sendable (c.base.userFields ++ c.fields r ++ added) := by
    rw [List.append_assoc]
    exact huser.append h
  unfold wireFields
  dsimp only
  split
  · exact hfields
  · refine hfields.append fun f hf => ?_
    have hname : isHeaderName "user-agent" = true := by decide
    rw [List.mem_singleton.1 hf]
    exact ⟨hname, hagent⟩

/-- The message of a request whose fields can be sent. -/
theorem sends_of_sendable {c : Client} {fields pairs : List (String × String)}
    (hcred : c.credential.Adds fields pairs) (hagent : isHeaderValue c.settings.userAgent = true)
    (hbase : c.base.takesRequests = true) {r : Request} (hfields : Sendable (c.fields r ++ fields))
    {url : Url} (hurl : r.resolve c.base = .ok url) (hscheme : url.scheme = c.base.scheme)
    (hauth : url.authority = c.base.authority) :
    c.Sends r
      ⟨url.asked.appendPairs pairs, (c.wireFields r fields).map fun f => Header.of f.1 f.2⟩ := by
  refine ⟨(Draft.to url).addAll (c.fields r), ?_, fun asked => ?_⟩
  · rw [draft, hurl]
    rfl
  · rw [Credential.attach_eq hcred, draft_to_eq, Url.userFields_congr hauth]
    have htakes : (url.asked.appendPairs pairs).takesRequests = true := by
      rw [Url.takesRequests_appendPairs, Url.takesRequests_asked,
        Url.takesRequests_congr hscheme hauth, hbase]
    have hall : (c.wireFields r fields).all
        (fun f => isHeaderName f.1 && isHeaderValue f.2) = true := by
      rw [List.all_eq_true]
      intro f hf
      rw [Bool.and_eq_true]
      exact sendable_wireFields hagent hfields f hf
    have hsigned : c.signed (((⟨some url.asked, c.base.userFields⟩ : Http.Draft).addAll
        (c.fields r)).addAll fields |>.addPairs pairs) =
        ⟨some (url.asked.appendPairs pairs), c.wireFields r fields⟩ := by
      rw [signed_eq]
      rfl
    simp only [Except.bind, hsigned, Draft.message, htakes, hall]
    rfl

/-! ## Answers -/

section

variable {c : Client} {r : Request} {m : Message} {l : Link}

/-- The link behind a message that was answered. -/
def afterAnswer (c : Client) (m : Message) (l : Link) : Link :=
  { l with
    replies := l.replies.tail, sent := l.sent ++ [m], asked := c.credential.askedAfter l.asked }

theorem send_answered (hm : c.Sends r m) {x : Response} {replies : List Reply}
    (hl : l.replies = .answer x :: replies) : c.send r l = (.ok x, c.afterAnswer m l) := by
  obtain ⟨d, hd, hm⟩ := hm
  simp only [send, hd, hm, Link.exchange, hl, afterAnswer, List.tail_cons]
  rfl

variable {α : Type} [Resource.Wire α]

theorem fetchJson_eq_of_send (hwatched : r.watched = false) {result : Except Failure Response}
    {l' : Link} (h : c.send { r with format := .json } l = (result, l')) :
    c.fetchJson (α := α) r l =
      ((result.bind Response.decode).mapError (Failure.underDeadline (c.deadline r)), l') := by
  have hfree : ∀ l : Link, (({ r with format := .json } : Request).watched && l.fired) = false :=
    fun l => by rw [hwatched, Bool.false_and]
  rw [fetchJson, fetch, hfree, h]
  dsimp only
  rw [hwatched, Bool.false_and]
  rfl

end

end Client
end SellerApi
