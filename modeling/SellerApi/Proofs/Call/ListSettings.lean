import Mathlib.Data.List.Induction
import SellerApi.Proofs.Call.Endpoint
import SellerApi.Proofs.Call.List
import SellerApi.Proofs.Call.Setting

/-! # Requests of a listing that was built by settings

A call for a list is built from its listing by settings in any order. Every request for a page of it
says what was set last of each kind and nothing else (`ListCall.Carries`), so that it depends on the
last setting of each kind only (`ListCall.carries_of_settings`).
-/

namespace SellerApi

open SellerApi.Text

variable {α : Type}

/-! ## Listings and their identifiers -/

namespace Listing

/-- The identifiers of a listing, the outer one first. -/
def identifiers : Listing α → List String
  | .adClients | .savedReports => []
  | .adUnits client _ | .channels client | .urlChannels client => [client]
  | .unitChannels client unit => [client, unit]
  | .channelUnits client channel _ => [client, channel]

/-- Whether a listing knows of inactive resources. -/
def offersInactive : Listing α → Bool
  | .adUnits .. | .channelUnits .. => true
  | _ => false

theorem withInactive_withInactive (l : Listing α) (b b' : Bool) :
    (l.withInactive b).withInactive b' = l.withInactive b' := by
  cases l <;> rfl

theorem endpoint_withInactive (l : Listing α) (b : Bool) :
    (l.withInactive b).endpoint = l.endpoint := by
  cases l <;> rfl

theorem inactive_withInactive (l : Listing α) (b : Bool) :
    (l.withInactive b).inactive = if l.offersInactive then some b else none := by
  cases l <;> rfl

theorem ceiling_eq (l : Listing α) :
    l.ceiling = if l.endpoint = .savedReports then 100 else 10000 := by
  cases l <;> rfl

theorem identifiers_eq (l : Listing α) : l.endpoint.bindings.map (·.2) = l.identifiers := by
  cases l <;> rfl

end Listing

/-- The name in a piece that an identifier is put in place of. -/
def PathPiece.name? : PathPiece → Option String
  | .placeholder name => some name
  | .literal _ => none

/-- An endpoint binds the names in its template, in order. -/
theorem Endpoint.names_eq (e : Endpoint) :
    (templatePieces e.template).filterMap PathPiece.name? = e.bindings.map (·.1) := by
  rw [templatePieces_template]
  cases e <;> rfl

namespace ListCall

/-! ## Settings -/

/-- What a setting is about. -/
inductive Modifier where
  | fields
  | cacheTag
  | deadline
  | signal
  | maxResults
  | pageToken
  | inactive
  deriving DecidableEq

namespace Setting

def modifier : Setting → Modifier
  | .option (.fields _) => .fields
  | .option (.cacheTag _) => .cacheTag
  | .option (.deadline _) => .deadline
  | .option .watched => .signal
  | .maxResults _ => .maxResults
  | .pageToken _ => .pageToken
  | .inactive _ => .inactive

def text? : Setting → Option String
  | .pageToken text | .option (.cacheTag text) => some text
  | _ => none

def count? : Setting → Option Nat
  | .maxResults n | .option (.deadline n) => some n
  | _ => none

def mask? : Setting → Option FieldMask
  | .option (.fields mask) => some mask
  | _ => none

def wanted? : Setting → Option Bool
  | .inactive wanted => some wanted
  | _ => none

end Setting

section

variable (l : Listing α) (settings : List Setting)

/-- The call that settings build for a listing. -/
def built : ListCall α := settings.foldl set { listing := l }

/-- The text of one kind that was set last. -/
def lastText (m : Modifier) : Option String :=
  (lastOf Setting.modifier m settings).bind Setting.text?

def lastCount (m : Modifier) : Option Nat :=
  (lastOf Setting.modifier m settings).bind Setting.count?

def lastMask : Option FieldMask := (lastOf Setting.modifier .fields settings).bind Setting.mask?

/-- Whether inactive resources are wanted, as it was set last. -/
def lastWanted : Option Bool := (lastOf Setting.modifier .inactive settings).bind Setting.wanted?

theorem lastText_concat (s : Setting) (m : Modifier) :
    lastText (settings ++ [s]) m = if s.modifier = m then s.text? else lastText settings m :=
  bind_lastOf_concat ..

theorem lastCount_concat (s : Setting) (m : Modifier) :
    lastCount (settings ++ [s]) m = if s.modifier = m then s.count? else lastCount settings m :=
  bind_lastOf_concat ..

theorem lastMask_concat (s : Setting) :
    lastMask (settings ++ [s]) = if s.modifier = .fields then s.mask? else lastMask settings :=
  bind_lastOf_concat ..

theorem lastWanted_concat (s : Setting) :
    lastWanted (settings ++ [s]) =
      if s.modifier = .inactive then s.wanted? else lastWanted settings :=
  bind_lastOf_concat ..

/-- What settings leave in a call, part by part. -/
theorem built_eq :
    built l settings =
      { listing := (lastWanted settings).elim l l.withInactive
        page :=
          { maxResults := lastCount settings .maxResults
            pageToken := lastText settings .pageToken }
        options :=
          { fields := lastMask settings
            cacheTag := lastText settings .cacheTag
            deadline := lastCount settings .deadline
            watched := settings.any (·.modifier = .signal) } } := by
  -- from the end, as the last setting decides
  induction settings using List.reverseRec with
  | nil => rfl
  | append_singleton settings s ih =>
    have hstep : built l (settings ++ [s]) = (built l settings).set s := List.foldl_append
    rw [hstep, ih]
    simp only [lastText_concat, lastCount_concat, lastMask_concat, lastWanted_concat,
      List.any_append]
    cases s with
    | option s => cases s <;> simp [set, CallOptions.set, Setting.modifier, Setting.text?,
        Setting.count?, Setting.mask?]
    | inactive b =>
      cases lastWanted settings <;>
        simp [set, Setting.modifier, Setting.wanted?, Listing.withInactive_withInactive]
    | _ => simp [set, Setting.modifier, Setting.text?, Setting.count?]

/-- The pairs of a request for the page of a token. -/
def pagePairs (token : Option String) : List (String × String) :=
  ((lastWanted settings).filter fun _ => l.offersInactive).toList.map
      (fun wanted => ("includeInactive", boolText wanted)) ++
    (lastCount settings .maxResults).toList.map
      (fun n => ("maxResults",
        natText (min n (if l.endpoint = .savedReports then 100 else 10000)))) ++
    (token.filter (· ≠ "")).toList.map ("pageToken", ·) ++
    ((lastMask settings).filter fun m => m.selectors.any (· ≠ "")).toList.map
      fun m => ("fields", m.toText)

theorem request_built (hnew : l.inactive = none) (token : Option String) :
    (built l settings).request token = { l.endpoint.request with
      query := ⟨pagePairs l settings token⟩
      cacheTag := lastText settings .cacheTag
      deadline := lastCount settings .deadline } := by
  have hlisting : ((lastWanted settings).elim l l.withInactive).endpoint = l.endpoint ∧
      ((lastWanted settings).elim l l.withInactive).inactive =
        (lastWanted settings).filter fun _ => l.offersInactive := by
    cases lastWanted settings with
    | none => exact ⟨rfl, hnew⟩
    | some b =>
      refine ⟨l.endpoint_withInactive b, (l.inactive_withInactive b).trans ?_⟩
      cases l.offersInactive <;> rfl
  rw [request_eq, leading, trailing, FieldMask.pairs_eq, built_eq]
  simp only [hlisting, Listing.ceiling_eq, pagePairs, tokenPairs, Option.toList_map, List.map_map,
    List.tail_cons]
  rfl

/-- What a request for a page carries: each pair that was set, once and in a fixed order, the
identifiers under the names that the template has for them, and what was set last besides. -/
structure Carries (token : Option String) (r : Request) : Prop where
  pairs : r.query.pairs = pagePairs l settings token
  keys : (r.query.pairs.map Prod.fst).Sublist
    ["includeInactive", "maxResults", "pageToken", "fields"]
  template : r.template = l.endpoint.template
  names : (templatePieces r.template).filterMap PathPiece.name? = r.bindings.map Prod.fst
  identifiers : r.bindings.map Prod.snd = l.identifiers
  cacheTag : r.cacheTag = lastText settings .cacheTag
  deadline : r.deadline = lastCount settings .deadline

/-- A key that stands in front of at most one pair. -/
theorem sublist_key {β : Type} (o : Option β) (f : β → String × String) (key : String)
    (hkey : ∀ b, (f b).1 = key) : ((o.toList.map f).map Prod.fst).Sublist [key] := by
  cases o with
  | none => exact List.nil_sublist _
  | some b =>
    rw [Option.toList_some, List.map_singleton, List.map_singleton, hkey]

theorem sublist_keys (token : Option String) :
    ((pagePairs l settings token).map Prod.fst).Sublist
      ["includeInactive", "maxResults", "pageToken", "fields"] := by
  rw [pagePairs, List.map_append, List.map_append, List.map_append]
  -- one key for each of the four optional pairs
  exact (((sublist_key _ _ "includeInactive" fun _ => rfl).append
    (sublist_key _ _ "maxResults" fun _ => rfl)).append
    (sublist_key _ _ "pageToken" fun _ => rfl)).append (sublist_key _ _ "fields" fun _ => rfl)

/-- A call starts from a listing on which nothing is set. Its request for a page carries what was
set last of each kind and nothing else, and settings of different kinds may come in any order. -/
theorem carries_of_settings (hnew : l.inactive = none) (token : Option String) :
    Carries l settings token ((built l settings).request token) ∧
    (∀ settings', (∀ m, lastOf Setting.modifier m settings' = lastOf Setting.modifier m settings) →
      (built l settings').request token = (built l settings).request token) ∧
    ∀ before s t after, settings = before ++ s :: t :: after → s.modifier ≠ t.modifier →
      (built l (before ++ t :: s :: after)).request token = (built l settings).request token := by
  have hlast : ∀ settings',
      (∀ m, lastOf Setting.modifier m settings' = lastOf Setting.modifier m settings) →
      (built l settings').request token = (built l settings).request token := by
    intro settings' h
    simp only [request_built _ _ hnew, pagePairs, lastText, lastCount, lastMask, lastWanted, h]
  refine ⟨?_, hlast, ?_⟩
  · rw [request_built l settings hnew]
    exact {
      pairs := rfl
      keys := sublist_keys l settings token
      template := rfl
      names := l.endpoint.names_eq
      identifiers := l.identifiers_eq
      cacheTag := rfl
      deadline := rfl }
  · rintro before s t after rfl hne
    refine hlast _ fun m => ?_
    exact (agreeByKind_swap hne before after).lastOf_eq m |>.symm

end

/-- Settings with two counts, two wishes, two masks and a token that is not the page's. -/
def mixedSettings : List Setting :=
  [.maxResults 7, .inactive true, .option (.fields (.ofText "kind")), .pageToken "later",
    .maxResults 20000, .option (.cacheTag "v1"), .inactive false,
    .option (.fields (.ofList ["", "items"])), .option (.deadline 250)]

theorem carries_of_settings_mixed :
    (Listing.channelUnits "ca-1" "1:2" none).inactive = none ∧
    ((built (.channelUnits "ca-1" "1:2" none) mixedSettings).request (some "t&1")).query.pairs =
      [("includeInactive", "false"), ("maxResults", "10000"), ("pageToken", "t&1"),
        ("fields", "items")] ∧
    ((built (.channelUnits "ca-1" "1:2" none) mixedSettings).request (some "t&1")).deadline =
      some 250 ∧
    ((built .savedReports mixedSettings).request (some "")).query.pairs =
      [("maxResults", "100"), ("fields", "items")] := by
  have hnew : (Listing.channelUnits "ca-1" "1:2" none).inactive = none := rfl
  have hunits := (carries_of_settings (.channelUnits "ca-1" "1:2" none) mixedSettings hnew
    (some "t&1")).1
  have hsaved := (carries_of_settings .savedReports mixedSettings rfl (some "")).1
  refine ⟨hnew, hunits.pairs.trans ?_, hunits.deadline.trans rfl, hsaved.pairs.trans ?_⟩
  · decide +kernel
  · decide +kernel

end ListCall
end SellerApi
