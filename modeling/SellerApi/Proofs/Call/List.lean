import SellerApi.Call.List
import SellerApi.Proofs.Client.Sending

/-! # Requests of a listing

The requests for the pages of one listing differ in the pair of the token only, and so do their
messages (`ListCall.sends`).
-/

namespace SellerApi

open SellerApi.Http SellerApi.Text SellerApi.Url

theorem Query.pairs_pushOption (q : Query) (key : String) (value : Option String) :
    (q.pushOption key value).pairs = q.pairs ++ value.toList.map (key, ·) := by
  cases value with
  | none => simp [pushOption]
  | some v => rfl

theorem Query.pairs_pushCount (q : Query) (key : String) (ceiling : Nat) (n : Option Nat) :
    (q.pushCount key ceiling n).pairs =
      q.pairs ++ n.toList.map fun n => (key, natText (min n ceiling)) := by
  cases n with
  | none => exact (List.append_nil _).symm
  | some n => rfl

/-- The pairs of a mask. -/
def FieldMask.pairs : Option FieldMask → List (String × String)
  | some mask => if mask.isEmpty then [] else [("fields", mask.toText)]
  | none => []

/-- A mask makes a pair if it has a selector that is not empty. -/
theorem FieldMask.pairs_eq (mask : Option FieldMask) :
    pairs mask = (mask.filter fun m => m.selectors.any (· ≠ "")).toList.map
      fun m => ("fields", m.toText) := by
  cases mask with
  | none => rfl
  | some m =>
    have hany : (m.selectors.any fun s => s ≠ "") = !m.isEmpty := by
      rw [isEmpty]
      cases hs : m.selectors with
      | nil => rfl
      | cons s rest =>
        have hne : s ≠ "" := m.ne_empty s (by simp [hs])
        simp [hne]
    rw [Option.filter_some, hany, pairs]
    cases m.isEmpty <;> rfl

/-- A mask changes nothing of a request but its query. -/
theorem Request.select_eq (r : Request) (mask : Option FieldMask) :
    r.select mask = { r with query := ⟨r.query.pairs ++ FieldMask.pairs mask⟩ } := by
  cases mask with
  | none => simp [select, FieldMask.pairs]
  | some m =>
    by_cases h : m.isEmpty
    · simp [select, FieldMask.pairs, h]
    · simp [select, FieldMask.pairs, h, Query.push]

/-- The pair of a page token. -/
def tokenPairs (token : Option String) : List (String × String) :=
  token.toList.map ("pageToken", ·)

namespace ListCall

variable {α : Type} (call : ListCall α)

/-- The pairs in front of the page token. -/
def leading : List (String × String) :=
  ("alt", "json") :: ((call.listing.inactive.map boolText).toList.map ("includeInactive", ·) ++
    (call.page.maxResults.map fun n => natText (clamp call.listing.ceiling n)).toList.map
      ("maxResults", ·))

/-- The pairs behind it. -/
def trailing : List (String × String) := FieldMask.pairs call.options.fields

/-- The token of the first request; an empty one counts as none. -/
def firstToken : Option String := call.page.pageToken.filter (· ≠ "")

theorem firstToken_ne_empty : call.firstToken ≠ some "" := by
  rw [firstToken, Ne, Option.filter_eq_some_iff]
  simp

/-- The request for a page, part by part. -/
theorem request_eq (token : Option String) :
    call.request token = { call.listing.endpoint.request with
      query := ⟨call.leading.tail ++ tokenPairs (token.filter (· ≠ "")) ++ call.trailing⟩
      cacheTag := call.options.cacheTag
      deadline := call.options.deadline } := by
  simp only [request, CallOptions.apply, Request.select_eq, PageOptions.apply, Query.pushCount,
    Query.pairs_pushOption, leading, trailing, tokenPairs, List.tail_cons]
  rfl

theorem watched_request (token : Option String) : (call.request token).watched = false := by
  rw [request_eq]
  rfl

theorem filter_of_ne_empty {token : Option String} (h : token ≠ some "") :
    token.filter (· ≠ "") = token := by
  cases token with
  | none => rfl
  | some t => simpa using h

variable {call}

end ListCall
end SellerApi
