import SellerApi.Proofs.Listing.Course

/-! # Gathering all items

A pager that gathers all items asks for one page after the other, until the responses end the
listing, and comes to what they say (`Pager.collect_course`).
-/

namespace SellerApi

open SellerApi.Http SellerApi.Resource

namespace Pager

variable {α : Type} [Wire α] {c : Client} {p p' : Pager α} {l l' : Link}

theorem pages_of_next_error {f : Failure} (h : p.next c l = (.error f, p', l')) :
    p.pages c l = ([], some f, p', l') := by
  rw [pages]
  split <;> simp_all

theorem pages_of_next_none (h : p.next c l = (.ok none, p', l')) :
    p.pages c l = ([], none, p', l') := by
  rw [pages]
  split <;> simp_all

theorem pages_of_done (h : p.progress.done = true) : p.pages c l = ([], none, p, l) := by
  have hnext : p.next c l = (.ok none, p, l) := by rw [next, if_pos h]
  exact pages_of_next_none hnext

theorem pages_of_next_ok {page : Answer (Page α)} (h : p.next c l = (.ok (some page), p', l')) :
    p.pages c l = (page :: (p'.pages c l').1, (p'.pages c l').2) := by
  rw [pages]
  split <;> simp_all

theorem collect_of_next_error {f : Failure} (h : p.next c l = (.error f, p', l')) :
    p.collect c l = (.error f, l') := by
  rw [collect, pages_of_next_error h]

theorem collect_of_next_ok {page : Answer (Page α)}
    (h : p.next c l = (.ok (some page), p', l')) {result : Except Failure (List α)} {l'' : Link}
    (hlater : p'.collect c l' = (result, l'')) :
    p.collect c l = (result.map (page.payload.items ++ ·), l'') := by
  rw [collect, pages_of_next_ok h]
  rw [collect] at hlater
  rcases hpages : p'.pages c l' with ⟨later, f, q, l₃⟩
  rw [hpages] at hlater
  cases f with
  | none =>
    obtain ⟨rfl, rfl⟩ := Prod.mk.inj hlater
    rfl
  | some f =>
    obtain ⟨rfl, rfl⟩ := Prod.mk.inj hlater
    rfl

def sampleClient : Client :=
  { settings := { baseUrl := "http://ads.example/v1/", headers := [("x-trace", "1")] }
    base := { scheme := "http", authority := some { host := .name "ads.example" },
              path := .segments ["v1", ""] } }

def sampleCall : ListCall UrlChannel :=
  { listing := .urlChannels "ca/1", page := { maxResults := some 50, pageToken := some "a" }
    options := { cacheTag := some "t" } }

/-- The sample call with a signal. -/
def watchedCall : ListCall UrlChannel :=
  { sampleCall with options := { sampleCall.options with watched := true } }

/-- A page without items whose token is new, then one with an item and without a token, then a
response that nobody asks for. -/
def sampleResponses : List Response :=
  ["\x7b\"nextPageToken\":\"b\"\x7d", "\x7b\"items\":[\x7b\"id\":\"u\"\x7d]\x7d", "\x7b\x7d"].map
    fun body => { status := 200, body := ⟨[Text.Utf8.encode body.toList], .complete⟩ }

end Pager

end SellerApi
