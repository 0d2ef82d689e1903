import SellerApi.Call.Endpoint
import SellerApi.Call.Options
import SellerApi.Resource.Page

/-! # Calls for lists

A `Listing` says which list is wanted and what its items are; a `ListCall` is a listing with its
options. `ListCall.request` is the request for one page of it. -/

namespace SellerApi

open SellerApi.Resource

/-- The lists that the server offers, by the type of their items. Inactive resources are asked for
only where a listing knows them. -/
inductive Listing : Type → Type where
  | adClients : Listing AdClient
  | adUnits (client : String) (inactive : Option Bool) : Listing AdUnit
  | unitChannels (client unit : String) : Listing CustomChannel
  | channels (client : String) : Listing CustomChannel
  | channelUnits (client channel : String) (inactive : Option Bool) : Listing AdUnit
  | urlChannels (client : String) : Listing UrlChannel
  | savedReports : Listing SavedReport

namespace Listing

def endpoint {α : Type} : Listing α → Endpoint
  | .adClients => .adClients
  | .adUnits client _ => .adUnits client
  | .unitChannels client unit => .unitChannels client unit
  | .channels client => .channels client
  | .channelUnits client channel _ => .channelUnits client channel
  | .urlChannels client => .urlChannels client
  | .savedReports => .savedReports

/-- Whether inactive resources are wanted. -/
def inactive {α : Type} : Listing α → Option Bool
  | .adUnits _ inactive | .channelUnits _ _ inactive => inactive
  | _ => none

/-- The listing with or without inactive resources, where it knows any. -/
def withInactive {α : Type} (wanted : Bool) : Listing α → Listing α
  | .adUnits client _ => .adUnits client (some wanted)
  | .channelUnits client channel _ => .channelUnits client channel (some wanted)
  | l => l

/-- The most items on one page. -/
def ceiling {α : Type} : Listing α → Nat
  | .savedReports => maxSavedReports
  | _ => maxListResults

end Listing

/-- A call for a list. -/
structure ListCall (α : Type) where
  listing : Listing α
  page : PageOptions := {}
  options : CallOptions := {}

namespace ListCall

variable {α : Type}

/-- A truth value in a query. -/
def boolText (b : Bool) : String := if b then "true" else "false"

/-- The request for the page of a token, or for the first page. -/
def request (c : ListCall α) (token : Option String) : Request :=
  let r := c.listing.endpoint.request
  let r := { r with
    query := r.query.pushOption "includeInactive" (c.listing.inactive.map boolText) }
  c.options.apply (c.page.apply c.listing.ceiling token r)

/-- One setting of a call for a list. -/
inductive Setting where
  | option (s : CallOptions.Setting)
  | maxResults (n : Nat)
  | pageToken (token : String)
  | inactive (wanted : Bool)

/-- The call with one thing set anew. -/
def set (c : ListCall α) : Setting → ListCall α
  | .option s => { c with options := c.options.set s }
  | .maxResults n => { c with page := { c.page with maxResults := some n } }
  | .pageToken token => { c with page := { c.page with pageToken := some token } }
  | .inactive wanted => { c with listing := c.listing.withInactive wanted }

end ListCall

/-- The resources that are fetched one by one, by their type. -/
inductive Lookup : Type → Type where
  | adUnit (client unit : String) : Lookup AdUnit
  | channel (client channel : String) : Lookup CustomChannel

def Lookup.endpoint {α : Type} : Lookup α → Endpoint
  | .adUnit client unit => .adUnit client unit
  | .channel client id => .channel client id

/-- A call for one resource. -/
structure GetCall (α : Type) where
  lookup : Lookup α
  options : CallOptions := {}

def GetCall.request {α : Type} (c : GetCall α) : Request :=
  c.options.apply c.lookup.endpoint.request

/-- The call with one thing set anew. -/
def GetCall.set {α : Type} (c : GetCall α) (s : CallOptions.Setting) : GetCall α :=
  { c with options := c.options.set s }

end SellerApi
