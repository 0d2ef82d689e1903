import SellerApi.Json.Record

/-! # Inventory

The resources of an account: ad clients, ad units, channels and saved reports. Every field is
optional on the wire. A field that has no value is not written. -/

namespace SellerApi.Resource

open SellerApi.Json

/-- One product that the account sells through. -/
structure AdClient where
  kind : Option String := none
  id : Option String := none
  arcOptIn : Option Bool := none
  productCode : Option String := none
  supportsReporting : Option Bool := none
  deriving DecidableEq, Repr

/-- How active an ad unit has been. -/
inductive Activity where
  /-- Created in the last seven days, no activity yet. -/
  | fresh
  /-- Activity in the last seven days. -/
  | active
  /-- No activity in the last seven days. -/
  | inactive
  /-- A word that this library does not know. -/
  | other (word : String)
  deriving DecidableEq, Repr

structure AdUnit where
  kind : Option String := none
  /-- Unique within the ad client. -/
  id : Option String := none
  code : Option String := none
  name : Option String := none
  status : Option Activity := none
  deriving DecidableEq, Repr

/-- How a channel that can be targeted presents itself to advertisers. -/
structure Targeting where
  adsAppearOn : Option String := none
  description : Option String := none
  location : Option String := none
  siteLanguage : Option String := none
  deriving DecidableEq, Repr

structure CustomChannel where
  kind : Option String := none
  /-- Unique within the ad client. -/
  id : Option String := none
  code : Option String := none
  name : Option String := none
  targeting : Option Targeting := none
  deriving DecidableEq, Repr

structure UrlChannel where
  kind : Option String := none
  /-- Unique within the ad client. -/
  id : Option String := none
  urlPattern : Option String := none
  deriving DecidableEq, Repr

/-- A report definition stored on the server. -/
structure SavedReport where
  kind : Option String := none
  id : Option String := none
  name : Option String := none
  deriving DecidableEq, Repr

def AdClient.ofNode? (n : Node) : Option AdClient := do
  let [kind, id, arcOptIn, productCode, supportsReporting] ←
    n.fields? ["kind", "id", "arcOptIn", "productCode", "supportsReporting"] | none
  return {
    kind := ← optional Node.text? kind
    id := ← optional Node.text? id
    arcOptIn := ← optional Node.bool? arcOptIn
    productCode := ← optional Node.text? productCode
    supportsReporting := ← optional Node.bool? supportsReporting }

def AdClient.toValue (c : AdClient) : Value :=
  recordOf [whenSome "kind" .text c.kind, whenSome "id" .text c.id,
    whenSome "arcOptIn" .bool c.arcOptIn, whenSome "productCode" .text c.productCode,
    whenSome "supportsReporting" .bool c.supportsReporting]

namespace Activity

/-- The word on the wire. -/
def word : Activity → String
  | .fresh => "NEW"
  | .active => "ACTIVE"
  | .inactive => "INACTIVE"
  | .other w => w

def ofWord (w : String) : Activity :=
  if w = "NEW" then .fresh
  else if w = "ACTIVE" then .active
  else if w = "INACTIVE" then .inactive
  else .other w

def isOther : Activity → Bool
  | .other _ => true
  | _ => false

/-- Every word reads back. -/
@[simp] theorem word_ofWord (w : String) : (ofWord w).word = w := by
  unfold ofWord
  split
  · simp_all [word]
  · split
    · simp_all [word]
    · split <;> simp_all [word]

def ofNode? (n : Node) : Option Activity := n.text?.map ofWord

def toValue (a : Activity) : Value := .text a.word

end Activity

def AdUnit.ofNode? (n : Node) : Option AdUnit := do
  let [kind, id, code, name, status] ← n.fields? ["kind", "id", "code", "name", "status"] | none
  return {
    kind := ← optional Node.text? kind
    id := ← optional Node.text? id
    code := ← optional Node.text? code
    name := ← optional Node.text? name
    status := ← optional Activity.ofNode? status }

def AdUnit.toValue (u : AdUnit) : Value :=
  recordOf [whenSome "kind" .text u.kind, whenSome "id" .text u.id, whenSome "code" .text u.code,
    whenSome "name" .text u.name, whenSome "status" Activity.toValue u.status]

def Targeting.ofNode? (n : Node) : Option Targeting := do
  let [adsAppearOn, description, location, siteLanguage] ←
    n.fields? ["adsAppearOn", "description", "location", "siteLanguage"] | none
  return {
    adsAppearOn := ← optional Node.text? adsAppearOn
    description := ← optional Node.text? description
    location := ← optional Node.text? location
    siteLanguage := ← optional Node.text? siteLanguage }

def Targeting.toValue (t : Targeting) : Value :=
  recordOf [whenSome "adsAppearOn" .text t.adsAppearOn,
    whenSome "description" .text t.description, whenSome "location" .text t.location,
    whenSome "siteLanguage" .text t.siteLanguage]

def CustomChannel.ofNode? (n : Node) : Option CustomChannel := do
  let [kind, id, code, name, targeting] ←
    n.fields? ["kind", "id", "code", "name", "targetingInfo"] | none
  return {
    kind := ← optional Node.text? kind
    id := ← optional Node.text? id
    code := ← optional Node.text? code
    name := ← optional Node.text? name
    targeting := ← optional Targeting.ofNode? targeting }

def CustomChannel.toValue (c : CustomChannel) : Value :=
  recordOf [whenSome "kind" .text c.kind, whenSome "id" .text c.id, whenSome "code" .text c.code,
    whenSome "name" .text c.name, whenSome "targetingInfo" Targeting.toValue c.targeting]

def UrlChannel.ofNode? (n : Node) : Option UrlChannel := do
  let [kind, id, urlPattern] ← n.fields? ["kind", "id", "urlPattern"] | none
  return {
    kind := ← optional Node.text? kind
    id := ← optional Node.text? id
    urlPattern := ← optional Node.text? urlPattern }

def UrlChannel.toValue (c : UrlChannel) : Value :=
  recordOf [whenSome "kind" .text c.kind, whenSome "id" .text c.id,
    whenSome "urlPattern" .text c.urlPattern]

def SavedReport.ofNode? (n : Node) : Option SavedReport := do
  let [kind, id, name] ← n.fields? ["kind", "id", "name"] | none
  return {
    kind := ← optional Node.text? kind
    id := ← optional Node.text? id
    name := ← optional Node.text? name }

def SavedReport.toValue (r : SavedReport) : Value :=
  recordOf [whenSome "kind" .text r.kind, whenSome "id" .text r.id, whenSome "name" .text r.name]

end SellerApi.Resource
