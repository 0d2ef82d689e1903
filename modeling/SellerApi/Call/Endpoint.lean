import SellerApi.Request.Basic

/-! # Endpoints

The eleven methods that the server offers, with the identifiers that each one takes. -/

namespace SellerApi

/-- A method of the server and its identifiers. -/
inductive Endpoint where
  | adClients
  | adUnits (client : String)
  | adUnit (client unit : String)
  /-- The custom channels that hold an ad unit. -/
  | unitChannels (client unit : String)
  | channels (client : String)
  | channel (client channel : String)
  /-- The ad units in a custom channel. -/
  | channelUnits (client channel : String)
  | urlChannels (client : String)
  | savedReports
  | report
  | savedReport (id : String)
  deriving DecidableEq, Repr

namespace Endpoint

/-- The name of a method within the service. -/
def name : Endpoint → String
  | .adClients => "adclients.list"
  | .adUnits _ => "adunits.list"
  | .adUnit .. => "adunits.get"
  | .unitChannels .. => "adunits.customchannels.list"
  | .channels _ => "customchannels.list"
  | .channel .. => "customchannels.get"
  | .channelUnits .. => "customchannels.adunits.list"
  | .urlChannels _ => "urlchannels.list"
  | .savedReports => "reports.saved.list"
  | .report => "reports.generate"
  | .savedReport _ => "reports.saved.generate"

/-- The template of a method's path. -/
def template : Endpoint → String
  | .adClients => "adclients"
  | .adUnits _ => "adclients/\x7badClientId\x7d/adunits"
  | .adUnit .. => "adclients/\x7badClientId\x7d/adunits/\x7badUnitId\x7d"
  | .unitChannels .. => "adclients/\x7badClientId\x7d/adunits/\x7badUnitId\x7d/customchannels"
  | .channels _ => "adclients/\x7badClientId\x7d/customchannels"
  | .channel .. => "adclients/\x7badClientId\x7d/customchannels/\x7bcustomChannelId\x7d"
  | .channelUnits .. =>
    "adclients/\x7badClientId\x7d/customchannels/\x7bcustomChannelId\x7d/adunits"
  | .urlChannels _ => "adclients/\x7badClientId\x7d/urlchannels"
  | .savedReports => "reports/saved"
  | .report => "reports"
  | .savedReport _ => "reports/\x7bsavedReportId\x7d"

/-- The identifiers by the names that the template has for them. -/
def bindings : Endpoint → Bindings
  | .adUnits client | .channels client | .urlChannels client => [("adClientId", client)]
  | .adUnit client unit | .unitChannels client unit => [("adClientId", client), ("adUnitId", unit)]
  | .channel client id | .channelUnits client id =>
    [("adClientId", client), ("customChannelId", id)]
  | .savedReport id => [("savedReportId", id)]
  | .adClients | .savedReports | .report => []

/-- A request that sets nothing but the identifiers. -/
def request (e : Endpoint) : Request :=
  { method := "adexchangeseller." ++ e.name, template := e.template, bindings := e.bindings }

end Endpoint
end SellerApi
