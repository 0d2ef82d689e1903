import SellerApi.Call.List
import SellerApi.Call.Report
import SellerApi.Client.Basic
import SellerApi.Report.Basic

/-! # Sending calls

What a call does when it is sent: its request is made and checked, one fetch follows, and a report
that was received is checked before it is handed out. `Call` puts the calls of all methods
together. -/

namespace SellerApi

open SellerApi.Http SellerApi.Resource

/-- A request that ends with the caller's signal if its call does. -/
def CallOptions.watch (o : CallOptions) (r : Request) : Request := { r with watched := o.watched }

/-- Fetches the page that the call names. -/
def ListCall.send {α : Type} [Wire α] (call : ListCall α) (c : Client) (l : Link) :
    Except Failure (Answer (Page α)) × Link :=
  c.fetchJson (call.options.watch (call.request call.page.pageToken)) l

def GetCall.send {α : Type} [Wire α] (call : GetCall α) (c : Client) (l : Link) :
    Except Failure (Answer α) × Link :=
  c.fetchJson (call.options.watch call.request) l

/-- A report that was received, if its rows fit its columns. -/
def checkedReport (a : Answer Report) : Except Failure (Answer Report) :=
  a.payload.check.map fun _ => a

/-- Fetches a report by a request that may be refused beforehand. -/
def Client.fetchReport (c : Client) (o : CallOptions) (request : Except Failure Request)
    (l : Link) :
    Except Failure (Answer Report) × Link :=
  match request with
  | .error f => (.error f, l)
  | .ok r =>
    let (result, l) := c.fetchJson (α := Report) (o.watch r) l
    (result.bind checkedReport, l)

def ReportCall.send (call : ReportCall) (c : Client) (l : Link) :
    Except Failure (Answer Report) × Link :=
  c.fetchReport call.options call.request l

/-- Fetches a report as raw content. -/
def ReportCall.download (call : ReportCall) (c : Client) (l : Link) :
    Except Failure Download × Link :=
  match call.request with
  | .error f => (.error f, l)
  | .ok r => c.fetchMedia (call.options.watch r) l

def SavedReportCall.send (call : SavedReportCall) (c : Client) (l : Link) :
    Except Failure (Answer Report) × Link :=
  c.fetchReport call.options call.request l

/-! ## Calls of any method -/

inductive Call : Type 1 where
  | list {α : Type} [Wire α] (call : ListCall α)
  | lookup {α : Type} [Wire α] (call : GetCall α)
  | report (call : ReportCall)
  /-- A report as raw content. -/
  | download (call : ReportCall)
  | savedReport (call : SavedReportCall)

namespace Call

/-- What a call comes to if it succeeds. -/
def Result : Call → Type
  | @list α _ _ => Answer (Page α)
  | @lookup α _ _ => Answer α
  | .report _ | .savedReport _ => Answer Report
  | .download _ => Download

def endpoint : Call → Endpoint
  | @list _ _ call => call.listing.endpoint
  | @lookup _ _ call => call.lookup.endpoint
  | .report _ | .download _ => .report
  | .savedReport call => .savedReport call.id

def options : Call → CallOptions
  | @list _ _ call => call.options
  | @lookup _ _ call => call.options
  | .report call | .download call => call.options
  | .savedReport call => call.options

def send : (call : Call) → Client → Link → Except Failure call.Result × Link
  | @list _ _ call => call.send
  | @lookup _ _ call => call.send
  | .report call => call.send
  | .download call => call.download
  | .savedReport call => call.send

end Call
end SellerApi
