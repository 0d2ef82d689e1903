import SellerApi.Call.Send
import SellerApi.Command.Invocation
import SellerApi.Json.Writer
import SellerApi.Listing.Pager
import SellerApi.Report.Csv
import SellerApi.Report.JsonLines
import SellerApi.Settings.Yaml
import SellerApi.Storage.Disk

/-! # Running a command

What a task does: it makes settings and a client, fetches, and writes what it got to the output file
or the standard output. Nothing is written before everything is fetched. A resource that did not
change is no failure; the user is told. -/

namespace SellerApi.Command

open SellerApi.Http SellerApi.Json SellerApi.Resource SellerApi.Text

/-- How much a line of the log matters. -/
inductive Severity where
  | info
  | warning
  deriving DecidableEq, Repr

/-- All that a run can see and change. -/
structure Session where
  disk : Disk := {}
  link : Link := {}
  /-- What was written to the standard output. -/
  stdout : List UInt8 := []
  /-- What was written to the standard error output, the log aside. -/
  stderr : String := ""
  log : List (Severity × String) := []

/-- A step of a run, which may fail. What it did before it failed stays done. -/
abbrev Run (α : Type) := Session → Except Failure α × Session

namespace Run

variable {α β : Type}

def pure (x : α) : Run α := fun s => (.ok x, s)

def fail (f : Failure) : Run α := fun s => (.error f, s)

/-- One step after another, unless the first one fails. -/
def bind (step : Run α) (next : α → Run β) : Run β := fun s =>
  match step s with
  | (.ok x, s) => next x s
  | (.error f, s) => (.error f, s)

instance : Monad Run where
  pure := Run.pure
  bind := Run.bind

/-- A step that looks at nothing. -/
def ofExcept (r : Except Failure α) : Run α := fun s => (r, s)

/-- Writes a line to the log. -/
def log (severity : Severity) (line : String) : Run Unit := fun s =>
  (.ok (), { s with log := s.log ++ [(severity, line)] })

def info (line : String) : Run Unit := log .info line

def warn (line : String) : Run Unit := log .warning line

/-- An exchange with the server. -/
def onLink (step : Link → Except Failure α × Link) : Run α := fun s =>
  let (r, link) := step s.link
  (r, { s with link })

/-- A step on the disk. -/
def onDisk (step : Disk → Except Failure α × Disk) : Run α := fun s =>
  let (r, disk) := step s.disk
  (r, { s with disk })

end Run

/-! ## Output -/

/-- Where text goes: a file, or the standard output. -/
abbrev Sink := Option String

/-- Opens a sink: a file is created, or emptied. -/
def openSink : Sink → Run Unit
  | none => .pure ()
  | some path => .onDisk fun d =>
    match d.create path with
    | .ok d => (.ok (), d)
    | .error f =>
      (.error ((Failure.storage f.message).within
        ("Failed to create output file '" ++ path ++ "'")), d)

/-- Writes octets to an open sink. -/
def writeOctets (sink : Sink) (octets : List UInt8) : Run Unit := fun s =>
  match sink with
  | none => (.ok (), { s with stdout := s.stdout ++ octets })
  | some path => (.ok (), { s with disk := s.disk.put path (.octets octets) })

/-- Writes a text to an open sink. -/
def writeText (sink : Sink) (text : String) : Run Unit := writeOctets sink (Utf8.encode text.toList)

namespace Invocation

/-- Writes one value as JSON and ends the line. The sink is opened before the format is looked
at. -/
def emitValue (i : Invocation) (v : Value) : Run Unit := do
  openSink i.output
  match i.format with
  | .json | .jsonl => writeText i.output (v.toText ++ "\n")
  | .pretty => writeText i.output (v.toPrettyText ++ "\n")
  | .csv | .parquet =>
    .fail (.output (i.format.describe ++ " output is only available for reports"))

/-- Writes values, each on a line of its own or all as one list. -/
def emitItems (i : Invocation) (vs : List Value) : Run Unit := do
  if i.format = .jsonl then
    openSink i.output
    writeText i.output (String.join (vs.map fun v => v.toText ++ "\n"))
  else i.emitValue (.list vs)

/-- Writes a text that may fail to be made, after the sink is opened. -/
def emitText (i : Invocation) (text : Except Failure String) : Run Unit := do
  openSink i.output
  writeText i.output (← Run.ofExcept text)

/-- Writes a report. -/
def emitReport (i : Invocation) (settings : Settings) (r : Report) : Run Unit :=
  match i.format with
  | .json | .pretty => i.emitValue r.toValue
  | .csv => i.emitText r.toCsv
  | .jsonl => i.emitText r.toJsonLines
  | .parquet =>
    match i.output with
    | none => .fail (.output "Parquet format requires an --output file")
    | some path => do
      let parquet ← Run.ofExcept settings.parquet
      let rows ← Run.onDisk (r.saveParquet parquet path)
      Run.info ("Wrote " ++ natText rows ++ " rows to " ++ path)

/-- Copies raw content to a sink. Octets before a fault are kept. -/
def emitDownload (i : Invocation) (d : Download) : Run Unit := do
  openSink i.output
  let (count, octets) := d.copy
  writeOctets i.output octets
  let written ← Run.ofExcept count
  match i.output with
  | some path => Run.info ("Wrote " ++ natText written ++ " bytes to " ++ path)
  | none => .pure ()

end Invocation

/-! ## Calls -/

/-- The options of a call. -/
def Fetching.options (f : Fetching) : CallOptions :=
  { fields := f.fields.map FieldMask.ofText
    cacheTag := f.ifNoneMatch
    deadline := f.timeoutSeconds.map (1000 * ·) }

/-- The options of a call for a list; the size of a page may come from the settings. -/
def Paging.options (p : Paging) (pageSize : Option Nat) : PageOptions :=
  ⟨p.maxResults.or pageSize, p.pageToken⟩

/-- A call for a list. -/
def listCall {α : Type} (listing : Listing α) (p : Paging) (f : Fetching) (pageSize : Option Nat) :
    ListCall α :=
  { listing, page := p.options pageSize, options := f.options }

namespace Invocation

variable {α : Type} [Wire α]

/-- Fetches one page of a list, or all items, and writes them. -/
def runList (i : Invocation) (c : Client) (call : ListCall α) (all : Bool) : Run Unit := do
  let pager := Pager.start call
  if all then
    let items ← Run.onLink (pager.collect c)
    Run.info ("Fetched " ++ natText items.length ++ " items")
    i.emitItems (items.map Wire.toValue)
  else
    let page ← Run.onLink fun l =>
      let (r, _, l) := pager.next c l
      (r, l)
    match page with
    | none => .pure ()
    | some page =>
      if let some token := page.payload.nextPageToken then
        Run.info ("More results available: --page-token " ++ token)
      if i.format = .jsonl then i.emitItems (page.payload.items.map Wire.toValue)
      else i.emitValue page.payload.toValue

/-- Fetches one resource and writes it. -/
def runGet (i : Invocation) (c : Client) (lookup : Lookup α) (f : Fetching) : Run Unit := do
  let call : GetCall α := { lookup, options := f.options }
  let answer ← Run.onLink (call.send c)
  i.emitValue (Wire.toValue answer.payload)

/-- Carries out the task with a client. -/
def dispatch (i : Invocation) (settings : Settings) (c : Client) : Run Unit :=
  let pageSize := settings.pageSize
  match i.task with
  | .adClients p f => i.runList c (listCall .adClients p f pageSize) p.all
  | .adUnits client inactive p f =>
    i.runList c (listCall (.adUnits client inactive) p f pageSize) p.all
  | .adUnit client unit f => i.runGet c (.adUnit client unit) f
  | .unitChannels client unit p f =>
    i.runList c (listCall (.unitChannels client unit) p f pageSize) p.all
  | .channels client p f => i.runList c (listCall (.channels client) p f pageSize) p.all
  | .channel client id f => i.runGet c (.channel client id) f
  | .channelUnits client id inactive p f =>
    i.runList c (listCall (.channelUnits client id inactive) p f pageSize) p.all
  | .urlChannels client p f => i.runList c (listCall (.urlChannels client) p f pageSize) p.all
  | .savedReports p f => i.runList c (listCall .savedReports p f pageSize) p.all
  | .report start finish dimensions metrics filters sorts window download f => do
    let call : ReportCall :=
      { startDate := start, endDate := finish, dimensions, metrics, filters, sorts, window
        options := f.options }
    if download then i.emitDownload (← Run.onLink (call.download c))
    else
      let answer ← Run.onLink (call.send c)
      Run.info ("Generated report: " ++ natText answer.payload.rows.length ++ " rows")
      i.emitReport settings answer.payload
  | .savedReport id window f => do
    let call : SavedReportCall := { id, window, options := f.options }
    let answer ← Run.onLink (call.send c)
    Run.info ("Generated saved report " ++ id ++ ": " ++ natText answer.payload.rows.length ++
      " rows")
    i.emitReport settings answer.payload

/-! ## Settings and the whole run -/

variable [Yaml.Wording]

/-- The settings in a file. A file that is not there is an empty one. -/
def fileSettings (d : Disk) (path : String) : Except Failure Settings :=
  let refused (reason : String) : Except Failure Settings :=
    .error (.settings ("Failed to read config file '" ++ path ++ "': " ++ reason))
  match d.read path with
  | .ok (.octets octets) =>
    match Utf8.text? octets with
    | some text => Settings.ofYaml (String.ofList text)
    | none => refused "stream did not contain valid UTF-8"
  | .ok (.parquet _) => refused "stream did not contain valid UTF-8"
  | .error .missing => .ok {}
  | .error fault => refused fault.message

/-- The settings of a run: the file's, changed by the environment and then by the command line. -/
def settings (i : Invocation) (e : Environment) (d : Disk) : Except Failure Settings := do
  let s ← match i.config with
    | some path => fileSettings d path
    | none => .ok {}
  let s ← s.withEnvironment e
  let s := { s with baseUrl := i.baseUrl.getD s.baseUrl }
  return s.withSecrets i.token i.apiKey

/-- Makes settings and a client and carries out the task. -/
def execute (i : Invocation) (e : Environment) : Run Unit := do
  let settings ← fun s => (i.settings e s.disk, s)
  if let some hint := settings.secrets.hint then Run.warn hint
  if settings.secrets.isAmbiguous then Run.warn Secrets.ambiguityWarning
  let client ← Run.ofExcept (Client.of settings.transport)
  i.dispatch settings { client with credential := settings.credential }

/-- Runs a command: that a resource did not change is told and is no failure. -/
def run (i : Invocation) (e : Environment) (s : Session) : Except Failure Unit × Session :=
  match i.execute e s with
  | (.error (.notModified _), s) => (.ok (), { s with stderr := s.stderr ++ "not modified\n" })
  | done => done

end Invocation
end SellerApi.Command

namespace SellerApi

open SellerApi.Resource

/-- To ask for a list is to have a pager fetch one page or all of them; any other call is sent. Of
the result only is told whether it is there. -/
def Call.gather (all : Bool) (c : Client) (l : Link) : Call → Except Failure Unit × Link
  | @list _ _ call =>
    let pager := Pager.start call
    if all then ((pager.collect c l).1.map fun _ => (), (pager.collect c l).2)
    else ((pager.next c l).1.map fun _ => (), (pager.next c l).2.2)
  | call => ((call.send c l).1.map fun _ => (), (call.send c l).2)

end SellerApi
