import SellerApi.Call.Report
import SellerApi.Command.Grammar
import SellerApi.Text.Description
import SellerApi.Text.Quoted

/-! # Invocations

What a command line asks for: a task with its parameters, and options that hold for every task.
`Invocation.read` takes a command line apart; an option that holds for every task may stand on any
level, and the innermost one counts. -/

namespace SellerApi.Command

open SellerApi.Text

/-- How results are written. -/
inductive OutputFormat where
  | json
  /-- JSON over several lines. -/
  | pretty
  /-- One JSON text per line. -/
  | jsonl
  | csv
  | parquet
  deriving DecidableEq, Repr

namespace OutputFormat

def all : List OutputFormat := [.json, .pretty, .jsonl, .csv, .parquet]

def word : OutputFormat → String
  | .json => "json"
  | .pretty => "pretty"
  | .jsonl => "jsonl"
  | .csv => "csv"
  | .parquet => "parquet"

def describe : OutputFormat → String
  | .json => "Json"
  | .pretty => "Pretty"
  | .jsonl => "Jsonl"
  | .csv => "Csv"
  | .parquet => "Parquet"

def ofWord? (w : String) : Option OutputFormat := all.find? (·.word = w)

end OutputFormat

/-- Which part of a list is wanted. -/
structure Paging where
  maxResults : Option Nat := none
  pageToken : Option String := none
  /-- Whether every page is wanted. -/
  all : Bool := false
  deriving DecidableEq, Repr

/-- How a task asks the server. -/
structure Fetching where
  fields : Option String := none
  ifNoneMatch : Option String := none
  timeoutSeconds : Option Nat := none
  deriving DecidableEq, Repr

/-- What a command line asks for. -/
inductive Task where
  | adClients (paging : Paging) (fetching : Fetching)
  | adUnits (client : String) (inactive : Option Bool) (paging : Paging) (fetching : Fetching)
  | adUnit (client unit : String) (fetching : Fetching)
  | unitChannels (client unit : String) (paging : Paging) (fetching : Fetching)
  | channels (client : String) (paging : Paging) (fetching : Fetching)
  | channel (client id : String) (fetching : Fetching)
  | channelUnits (client id : String) (inactive : Option Bool) (paging : Paging)
      (fetching : Fetching)
  | urlChannels (client : String) (paging : Paging) (fetching : Fetching)
  | report (start finish : String) (dimensions metrics filters sorts : List String)
      (window : ReportWindow) (download : Bool) (fetching : Fetching)
  | savedReports (paging : Paging) (fetching : Fetching)
  | savedReport (id : String) (window : ReportWindow) (fetching : Fetching)
  deriving DecidableEq, Repr

/-- A task with the options that hold for every task. -/
structure Invocation where
  /-- The path of the settings file. -/
  config : Option String := none
  token : Option String := none
  apiKey : Option String := none
  baseUrl : Option String := none
  format : OutputFormat := .json
  /-- The path of the file to write. -/
  output : Option String := none
  verbose : Bool := false
  task : Task
  deriving DecidableEq, Repr

/-! ## Options -/

def helpOption : Opt := { name := "help", letter := some 'h', shape := .help }

/-- The options that hold for every task. -/
def sharedOptions : List Opt :=
  [{ name := "config", letter := some 'C', shape := .path }, { name := "token" },
    { name := "api-key" }, { name := "base-url" },
    { name := "format", letter := some 'f', shape := .word (OutputFormat.all.map (·.word)) },
    { name := "output", letter := some 'o', shape := .path },
    { name := "verbose", letter := some 'v', shape := .flag }, helpOption]

def pagingOptions : List Opt :=
  [{ name := "max-results", shape := .count }, { name := "page-token" },
    { name := "all", shape := .flag }]

def fetchingOptions : List Opt :=
  [{ name := "fields" }, { name := "if-none-match" }, { name := "timeout-secs", shape := .span }]

def windowOptions : List Opt :=
  [{ name := "locale" }, { name := "max-results", shape := .count },
    { name := "start-index", shape := .count }]

def inactiveOption : Opt := { name := "include-inactive", shape := .truth }

/-- The options of a report: names, conditions and orders, each as often as wanted. -/
def reportOptions : List Opt :=
  [{ name := "dimension", letter := some 'd', many := true },
    { name := "metric", letter := some 'm', many := true },
    { name := "filter", many := true, dashed := true },
    { name := "sort", many := true, dashed := true }, { name := "download", shape := .flag }]

namespace Matches

def paging (m : Matches) : Paging :=
  ⟨(m.value? "max-results").bind count?, m.value? "page-token", m.has "all"⟩

def fetching (m : Matches) : Fetching :=
  ⟨m.value? "fields", m.value? "if-none-match", (m.value? "timeout-secs").bind span?⟩

def window (m : Matches) : ReportWindow :=
  ⟨m.value? "locale", (m.value? "max-results").bind count?, (m.value? "start-index").bind count?⟩

def inactive (m : Matches) : Option Bool := (m.value? "include-inactive").bind truth?

end Matches

/-! ## Commands -/

/-- A command with options of its own and texts of a given number. -/
def command (options : List Opt) (arity : Nat) (task : Matches → Task) : Spec Task :=
  .command (sharedOptions ++ options) arity task

def group (commands : List (String × Spec Task)) : Spec Task := .group sharedOptions commands

def listOptions : List Opt := pagingOptions ++ fetchingOptions

/-- All commands. -/
def commandLine : Spec Task :=
  .group ({ name := "version", letter := some 'V', shape := .version } :: sharedOptions)
    [("adclients", group
      [("list", command listOptions 0 fun m => .adClients m.paging m.fetching)]),
     ("adunits", group
      [("list", command (inactiveOption :: listOptions) 1 fun m =>
        .adUnits (m.textAt 0) m.inactive m.paging m.fetching),
       ("get", command fetchingOptions 2 fun m => .adUnit (m.textAt 0) (m.textAt 1) m.fetching),
       ("channels", command listOptions 2 fun m =>
        .unitChannels (m.textAt 0) (m.textAt 1) m.paging m.fetching)]),
     ("customchannels", group
      [("list", command listOptions 1 fun m => .channels (m.textAt 0) m.paging m.fetching),
       ("get", command fetchingOptions 2 fun m => .channel (m.textAt 0) (m.textAt 1) m.fetching),
       ("adunits", command (inactiveOption :: listOptions) 2 fun m =>
        .channelUnits (m.textAt 0) (m.textAt 1) m.inactive m.paging m.fetching)]),
     ("urlchannels", group
      [("list", command listOptions 1 fun m => .urlChannels (m.textAt 0) m.paging m.fetching)]),
     ("reports", group
      [("generate", command (reportOptions ++ windowOptions ++ fetchingOptions) 2 fun m =>
        .report (m.textAt 0) (m.textAt 1) (m.values "dimension") (m.values "metric")
          (m.values "filter") (m.values "sort") m.window (m.has "download") m.fetching),
       ("saved-list", command listOptions 0 fun m => .savedReports m.paging m.fetching),
       ("saved-generate", command (windowOptions ++ fetchingOptions) 1 fun m =>
        .savedReport (m.textAt 0) m.window m.fetching)])]

/-- The commands with the groups that they are in, one a line. -/
def overview : String :=
  let names := commandLine.commands.flatMap fun (outer, group) =>
    group.commands.map fun (inner, _) => outer ++ " " ++ inner
  String.join (names.map (· ++ "\n"))

/-- The value of a shared option, by the levels from the innermost one. -/
def sharedValue? (levels : List Matches) (name : String) : Option String :=
  levels.findSome? (·.value? name)

/-- What a command line asks for; the name of the program is not among the arguments. -/
def Invocation.read (args : List String) : Except Usage Invocation := do
  let (task, levels) ← commandLine.read {} args
  return {
    config := sharedValue? levels "config"
    token := sharedValue? levels "token"
    apiKey := sharedValue? levels "api-key"
    baseUrl := sharedValue? levels "base-url"
    format := ((sharedValue? levels "format").bind OutputFormat.ofWord?).getD .json
    output := sharedValue? levels "output"
    verbose := levels.any (·.has "verbose")
    task }

/-! ## Descriptions -/

def describeText (s : Option String) : String := describeOption (s.map quoted)

def describePath (s : Option String) : String := describeOption (s.map quotedPath)

def describeNat (n : Option Nat) : String := describeOption (n.map natText)

def describeTexts (xs : List String) : String := describeList (xs.map quoted)

def Paging.describe (p : Paging) : String :=
  describeRecord "PageArgs"
    [("max_results", describeNat p.maxResults), ("page_token", describeText p.pageToken),
      ("all", describeBool p.all)]

def Fetching.describe (f : Fetching) : String :=
  describeRecord "FetchArgs"
    [("fields", describeText f.fields), ("if_none_match", describeText f.ifNoneMatch),
      ("timeout_secs", describeNat f.timeoutSeconds)]

def describeWindow (w : ReportWindow) : String :=
  describeRecord "ReportWindowArgs"
    [("locale", describeText w.locale), ("max_results", describeNat w.maxResults),
      ("start_index", describeNat w.startIndex)]

/-- The group of a task, its name within the group and its parameters. -/
def Task.parts : Task → String × String × List (String × String)
  | .adClients p f => ("Adclients", "List", [("page", p.describe), ("fetch", f.describe)])
  | .adUnits client inactive p f =>
    ("Adunits", "List", [("client", quoted client),
      ("include_inactive", describeOption (inactive.map describeBool)), ("page", p.describe),
      ("fetch", f.describe)])
  | .adUnit client unit f =>
    ("Adunits", "Get", [("client", quoted client), ("unit", quoted unit), ("fetch", f.describe)])
  | .unitChannels client unit p f =>
    ("Adunits", "Channels", [("client", quoted client), ("unit", quoted unit),
      ("page", p.describe), ("fetch", f.describe)])
  | .channels client p f =>
    ("Customchannels", "List", [("client", quoted client), ("page", p.describe),
      ("fetch", f.describe)])
  | .channel client id f =>
    ("Customchannels", "Get", [("client", quoted client), ("channel", quoted id),
      ("fetch", f.describe)])
  | .channelUnits client id inactive p f =>
    ("Customchannels", "Adunits", [("client", quoted client), ("channel", quoted id),
      ("include_inactive", describeOption (inactive.map describeBool)), ("page", p.describe),
      ("fetch", f.describe)])
  | .urlChannels client p f =>
    ("Urlchannels", "List", [("client", quoted client), ("page", p.describe),
      ("fetch", f.describe)])
  | .report start finish dimensions metrics filters sorts window download f =>
    ("Reports", "Generate", [("start", quoted start), ("end", quoted finish),
      ("dimensions", describeTexts dimensions), ("metrics", describeTexts metrics),
      ("filters", describeTexts filters), ("sorts", describeTexts sorts),
      ("window", describeWindow window), ("download", describeBool download),
      ("fetch", f.describe)])
  | .savedReports p f => ("Reports", "SavedList", [("page", p.describe), ("fetch", f.describe)])
  | .savedReport id window f =>
    ("Reports", "SavedGenerate", [("id", quoted id), ("window", describeWindow window),
      ("fetch", f.describe)])

/-- A task as a diagnostic shows it. -/
def Task.describe (t : Task) : String :=
  let (outer, inner, fields) := t.parts
  describeRecord outer [("command", describeRecord inner fields)]

/-- An invocation as a diagnostic shows it. -/
def Invocation.describe (i : Invocation) : String :=
  describeRecord "Cli"
    [("config", describePath i.config), ("token", describeText i.token),
      ("api_key", describeText i.apiKey), ("base_url", describeText i.baseUrl),
      ("format", i.format.describe), ("output", describePath i.output),
      ("verbose", describeBool i.verbose), ("command", i.task.describe)]

end SellerApi.Command
