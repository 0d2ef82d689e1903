import SellerApi.Proofs.Command.Sink
import SellerApi.Proofs.Listing.Collect

/-! # Formats that a task cannot write

The formats for tables are for reports only. A task that lists or gets asks the server all the same,
and the output file is created, hence emptied, before the format is looked at. So the file is left
as it was only where there is none to write or where it was empty before (`Invocation.run_tabular`).
-/

namespace SellerApi.Command

open SellerApi.Http SellerApi.Json SellerApi.Resource SellerApi.Text

/-- A format for tables. -/
def OutputFormat.IsTabular (f : OutputFormat) : Prop := f = .csv ∨ f = .parquet

/-- The server answered a task that lists or gets: a page was received, or all of them, or the
resource. -/
inductive Task.Answered (task : Task) (pageSize : Option Nat) (c : Client) (l l' : Link) : Prop
  where
  | page {α : Type} [Wire α] {listing : Listing α} {p : Paging} {f : Fetching}
    {page : Answer (Page α)} {pager : Pager α} (htask : task.list? = some ⟨listing, p, f⟩)
    (hall : p.all = false)
    (hanswer : (Pager.start (listCall listing p f pageSize)).next c l =
      (.ok (some page), pager, l'))
  | items {α : Type} [Wire α] {listing : Listing α} {p : Paging} {f : Fetching} {items : List α}
    (htask : task.list? = some ⟨listing, p, f⟩) (hall : p.all = true)
    (hanswer : (Pager.start (listCall listing p f pageSize)).collect c l = (.ok items, l'))
  | resource {α : Type} [Wire α] {lookup : Lookup α} {f : Fetching} {answer : Answer α}
    (htask : task.lookup? = some ⟨lookup, f⟩)
    (hanswer : ({ lookup, options := f.options } : GetCall α).send c l = (.ok answer, l'))

namespace Invocation

variable {i : Invocation} {s : Session} {path : String} {d : Disk}

/-! ## One value -/

/-- A value is not written as a table, but the sink is opened before that is found out. -/
theorem emitValue_tabular (h : i.format.IsTabular) (v : Value) :
    i.emitValue v s = ((openSink i.output s).1.bind fun _ =>
      .error (.output (i.format.describe ++ " output is only available for reports")),
        (openSink i.output s).2) := by
  have hfail : i.emitValue v = openSink i.output >>= fun _ =>
      Run.fail (.output (i.format.describe ++ " output is only available for reports")) := by
    unfold emitValue
    rcases h with h | h <;> rw [h]
  rw [hfail]
  rcases hopen : openSink i.output s with ⟨f | u, s'⟩
  · exact Run.bind_error hopen
  · exact Run.bind_ok hopen

theorem emitItems_tabular (h : i.format.IsTabular) (vs : List Value) :
    i.emitItems vs = i.emitValue (.list vs) := by
  unfold emitItems
  rw [if_neg]
  rcases h with h | h <;> rw [h] <;> decide

theorem emitPage_tabular {α : Type} [Wire α] (h : i.format.IsTabular) (page : Page α) :
    i.emitPage page = i.emitValue page.toValue := by
  unfold emitPage
  rw [if_neg]
  rcases h with h | h <;> rw [h] <;> decide

/-- However the answer came, all that is left to do is to write one value. -/
theorem dispatch_tabular (h : i.format.IsTabular) {settings : Settings} {c : Client} {l : Link}
    (hanswer : i.task.Answered settings.pageSize c s.link l) :
    ∃ v s', i.dispatch settings c s = i.emitValue v s' ∧
      s'.disk = s.disk ∧ s'.stdout = s.stdout := by
  cases hanswer with
  | page htask hall hanswer =>
    rw [dispatch_of_list htask, hall, runList_page hanswer, emitPage_tabular h]
    exact ⟨_, _, rfl, rfl, rfl⟩
  | items htask hall hanswer =>
    rw [dispatch_of_list htask, hall, runList_all hanswer, emitItems_tabular h]
    exact ⟨_, _, rfl, rfl, rfl⟩
  | resource htask hanswer =>
    rw [dispatch_of_lookup htask, runGet_eq hanswer]
    exact ⟨_, _, rfl, rfl, rfl⟩

/-! ## The run -/

/-- A run that ends with its format refused: it fails for its output, the output file holds what it
held before, or is still not there, and nothing was written to the standard output. -/
structure Refuses (i : Invocation) (s s' : Session) (result : Except Failure Unit) : Prop where
  result : ∃ message, result = .error (.output message)
  file : ∀ path, i.output = some path → s'.disk.get? path = s.disk.get? path
  stdout : s'.stdout = s.stdout

/-- What a task that lists or gets comes to with a format for tables, once the server has answered.
The run fails and writes neither to the standard output nor to a file other than the output file.
An output file that can be created is empty afterwards. So the format is refused without a trace
exactly where there is no output file to write, or an empty one. -/
theorem run_tabular [Yaml.Wording] {e : Environment} {settings : Settings} {client : Client}
    {l : Link} (hsettings : i.settings e s.disk = .ok settings)
    (hclient : Client.of settings.transport = .ok client) (hformat : i.format.IsTabular)
    (hanswer : i.task.Answered settings.pageSize { client with credential := settings.credential }
      s.link l) :
    (∃ f, (i.run e s).1 = .error f) ∧ (i.run e s).2.stdout = s.stdout ∧
      (∀ path, i.output ≠ some path → (i.run e s).2.disk.get? path = s.disk.get? path) ∧
      (∀ path d, i.output = some path → s.disk.create path = .ok d →
        (i.run e s).2.disk.get? path = some (.octets [])) ∧
      (i.Refuses s (i.run e s).2 (i.run e s).1 ↔ ∀ path, i.output = some path →
        s.disk.get? path = some (.octets []) ∧ ∃ d, s.disk.create path = .ok d) := by
  obtain ⟨warnings, hexecute⟩ := execute_eq hsettings hclient
  obtain ⟨v, s', hdispatch, hdisk, hstdout⟩ :=
    dispatch_tabular (s := { s with log := s.log ++ warnings.map (.warning, ·) }) hformat hanswer
  replace hdisk : s'.disk = s.disk := hdisk
  replace hstdout : s'.stdout = s.stdout := hstdout
  rw [hdispatch, emitValue_tabular hformat] at hexecute
  cases houtput : i.output with
  | none =>
    rw [houtput, openSink_none] at hexecute
    rw [run_of_execute_error hexecute rfl]
    exact ⟨⟨_, rfl⟩, hstdout, fun _ _ => by rw [hdisk], nofun, fun _ => nofun,
      fun _ => ⟨⟨_, rfl⟩, fun _ _ => by rw [hdisk], hstdout⟩⟩
  | some path =>
    rw [houtput] at hexecute
    cases hcreate : s.disk.create path with
    | error fault =>
      rw [openSink_error (hdisk ▸ hcreate)] at hexecute
      rw [run_of_execute_error hexecute rfl]
      refine ⟨⟨_, rfl⟩, hstdout, fun _ _ => by rw [hdisk], ?_, fun h => ?_, fun h => ?_⟩
      · rintro _ d ⟨⟩ hd
        exact nomatch hcreate.symm.trans hd
      · obtain ⟨message, hmessage⟩ := h.result
        exact nomatch hmessage
      · obtain ⟨-, d, hd⟩ := h path rfl
        exact nomatch hcreate.symm.trans hd
    | ok d =>
      rw [openSink_ok (hdisk ▸ hcreate)] at hexecute
      rw [run_of_execute_error hexecute rfl, Disk.eq_put_of_create hcreate]
      refine ⟨⟨_, rfl⟩, hstdout, fun other hother => ?_, ?_, fun h => ?_, fun h => ?_⟩
      · exact Disk.get?_put_of_ne (fun he => hother (congrArg some he.symm)) _
      · rintro _ _ ⟨⟩ -
        exact Disk.get?_put _ _ _
      · rintro _ ⟨⟩
        exact ⟨(h.file path houtput).symm.trans (Disk.get?_put _ _ _), d, hcreate⟩
      · refine ⟨⟨_, rfl⟩, fun other hother => ?_, hstdout⟩
        obtain rfl : path = other := Option.some.inj (houtput.symm.trans hother)
        exact (Disk.get?_put _ _ _).trans (h path rfl).1.symm

/-- A list as a table, to a file that is there. -/
def sampleTable : Invocation :=
  { baseUrl := some "http://ads.example/v1/", format := .csv, output := some "out",
    task := .adClients {} {} }

/-- The server answers with documents. -/
def answering (documents : List String) : Link :=
  { replies := documents.map fun document =>
      Reply.answer { status := 200, body := ⟨[Utf8.encode document.toList], .complete⟩ } }

/-- The file holds a letter, and the server answers with a page without items. -/
def sampleTableSession : Session :=
  { disk := { folders := ["."], files := [("out", .octets [0x78])] }
    link := answering ["\x7b\"items\":[]\x7d"] }

/-- The settings of a run that is told the base URL only. -/
def sampleSettings : Settings := { baseUrl := "http://ads.example/v1/" }

def sampleClient : Client := ⟨sampleSettings.transport, Pager.sampleClient.base, .none⟩

theorem of_sampleSettings : Client.of sampleSettings.transport = .ok sampleClient := by
  have hread : Url.read "http://ads.example/v1/" = .ok Pager.sampleClient.base := by decide +kernel
  have hagent : isHeaderValue sampleSettings.transport.userAgent = true := by decide
  rw [Client.of, show sampleSettings.transport.baseUrl = "http://ads.example/v1/" from rfl, hread]
  simp only [hagent]
  rfl

/-- The pager of a list of ad clients. -/
def samplePager : Pager AdClient := Pager.start (listCall .adClients {} {} none)

theorem answered_sampleTable :
    ∃ l, sampleTable.task.Answered none sampleClient sampleTableSession.link l := by
  have hpage : (samplePager.next sampleClient sampleTableSession.link).1 =
      .ok (some ⟨200, [], {}⟩) := by
    decide +kernel
  rcases hnext : samplePager.next sampleClient sampleTableSession.link with ⟨result, pager, l⟩
  rw [hnext] at hpage
  obtain rfl : result = _ := hpage
  exact ⟨l, .page rfl rfl hnext⟩

theorem run_tabular_emptied :
    (sampleTable.run [] sampleTableSession).2.disk.get? "out" = some (.octets []) := by
  obtain ⟨l, hanswer⟩ := answered_sampleTable
  have hsettings : sampleTable.settings [] sampleTableSession.disk = .ok sampleSettings := rfl
  obtain ⟨-, -, -, hemptied, -⟩ := run_tabular hsettings of_sampleSettings (.inl rfl) hanswer
  exact hemptied "out" _ rfl rfl

/-- The run does not leave the file as it was. -/
theorem not_refuses_sampleTable : sampleTable.format.IsTabular ∧
    (∃ l, sampleTable.task.Answered none sampleClient sampleTableSession.link l) ∧
    ¬sampleTable.Refuses sampleTableSession (sampleTable.run [] sampleTableSession).2
      (sampleTable.run [] sampleTableSession).1 := by
  refine ⟨.inl rfl, answered_sampleTable, fun h => ?_⟩
  have hafter : (sampleTable.run [] sampleTableSession).2.disk.get? "out" = some (.octets []) := by
    decide +kernel
  have hbefore := (h.file "out" rfl).symm.trans hafter
  revert hbefore
  decide

end Invocation
end SellerApi.Command
