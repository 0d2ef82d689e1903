import SellerApi.Command.Run

/-! # What a run does

Runs told step by step: settings and a client are made, which may add warnings to the log
(`Invocation.execute_eq`); a task that lists or gets asks the server (`Invocation.dispatch_of_list`,
`Invocation.dispatch_of_lookup`); what the server answered is written (`Invocation.execute_page`,
`Invocation.execute_all`, `Invocation.runGet_eq`).
-/

namespace SellerApi.Command

open SellerApi.Json SellerApi.Resource SellerApi.Text

/-! ## Steps -/

namespace Run

variable {α β : Type} {step : Run α} {next : α → Run β} {s s' : Session}

theorem bind_ok {x : α} (h : step s = (.ok x, s')) : (step >>= next) s = next x s' := by
  simp only [Bind.bind, Run.bind, h]

theorem bind_error {f : Failure} (h : step s = (.error f, s')) :
    (step >>= next) s = (.error f, s') := by
  simp only [Bind.bind, Run.bind, h]

theorem onLink_eq {ask : Link → Except Failure α × Link} {r : Except Failure α} {l : Link}
    (h : ask s.link = (r, l)) : onLink ask s = (r, { s with link := l }) := by
  simp only [onLink, h]

end Run

/-! ## Tasks that list or get -/

/-- A task that lists. -/
structure ListTask : Type 1 where
  {α : Type}
  [wire : Wire α]
  listing : Listing α
  paging : Paging
  fetching : Fetching

/-- A task that gets one resource. -/
structure LookupTask : Type 1 where
  {α : Type}
  [wire : Wire α]
  lookup : Lookup α
  fetching : Fetching

namespace Task

/-- What a task lists. -/
def list? : Task → Option ListTask
  | .adClients p f => some ⟨.adClients, p, f⟩
  | .adUnits client inactive p f => some ⟨.adUnits client inactive, p, f⟩
  | .unitChannels client unit p f => some ⟨.unitChannels client unit, p, f⟩
  | .channels client p f => some ⟨.channels client, p, f⟩
  | .channelUnits client id inactive p f => some ⟨.channelUnits client id inactive, p, f⟩
  | .urlChannels client p f => some ⟨.urlChannels client, p, f⟩
  | .savedReports p f => some ⟨.savedReports, p, f⟩
  | .adUnit .. | .channel .. | .report .. | .savedReport .. => none

/-- What a task gets. -/
def lookup? : Task → Option LookupTask
  | .adUnit client unit f => some ⟨.adUnit client unit, f⟩
  | .channel client id f => some ⟨.channel client id, f⟩
  | _ => none

end Task

namespace Invocation

variable {i : Invocation} {settings : Settings} {c : Client} {α : Type} [Wire α]

theorem dispatch_of_list {listing : Listing α} {p : Paging} {f : Fetching}
    (h : i.task.list? = some ⟨listing, p, f⟩) :
    i.dispatch settings c = i.runList c (listCall listing p f settings.pageSize) p.all := by
  unfold dispatch
  cases htask : i.task <;> rw [htask] at h <;> cases h <;> rfl

theorem dispatch_of_lookup {lookup : Lookup α} {f : Fetching}
    (h : i.task.lookup? = some ⟨lookup, f⟩) : i.dispatch settings c = i.runGet c lookup f := by
  unfold dispatch
  cases htask : i.task <;> rw [htask] at h <;> cases h <;> rfl

/-! ## What is asked and logged -/

variable {s : Session} {l : Link}

/-- The line that names the token of the next page. -/
def hintLine (token : String) : String := "More results available: --page-token " ++ token

/-- What is logged about the token of a page. -/
def hints (token : Option String) : List (Severity × String) :=
  token.toList.map fun t => (.info, hintLine t)

/-- What is logged when all pages were received. -/
def fetchedLine (count : Nat) : Severity × String :=
  (.info, "Fetched " ++ natText count ++ " items")

/-- Writes a page: its items one a line, or all of it. -/
def emitPage (i : Invocation) (page : Page α) : Run Unit :=
  if i.format = .jsonl then i.emitItems (page.items.map Wire.toValue) else i.emitValue page.toValue

theorem hintLine_inj {t t' : String} (h : hintLine t = hintLine t') : t = t' := by
  have hchars : (hintLine t).toList = (hintLine t').toList := by rw [h]
  unfold hintLine at hchars
  rw [String.toList_append, String.toList_append] at hchars
  exact String.toList_inj.1 (List.append_cancel_left hchars)

theorem mem_hints_iff {next : Option String} {token : String} :
    (Severity.info, hintLine token) ∈ hints next ↔ next = some token := by
  cases next with
  | none => simp [hints]
  | some t =>
    rw [hints, Option.toList_some, List.map_singleton, List.mem_singleton]
    constructor
    · intro h
      rw [hintLine_inj (Prod.mk.inj h).2]
    · intro h
      rw [Option.some.inj h]

theorem runList_page {call : ListCall α} {page : Http.Answer (Page α)} {p : Pager α}
    (h : (Pager.start call).next c s.link = (.ok (some page), p, l)) :
    i.runList c call false s = i.emitPage page.payload
      { s with link := l, log := s.log ++ hints page.payload.nextPageToken } := by
  have hask : Run.onLink
      (fun l => (((Pager.start call).next c l).1, ((Pager.start call).next c l).2.2)) s =
        (.ok (some page), { s with link := l }) := Run.onLink_eq (by rw [h])
  unfold runList
  dsimp only
  rw [if_neg Bool.false_ne_true, Run.bind_ok hask]
  dsimp only
  cases page.payload.nextPageToken with
  | none =>
    rw [show hints none = [] from rfl, List.append_nil]
    rfl
  | some token => rfl

theorem runList_all {call : ListCall α} {items : List α}
    (h : (Pager.start call).collect c s.link = (.ok items, l)) :
    i.runList c call true s = i.emitItems (items.map Wire.toValue)
      { s with link := l, log := s.log ++ [fetchedLine items.length] } := by
  have hask : Run.onLink ((Pager.start call).collect c) s = (.ok items, { s with link := l }) :=
    Run.onLink_eq h
  unfold runList
  dsimp only
  rw [if_pos rfl, Run.bind_ok hask]
  rfl

theorem runGet_eq {lookup : Lookup α} {f : Fetching} {answer : Http.Answer α}
    (h : ({ lookup, options := f.options } : GetCall α).send c s.link = (.ok answer, l)) :
    i.runGet c lookup f s = i.emitValue (Wire.toValue answer.payload) { s with link := l } := by
  unfold runGet
  rw [Run.bind_ok (Run.onLink_eq h)]

/-! ## Settings and the client -/

variable [Yaml.Wording]

theorem execute_of_settings_error {e : Environment} {f : Failure}
    (h : i.settings e s.disk = .error f) : i.execute e s = (.error f, s) :=
  Run.bind_error (by simp only [h])

/-- With its settings a run adds warnings to the log, and then it makes a client. -/
theorem execute_of_settings {e : Environment} (hsettings : i.settings e s.disk = .ok settings) :
    ∃ warnings : List String, i.execute e s =
      (Run.ofExcept (Client.of settings.transport) >>= fun client =>
        i.dispatch settings { client with credential := settings.credential })
          { s with log := s.log ++ warnings.map (.warning, ·) } := by
  have hread (next : Settings → Run Unit) :
      ((fun s => (i.settings e s.disk, s) : Run Settings) >>= next) s = next settings s :=
    Run.bind_ok (by simp only [hsettings])
  unfold execute
  rw [hread]
  dsimp only
  cases settings.secrets.hint with
  | none =>
    by_cases hboth : settings.secrets.isAmbiguous
    · exact ⟨[Secrets.ambiguityWarning], by rw [if_pos hboth]; rfl⟩
    · exact ⟨[], by rw [if_neg hboth, List.map_nil, List.append_nil]⟩
  | some hint =>
    by_cases hboth : settings.secrets.isAmbiguous
    · refine ⟨[hint, Secrets.ambiguityWarning], ?_⟩
      rw [if_pos hboth, List.map_cons, List.append_cons]
      rfl
    · exact ⟨[hint], by rw [if_neg hboth]; rfl⟩

/-- A run that comes to its task has added warnings to the log and nothing else. -/
theorem execute_eq {e : Environment} {client : Client}
    (hsettings : i.settings e s.disk = .ok settings)
    (hclient : Client.of settings.transport = .ok client) :
    ∃ warnings : List String, i.execute e s =
      i.dispatch settings { client with credential := settings.credential }
        { s with log := s.log ++ warnings.map (.warning, ·) } := by
  obtain ⟨warnings, hexecute⟩ := execute_of_settings hsettings
  rw [hclient] at hexecute
  exact ⟨warnings, hexecute⟩

variable {e : Environment} {client : Client} {listing : Listing α} {p : Paging} {f : Fetching}

/-- A run without `--all` that receives a page. -/
theorem execute_page (hsettings : i.settings e s.disk = .ok settings)
    (hclient : Client.of settings.transport = .ok client)
    (htask : i.task.list? = some ⟨listing, p, f⟩) (hall : p.all = false)
    {page : Http.Answer (Page α)} {pager : Pager α}
    (hnext : (Pager.start (listCall listing p f settings.pageSize)).next
      { client with credential := settings.credential } s.link = (.ok (some page), pager, l)) :
    ∃ warnings : List String, i.execute e s = i.emitPage page.payload
      { s with
        link := l
        log := s.log ++ warnings.map (.warning, ·) ++ hints page.payload.nextPageToken } := by
  obtain ⟨warnings, hexecute⟩ := execute_eq hsettings hclient
  refine ⟨warnings, ?_⟩
  rw [hexecute, dispatch_of_list htask, hall]
  exact runList_page hnext

/-- A run with `--all` that receives all pages. -/
theorem execute_all (hsettings : i.settings e s.disk = .ok settings)
    (hclient : Client.of settings.transport = .ok client)
    (htask : i.task.list? = some ⟨listing, p, f⟩) (hall : p.all = true) {items : List α}
    (hcollect : (Pager.start (listCall listing p f settings.pageSize)).collect
      { client with credential := settings.credential } s.link = (.ok items, l)) :
    ∃ warnings : List String, i.execute e s = i.emitItems (items.map Wire.toValue)
      { s with
        link := l
        log := s.log ++ warnings.map (.warning, ·) ++ [fetchedLine items.length] } := by
  obtain ⟨warnings, hexecute⟩ := execute_eq hsettings hclient
  refine ⟨warnings, ?_⟩
  rw [hexecute, dispatch_of_list htask, hall]
  exact runList_all hcollect

end Invocation
end SellerApi.Command
