import SellerApi.Proofs.Command.Calls
import SellerApi.Proofs.Command.Output
import SellerApi.Proofs.Listing.Exchange
import SellerApi.Proofs.Listing.First

/-! # What a run asks

To carry out a task is to ask the server first, by `Call.gather` with the call of the task, and then
to write. If asking fails nothing is written, and to write does not touch
the link (`Run.Asks`). Hence a run sends what the call of its task sends
(`Invocation.run_sends_call`).
-/

namespace SellerApi

open SellerApi.Http SellerApi.Json SellerApi.Resource SellerApi.Text

/-- A pager that is asked for its first page sends what its call sends. -/
theorem Call.link_gather {call : Call} (hwatched : call.options.watched = false) (c : Client)
    (l : Link) : (call.gather false c l).2 = (call.send c l).2 := by
  cases call with
  | list call =>
    have hnext := (Pager.within_start hwatched).link_next_of_running (c := c) (l := l) rfl
    rw [send, call.send_of_unwatched hwatched]
    exact hnext
  | _ => rfl

/-- To ask sends requests of the call and uses up replies. If it succeeds there were some, and each
of them held what was asked for. -/
theorem Call.exchanged_gather {call : Call} (hwatched : call.options.watched = false) (all : Bool)
    (c : Client) (l : Link) :
    ∃ messages used, l.Exchanged (call.gather all c l).2 messages used ∧
      (∀ m ∈ messages, c.Writes call.endpoint m) ∧
      ((call.gather all c l).1 = .ok () → used ≠ [] ∧ ∀ reply ∈ used, call.Delivers reply) := by
  have hsend : ∃ messages used, l.Exchanged (call.send c l).2 messages used ∧
      (∀ m ∈ messages, c.Writes call.endpoint m) ∧
      ((call.send c l).1.map (fun _ => ()) = .ok () →
        used ≠ [] ∧ ∀ reply ∈ used, call.Delivers reply) := by
    rcases hcall : call.send c l with ⟨f | result, l'⟩
    · obtain ⟨messages, used, hl, -, hmessages⟩ := call.exchanged hwatched c l
      rw [hcall] at hl
      refine ⟨messages, used, hl, fun m hm => ?_, fun hok => ?_⟩
      · obtain ⟨r, hr, hm⟩ := hmessages m hm
        exact ⟨r, l.asked, asks_of_request hr, hm⟩
      · cases hok
    · obtain ⟨m, reply, hl, hm, hdelivers⟩ := exchanged_of_send_ok hwatched hcall
      exact ⟨[m], [reply], hl, List.forall_mem_singleton.2 hm, fun _ =>
        ⟨List.cons_ne_nil _ _, List.forall_mem_singleton.2 hdelivers⟩⟩
  cases call with
  | list call =>
    have hwithin : Pager.Within call (Pager.start call) := Pager.within_start hwatched
    cases all with
    | true =>
      obtain ⟨messages, used, hl, hmessages, hused⟩ := hwithin.exchanged_pages (c := c) (l := l)
      refine ⟨messages, used, ?_⟩
      rw [gather, if_pos rfl, Pager.collect]
      rcases hpages : (Pager.start call).pages c l with ⟨pages, _ | f, q, l'⟩
      · rw [hpages] at hl hused
        obtain ⟨hne, hall⟩ := hused rfl
        exact ⟨hl, hmessages, fun _ => ⟨hne rfl, hall⟩⟩
      · rw [hpages] at hl
        refine ⟨hl, hmessages, fun hok => ?_⟩
        cases hok
    | false =>
      obtain ⟨messages, used, hl, hmessages⟩ := hwithin.exchanged_next (c := c) (l := l) rfl
      rw [gather, if_neg Bool.false_ne_true]
      rcases hnext : (Pager.start call).next c l with ⟨f | _ | page, q, l'⟩
      · rw [hnext] at hl
        refine ⟨messages, used, hl, hmessages, fun hok => ?_⟩
        cases hok
      · exact absurd (hwithin.done_of_next_none hnext) Bool.false_ne_true
      · obtain ⟨m, reply, hl, hm, hpage⟩ := hwithin.exchanged_of_next_ok hnext
        exact ⟨[m], [reply], hl, List.forall_mem_singleton.2 hm, fun _ =>
          ⟨List.cons_ne_nil _ _, List.forall_mem_singleton.2 hpage⟩⟩
  | _ => exact hsend

/-- A user cannot configure header fields. -/
theorem Settings.transport_eq (s : Settings) : ∃ userAgent, s.transport =
    { baseUrl := s.baseUrl, timeout := s.timeout, pacing := s.pacing, userAgent } := by
  unfold transport
  cases s.userAgent with
  | none => exact ⟨_, rfl⟩
  | some application =>
    dsimp only
    unfold Transport.withApplication
    split <;> exact ⟨_, rfl⟩

theorem Settings.headers_of {s : Settings} {c : Client} (h : Client.of s.transport = .ok c) :
    c.settings.headers = [] := by
  obtain ⟨_, htransport⟩ := s.transport_eq
  rw [Client.settings_of h, htransport]

theorem Settings.base_of {s : Settings} {c : Client} (h : Client.of s.transport = .ok c) :
    Url.read s.baseUrl = .ok c.base := by
  obtain ⟨_, htransport⟩ := s.transport_eq
  have hbase := Client.base_of h
  rwa [htransport] at hbase

namespace Command

/-! ## Steps that ask first -/

/-- A run that asks the server before anything else. If asking fails, so does the run, and nothing
else happens; and whatever else happens, it is not on the link. -/
structure Run.Asks (run : Run Unit) (ask : Link → Except Failure Unit × Link) : Prop where
  link : ∀ s, (run s).2.link = (ask s.link).2
  error : ∀ {s f l}, ask s.link = (.error f, l) → run s = (.error f, { s with link := l })

theorem Run.asks_bind {α : Type} {ask : Link → Except Failure α × Link} {write : α → Run Unit}
    (hwrite : ∀ x, (write x).Keeps (·.link)) :
    (Run.onLink ask >>= write).Asks fun l => ((ask l).1.map fun _ => (), (ask l).2) := by
  constructor
  · intro s
    rcases hask : ask s.link with ⟨f | x, l⟩
    · rw [Run.bind_error (Run.onLink_eq hask)]
    · rw [Run.bind_ok (Run.onLink_eq hask)]
      exact hwrite x _
  · intro s f l h
    rcases hask : ask s.link with ⟨f' | x, l'⟩
    · rw [hask] at h
      cases h
      exact Run.bind_error (Run.onLink_eq hask)
    · rw [hask] at h
      cases h

namespace Invocation

variable {i : Invocation} {settings : Settings} {c : Client}

theorem emitReport_keeps_link (i : Invocation) (settings : Settings) (r : Report) :
    (i.emitReport settings r).Keeps (·.link) := by
  unfold emitReport
  cases i.format with
  | json | pretty => exact i.emitValue_keeps Session.aside_link _
  | csv | jsonl => exact i.emitText_keeps Session.aside_link _
  | parquet =>
    cases i.output with
    | none => exact fun _ => rfl
    | some path =>
      exact Run.Keeps.bind (fun _ => rfl) fun _ => Run.Keeps.bind (fun _ => rfl) fun _ _ => rfl

theorem emitDownload_keeps_link (i : Invocation) (d : Download) :
    (i.emitDownload d).Keeps (·.link) := by
  refine (openSink_keeps Session.aside_link _).bind fun _ =>
    (writeOctets_keeps Session.aside_link _ _).bind fun _ =>
      Run.Keeps.bind (fun _ => rfl) fun _ => ?_
  cases i.output <;> exact fun _ => rfl

theorem runList_asks {α : Type} [Wire α] (call : ListCall α) (all : Bool) :
    (i.runList c call all).Asks ((Call.list call).gather all c) := by
  cases all with
  | true =>
    exact Run.asks_bind fun _ => Run.Keeps.bind (fun _ => rfl) fun _ =>
      i.emitItems_keeps Session.aside_link _
  | false =>
    refine Run.asks_bind fun page => ?_
    cases page with
    | none => exact fun _ => rfl
    | some page =>
      have hemit : (i.emitPage page.payload).Keeps (·.link) :=
        i.emitPage_keeps Session.aside_link _
      dsimp only
      cases page.payload.nextPageToken with
      | none => exact hemit
      | some token =>
        have hinfo : (Run.info (hintLine token)).Keeps (·.link) := fun _ => rfl
        exact hinfo.bind fun _ => hemit

theorem dispatch_asks :
    (i.dispatch settings c).Asks ((i.task.call settings.pageSize).gather i.task.all c) := by
  cases hlist : i.task.list? with
  | some task =>
    obtain @⟨α, wire, listing, p, f⟩ := task
    obtain ⟨hcall, hall⟩ := Task.call_of_list hlist settings.pageSize
    rw [dispatch_of_list hlist, hcall, hall]
    exact runList_asks _ _
  | none =>
    cases htask : i.task with
    | adUnit client unit f | channel client unit f =>
      rw [Task.call, GetCall.built_eq, Fetching.foldl_given]
      unfold dispatch
      rw [htask]
      exact Run.asks_bind fun _ => i.emitValue_keeps Session.aside_link _
    | report start finish dimensions metrics filters sorts w download f =>
      rw [Task.call, builtReport_eq]
      unfold dispatch
      rw [htask]
      cases download with
      | true => exact Run.asks_bind fun _ => i.emitDownload_keeps_link _
      | false =>
        exact Run.asks_bind fun _ => Run.Keeps.bind (fun _ => rfl) fun _ =>
          i.emitReport_keeps_link _ _
    | savedReport id w f =>
      rw [Task.call, builtSavedReport_eq]
      unfold dispatch
      rw [htask]
      exact Run.asks_bind fun _ => Run.Keeps.bind (fun _ => rfl) fun _ =>
        i.emitReport_keeps_link _ _
    | _ =>
      rw [htask] at hlist
      cases hlist

/-! ## Runs -/

section

variable [Yaml.Wording] {e : Environment} {s : Session} {client : Client}

theorem link_run (i : Invocation) (e : Environment) (s : Session) :
    (i.run e s).2.link = (i.execute e s).2.link :=
  view_run (fun _ _ => rfl) i e s

theorem link_run_of_settings_error {f : Failure} (h : i.settings e s.disk = .error f) :
    (i.run e s).2.link = s.link := by
  rw [link_run, execute_of_settings_error h]

theorem link_run_of_client_error {f : Failure} (hsettings : i.settings e s.disk = .ok settings)
    (h : Client.of settings.transport = .error f) : (i.run e s).2.link = s.link := by
  obtain ⟨warnings, hexecute⟩ := execute_of_settings hsettings
  rw [link_run, hexecute, h]
  rfl

theorem link_run_eq (hsettings : i.settings e s.disk = .ok settings)
    (hclient : Client.of settings.transport = .ok client) :
    (i.run e s).2.link = ((i.task.call settings.pageSize).gather i.task.all
      { client with credential := settings.credential } s.link).2 := by
  obtain ⟨warnings, hexecute⟩ := execute_eq hsettings hclient
  rw [link_run, hexecute, dispatch_asks.link]

end

/-- A run sends what the call of its task sends, one message at most, or with `--all` what a pager
for this call sends for all pages. The call is built by the flags that were given; its request
carries their pairs, and no other one, and no header field but the cache tag. The size of a page in
the settings concerns lists only. A run without settings or a client sends nothing. -/
theorem run_sends_call [Yaml.Wording] (i : Invocation) (e : Environment) (s : Session) :
    (∀ f, i.settings e s.disk = .error f → (i.run e s).2.link = s.link) ∧
    ∀ settings, i.settings e s.disk = .ok settings →
      (∀ f, Client.of settings.transport = .error f → (i.run e s).2.link = s.link) ∧
      ∀ client, Client.of settings.transport = .ok client →
        let c := { client with credential := settings.credential }
        let call := i.task.call settings.pageSize
        (i.task.all = false → (i.run e s).2.link = (call.send c s.link).2 ∧
          ∃ messages used, s.link.Exchanged (i.run e s).2.link messages used ∧
            messages.length ≤ 1) ∧
        (i.task.all = true → ∃ (α : Type) (_ : Wire α) (listed : ListCall α),
          call = .list listed ∧
            (i.run e s).2.link = ((Pager.start listed).collect c s.link).2) ∧
        (∀ r, call.made = .ok r → i.task.Carries settings.pageSize r ∧
          c.fields r = i.task.fetching.ifNoneMatch.toList.map ("if-none-match", ·)) ∧
        (i.task.list? = none → ∀ pageSize, i.task.call pageSize = i.task.call none) := by
  refine ⟨fun f => link_run_of_settings_error, fun settings hsettings =>
    ⟨fun f => link_run_of_client_error hsettings, fun client hclient => ?_⟩⟩
  intro c call
  have hlink := link_run_eq hsettings hclient
  refine ⟨fun hall => ?_, fun hall => ?_, fun r hr => ?_, fun h => Task.call_eq_of_not_list h⟩
  · have hwatched : call.options.watched = false := i.task.unwatched _
    rw [hlink, hall, Call.link_gather hwatched]
    obtain ⟨messages, used, hexchanged, hlength, -⟩ := call.exchanged hwatched c s.link
    exact ⟨rfl, messages, used, hexchanged, hlength⟩
  · cases hlist : i.task.list? with
    | none => exact nomatch (Task.all_eq_false_of_not_list hlist).symm.trans hall
    | some task =>
      obtain @⟨α, wire, listing, p, f⟩ := task
      obtain ⟨hcall, -⟩ := Task.call_of_list hlist settings.pageSize
      refine ⟨α, wire, _, hcall, ?_⟩
      rw [hlink, hall, hcall]
      rfl
  · have hcarries := Task.carries_of_made hr
    refine ⟨hcarries, ?_⟩
    have hheaders := Settings.headers_of hclient
    rw [Client.fields, show c.settings.headers = [] from hheaders, hcarries.cacheTag]
    cases i.task.fetching.ifNoneMatch <;> rfl

/-- A list with three flags, one of them twice as high as the ceiling. -/
def sampleUnits : Invocation :=
  { baseUrl := some "http://ads.example/v1/"
    task := .adUnits "ca-1" (some false) { maxResults := some 20000 } { ifNoneMatch := some "v1" } }

theorem run_sends_call_units :
    let s : Session := { link := answering ["{}", "{}"] }
    let call := ListCall.built (.adUnits "ca-1" none)
      [.inactive false, .maxResults 20000, .option (.cacheTag "v1")]
    (sampleUnits.run [] s).2.link = ((Call.list call).send sampleClient s.link).2 ∧
      (sampleUnits.run [] s).2.link.sent.length = 1 ∧
      (call.request none).query.pairs =
        [("includeInactive", "false"), ("maxResults", "10000")] := by
  intro s call
  have hsettings : sampleUnits.settings [] s.disk = .ok sampleSettings := rfl
  obtain ⟨-, hsend⟩ := run_sends_call sampleUnits [] s
  obtain ⟨-, hsend⟩ := hsend sampleSettings hsettings
  obtain ⟨hone, -, hcarries, -⟩ := hsend sampleClient of_sampleSettings
  obtain ⟨hlink, -⟩ := hone rfl
  refine ⟨hlink, ?_, (hcarries _ rfl).1.pairs⟩
  rw [hlink]
  decide +kernel

end Invocation
end Command
end SellerApi
