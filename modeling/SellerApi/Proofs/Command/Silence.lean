import SellerApi.Proofs.Command.Asking
import SellerApi.Proofs.Command.Continuation

/-! # Runs that write nothing

Everything is fetched before anything is written. A run that fails before, or on any of its pages,
or that is told that nothing changed, leaves the standard output and the disk as they were
(`EndsBy`). It comes to that whenever one of the replies that it used up does not hold what was
asked for (`Invocation.run_ends_by`).
-/

namespace SellerApi

open SellerApi.Http SellerApi.Json SellerApi.Resource SellerApi.Text

namespace Command

/-- A run ends by a failure and has written nothing. That a resource did not change is told on the
standard error output, and the run ends well. -/
structure EndsBy (f : Failure) (s : Session) (done : Except Failure Unit × Session) : Prop where
  result : done.1 = if f.isNotModified then .ok () else .error f
  stdout : done.2.stdout = s.stdout
  disk : done.2.disk = s.disk
  stderr : done.2.stderr = if f.isNotModified then s.stderr ++ "not modified\n" else s.stderr

namespace Invocation

variable {i : Invocation} {settings : Settings} {c : Client} {e : Environment} {s s' : Session}
  {f : Failure}

theorem endsBy_of_execute [Yaml.Wording] (h : i.execute e s = (.error f, s'))
    (hstdout : s'.stdout = s.stdout) (hdisk : s'.disk = s.disk) (hstderr : s'.stderr = s.stderr) :
    EndsBy f s (i.run e s) := by
  cases hf : f.isNotModified with
  | false =>
    rw [run_of_execute_error h hf]
    exact ⟨by rw [hf]; rfl, hstdout, hdisk, by rw [hf]; exact hstderr⟩
  | true =>
    have hrun : i.run e s = (.ok (), { s' with stderr := s'.stderr ++ "not modified\n" }) := by
      unfold run
      rw [h]
      cases f with
      | notModified headers => rfl
      | _ => contradiction
    rw [hrun]
    exact ⟨by rw [hf]; rfl, hstdout, hdisk, by rw [hf, ← hstderr]; rfl⟩

theorem endsBy_of_gather [Yaml.Wording] {client : Client}
    (hsettings : i.settings e s.disk = .ok settings)
    (hclient : Client.of settings.transport = .ok client) {l : Link}
    (h : (i.task.call settings.pageSize).gather i.task.all
      { client with credential := settings.credential } s.link = (.error f, l)) :
    EndsBy f s (i.run e s) := by
  obtain ⟨warnings, hexecute⟩ := execute_eq hsettings hclient
  exact endsBy_of_execute (hexecute.trans (dispatch_asks.error h)) rfl rfl rfl

/-! ## What is written otherwise -/

theorem exists_of_ask {α : Type} (ask : Link → Except Failure α × Link) {l : Link}
    (h : (ask l).1.map (fun _ => ()) = .ok ()) : ∃ x l', ask l = (.ok x, l') := by
  rcases hask : ask l with ⟨f | x, l'⟩
  · rw [hask] at h
    cases h
  · exact ⟨x, l', rfl⟩

theorem runList_json {α : Type} [Wire α] {call : ListCall α} {all : Bool}
    (hformat : i.format = .json) (hwatched : call.options.watched = false)
    (h : ((Call.list call).gather all c s.link).1 = .ok ()) :
    ∃ v s', i.runList c call all s = i.emitValue v s' ∧ s'.stdout = s.stdout := by
  have hlines : i.format ≠ .jsonl := by
    rw [hformat]
    decide
  cases all with
  | true =>
    rw [Call.gather, if_pos rfl] at h
    rcases hcollect : (Pager.start call).collect c s.link with ⟨f | items, l⟩
    · rw [hcollect] at h
      cases h
    · rw [runList_all hcollect, emitItems, if_neg hlines]
      exact ⟨_, _, rfl, rfl⟩
  | false =>
    rw [Call.gather, if_neg Bool.false_ne_true] at h
    rcases hnext : (Pager.start call).next c s.link with ⟨f | _ | page, q, l⟩
    · rw [hnext] at h
      cases h
    · exact absurd ((Pager.within_start hwatched).done_of_next_none hnext) Bool.false_ne_true
    · rw [runList_page hnext, emitPage, if_neg hlines]
      exact ⟨_, _, rfl, rfl⟩

theorem emitReport_json (hformat : i.format = .json) (r : Report) :
    i.emitReport settings r = i.emitValue r.toValue := by
  rw [emitReport, hformat]

theorem dispatch_json (hformat : i.format = .json)
    (hdownload : ∀ call, i.task.call settings.pageSize ≠ .download call)
    (h : ((i.task.call settings.pageSize).gather i.task.all c s.link).1 = .ok ()) :
    ∃ v s', i.dispatch settings c s = i.emitValue v s' ∧ s'.stdout = s.stdout := by
  cases hlist : i.task.list? with
  | some task =>
    obtain @⟨α, wire, listing, p, f⟩ := task
    obtain ⟨hcall, hall⟩ := Task.call_of_list hlist settings.pageSize
    rw [hcall, hall] at h
    rw [dispatch_of_list hlist]
    exact runList_json hformat rfl h
  | none =>
  cases hlookup : i.task.lookup? with
  | some task =>
    obtain @⟨α, wire, lookup, f⟩ := task
    obtain ⟨hcall, hall⟩ := Task.call_of_lookup hlookup settings.pageSize
    rw [hcall, hall] at h
    obtain ⟨answer, l, hask⟩ := exists_of_ask (GetCall.send ⟨lookup, f.options⟩ c) h
    rw [dispatch_of_lookup hlookup]
    exact ⟨_, _, runGet_eq hask, rfl⟩
  | none =>
  cases htask : i.task with
  | report start finish dimensions metrics filters sorts w download f =>
    rw [htask, Task.call, builtReport_eq] at h hdownload
    cases download with
    | true => exact absurd rfl (hdownload _)
    | false =>
      obtain ⟨answer, l, hask⟩ := exists_of_ask
        (ReportCall.send ⟨start, finish, dimensions, metrics, filters, sorts, w, f.options⟩ c) h
      unfold dispatch
      rw [htask]
      exact ⟨_, _, (Run.bind_ok (Run.onLink_eq hask)).trans
        (congrFun (emitReport_json hformat answer.payload) _), rfl⟩
  | savedReport id w f =>
    rw [htask, Task.call, builtSavedReport_eq] at h
    obtain ⟨answer, l, hask⟩ := exists_of_ask (SavedReportCall.send ⟨id, w, f.options⟩ c) h
    unfold dispatch
    rw [htask]
    exact ⟨_, _, (Run.bind_ok (Run.onLink_eq hask)).trans
      (congrFun (emitReport_json hformat answer.payload) _), rfl⟩
  | adUnit | channel =>
    rw [htask] at hlookup
    cases hlookup
  | _ =>
    rw [htask] at hlist
    cases hlist

theorem stdout_emitValue (hformat : i.format = .json) (houtput : i.output = none) (v : Value) :
    (i.emitValue v s).2.stdout = s.stdout ++ Utf8.encode (v.toText ++ "\n").toList := by
  unfold emitValue
  rw [houtput, hformat]
  rfl

/-! ## Runs -/

/-- A run without settings or a client, or whose call is refused, or any of whose replies does not
hold what was asked for, writes nothing, neither to the standard output nor to any file; so does one
that is told that nothing changed. A run that has fetched everything writes: as JSON, one value. -/
theorem run_ends_by [Yaml.Wording] (i : Invocation) (e : Environment) (s : Session) :
    (∀ f, i.settings e s.disk = .error f → EndsBy f s (i.run e s)) ∧
    ∀ settings, i.settings e s.disk = .ok settings →
      (∀ f, Client.of settings.transport = .error f → EndsBy f s (i.run e s)) ∧
      ∀ client, Client.of settings.transport = .ok client →
        let c := { client with credential := settings.credential }
        let call := i.task.call settings.pageSize
        (∀ f l, call.gather i.task.all c s.link = (.error f, l) → EndsBy f s (i.run e s)) ∧
        (∃ messages used, s.link.Exchanged (i.run e s).2.link messages used ∧
          ((used = [] ∨ ∃ reply ∈ used, ¬call.Delivers reply) →
            ∃ f l, call.gather i.task.all c s.link = (.error f, l))) ∧
        (i.format = .json → i.output = none → (∀ d, call ≠ .download d) →
          (call.gather i.task.all c s.link).1 = .ok () → ∃ v : Value,
            (i.run e s).2.stdout = s.stdout ++ Utf8.encode (v.toText ++ "\n").toList) := by
  refine ⟨fun f h => endsBy_of_execute (execute_of_settings_error h) rfl rfl rfl,
    fun settings hsettings => ⟨fun f h => ?_, fun client hclient => ?_⟩⟩
  · obtain ⟨warnings, hexecute⟩ := execute_of_settings hsettings
    rw [h] at hexecute
    exact endsBy_of_execute hexecute rfl rfl rfl
  intro c call
  refine ⟨fun f l h => endsBy_of_gather hsettings hclient h, ?_, ?_⟩
  · obtain ⟨messages, used, hl, -, hused⟩ :=
      Call.exchanged_gather (i.task.unwatched settings.pageSize) i.task.all c s.link
    rw [← link_run_eq hsettings hclient] at hl
    refine ⟨messages, used, hl, fun hfailed => ?_⟩
    rcases hgather : call.gather i.task.all c s.link with ⟨f | _, l⟩
    · exact ⟨f, l, rfl⟩
    · obtain ⟨hne, hall⟩ := hused (congrArg Prod.fst hgather)
      rcases hfailed with hnil | ⟨reply, hreply, hnot⟩
      · exact absurd hnil hne
      · exact absurd (hall reply hreply) hnot
  · intro hformat houtput hdownload hgather
    obtain ⟨warnings, hexecute⟩ := execute_eq hsettings hclient
    obtain ⟨v, s', hdispatch, hstdout⟩ := dispatch_json
      (s := { s with log := s.log ++ warnings.map (.warning, ·) }) hformat hdownload hgather
    refine ⟨v, ?_⟩
    have hrun : (i.run e s).2.stdout = (i.execute e s).2.stdout :=
      view_run (fun _ _ => rfl) i e s
    rw [hrun, hexecute, hdispatch, stdout_emitValue hformat houtput, hstdout]

/-- The first page is there, then the server is busy. -/
def busySession : Session :=
  { disk := { folders := ["."], files := [("out", .octets [0x78])] }
    link := { replies := (answering twoPages).replies.take 1 ++ [.answer { status := 503 }] } }

theorem run_ends_by_busy :
    (sampleListing.everyPage.run [] busySession).1 = .error (.refused (Refusal.of 503 [] "")) ∧
      (sampleListing.everyPage.run [] busySession).2.disk = busySession.disk ∧
      (sampleListing.everyPage.run [] busySession).2.stdout = [] ∧
      (sampleListing.everyPage.run [] busySession).2.link.sent.length = 2 := by
  have hsettings : sampleListing.everyPage.settings [] busySession.disk = .ok sampleSettings := rfl
  obtain ⟨-, hfetch⟩ := run_ends_by sampleListing.everyPage [] busySession
  obtain ⟨-, hfetch⟩ := hfetch sampleSettings hsettings
  obtain ⟨hends, -, -⟩ := hfetch sampleClient of_sampleSettings
  rcases hgather : (sampleListing.everyPage.task.call none).gather true sampleClient
    busySession.link with ⟨result, l⟩
  have hresult : ((sampleListing.everyPage.task.call none).gather true sampleClient
      busySession.link).1 = .error (.refused (Refusal.of 503 [] "")) := by
    decide +kernel
  rw [hgather] at hresult
  obtain rfl : result = _ := hresult
  obtain ⟨hresult, hstdout, hdisk, -⟩ := hends _ l hgather
  refine ⟨hresult, hdisk, hstdout, ?_⟩
  decide +kernel

end Invocation
end Command
end SellerApi
