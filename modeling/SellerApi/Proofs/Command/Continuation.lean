import SellerApi.Proofs.Command.Output
import SellerApi.Proofs.Listing.Resume

/-! # Listings over several runs

A run that lists one page names the token of the page in its log, and the user may go on from there
with another run. It is the token for which a pager would ask next, unless it is empty: the pager
takes an empty token for none, the log does not. Where no page has an empty token, such a chain of
runs (`Chain`) sends what one run for all pages sends and writes the same text
(`Invocation.continuation_agrees`). The proof is by induction on the pages: the pager of the run for
all pages stands where the next run of the chain begins (`Invocation.Tracks`), page after page.
-/

namespace SellerApi.Command

open SellerApi.Http SellerApi.Json SellerApi.Resource SellerApi.Text

/-! ## Runs from a page on -/

/-- A task with its paging changed, if it lists. -/
def Task.mapPaging (g : Paging → Paging) : Task → Task
  | .adClients p f => .adClients (g p) f
  | .adUnits client inactive p f => .adUnits client inactive (g p) f
  | .unitChannels client unit p f => .unitChannels client unit (g p) f
  | .channels client p f => .channels client (g p) f
  | .channelUnits client id inactive p f => .channelUnits client id inactive (g p) f
  | .urlChannels client p f => .urlChannels client (g p) f
  | .savedReports p f => .savedReports (g p) f
  | task => task

theorem Task.list?_mapPaging {α : Type} [Wire α] {task : Task} {listing : Listing α} {p : Paging}
    {f : Fetching} (h : task.list? = some ⟨listing, p, f⟩) (g : Paging → Paging) :
    (task.mapPaging g).list? = some ⟨listing, g p, f⟩ := by
  cases task <;> cases h <;> rfl

/-- What a run starts with: nothing is written yet. -/
def Session.begin (s : Session) : Session := { disk := s.disk, link := s.link }

/-- The log names a token to go on from. -/
def Session.Names (s : Session) (token : String) : Prop :=
  (Severity.info, Invocation.hintLine token) ∈ s.log

namespace Invocation

/-- The same list from the page of a token on. -/
def fromToken (i : Invocation) (token : String) : Invocation :=
  { i with task := i.task.mapPaging fun p => { p with pageToken := some token } }

/-- All pages of the same list. -/
def everyPage (i : Invocation) : Invocation :=
  { i with task := i.task.mapPaging fun p => { p with all := true } }

/-- What a run has written: the octets in the output file or on the standard output. -/
def written (i : Invocation) (s : Session) : List UInt8 :=
  match i.output with
  | none => s.stdout
  | some path =>
    match s.disk.get? path with
    | some (.octets octets) => octets
    | _ => []

/-- The output file can be created. -/
def Writable (i : Invocation) (d : Disk) : Prop :=
  ∀ path, i.output = some path → ∃ d', d.create path = .ok d'

/-- Disks that differ in the output file at most, which was written on the way. -/
def Rewrites (i : Invocation) (d d' : Disk) : Prop :=
  d' = d ∨ ∃ path octets, i.output = some path ∧ d' = d.put path (.octets octets)

section

variable {i : Invocation} {d d' d'' : Disk}

theorem Rewrites.trans (h : i.Rewrites d d') (h' : i.Rewrites d' d'') : i.Rewrites d d'' := by
  rcases h' with rfl | ⟨path, octets, houtput, rfl⟩
  · exact h
  · refine .inr ⟨path, octets, houtput, ?_⟩
    rcases h with rfl | ⟨other, before, hother, rfl⟩
    · rfl
    · obtain rfl : path = other := Option.some.inj (houtput.symm.trans hother)
      exact Disk.put_put _ _ _ _

/-- A file that was written can be created again. -/
theorem Writable.of_rewrites (h : i.Writable d) (hd : i.Rewrites d d') : i.Writable d' := by
  intro path houtput
  obtain ⟨created, hcreate⟩ := h path houtput
  rcases hd with rfl | ⟨other, octets, -, rfl⟩
  · exact ⟨created, hcreate⟩
  · exact Disk.create_put hcreate _ _

end

end Invocation

section

variable [Yaml.Wording]

/-- Runs one after the other, each from the token on that the log of the one before names, up to
the first one whose log names none. The texts are what the runs write. -/
inductive Chain (e : Environment) :
    Invocation → Session → List (List UInt8) → Session → Prop where
  | last {i : Invocation} {s s' : Session} (hrun : i.run e s.begin = (.ok (), s'))
    (hnone : ∀ token, ¬s'.Names token) : Chain e i s [i.written s'] s'
  | more {i : Invocation} {s s' s'' : Session} {token : String} {texts : List (List UInt8)}
    (hrun : i.run e s.begin = (.ok (), s')) (hnames : ∀ other, s'.Names other ↔ other = token)
    (hrest : Chain e (i.fromToken token) s' texts s'') :
    Chain e i s (i.written s' :: texts) s''

/-- There is one chain at most. -/
theorem Chain.unique {e : Environment} {i : Invocation} {s s₁ s₂ : Session}
    {texts₁ texts₂ : List (List UInt8)} (h₁ : Chain e i s texts₁ s₁) (h₂ : Chain e i s texts₂ s₂) :
    texts₁ = texts₂ ∧ s₁ = s₂ := by
  induction h₁ generalizing texts₂ s₂ with
  | last hrun hnone =>
    cases h₂ with
    | last hrun' =>
      cases hrun.symm.trans hrun'
      exact ⟨rfl, rfl⟩
    | more hrun' hnames =>
      cases hrun.symm.trans hrun'
      exact absurd ((hnames _).2 rfl) (hnone _)
  | more hrun hnames hrest ih =>
    cases h₂ with
    | last hrun' hnone =>
      cases hrun.symm.trans hrun'
      exact absurd ((hnames _).2 rfl) (hnone _)
    | more hrun' hnames' hrest' =>
      cases hrun.symm.trans hrun'
      obtain rfl := (hnames' _).1 ((hnames _).2 rfl)
      obtain ⟨rfl, rfl⟩ := ih hrest'
      exact ⟨rfl, rfl⟩

theorem Chain.ne_nil {e : Environment} {i : Invocation} {s s' : Session}
    {texts : List (List UInt8)} (h : Chain e i s texts s') : texts ≠ [] := by
  cases h <;> exact List.cons_ne_nil _ _

end

/-! ## Text -/

/-- Values, each on a line of its own. -/
def lines (vs : List Value) : List UInt8 :=
  Utf8.encode (String.join (vs.map fun v => v.toText ++ "\n")).toList

theorem lines_append (vs ws : List Value) : lines (vs ++ ws) = lines vs ++ lines ws := by
  simp only [lines, List.map_append, String.join_append, String.toList_append, Utf8.encode,
    List.flatMap_append]

/-! ## One run -/

namespace Invocation

/-- Nothing was on the standard output before, so the items are all that the run has written. -/
theorem emitItems_jsonl {i : Invocation} {s : Session} (hformat : i.format = .jsonl)
    (hstdout : s.stdout = []) (hwritable : i.Writable s.disk) (vs : List Value) :
    ∃ s', i.emitItems vs s = (.ok (), s') ∧ s'.link = s.link ∧ i.written s' = lines vs ∧
      i.Rewrites s.disk s'.disk := by
  unfold emitItems
  rw [if_pos hformat]
  cases houtput : i.output with
  | none =>
    refine ⟨_, rfl, rfl, ?_, .inl rfl⟩
    simp only [written, houtput, hstdout, List.nil_append]
    rfl
  | some path =>
    obtain ⟨d, hd⟩ := hwritable path houtput
    rw [Run.bind_ok (openSink_ok hd)]
    refine ⟨_, rfl, rfl, ?_, .inr ⟨path, lines vs, houtput, ?_⟩⟩
    · simp only [written, houtput, Disk.get?_put]
      rfl
    · rw [Disk.eq_put_of_create hd]
      exact Disk.put_put _ _ _ _

section

variable [Yaml.Wording] {i : Invocation} {s : Session} {e : Environment} {settings : Settings}
  {client : Client} {α : Type} [Wire α] {listing : Listing α} {p : Paging} {f : Fetching} {l : Link}

/-- A run that received a page names the token of the page and no other one. -/
theorem names_run_iff (hsettings : i.settings e s.disk = .ok settings)
    (hclient : Client.of settings.transport = .ok client)
    (htask : i.task.list? = some ⟨listing, p, f⟩) (hall : p.all = false) {page : Answer (Page α)}
    {pager : Pager α}
    (hnext : (Pager.start (listCall listing p f settings.pageSize)).next
      { client with credential := settings.credential } s.link = (.ok (some page), pager, l))
    (token : String) :
    (i.run e s.begin).2.Names token ↔ page.payload.nextPageToken = some token := by
  obtain ⟨warnings, hexecute⟩ := execute_page (s := s.begin) hsettings hclient htask hall hnext
  have hwarning : (Severity.info, hintLine token) ∉
      s.begin.log ++ warnings.map (Severity.warning, ·) := by
    simp [Session.begin]
  rw [Session.Names, run_log, hexecute, emitPage_log, List.mem_append, or_iff_right hwarning]
  exact mem_hints_iff

/-- A run for JSON lines whose settings are the same whatever the output file holds. -/
structure Ready (e : Environment) (settings : Settings) (i : Invocation) (s : Session) : Prop where
  format : i.format = .jsonl
  writable : i.Writable s.disk
  settings_eq : ∀ d, i.Rewrites s.disk d → i.settings e d = .ok settings

omit [Wire α] in
/-- What a run leaves is ready for the next one. -/
theorem Ready.fromToken (h : Ready e settings i s) {s' : Session}
    (hdisk : i.Rewrites s.disk s'.disk) (token : String) :
    Ready e settings (i.fromToken token) s' :=
  ⟨h.format, h.writable.of_rewrites hdisk, fun d hd => h.settings_eq d (hdisk.trans hd)⟩

theorem run_page_jsonl (h : Ready e settings i s)
    (hclient : Client.of settings.transport = .ok client)
    (htask : i.task.list? = some ⟨listing, p, f⟩) (hall : p.all = false) {page : Answer (Page α)}
    {pager : Pager α}
    (hnext : (Pager.start (listCall listing p f settings.pageSize)).next
      { client with credential := settings.credential } s.link = (.ok (some page), pager, l)) :
    ∃ s', i.run e s.begin = (.ok (), s') ∧ s'.link = l ∧
      i.written s' = lines (page.payload.items.map Wire.toValue) ∧ i.Rewrites s.disk s'.disk := by
  obtain ⟨warnings, hexecute⟩ :=
    execute_page (s := s.begin) (h.settings_eq _ (.inl rfl)) hclient htask hall hnext
  rw [emitPage, if_pos h.format] at hexecute
  obtain ⟨s', hemit, hrest⟩ := emitItems_jsonl h.format (s := { s.begin with
    link := l
    log := s.begin.log ++ warnings.map (.warning, ·) ++ hints page.payload.nextPageToken })
    rfl h.writable (page.payload.items.map Wire.toValue)
  exact ⟨s', run_of_execute_ok (hexecute.trans hemit), hrest⟩

theorem run_all_jsonl (h : Ready e settings i s)
    (hclient : Client.of settings.transport = .ok client)
    (htask : i.task.list? = some ⟨listing, p, f⟩) (hall : p.all = true) {items : List α}
    (hcollect : (Pager.start (listCall listing p f settings.pageSize)).collect
      { client with credential := settings.credential } s.link = (.ok items, l)) :
    ∃ s', i.run e s.begin = (.ok (), s') ∧ s'.link = l ∧
      i.written s' = lines (items.map Wire.toValue) := by
  obtain ⟨warnings, hexecute⟩ :=
    execute_all (s := s.begin) (h.settings_eq _ (.inl rfl)) hclient htask hall hcollect
  obtain ⟨s', hemit, hlink, hwritten, -⟩ := emitItems_jsonl h.format (s := { s.begin with
    link := l
    log := s.begin.log ++ warnings.map (.warning, ·) ++ [fetchedLine items.length] })
    rfl h.writable (items.map Wire.toValue)
  exact ⟨s', run_of_execute_ok (hexecute.trans hemit), hlink, hwritten⟩

/-! ## The chain -/

/-- A pager for all pages stands where the next run of a chain is about to begin. -/
structure Tracks (e : Environment) (settings : Settings) (listing : Listing α) (p : Paging)
    (f : Fetching) (pager : Pager α) (l : Link) (i : Invocation) (s : Session) : Prop where
  within : Pager.Within (listCall listing p f settings.pageSize) pager
  running : pager.progress.done = false
  task : ∃ token before, i.task.list? = some ⟨listing, { p with pageToken := token }, f⟩ ∧
    Pager.Follows before pager
      (Pager.start (listCall listing { p with pageToken := token } f settings.pageSize))
  ready : Ready e settings i s
  alike : l.Alike s.link
  sent : l.sent = s.link.sent

/-- The next run receives and writes the page that the pager receives, and names its token. Behind
it the pager is at its end, or it stands where the run from this token is about to begin. -/
theorem Tracks.run {pager q : Pager α} {l₁ : Link} {page : Answer (Page α)}
    (h : Tracks e settings listing p f pager l i s)
    (hclient : Client.of settings.transport = .ok client) (hall : p.all = false)
    (hnext : pager.next { client with credential := settings.credential } l =
      (.ok (some page), q, l₁)) :
    ∃ s', i.run e s.begin = (.ok (), s') ∧ s'.link.sent = l₁.sent ∧
      i.written s' = lines (page.payload.items.map Wire.toValue) ∧
      (∀ token, s'.Names token ↔ page.payload.nextPageToken = some token) ∧
      (q.progress.done = true ∧
          (page.payload.nextPageToken = none ∨ page.payload.nextPageToken = some "") ∨
        ∃ token, page.payload.nextPageToken = some token ∧ token ≠ "" ∧
          Tracks e settings listing p f q l₁ (i.fromToken token) s') := by
  obtain ⟨token, before, htask, hfollows⟩ := h.task
  obtain ⟨hresult, -, hstep⟩ :=
    Pager.next_follows (c := { client with credential := settings.credential }) hfollows h.alike
  rcases hnext' : (Pager.start
      (listCall listing { p with pageToken := token } f settings.pageSize)).next
      { client with credential := settings.credential } s.link with ⟨result, q', m₁⟩
  rw [hnext, hnext'] at hresult hstep
  cases hresult
  obtain ⟨s', hrun, rfl, hwritten, hdisk⟩ := run_page_jsonl h.ready hclient htask hall hnext'
  have hnames := names_run_iff (h.ready.settings_eq _ (.inl rfl)) hclient htask hall hnext'
  rw [hrun] at hnames
  obtain ⟨messages, hl, hm⟩ := hstep.sent
  have hsent : l₁.sent = s'.link.sent := by rw [hl, hm, h.sent]
  refine ⟨s', hrun, hsent.symm, hwritten, hnames, ?_⟩
  rcases h.within.behind_page hnext with hend | ⟨t, htoken, hne, hasks⟩
  · exact .inl hend
  · have hq : Pager.Within (listCall listing p f settings.pageSize) q := by
      have hwithin := h.within.next { client with credential := settings.credential } l
      rwa [hnext] at hwithin
    exact .inr ⟨t, htoken, hne, hq, hasks.running,
      ⟨some t, _, Task.list?_mapPaging htask _, hq.follows rfl hasks.running hasks.token_eq⟩,
      h.ready.fromToken hdisk t, hstep.alike, hsent⟩

/-- Where no token is empty, there is a chain that receives the pages which the pager receives. -/
theorem Tracks.chain {pages : List (Answer (Page α))} {pager last : Pager α} {l' : Link}
    (h : Tracks e settings listing p f pager l i s)
    (hclient : Client.of settings.transport = .ok client) (hall : p.all = false)
    (hpages : pager.pages { client with credential := settings.credential } l =
      (pages, none, last, l'))
    (hne : ∀ page ∈ pages, page.payload.nextPageToken ≠ some "") :
    ∃ texts s', Chain e i s texts s' ∧ texts.length = pages.length ∧
      texts.flatten = lines ((pages.flatMap fun page => page.payload.items).map Wire.toValue) ∧
      s'.link.sent = l'.sent := by
  induction pages generalizing pager l i s with
  | nil =>
    obtain ⟨page, rest, l₁, q, -, hcons, -⟩ := h.within.pages_cons h.running hpages
    contradiction
  | cons page rest ih =>
    obtain ⟨_, _, l₁, q, hnext, hcons, hrest⟩ := h.within.pages_cons h.running hpages
    cases hcons
    obtain ⟨s', hrun, hsent, hwritten, hnames, hbehind⟩ := h.run hclient hall hnext
    rcases hbehind with ⟨hend, hlast⟩ | ⟨t, htoken, -, hlater⟩
    · rw [Pager.pages_of_done hend] at hrest
      cases hrest
      refine ⟨[i.written s'], s', .last hrun fun t => ?_, rfl, ?_, hsent⟩
      · rw [hnames, hlast.resolve_right (hne _ List.mem_cons_self)]
        exact nofun
      · simpa using hwritten
    · obtain ⟨texts, s'', hchain, hlength, htexts, hsent'⟩ :=
        ih hlater hrest fun page hpage => hne page (List.mem_cons_of_mem _ hpage)
      refine ⟨i.written s' :: texts, s'', .more hrun (fun other => ?_) hchain,
        congrArg (· + 1) hlength, ?_, hsent'⟩
      · rw [hnames, htoken, Option.some.injEq]
        exact eq_comm
      · rw [List.flatten_cons, List.flatMap_cons, List.map_append, lines_append, hwritten, htexts]

/-- A chain with as many runs as there are pages has met no empty token. -/
theorem Tracks.ne_empty_of_chain {pages : List (Answer (Page α))} {pager last : Pager α} {l' : Link}
    (h : Tracks e settings listing p f pager l i s)
    (hclient : Client.of settings.transport = .ok client) (hall : p.all = false)
    (hpages : pager.pages { client with credential := settings.credential } l =
      (pages, none, last, l'))
    {texts : List (List UInt8)} {s'' : Session} (hchain : Chain e i s texts s'')
    (hlength : texts.length = pages.length) :
    ∀ page ∈ pages, page.payload.nextPageToken ≠ some "" := by
  induction pages generalizing pager l i s texts with
  | nil => exact List.forall_mem_nil _
  | cons page rest ih =>
    obtain ⟨_, _, l₁, q, hnext, hcons, hrest⟩ := h.within.pages_cons h.running hpages
    cases hcons
    obtain ⟨s', hrun, -, -, hnames, hbehind⟩ := h.run hclient hall hnext
    cases hchain with
    | last hrun' hnone =>
      cases hrun.symm.trans hrun'
      obtain rfl : rest = [] := List.length_eq_zero_iff.1 (by simpa using hlength.symm)
      refine List.forall_mem_singleton.2 fun htoken => ?_
      exact hnone "" ((hnames "").2 htoken)
    | more hrun' hnames' hlater =>
      cases hrun.symm.trans hrun'
      rcases hbehind with ⟨hend, -⟩ | ⟨t, htoken, hne, htracks⟩
      · rw [Pager.pages_of_done hend] at hrest
        cases hrest
        exact absurd (by simpa using hlength) hlater.ne_nil
      · obtain rfl := (hnames' t).1 ((hnames t).2 htoken)
        refine List.forall_mem_cons.2 ⟨fun he => ?_,
          ih htracks hrest hlater (by simpa using hlength)⟩
        exact hne (Option.some.inj (htoken.symm.trans he))

/-- A run that lists one page names the token for which a pager would ask next, and no other one,
exactly if the token of the page is not empty. Hence the runs that each go on from the token named
by the one before are one for each page, send the messages of one run for all pages and write the
same text, as JSON lines, exactly if no page has an empty token. -/
theorem continuation_agrees (hclient : Client.of settings.transport = .ok client)
    (htask : i.task.list? = some ⟨listing, p, f⟩) (hall : p.all = false)
    (hsettings : i.settings e s.disk = .ok settings) :
    (∀ page pager l, (Pager.start (listCall listing p f settings.pageSize)).next
        { client with credential := settings.credential } s.link = (.ok (some page), pager, l) →
      ((∀ token, (i.run e s.begin).2.Names token ↔ pager.AsksFor token) ↔
        page.payload.nextPageToken ≠ some "")) ∧
    (∀ pages pager l, (Pager.start (listCall listing p f settings.pageSize)).pages
        { client with credential := settings.credential } s.link = (pages, none, pager, l) →
      Ready e settings i s → ∃ s₁, i.everyPage.run e s.begin = (.ok (), s₁) ∧
        ((∃ texts s₂, Chain e i s texts s₂ ∧ texts.length = pages.length ∧
            texts.flatten = i.written s₁ ∧ s₂.link.sent = s₁.link.sent) ↔
          ∀ page ∈ pages, page.payload.nextPageToken ≠ some "")) := by
  have hwithin : Pager.Within (listCall listing p f settings.pageSize)
      (Pager.start (listCall listing p f settings.pageSize)) := Pager.within_start rfl
  refine ⟨fun page pager l hnext => ?_, fun pages pager l hpages hready => ?_⟩
  · have hnames := names_run_iff hsettings hclient htask hall hnext
    simp only [hnames, hwithin.asksFor_iff hnext]
    constructor
    · intro h htoken
      exact ((h "").1 htoken).2 rfl
    · intro hne token
      exact ⟨fun htoken => ⟨htoken, fun he => hne (he ▸ htoken)⟩, And.left⟩
  · have hcollect : (Pager.start (listCall listing p f settings.pageSize)).collect
        { client with credential := settings.credential } s.link =
          (.ok (pages.flatMap fun page => page.payload.items), l) := by
      rw [Pager.collect, hpages]
    obtain ⟨s₁, hrun, rfl, hwritten⟩ := run_all_jsonl (i := i.everyPage)
      ⟨hready.format, hready.writable, hready.settings_eq⟩ hclient
      (Task.list?_mapPaging htask _) rfl hcollect
    have htracks : Tracks e settings listing p f
        (Pager.start (listCall listing p f settings.pageSize)) s.link i s :=
      ⟨hwithin, rfl, ⟨p.pageToken, 0, htask, .refl hwithin⟩, hready, .refl _, rfl⟩
    refine ⟨s₁, hrun, ?_, fun hne => ?_⟩
    · rintro ⟨texts, s₂, hchain, hlength, -⟩
      exact htracks.ne_empty_of_chain hclient hall hpages hchain hlength
    · obtain ⟨texts, s₂, hchain, hlength, htexts, hsent⟩ := htracks.chain hclient hall hpages hne
      exact ⟨texts, s₂, hchain, hlength, htexts.trans hwritten.symm, hsent⟩

end

/-- A list as JSON lines, to a file. -/
def sampleListing : Invocation :=
  { baseUrl := some "http://ads.example/v1/", format := .jsonl, output := some "out",
    task := .adClients {} {} }

def sampleListingSession (documents : List String) : Session :=
  { disk := { folders := ["."] }, link := answering documents }

/-- A page that names another one, and a last one. -/
def twoPages : List String :=
  ["\x7b\"items\":[\x7b\"id\":\"u\"\x7d],\"nextPageToken\":\"b\"\x7d",
    "\x7b\"items\":[\x7b\"id\":\"v\"\x7d]\x7d"]

def twoAnswers : List (Answer (Page AdClient)) :=
  [⟨200, [], { items := [{ id := some "u" }], nextPageToken := some "b" }⟩,
    ⟨200, [], { items := [{ id := some "v" }] }⟩]

theorem continuation_agrees_two_pages : ∃ s₁ texts s₂,
    sampleListing.everyPage.run [] (sampleListingSession twoPages).begin = (.ok (), s₁) ∧
    Chain [] sampleListing (sampleListingSession twoPages) texts s₂ ∧ texts.length = 2 ∧
    texts.flatten = sampleListing.written s₁ ∧ s₂.link.sent = s₁.link.sent := by
  have htask : sampleListing.task.list? = some ⟨Listing.adClients, {}, {}⟩ := rfl
  have hsettings : ∀ d, sampleListing.settings [] d = .ok sampleSettings := fun _ => rfl
  have hready : Ready [] sampleSettings sampleListing (sampleListingSession twoPages) := by
    refine ⟨rfl, ?_, fun d _ => hsettings d⟩
    rintro _ ⟨⟩
    exact ⟨_, rfl⟩
  have hresults : (Pager.nexts sampleClient twoAnswers.length samplePager
      (sampleListingSession twoPages).link).1 = twoAnswers.map fun page => .ok (some page) := by
    decide +kernel
  have hdone : (Pager.nexts sampleClient twoAnswers.length samplePager
      (sampleListingSession twoPages).link).2.1.progress.done = true := by
    decide +kernel
  rcases hnexts : Pager.nexts sampleClient twoAnswers.length samplePager
    (sampleListingSession twoPages).link with ⟨results, pager, l⟩
  rw [hnexts] at hresults hdone
  obtain rfl : results = _ := hresults
  obtain ⟨s₁, hrun, hchain⟩ := (continuation_agrees of_sampleSettings htask rfl
    (hsettings _)).2 twoAnswers pager l (Pager.pages_of_nexts hnexts hdone) hready
  obtain ⟨texts, s₂, hchain, hlength, htexts, hsent⟩ := hchain.2 (by decide)
  exact ⟨s₁, texts, s₂, hrun, hchain, hlength, htexts, hsent⟩

/-- A page whose token is empty. -/
def emptyToken : List String := ["\x7b\"nextPageToken\":\"\"\x7d"]

/-- The log names the empty token, for which no pager asks. -/
theorem not_agrees_empty_token : ∃ page pager l,
    samplePager.next sampleClient (sampleListingSession emptyToken).link =
      (.ok (some page), pager, l) ∧
    ¬∀ token, (sampleListing.run [] (sampleListingSession emptyToken).begin).2.Names token ↔
      pager.AsksFor token := by
  have hresult : (samplePager.next sampleClient (sampleListingSession emptyToken).link).1 =
      .ok (some ⟨200, [], { nextPageToken := some "" }⟩) := by
    decide +kernel
  have hdone : (samplePager.next sampleClient
      (sampleListingSession emptyToken).link).2.1.progress.done = true := by
    decide +kernel
  have hlog : (Severity.info, hintLine "") ∈
      (sampleListing.run [] (sampleListingSession emptyToken).begin).2.log := by
    decide +kernel
  rcases hnext : samplePager.next sampleClient (sampleListingSession emptyToken).link with
    ⟨result, pager, l⟩
  rw [hnext] at hresult hdone
  obtain rfl : result = _ := hresult
  refine ⟨_, pager, l, rfl, fun h => ?_⟩
  exact nomatch hdone.symm.trans ((h "").1 hlog).running

end Invocation
end SellerApi.Command
