import SellerApi.Proofs.Call.ListSettings
import SellerApi.Proofs.Call.ReportSettings
import SellerApi.Proofs.Call.Sending
import SellerApi.Proofs.Command.Task

/-! # The calls that tasks stand for

A task stands for the call that is built by one setting for each flag that was given: `Task.call`.
Its request carries the pairs of the flags and no other ones (`Task.carries_of_made`).
-/

namespace SellerApi

open SellerApi.Resource SellerApi.Text

/-! ## Calls built by settings -/

namespace ListCall

variable {α : Type}

theorem foldl_option (call : ListCall α) (settings : List CallOptions.Setting) :
    (settings.map .option).foldl set call =
      { call with options := settings.foldl CallOptions.set call.options } := by
  induction settings generalizing call with
  | nil => rfl
  | cons s settings ih => exact ih _

end ListCall

def GetCall.built {α : Type} (lookup : Lookup α) (settings : List CallOptions.Setting) :
    GetCall α :=
  settings.foldl set { lookup }

theorem GetCall.built_eq {α : Type} (lookup : Lookup α) (settings : List CallOptions.Setting) :
    built lookup settings = { lookup, options := settings.foldl CallOptions.set {} } := by
  have hfold : ∀ call : GetCall α, settings.foldl set call =
      { call with options := settings.foldl CallOptions.set call.options } := by
    induction settings with
    | nil => exact fun _ => rfl
    | cons s settings ih => exact fun call => ih (call.set s)
  exact hfold _

namespace ReportCall

theorem foldl_option (call : ReportCall) (settings : List CallOptions.Setting) :
    (settings.map .option).foldl set call =
      { call with options := settings.foldl CallOptions.set call.options } := by
  induction settings generalizing call with
  | nil => rfl
  | cons s settings ih => exact ih _

/-- Settings that add one text each add all the texts in their order. -/
theorem foldl_texts (step : String → Setting) (add : ReportCall → List String → ReportCall)
    (hnil : ∀ call, add call [] = call)
    (hcons : ∀ call text texts, add (call.set (step text)) texts = add call (text :: texts))
    (call : ReportCall) (texts : List String) :
    (texts.map step).foldl set call = add call texts := by
  induction texts generalizing call with
  | nil => exact (hnil call).symm
  | cons text texts ih => exact (ih _).trans (hcons call text texts)

end ReportCall

def SavedReportCall.built (id : String) (settings : List Setting) : SavedReportCall :=
  settings.foldl set { id }

theorem SavedReportCall.foldl_option (call : SavedReportCall)
    (settings : List CallOptions.Setting) :
    (settings.map .option).foldl set call =
      { call with options := settings.foldl CallOptions.set call.options } := by
  induction settings generalizing call with
  | nil => rfl
  | cons s settings ih => exact ih _

namespace Command

/-! ## The settings of flags -/

/-- The settings that flags stand for: one for each of them that was given. -/
def Fetching.given (f : Fetching) : List CallOptions.Setting :=
  f.fields.toList.map (fun text => .fields (.ofText text)) ++ f.ifNoneMatch.toList.map .cacheTag ++
    f.timeoutSeconds.toList.map fun seconds => .deadline (1000 * seconds)

/-- The number of items on a page may come from elsewhere. -/
def Paging.given (p : Paging) (pageSize : Option Nat) : List ListCall.Setting :=
  (p.maxResults.or pageSize).toList.map .maxResults ++ p.pageToken.toList.map .pageToken

/-- The settings for the rows of a report, whatever builds its call. -/
def givenWindow {σ : Type} (locale : String → σ) (maxResults startIndex : Nat → σ)
    (w : ReportWindow) : List σ :=
  w.locale.toList.map locale ++ w.maxResults.toList.map maxResults ++
    w.startIndex.toList.map startIndex

theorem Fetching.foldl_given (f : Fetching) : f.given.foldl CallOptions.set {} = f.options := by
  unfold given options
  cases f.fields <;> cases f.ifNoneMatch <;> cases f.timeoutSeconds <;> rfl

section

variable {α : Type} (listing : Listing α) (inactive : Option Bool) (p : Paging) (f : Fetching)
  (pageSize : Option Nat)

/-- The call for a list that its flags build. -/
def builtList : ListCall α :=
  ListCall.built listing
    (inactive.toList.map ListCall.Setting.inactive ++ p.given pageSize ++ f.given.map .option)

theorem builtList_eq :
    builtList listing inactive p f pageSize =
      listCall (inactive.elim listing listing.withInactive) p f pageSize := by
  have hpage : (inactive.toList.map ListCall.Setting.inactive ++ p.given pageSize).foldl
      ListCall.set { listing } =
      { listing := inactive.elim listing listing.withInactive, page := p.options pageSize } := by
    unfold Paging.given Paging.options
    cases inactive <;> cases p.maxResults.or pageSize <;> cases p.pageToken <;> rfl
  rw [builtList, ListCall.built, List.foldl_append, hpage, ListCall.foldl_option, f.foldl_given]
  rfl

end

def builtReport (start finish : String) (dimensions metrics filters sorts : List String)
    (w : ReportWindow) (f : Fetching) : ReportCall :=
  ReportCall.built start finish
    (dimensions.map .dimension ++ metrics.map .metric ++ filters.map .filter ++ sorts.map .sort ++
      givenWindow .locale .maxResults .startIndex w ++ f.given.map .option)

theorem builtReport_eq (start finish : String) (dimensions metrics filters sorts : List String)
    (w : ReportWindow) (f : Fetching) :
    builtReport start finish dimensions metrics filters sorts w f =
      { startDate := start, endDate := finish, dimensions, metrics, filters, sorts, window := w
        options := f.options } := by
  have hdimensions := ReportCall.foldl_texts .dimension
    (fun call texts => { call with dimensions := call.dimensions ++ texts })
    (by simp) (by simp [ReportCall.set])
  have hmetrics := ReportCall.foldl_texts .metric
    (fun call texts => { call with metrics := call.metrics ++ texts })
    (by simp) (by simp [ReportCall.set])
  have hfilters := ReportCall.foldl_texts .filter
    (fun call texts => { call with filters := call.filters ++ texts })
    (by simp) (by simp [ReportCall.set])
  have hsorts := ReportCall.foldl_texts .sort
    (fun call texts => { call with sorts := call.sorts ++ texts })
    (by simp) (by simp [ReportCall.set])
  have hwindow : ∀ call : ReportCall, call.window = {} →
      (givenWindow .locale .maxResults .startIndex w).foldl ReportCall.set call =
        { call with window := w } := by
    rintro ⟨⟩ ⟨⟩
    obtain ⟨locale, maxResults, startIndex⟩ := w
    cases locale <;> cases maxResults <;> cases startIndex <;> rfl
  rw [builtReport, ReportCall.built, List.foldl_append, List.foldl_append, List.foldl_append,
    List.foldl_append, List.foldl_append, hdimensions, hmetrics, hfilters, hsorts, hwindow _ rfl,
    ReportCall.foldl_option, f.foldl_given]
  rfl

def builtSavedReport (id : String) (w : ReportWindow) (f : Fetching) : SavedReportCall :=
  SavedReportCall.built id (givenWindow .locale .maxResults .startIndex w ++ f.given.map .option)

theorem builtSavedReport_eq (id : String) (w : ReportWindow) (f : Fetching) :
    builtSavedReport id w f = { id, window := w, options := f.options } := by
  have hwindow : (givenWindow .locale .maxResults .startIndex w).foldl SavedReportCall.set { id } =
      { id, window := w } := by
    obtain ⟨locale, maxResults, startIndex⟩ := w
    cases locale <;> cases maxResults <;> cases startIndex <;> rfl
  rw [builtSavedReport, SavedReportCall.built, List.foldl_append, hwindow,
    SavedReportCall.foldl_option, f.foldl_given]

/-! ## The call of a task -/

namespace Task

def fetching : Task → Fetching
  | .adClients _ f | .adUnits _ _ _ f | .adUnit _ _ f | .unitChannels _ _ _ f | .channels _ _ f
  | .channel _ _ f | .channelUnits _ _ _ _ f | .urlChannels _ _ f | .report _ _ _ _ _ _ _ _ f
  | .savedReports _ f | .savedReport _ _ f => f

/-- Whether every page of a list is wanted. -/
def all : Task → Bool
  | .adClients p _ | .adUnits _ _ p _ | .unitChannels _ _ p _ | .channels _ p _
  | .channelUnits _ _ _ p _ | .urlChannels _ p _ | .savedReports p _ => p.all
  | .adUnit .. | .channel .. | .report .. | .savedReport .. => false

/-- The call that a task stands for. Only a list takes its number of items on a page from
elsewhere. -/
def call (pageSize : Option Nat) : Task → Call
  | .adClients p f => .list (builtList .adClients none p f pageSize)
  | .adUnits client inactive p f => .list (builtList (.adUnits client none) inactive p f pageSize)
  | .adUnit client unit f => .lookup (GetCall.built (.adUnit client unit) f.given)
  | .unitChannels client unit p f =>
    .list (builtList (.unitChannels client unit) none p f pageSize)
  | .channels client p f => .list (builtList (.channels client) none p f pageSize)
  | .channel client id f => .lookup (GetCall.built (.channel client id) f.given)
  | .channelUnits client id inactive p f =>
    .list (builtList (.channelUnits client id none) inactive p f pageSize)
  | .urlChannels client p f => .list (builtList (.urlChannels client) none p f pageSize)
  | .report start finish dimensions metrics filters sorts w download f =>
    let call := builtReport start finish dimensions metrics filters sorts w f
    if download then .download call else .report call
  | .savedReports p f => .list (builtList .savedReports none p f pageSize)
  | .savedReport id w f => .savedReport (builtSavedReport id w f)

theorem call_of_list {task : Task} {α : Type} [Wire α] {listing : Listing α} {p : Paging}
    {f : Fetching} (h : task.list? = some ⟨listing, p, f⟩) (pageSize : Option Nat) :
    task.call pageSize = .list (listCall listing p f pageSize) ∧ task.all = p.all := by
  cases task with
  | adUnits client inactive | channelUnits client id inactive =>
    cases h
    refine ⟨?_, rfl⟩
    rw [call, builtList_eq]
    cases inactive <;> rfl
  | adUnit | channel | report | savedReport => cases h
  | _ =>
    cases h
    refine ⟨?_, rfl⟩
    rw [call, builtList_eq]
    rfl

theorem call_of_lookup {task : Task} {α : Type} [Wire α] {lookup : Lookup α} {f : Fetching}
    (h : task.lookup? = some ⟨lookup, f⟩) (pageSize : Option Nat) :
    task.call pageSize = .lookup { lookup, options := f.options } ∧ task.all = false := by
  cases task with
  | adUnit | channel =>
    cases h
    refine ⟨?_, rfl⟩
    rw [call, GetCall.built_eq, Fetching.foldl_given]
  | _ => cases h

theorem all_eq_false_of_not_list {task : Task} (h : task.list? = none) : task.all = false := by
  cases task <;> first | rfl | cases h

theorem unwatched (task : Task) (pageSize : Option Nat) :
    (task.call pageSize).options.watched = false := by
  cases task with
  | adUnit | channel => rw [(call_of_lookup rfl pageSize).1]; rfl
  | report start finish dimensions metrics filters sorts w download f =>
    rw [call, builtReport_eq]
    cases download <;> rfl
  | savedReport => rw [call, builtSavedReport_eq]; rfl
  | _ => rw [(call_of_list rfl pageSize).1]; rfl

/-- A task that does not list has nothing to do with the size of a page. -/
theorem call_eq_of_not_list {task : Task} (h : task.list? = none) (pageSize : Option Nat) :
    task.call pageSize = task.call none := by
  cases task <;> first | rfl | cases h

end Task

/-! ## The pairs of a task -/

def Fetching.pairs (f : Fetching) : List (String × String) :=
  ((f.fields.map FieldMask.ofText).filter fun mask => mask.selectors.any (· ≠ "")).toList.map
    fun mask => ("fields", mask.toText)

/-- The pairs for a page, with at most `ceiling` items. -/
def Paging.pairs (p : Paging) (pageSize : Option Nat) (ceiling : Nat) : List (String × String) :=
  (p.maxResults.or pageSize).toList.map (fun n => ("maxResults", natText (min n ceiling))) ++
    (p.pageToken.filter (· ≠ "")).toList.map ("pageToken", ·)

def inactivePairs (inactive : Option Bool) : List (String × String) :=
  inactive.toList.map fun wanted => ("includeInactive", if wanted then "true" else "false")

def windowPairs (w : ReportWindow) : List (String × String) :=
  w.locale.toList.map ("locale", ·) ++
    w.maxResults.toList.map (fun n => ("maxResults", natText (min n 50000))) ++
    w.startIndex.toList.map fun n => ("startIndex", natText (min n 5000))

/-- The pairs of the flags that were given, and of the dates of a report. -/
def Task.pairs (pageSize : Option Nat) : Task → List (String × String)
  | .adClients p f | .unitChannels _ _ p f | .channels _ p f | .urlChannels _ p f =>
    p.pairs pageSize 10000 ++ f.pairs
  | .savedReports p f => p.pairs pageSize 100 ++ f.pairs
  | .adUnits _ inactive p f | .channelUnits _ _ inactive p f =>
    inactivePairs inactive ++ p.pairs pageSize 10000 ++ f.pairs
  | .adUnit _ _ f | .channel _ _ f => f.pairs
  | .report start finish dimensions metrics filters sorts w _ f =>
    [("startDate", start), ("endDate", finish)] ++ dimensions.map ("dimension", ·) ++
      metrics.map ("metric", ·) ++ filters.map ("filter", ·) ++ sorts.map ("sort", ·) ++
      windowPairs w ++ f.pairs
  | .savedReport _ w f => windowPairs w ++ f.pairs

/-- What a request carries besides its path: the pairs of a task, the cache tag and the deadline. -/
structure Task.Carries (task : Task) (pageSize : Option Nat) (r : Request) : Prop where
  pairs : r.query.pairs = task.pairs pageSize
  cacheTag : r.cacheTag = task.fetching.ifNoneMatch
  deadline : r.deadline = task.fetching.timeoutSeconds.map (1000 * ·)

theorem Fetching.apply_options (f : Fetching) (r : Request) :
    f.options.apply r = { r with
      query := ⟨r.query.pairs ++ f.pairs⟩
      cacheTag := f.ifNoneMatch
      deadline := f.timeoutSeconds.map (1000 * ·) } := by
  rw [CallOptions.apply, Request.select_eq, FieldMask.pairs_eq]
  rfl

/-- The flags of a request that is made by options are those of its query before and these. -/
theorem Task.carries_apply {task : Task} {pageSize : Option Nat} {r : Request}
    (h : r.query.pairs ++ task.fetching.pairs = task.pairs pageSize) :
    task.Carries pageSize (task.fetching.options.apply r) := by
  rw [Fetching.apply_options]
  exact ⟨h, rfl, rfl⟩

theorem pairs_windowApply (w : ReportWindow) (q : Query) :
    (w.apply q).pairs = q.pairs ++ windowPairs w := by
  simp only [ReportWindow.apply, Query.pairs_pushCount, Query.pairs_pushOption, windowPairs,
    List.append_assoc]
  rfl

theorem pairs_pageApply (p : Paging) (pageSize : Option Nat) (ceiling : Nat) (r : Request) :
    ((p.options pageSize).apply ceiling p.pageToken r).query.pairs =
      r.query.pairs ++ p.pairs pageSize ceiling := by
  simp only [PageOptions.apply, Query.pairs_pushOption, Query.pairs_pushCount, Paging.options,
    Paging.pairs, List.append_assoc]

theorem Task.carries_of_list {task : Task} {α : Type} [Wire α] {listing : Listing α} {p : Paging}
    {pageSize : Option Nat} {r : Request}
    (htask : task.list? = some ⟨listing, p, task.fetching⟩)
    (hpairs : task.pairs pageSize =
      inactivePairs listing.inactive ++ p.pairs pageSize listing.ceiling ++ task.fetching.pairs)
    (h : (task.call pageSize).made = .ok r) : task.Carries pageSize r := by
  rw [(call_of_list htask pageSize).1] at h
  cases h
  have hinactive (q : Query) : (q.pushOption "includeInactive"
      (listing.inactive.map ListCall.boolText)).pairs =
        q.pairs ++ inactivePairs listing.inactive := by
    rw [Query.pairs_pushOption, Option.toList_map, List.map_map]
    rfl
  refine carries_apply ?_
  rw [hpairs]
  refine congrArg (· ++ task.fetching.pairs)
    ((pairs_pageApply p pageSize listing.ceiling _).trans ?_)
  exact congrArg (· ++ p.pairs pageSize listing.ceiling) (hinactive {})

/-- Whatever request the call of a task makes, it carries what the flags say. -/
theorem Task.carries_of_made {task : Task} {pageSize : Option Nat} {r : Request}
    (h : (task.call pageSize).made = .ok r) : task.Carries pageSize r := by
  cases task with
  | adUnit | channel =>
    rw [(call_of_lookup rfl pageSize).1] at h
    cases h
    exact carries_apply rfl
  | report start finish dimensions metrics filters sorts w download f =>
    have hmade :
        (builtReport start finish dimensions metrics filters sorts w f).request = .ok r := by
      cases download <;> exact h
    obtain ⟨-, -, h⟩ := bind_eq_ok_iff.1 hmade
    cases h
    rw [builtReport_eq]
    refine carries_apply ?_
    rw [ReportCall.query, pairs_windowApply]
    rfl
  | savedReport id w f =>
    obtain ⟨-, -, h⟩ := bind_eq_ok_iff.1 h
    cases h
    rw [builtSavedReport_eq]
    refine carries_apply ?_
    rw [pairs_windowApply]
    rfl
  | _ => exact carries_of_list rfl rfl h

end Command
end SellerApi
