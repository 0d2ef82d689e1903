import Mathlib.Data.List.Induction
import SellerApi.Call.Report
import SellerApi.Proofs.Call.List
import SellerApi.Proofs.Call.Setting

/-! # Requests of a report that was built by settings

A report call is built from two dates by settings in any order. Its parameters are checked one after
the other (`ReportCall.check_eq`): the first one that does not pass is named, and if all of them
pass the query holds them in that order, with the counts lowered to their ceilings. Which request it
comes to depends only on the order of the settings of each kind (`ReportCall.request_of_settings`).
-/

namespace SellerApi

open SellerApi.Text SellerApi.Parameter

namespace ReportCall

/-! ## Parameters that are checked -/

/-- A parameter that is checked, with its value. -/
inductive Checked where
  | date (name value : String)
  | word (name value : String)
  | filter (value : String)
  | sort (value : String)

namespace Checked

def name : Checked → String
  | .date name _ | .word name _ => name
  | .filter _ => "filter"
  | .sort _ => "sort"

def check : Checked → Except Failure Unit
  | .date name value => checkDate name value
  | .word name value => checkName name value
  | .filter value => checkFilter value
  | .sort value => checkSort value

/-- A check that fails names its parameter. -/
theorem name_of_check {p : Checked} {f : Failure} (h : p.check = .error f) :
    ∃ reason, f = .badParameter p.name reason := by
  cases p with
  | date name value =>
    rw [check, checkDate] at h
    split at h
    · cases h
    split at h
    · split at h
      · cases h
      · exact ⟨_, (Except.error.inj h).symm⟩
    · exact ⟨_, (Except.error.inj h).symm⟩
  | word name value =>
    rw [check, checkName] at h
    split at h
    · cases h
    · exact ⟨_, (Except.error.inj h).symm⟩
  | filter value =>
    rw [check, checkFilter] at h
    split at h
    · cases h
    · exact ⟨_, (Except.error.inj h).symm⟩
  | sort value =>
    rw [check, checkSort] at h
    split at h
    · cases h
    · exact ⟨_, (Except.error.inj h).symm⟩

end Checked

/-- Parameters in the order in which they are checked. -/
def inOrder (startDate endDate : String) (dimensions metrics filters sorts : List String)
    (locale : Option String) : List Checked :=
  [.date "startDate" startDate, .date "endDate" endDate] ++
    dimensions.map (.word "dimension") ++ metrics.map (.word "metric") ++ filters.map .filter ++
    sorts.map .sort ++ locale.toList.map (.word "locale")

theorem window_check_eq (w : ReportWindow) :
    w.check = (w.locale.toList.map (.word "locale")).forM Checked.check := by
  unfold ReportWindow.check
  cases w.locale with
  | none => rfl
  | some locale =>
    cases h : checkName "locale" locale <;>
      simp [Checked.check, h, bind, Except.bind, pure, Except.pure]

theorem check_eq (c : ReportCall) :
    c.check = (inOrder c.startDate c.endDate c.dimensions c.metrics c.filters c.sorts
      c.window.locale).forM Checked.check := by
  simp only [check, inOrder, window_check_eq, List.forM_eq_forM, List.forM_append, List.forM_map,
    List.forM_cons, List.forM_nil, bind_assoc, pure_bind]
  rfl

/-! ## Settings -/

/-- What a setting is about. -/
inductive Modifier where
  | fields
  | cacheTag
  | deadline
  | signal
  | dimension
  | metric
  | filter
  | sort
  | locale
  | maxResults
  | startIndex
  deriving DecidableEq

namespace Setting

def modifier : Setting → Modifier
  | .option (.fields _) => .fields
  | .option (.cacheTag _) => .cacheTag
  | .option (.deadline _) => .deadline
  | .option .watched => .signal
  | .dimension _ | .dimensions _ => .dimension
  | .metric _ | .metrics _ => .metric
  | .filter _ => .filter
  | .sort _ => .sort
  | .locale _ => .locale
  | .maxResults _ => .maxResults
  | .startIndex _ => .startIndex

/-- The texts that a setting adds to those of its kind. -/
def texts : Setting → List String
  | .dimension text | .metric text | .filter text | .sort text => [text]
  | .dimensions texts | .metrics texts => texts
  | _ => []

/-- The text that a setting puts in place of an earlier one. -/
def text? : Setting → Option String
  | .locale text | .option (.cacheTag text) => some text
  | _ => none

def count? : Setting → Option Nat
  | .maxResults n | .startIndex n | .option (.deadline n) => some n
  | _ => none

def mask? : Setting → Option FieldMask
  | .option (.fields mask) => some mask
  | _ => none

end Setting

section

variable (startDate endDate : String) (settings : List Setting)

/-- The call that settings build from two dates. -/
def built : ReportCall := settings.foldl set { startDate, endDate }

/-- All texts of one kind, in the order in which they were set. -/
def textsOf (m : Modifier) : List String :=
  (settings.filter (·.modifier = m)).flatMap Setting.texts

/-- The text of one kind that was set last. -/
def lastText (m : Modifier) : Option String :=
  (lastOf Setting.modifier m settings).bind Setting.text?

def lastCount (m : Modifier) : Option Nat :=
  (lastOf Setting.modifier m settings).bind Setting.count?

def lastMask : Option FieldMask := (lastOf Setting.modifier .fields settings).bind Setting.mask?

theorem textsOf_concat (s : Setting) (m : Modifier) :
    textsOf (settings ++ [s]) m =
      if s.modifier = m then textsOf settings m ++ s.texts else textsOf settings m := by
  by_cases hs : s.modifier = m
  · simp [textsOf, hs]
  · simp [textsOf, hs]

theorem lastText_concat (s : Setting) (m : Modifier) :
    lastText (settings ++ [s]) m = if s.modifier = m then s.text? else lastText settings m :=
  bind_lastOf_concat ..

theorem lastCount_concat (s : Setting) (m : Modifier) :
    lastCount (settings ++ [s]) m = if s.modifier = m then s.count? else lastCount settings m :=
  bind_lastOf_concat ..

theorem lastMask_concat (s : Setting) :
    lastMask (settings ++ [s]) = if s.modifier = .fields then s.mask? else lastMask settings :=
  bind_lastOf_concat ..

/-- What settings leave in a call, part by part. -/
theorem built_eq :
    built startDate endDate settings =
      { startDate, endDate
        dimensions := textsOf settings .dimension
        metrics := textsOf settings .metric
        filters := textsOf settings .filter
        sorts := textsOf settings .sort
        window :=
          { locale := lastText settings .locale
            maxResults := lastCount settings .maxResults
            startIndex := lastCount settings .startIndex }
        options :=
          { fields := lastMask settings
            cacheTag := lastText settings .cacheTag
            deadline := lastCount settings .deadline
            watched := settings.any (·.modifier = .signal) } } := by
  -- from the end, as the last setting decides
  induction settings using List.reverseRec with
  | nil => rfl
  | append_singleton settings s ih =>
    have hstep : built startDate endDate (settings ++ [s]) =
        (built startDate endDate settings).set s := List.foldl_append
    rw [hstep, ih]
    simp only [textsOf_concat, lastText_concat, lastCount_concat, lastMask_concat,
      List.any_append]
    cases s with
    | option s => cases s <;> simp [set, CallOptions.set, Setting.modifier, Setting.text?,
        Setting.count?, Setting.mask?]
    | _ => simp [set, Setting.modifier, Setting.texts, Setting.text?, Setting.count?]

/-- The parameters that two dates and settings give, in the order in which they are checked. -/
def parametersOf : List Checked :=
  inOrder startDate endDate (textsOf settings .dimension) (textsOf settings .metric)
    (textsOf settings .filter) (textsOf settings .sort) (lastText settings .locale)

/-- The pairs that two dates and settings give. -/
def pairsOf : List (String × String) :=
  [("startDate", startDate), ("endDate", endDate)] ++
    (textsOf settings .dimension).map ("dimension", ·) ++
    (textsOf settings .metric).map ("metric", ·) ++
    (textsOf settings .filter).map ("filter", ·) ++
    (textsOf settings .sort).map ("sort", ·) ++
    (lastText settings .locale).toList.map ("locale", ·) ++
    (lastCount settings .maxResults).toList.map (fun n => ("maxResults", natText (min n 50000))) ++
    (lastCount settings .startIndex).toList.map (fun n => ("startIndex", natText (min n 5000))) ++
    ((lastMask settings).filter fun m => m.selectors.any (· ≠ "")).toList.map
      fun m => ("fields", m.toText)

/-- The checks and, behind them, the request with all that was set. -/
theorem request_built :
    (built startDate endDate settings).request =
      ((parametersOf startDate endDate settings).forM Checked.check).bind fun _ =>
        .ok { Endpoint.report.request with
          query := ⟨pairsOf startDate endDate settings⟩
          cacheTag := lastText settings .cacheTag
          deadline := lastCount settings .deadline } := by
  have hcheck : (built startDate endDate settings).check =
      (parametersOf startDate endDate settings).forM Checked.check := by
    rw [check_eq, built_eq, parametersOf]
  have hquery : (built startDate endDate settings).query.pairs ++
      FieldMask.pairs (lastMask settings) = pairsOf startDate endDate settings := by
    rw [built_eq, pairsOf, FieldMask.pairs_eq]
    simp only [query, ReportWindow.apply, Query.pairs_pushCount, Query.pairs_pushOption,
      Query.pairs_pushAll, Query.pairs_push]
    rfl
  rw [request, hcheck, CallOptions.apply, Request.select_eq]
  rw [built_eq] at hquery ⊢
  rw [hquery]
  rfl

/-- A report call names the first parameter that does not pass its check, or else asks for all that
was set; settings of different kinds may come in any order. -/
theorem request_of_settings :
    (∀ f, (built startDate endDate settings).request = .error f ↔
      ∃ before p after reason, parametersOf startDate endDate settings = before ++ p :: after ∧
        (∀ q ∈ before, q.check = .ok ()) ∧ p.check = .error f ∧ f = .badParameter p.name reason) ∧
    ((∀ p ∈ parametersOf startDate endDate settings, p.check = .ok ()) →
      (built startDate endDate settings).request =
        .ok { Endpoint.report.request with
          query := ⟨pairsOf startDate endDate settings⟩
          cacheTag := lastText settings .cacheTag
          deadline := lastCount settings .deadline }) ∧
    ∀ settings', AgreeByKind Setting.modifier settings settings' →
      (built startDate endDate settings').request =
        (built startDate endDate settings).request := by
  refine ⟨fun f => ⟨fun h => ?_, ?_⟩, fun h => ?_, fun settings' h => ?_⟩
  · rw [request_built] at h
    have hfault : (parametersOf startDate endDate settings).forM Checked.check = .error f := by
      cases hc : (parametersOf startDate endDate settings).forM Checked.check with
      | error f' =>
        rw [hc] at h
        exact congrArg Except.error (Except.error.inj h)
      | ok u =>
        rw [hc] at h
        cases h
    obtain ⟨before, p, after, hsplit, hpass, hp⟩ := forM_eq_error_iff.1 hfault
    obtain ⟨reason, hreason⟩ := Checked.name_of_check hp
    exact ⟨before, p, after, reason, hsplit, hpass, hp, hreason⟩
  · rintro ⟨before, p, after, reason, hsplit, hpass, hp, -⟩
    have hfault := forM_eq_error_iff.2 ⟨before, p, after, hsplit, hpass, hp⟩
    rw [request_built, hfault]
    rfl
  · rw [request_built, forM_eq_ok_iff.2 h]
    rfl
  · have htexts : ∀ m, textsOf settings' m = textsOf settings m := by
      intro m
      rw [textsOf, textsOf, h m]
    have htext : ∀ m, lastText settings' m = lastText settings m := by
      intro m
      rw [lastText, lastText, h.lastOf_eq]
    have hcount : ∀ m, lastCount settings' m = lastCount settings m := by
      intro m
      rw [lastCount, lastCount, h.lastOf_eq]
    have hmask : lastMask settings' = lastMask settings := by
      rw [lastMask, lastMask, h.lastOf_eq]
    simp only [request_built, parametersOf, pairsOf, htexts, htext, hcount, hmask]

end

/-- Settings in no order, with two counts and two masks. -/
def mixedSettings : List Setting :=
  [.metric "EARNINGS", .dimension "DATE", .maxResults 7, .option (.fields (.ofText "kind")),
    .dimensions ["AD_UNIT", "DATE"], .filter "AD_UNIT==a&b", .maxResults 60000, .sort "-EARNINGS",
    .option (.fields (.ofList ["", "rows"])), .startIndex 12, .option (.cacheTag "v1")]

/-- The same settings, those of one kind side by side. -/
def sortedSettings : List Setting :=
  [.startIndex 12, .maxResults 7, .maxResults 60000, .sort "-EARNINGS", .filter "AD_UNIT==a&b",
    .metric "EARNINGS", .dimension "DATE", .dimensions ["AD_UNIT", "DATE"],
    .option (.cacheTag "v1"), .option (.fields (.ofText "kind")),
    .option (.fields (.ofList ["", "rows"]))]

theorem request_of_settings_mixed :
    (∀ p ∈ parametersOf "today-7d" "2024-02-29" mixedSettings, p.check = .ok ()) ∧
      AgreeByKind Setting.modifier mixedSettings sortedSettings ∧
      (built "today-7d" "2024-02-29" sortedSettings).request =
        .ok { Endpoint.report.request with
          query := ⟨[("startDate", "today-7d"), ("endDate", "2024-02-29"), ("dimension", "DATE"),
            ("dimension", "AD_UNIT"), ("dimension", "DATE"), ("metric", "EARNINGS"),
            ("filter", "AD_UNIT==a&b"), ("sort", "-EARNINGS"), ("maxResults", "50000"),
            ("startIndex", "12"), ("fields", "rows")]⟩
          cacheTag := some "v1" } ∧
      (built "today-7d" "2023-02-29" mixedSettings).request = .error (.badParameter "endDate"
        "'2023-02-29' is not a calendar date: input is out of range") := by
  have hpass : ∀ p ∈ parametersOf "today-7d" "2024-02-29" mixedSettings, p.check = .ok () := by
    decide +kernel
  have hagree : AgreeByKind Setting.modifier mixedSettings sortedSettings := by
    intro m
    cases m <;> rfl
  have hpairs : pairsOf "today-7d" "2024-02-29" mixedSettings =
      [("startDate", "today-7d"), ("endDate", "2024-02-29"), ("dimension", "DATE"),
        ("dimension", "AD_UNIT"), ("dimension", "DATE"), ("metric", "EARNINGS"),
        ("filter", "AD_UNIT==a&b"), ("sort", "-EARNINGS"), ("maxResults", "50000"),
        ("startIndex", "12"), ("fields", "rows")] := by decide +kernel
  obtain ⟨-, hok, hcongr⟩ := request_of_settings "today-7d" "2024-02-29" mixedSettings
  obtain ⟨herror, -, -⟩ := request_of_settings "today-7d" "2023-02-29" mixedSettings
  refine ⟨hpass, hagree, ?_, (herror _).2 ⟨[.date "startDate" "today-7d"],
    .date "endDate" "2023-02-29", _, _, rfl, ?_, ?_, rfl⟩⟩
  · rw [hcongr sortedSettings hagree, hok hpass, hpairs]
    rfl
  · decide +kernel
  · decide +kernel

end ReportCall
end SellerApi
