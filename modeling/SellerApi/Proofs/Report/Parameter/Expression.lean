import Mathlib.Logic.ExistsUnique
import SellerApi.Proofs.Outcome
import SellerApi.Proofs.Text.Pieces
import SellerApi.Report.Parameter.Expression

/-! # Filters and sort keys

A filter passes its check exactly if it splits into a name, a comparison and a value that is not
empty and on one line (`SpellsFilter`). No comparison starts with a character of a name, so the name
ends where the comparison begins and there is one way to split, whatever the value holds. Therefore
filters and sort keys that were put together from parts pass if their parts do, and come apart into
them (`filters_and_sort_keys`). -/

namespace SellerApi.Parameter

open SellerApi.Text

/-! ## Names -/

/-- One ASCII letter or underscore, or more. -/
structure SpellsName (cs : List Char) : Prop where
  ne_nil : cs ≠ []
  letters : ∀ c ∈ cs, 'a' ≤ c ∧ c ≤ 'z' ∨ 'A' ≤ c ∧ c ≤ 'Z' ∨ c = '_'

theorem isNameChar_iff {c : Char} :
    isNameChar c = true ↔ 'a' ≤ c ∧ c ≤ 'z' ∨ 'A' ≤ c ∧ c ≤ 'Z' ∨ c = '_' := by
  simp only [isNameChar, isAsciiLetter, Bool.or_eq_true, Bool.and_eq_true, decide_eq_true_eq,
    Char.le_def, UInt32.le_iff_toNat_le, or_assoc]
  rfl

theorem isName_iff {cs : List Char} : isName cs = true ↔ SpellsName cs := by
  simp only [isName, Bool.and_eq_true, Bool.not_eq_true', List.isEmpty_eq_false_iff,
    List.all_eq_true, isNameChar_iff]
  exact ⟨fun h => ⟨h.1, h.2⟩, fun h => ⟨h.1, h.2⟩⟩

theorem checkName_eq_ok_iff {name value : String} :
    checkName name value = .ok () ↔ SpellsName value.toList := by
  rw [checkName, ite_eq_ok_iff, isName_iff]

/-! ## Filters -/

/-- A filter and its parts: a name, a comparison and a value. -/
inductive SpellsFilter : List Char → List Char × Comparison × List Char → Prop where
  | mk {name value : List Char} {comparison : Comparison} (hname : SpellsName name)
    (hne : value ≠ []) (hline : '\n' ∉ value) :
    SpellsFilter (name ++ (comparison.sign ++ value)) (name, comparison, value)

theorem splitComparison?_eq_some_iff {cs value : List Char} {comparison : Comparison} :
    splitComparison? cs = some (comparison, value) ↔ cs = comparison.sign ++ value := by
  constructor
  · intro h
    unfold splitComparison? at h
    split at h
    · cases h
      rfl
    · cases h
      rfl
    · nomatch h
  · rintro rfl
    cases comparison <;> rfl

/-- A name ends where a comparison begins. -/
theorem SpellsName.span_append_sign {name : List Char} (h : SpellsName name)
    (comparison : Comparison) (value : List Char) :
    (name ++ (comparison.sign ++ value)).takeWhile isNameChar = name ∧
      (name ++ (comparison.sign ++ value)).dropWhile isNameChar = comparison.sign ++ value := by
  refine span_append (fun c hc => isNameChar_iff.2 (h.letters c hc)) ?_
  cases comparison <;> (rintro _ ⟨⟩; decide)

/-- Names with comparisons and values behind them are the same only part by part. -/
theorem SpellsName.append_sign_inj {name name' : List Char} (h : SpellsName name)
    (h' : SpellsName name') {comparison comparison' : Comparison} {value value' : List Char} :
    name ++ (comparison.sign ++ value) = name' ++ (comparison'.sign ++ value') ↔
      name = name' ∧ comparison = comparison' ∧ value = value' := by
  constructor
  · intro heq
    obtain ⟨htake, hdrop⟩ := h.span_append_sign comparison value
    obtain ⟨htake', hdrop'⟩ := h'.span_append_sign comparison' value'
    rw [heq, htake'] at htake
    rw [heq, hdrop'] at hdrop
    have hsplit := splitComparison?_eq_some_iff.2 hdrop
    rw [splitComparison?_eq_some_iff.2 rfl] at hsplit
    cases hsplit
    exact ⟨htake.symm, rfl, rfl⟩
  · rintro ⟨rfl, rfl, rfl⟩
    rfl

theorem SpellsFilter.unique {cs : List Char} {parts parts' : List Char × Comparison × List Char}
    (h : SpellsFilter cs parts) (h' : SpellsFilter cs parts') : parts = parts' := by
  obtain ⟨hname, -, -⟩ := h
  rename_i name value comparison
  generalize hcs : name ++ (comparison.sign ++ value) = cs at h'
  obtain ⟨hname', -, -⟩ := h'
  obtain ⟨rfl, rfl, rfl⟩ := (hname.append_sign_inj hname').1 hcs
  rfl

theorem splitFilter?_eq_some_iff {cs : List Char} {parts : List Char × Comparison × List Char} :
    splitFilter? cs = some parts ↔ SpellsFilter cs parts := by
  rw [splitFilter?]
  constructor
  · intro h
    split at h
    case h_2 => nomatch h
    next comparison value hsplit =>
    split at h
    · nomatch h
    next hparts =>
    cases h
    simp only [Bool.or_eq_true, List.isEmpty_iff, List.contains_iff_mem, not_or] at hparts
    obtain ⟨⟨hname, hvalue⟩, hline⟩ := hparts
    have hletters : ∀ c ∈ cs.takeWhile isNameChar, isNameChar c = true :=
      List.all_eq_true.1 List.all_takeWhile
    have hspells : SpellsFilter (cs.takeWhile isNameChar ++ (comparison.sign ++ value))
        (cs.takeWhile isNameChar, comparison, value) :=
      .mk ⟨hname, fun c hc => isNameChar_iff.1 (hletters c hc)⟩ hvalue hline
    rwa [← splitComparison?_eq_some_iff.1 hsplit, List.takeWhile_append_dropWhile] at hspells
  · rintro ⟨hname, hne, hline⟩
    obtain ⟨htake, hdrop⟩ := hname.span_append_sign _ _
    rw [htake, hdrop, splitComparison?_eq_some_iff.2 rfl]
    exact if_neg (by simp [hname.ne_nil, hne, hline])

theorem checkFilter_eq_ok_iff {value : String} :
    checkFilter value = .ok () ↔ ∃ parts, SpellsFilter value.toList parts := by
  simp only [checkFilter, ite_eq_ok_iff, Option.isSome_iff_exists, splitFilter?_eq_some_iff]

/-! ## Filters and sort keys that were put together -/

theorem toList_filterText (comparison : Comparison) (d v : String) :
    (filterText comparison d v).toList = d.toList ++ (comparison.sign ++ v.toList) := by
  simp [filterText]

theorem spellsFilter_filterText {d : String} (hd : SpellsName d.toList) (comparison : Comparison)
    (v : String) {parts : List Char × Comparison × List Char} :
    SpellsFilter (filterText comparison d v).toList parts ↔
      parts = (d.toList, comparison, v.toList) ∧ v ≠ "" ∧ '\n' ∉ v.toList := by
  rw [toList_filterText]
  constructor
  · intro h
    generalize hcs : d.toList ++ _ = cs at h
    obtain ⟨hname, hne, hline⟩ := h
    obtain ⟨rfl, rfl, rfl⟩ := (hd.append_sign_inj hname).1 hcs
    exact ⟨rfl, mt String.toList_eq_nil_iff.2 hne, hline⟩
  · rintro ⟨rfl, hne, hline⟩
    exact .mk hd (mt String.toList_eq_nil_iff.1 hne) hline

/-- A filter of a name holds the name, the comparison and the value as they were given. -/
theorem filterText_inj {d d' : String} (hd : SpellsName d.toList) (hd' : SpellsName d'.toList)
    {comparison comparison' : Comparison} {v v' : String} :
    filterText comparison d v = filterText comparison' d' v' ↔
      d = d' ∧ comparison = comparison' ∧ v = v' := by
  rw [← String.toList_inj, toList_filterText, toList_filterText, hd.append_sign_inj hd',
    String.toList_inj, String.toList_inj]

theorem checkSort_sortText (direction : Direction) (parameter column : String) :
    checkSort (sortText direction column) = .ok () ↔ checkName parameter column = .ok () := by
  have hdrop : dropDirection (sortText direction column).toList = column.toList := by
    cases direction <;> simp [sortText, dropDirection]
  rw [checkSort, checkName, ite_eq_ok_iff, ite_eq_ok_iff, isSortKey, hdrop]

/-- A filter passes its check exactly if it splits into a name, a comparison and a value, and then
in one way. A filter of a name passes exactly if its value is not empty and on one line, and splits
into what it was put together from; filters of two names are the same only if all their parts are. A
sort key passes exactly if its column is a name. -/
theorem filters_and_sort_keys :
    (∀ s : String, (checkFilter s = .ok () ↔ ∃ parts, SpellsFilter s.toList parts) ∧
      (checkFilter s = .ok () ↔ ∃! parts, SpellsFilter s.toList parts)) ∧
    (∀ parameter d : String, checkName parameter d = .ok () →
      (∀ (comparison : Comparison) (v : String),
        (checkFilter (filterText comparison d v) = .ok () ↔ v ≠ "" ∧ '\n' ∉ v.toList) ∧
        ∀ parts, SpellsFilter (filterText comparison d v).toList parts ↔
          parts = (d.toList, comparison, v.toList) ∧ v ≠ "" ∧ '\n' ∉ v.toList) ∧
      ∀ parameter' d' : String, checkName parameter' d' = .ok () →
        ∀ (comparison comparison' : Comparison) (v v' : String),
          filterText comparison d v = filterText comparison' d' v' ↔
            d = d' ∧ comparison = comparison' ∧ v = v') ∧
    ∀ (direction : Direction) (parameter column : String),
      checkSort (sortText direction column) = .ok () ↔ checkName parameter column = .ok () := by
  refine ⟨fun s => ⟨checkFilter_eq_ok_iff, ?_⟩, fun parameter d hd => ?_, checkSort_sortText⟩
  · rw [checkFilter_eq_ok_iff]
    exact ⟨fun ⟨parts, h⟩ => ⟨parts, h, fun _ h' => h'.unique h⟩, fun h => h.exists⟩
  · have hname := checkName_eq_ok_iff.1 hd
    refine ⟨fun comparison v => ⟨?_, fun parts => spellsFilter_filterText hname comparison v⟩,
      fun parameter' d' hd' comparison comparison' v v' =>
        filterText_inj hname (checkName_eq_ok_iff.1 hd')⟩
    rw [checkFilter_eq_ok_iff]
    simp only [spellsFilter_filterText hname, exists_eq_left]

/-- A value that holds both comparisons, and values that begin like the other comparison. -/
theorem filters_and_sort_keys_nested :
    checkName "filter" "DOMAIN_NAME" = .ok () ∧
    (checkFilter "DOMAIN_NAME=@==a=@b" = .ok () ∧
      ∀ parts, SpellsFilter "DOMAIN_NAME=@==a=@b".toList parts ↔
        parts = ("DOMAIN_NAME".toList, .contains, "==a=@b".toList) ∧
          "==a=@b" ≠ "" ∧ '\n' ∉ "==a=@b".toList) ∧
    filterText .equals "DOMAIN_NAME" "@" ≠ filterText .contains "DOMAIN_NAME" "=" := by
  have hname : checkName "filter" "DOMAIN_NAME" = .ok () := rfl
  obtain ⟨-, hfilters, -⟩ := filters_and_sort_keys
  obtain ⟨hfilter, hinj⟩ := hfilters "filter" "DOMAIN_NAME" hname
  obtain ⟨hpasses, hsplits⟩ := hfilter .contains "==a=@b"
  refine ⟨hname, ⟨hpasses.2 ⟨by decide, by decide⟩, hsplits⟩, fun h => ?_⟩
  nomatch ((hinj "filter" "DOMAIN_NAME" hname _ _ _ _).1 h).2.1

end SellerApi.Parameter
