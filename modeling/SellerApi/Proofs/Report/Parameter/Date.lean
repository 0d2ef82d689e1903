import SellerApi.Proofs.Outcome
import SellerApi.Proofs.Text.Pieces
import SellerApi.Report.Parameter.Date

/-! # Which texts are dates

A date passes its check exactly if it is a word with at most three offsets (`IsRelative`) or the day
of a calendar that is Gregorian for all years (`IsDay`); otherwise the check names its parameter
(`date_passes_iff`). Both readers take a text apart in one way only, since no digit is a unit or a
dash. -/

namespace SellerApi.Parameter

open SellerApi.Text

/-! ## Relative dates -/

/-- A sign, decimal digits of any script, at least one, and a unit. -/
inductive IsOffset : List Char → Prop where
  | mk {sign unit : Char} {digits : List Char} (hsign : sign ∈ ['+', '-']) (hne : digits ≠ [])
    (hdigits : ∀ d ∈ digits, isDecimalDigit d = true) (hunit : unit ∈ ['d', 'w', 'm', 'y']) :
    IsOffset (sign :: digits ++ [unit])

/-- A word and at most three offsets. -/
inductive IsRelative : List Char → Prop where
  | mk {anchor : String} {offsets : List (List Char)}
    (hanchor : anchor ∈ ["today", "startOfMonth", "startOfYear"]) (hcount : offsets.length ≤ 3)
    (hoffsets : ∀ o ∈ offsets, IsOffset o) : IsRelative (anchor.toList ++ offsets.flatten)

theorem isOffsetUnit_iff {c : Char} : isOffsetUnit c = true ↔ c ∈ ['d', 'w', 'm', 'y'] := by
  simp [isOffsetUnit, or_assoc]

theorem not_isDecimalDigit_of_unit {c : Char} (h : c ∈ ['d', 'w', 'm', 'y']) :
    isDecimalDigit c = false := by
  simp only [List.mem_cons, List.not_mem_nil, or_false] at h
  rcases h with rfl | rfl | rfl | rfl <;> decide

theorem dropOffset?_eq_some_iff {cs rest : List Char} :
    dropOffset? cs = some rest ↔ ∃ o, IsOffset o ∧ cs = o ++ rest := by
  constructor
  · intro h
    cases cs with
    | nil => nomatch h
    | cons sign cs =>
      rw [dropOffset?] at h
      split at h
      case isFalse => nomatch h
      next hsign =>
      split at h
      · nomatch h
      next hne =>
      split at h
      case h_2 => nomatch h
      next unit tail hdrop =>
      obtain ⟨hunit, htail⟩ := Option.ite_none_right_eq_some.1 h
      obtain rfl := Option.some.inj htail
      refine ⟨sign :: cs.takeWhile isDecimalDigit ++ [unit], .mk (by simpa using hsign)
        (by simpa using hne) (List.all_eq_true.1 List.all_takeWhile) (isOffsetUnit_iff.1 hunit), ?_⟩
      have hsplit := List.takeWhile_append_dropWhile (p := isDecimalDigit) (l := cs)
      rw [hdrop] at hsplit
      simp [hsplit]
  · rintro ⟨_, ⟨hsign, hne, hdigits, hunit⟩, rfl⟩
    rename_i sign unit digits
    have hstop : ∀ c ∈ (unit :: rest).head?, isDecimalDigit c = false := by
      rintro _ ⟨⟩
      exact not_isDecimalDigit_of_unit hunit
    obtain ⟨htake, hdrop⟩ := span_append hdigits hstop
    rw [List.append_assoc, List.cons_append, List.singleton_append, dropOffset?,
      if_pos (by simpa using hsign), htake, hdrop, if_neg (by simpa using hne)]
    exact if_pos (isOffsetUnit_iff.2 hunit)

theorem isOffsets_cons {n : Nat} {c : Char} {cs : List Char} :
    isOffsets (n + 1) (c :: cs) = (dropOffset? (c :: cs)).any (isOffsets n) := by
  simp only [isOffsets]
  cases dropOffset? (c :: cs) <;> rfl

/-- Offsets are taken off one by one, so their number counts down. -/
theorem isOffsets_iff {n : Nat} {cs : List Char} : isOffsets n cs = true ↔
    ∃ offsets : List (List Char), offsets.length ≤ n ∧ (∀ o ∈ offsets, IsOffset o) ∧
      cs = offsets.flatten := by
  induction n generalizing cs with
  | zero =>
    cases cs with
    | nil => exact ⟨fun _ => ⟨[], Nat.le_refl 0, List.forall_mem_nil _, rfl⟩, fun _ => rfl⟩
    | cons c cs =>
      constructor
      · intro h
        cases h
      · rintro ⟨offsets, hcount, -, hcs⟩
        rw [List.length_eq_zero_iff.1 (Nat.le_zero.1 hcount)] at hcs
        cases hcs
  | succ n ih =>
    cases cs with
    | nil => exact ⟨fun _ => ⟨[], Nat.zero_le _, List.forall_mem_nil _, rfl⟩, fun _ => rfl⟩
    | cons c cs =>
      rw [isOffsets_cons, Option.any_eq_true]
      constructor
      · rintro ⟨rest, hdrop, hrest⟩
        obtain ⟨o, ho, hcs⟩ := dropOffset?_eq_some_iff.1 hdrop
        obtain ⟨offsets, hcount, hoffsets, rfl⟩ := ih.1 hrest
        exact ⟨o :: offsets, Nat.succ_le_succ hcount, List.forall_mem_cons.2 ⟨ho, hoffsets⟩,
          hcs.trans List.flatten_cons.symm⟩
      · rintro ⟨offsets, hcount, hoffsets, hcs⟩
        cases offsets with
        | nil => cases hcs
        | cons o offsets =>
          obtain ⟨ho, hoffsets⟩ := List.forall_mem_cons.1 hoffsets
          exact ⟨_, dropOffset?_eq_some_iff.2 ⟨o, ho, hcs.trans List.flatten_cons⟩,
            ih.2 ⟨offsets, Nat.le_of_succ_le_succ hcount, hoffsets, rfl⟩⟩

theorem isRelativeDate_iff {cs : List Char} : isRelativeDate cs = true ↔ IsRelative cs := by
  have hanchors : dateAnchors = ["today", "startOfMonth", "startOfYear"].map String.toList := rfl
  rw [isRelativeDate, List.any_eq_true, hanchors]
  constructor
  · rintro ⟨_, hmem, h⟩
    obtain ⟨anchor, hanchor, rfl⟩ := List.mem_map.1 hmem
    split at h
    · next rest hdrop =>
      obtain ⟨offsets, hcount, hoffsets, rfl⟩ := isOffsets_iff.1 h
      rw [dropStart?_eq_some_iff.1 hdrop]
      exact .mk hanchor hcount hoffsets
    · cases h
  · rintro ⟨hanchor, hcount, hoffsets⟩
    refine ⟨_, List.mem_map_of_mem hanchor, ?_⟩
    rw [dropStart?_eq_some_iff.2 rfl]
    exact isOffsets_iff.2 ⟨_, hcount, hoffsets, rfl⟩

/-! ## Calendar days -/

/-- A year with a day more in February. -/
def IsLeap (year : Nat) : Prop := 4 ∣ year ∧ (100 ∣ year → 400 ∣ year)

/-- How many days a month of a year has. -/
inductive MonthHas (year : Nat) : Nat → Nat → Prop where
  | long {month : Nat} (h : month ∈ [1, 3, 5, 7, 8, 10, 12]) : MonthHas year month 31
  | short {month : Nat} (h : month ∈ [4, 6, 9, 11]) : MonthHas year month 30
  | leap (h : IsLeap year) : MonthHas year 2 29
  | common (h : ¬IsLeap year) : MonthHas year 2 28

/-- So many ASCII digits. -/
structure AreFigures (width : Nat) (ds : List Char) : Prop where
  length : ds.length = width
  digits : ∀ c ∈ ds, isAsciiDigit c = true

/-- A day that the calendar has: four digits of the year, two of the month and two of the day. -/
inductive IsDay : List Char → Prop where
  | mk {y m d : List Char} {last : Nat} (hy : AreFigures 4 y) (hm : AreFigures 2 m)
    (hd : AreFigures 2 d) (hlast : MonthHas (digitsValue y) (digitsValue m) last)
    (hlow : 1 ≤ digitsValue d) (hhigh : digitsValue d ≤ last) :
    IsDay (y ++ '-' :: (m ++ '-' :: d))

theorem isLeapYear_iff {year : Nat} : isLeapYear year = true ↔ IsLeap year := by
  simp only [isLeapYear, IsLeap, Bool.and_eq_true, Bool.or_eq_true, decide_eq_true_eq, bne_iff_ne]
  omega

theorem monthHas_iff {year month last : Nat} :
    MonthHas year month last ↔ 1 ≤ month ∧ month ≤ 12 ∧ daysInMonth year month = last := by
  constructor
  · rintro (hmonth | hmonth | hleap | hcommon)
    · simp only [List.mem_cons, List.not_mem_nil, or_false] at hmonth
      rcases hmonth with rfl | rfl | rfl | rfl | rfl | rfl | rfl <;>
        exact ⟨by decide, by decide, rfl⟩
    · simp only [List.mem_cons, List.not_mem_nil, or_false] at hmonth
      rcases hmonth with rfl | rfl | rfl | rfl <;> exact ⟨by decide, by decide, rfl⟩
    · exact ⟨by decide, by decide, if_pos (isLeapYear_iff.2 hleap)⟩
    · exact ⟨by decide, by decide, if_neg (mt isLeapYear_iff.1 hcommon)⟩
  · rintro ⟨hlow, hhigh, rfl⟩
    by_cases hshort : month ∈ [4, 6, 9, 11]
    · have hother : month ≠ 2 := by rintro rfl; revert hshort; decide
      rw [daysInMonth, if_neg hother, if_pos (by simpa using hshort)]
      exact .short hshort
    by_cases hfebruary : month = 2
    · subst hfebruary
      rw [daysInMonth, if_pos rfl]
      split
      · next h => exact .leap (isLeapYear_iff.1 h)
      · next h => exact .common (mt isLeapYear_iff.2 h)
    · rw [daysInMonth, if_neg hfebruary, if_neg (by simpa using hshort)]
      refine .long ?_
      simp only [List.mem_cons, List.not_mem_nil, or_false] at hshort ⊢
      omega

theorem MonthHas.le_31 {year month last : Nat} (h : MonthHas year month last) : last ≤ 31 := by
  cases h <;> decide

/-! ## Reading days -/

/-- At least one ASCII digit, and so many at most. -/
structure AreDigitsUpTo (width : Nat) (ds : List Char) : Prop where
  ne_nil : ds ≠ []
  length_le : ds.length ≤ width
  digits : ∀ c ∈ ds, isAsciiDigit c = true

theorem scanNumber_append {width : Nat} {ds rest : List Char} (h : AreDigitsUpTo width ds)
    (hrest : ∀ c ∈ rest.head?, isAsciiDigit c = false) :
    scanNumber width (ds ++ rest) = .ok (digitsValue ds, rest) := by
  have hstop : (rest.take (width - ds.length)).takeWhile isAsciiDigit = [] := by
    cases rest with
    | nil => rw [List.take_nil, List.takeWhile_nil]
    | cons c rest =>
      cases width - ds.length with
      | zero => rfl
      | succ n => rw [List.take_succ_cons, List.takeWhile_cons_of_neg (by simp [hrest c rfl])]
  have htake : ((ds ++ rest).take width).takeWhile isAsciiDigit = ds := by
    rw [List.take_append, List.take_of_length_le h.length_le,
      List.takeWhile_append_of_pos h.digits, hstop, List.append_nil]
  have hne : ds.isEmpty = false := List.isEmpty_eq_false_iff.2 h.ne_nil
  simp only [scanNumber, htake, hne, Bool.false_eq_true, if_false, List.drop_left]

theorem exists_of_scanNumber {width n : Nat} {cs rest : List Char}
    (h : scanNumber width cs = .ok (n, rest)) :
    ∃ ds, AreDigitsUpTo width ds ∧ cs = ds ++ rest ∧ digitsValue ds = n := by
  rw [scanNumber] at h
  split at h
  · nomatch h
  next hne =>
  obtain ⟨rfl, rfl⟩ := Prod.mk.inj (Except.ok.inj h)
  have hfront := List.takeWhile_prefix isAsciiDigit (l := cs.take width)
  obtain ⟨tail, htail⟩ := hfront.trans (List.take_prefix width cs)
  refine ⟨(cs.take width).takeWhile isAsciiDigit, ⟨by simpa using hne, ?_,
    List.all_eq_true.1 List.all_takeWhile⟩, ?_, rfl⟩
  · exact Nat.le_trans hfront.length_le (List.length_take_le ..)
  · exact (List.prefix_iff_eq_append.1 ⟨tail, htail⟩).symm

theorem scanDash_eq_ok_iff {cs rest : List Char} : scanDash cs = .ok rest ↔ cs = '-' :: rest := by
  unfold scanDash
  split
  · simp
  · next h => simpa using fun heq => h _ heq

theorem scanWithin_eq_ok_iff {low high n : Nat} {cs rest : List Char} :
    scanWithin low high cs = .ok (n, rest) ↔
      scanNumber 2 cs = .ok (n, rest) ∧ low ≤ n ∧ n ≤ high := by
  rw [scanWithin, bind_eq_ok_iff]
  constructor
  · rintro ⟨⟨k, tail⟩, hscan, h⟩
    dsimp only at h
    split at h
    · next hrange =>
      cases h
      exact ⟨hscan, hrange⟩
    · nomatch h
  · rintro ⟨hscan, hrange⟩
    exact ⟨_, hscan, if_pos hrange⟩

/-- A day is read from numbers with dashes between them, if the calendar has it. -/
theorem scanDay_eq_ok_iff {cs : List Char} {year month day : Nat} :
    scanDay cs = .ok (year, month, day) ↔ ∃ y m d, cs = y ++ '-' :: (m ++ '-' :: d) ∧
      (AreDigitsUpTo 4 y ∧ digitsValue y = year) ∧ (AreDigitsUpTo 2 m ∧ digitsValue m = month) ∧
      (AreDigitsUpTo 2 d ∧ digitsValue d = day) ∧ (1 ≤ month ∧ month ≤ 12) ∧
      (1 ≤ day ∧ day ≤ 31) ∧ day ≤ daysInMonth year month := by
  have hdash : ∀ {rest : List Char}, ∀ c ∈ ('-' :: rest).head?, isAsciiDigit c = false := by
    rintro _ _ ⟨⟩
    decide
  rw [scanDay]
  simp only [bind_eq_ok_iff, Prod.exists, scanDash_eq_ok_iff, scanWithin_eq_ok_iff]
  constructor
  · rintro ⟨year', cs₁, hyear, cs₂, rfl, month', cs₃, ⟨hmonth, hmonths⟩, cs₄, rfl, day', rest,
      ⟨hday, hdays⟩, h⟩
    obtain ⟨y, hy, rfl, rfl⟩ := exists_of_scanNumber hyear
    obtain ⟨m, hm, rfl, rfl⟩ := exists_of_scanNumber hmonth
    obtain ⟨d, hd, rfl, rfl⟩ := exists_of_scanNumber hday
    by_cases hrest : rest = []
    · rw [if_neg (not_not.2 hrest)] at h
      by_cases hlast : digitsValue d ≤ daysInMonth (digitsValue y) (digitsValue m)
      · rw [if_pos hlast] at h
        cases h
        exact ⟨y, m, d, by simp [hrest], ⟨hy, rfl⟩, ⟨hm, rfl⟩, ⟨hd, rfl⟩, hmonths, hdays, hlast⟩
      · rw [if_neg hlast] at h
        nomatch h
    · rw [if_pos hrest] at h
      nomatch h
  · rintro ⟨y, m, d, rfl, ⟨hy, rfl⟩, ⟨hm, rfl⟩, ⟨hd, rfl⟩, hmonths, hdays, hlast⟩
    have hend : scanNumber 2 (d ++ []) = .ok (digitsValue d, []) :=
      scanNumber_append hd (by nofun)
    rw [List.append_nil] at hend
    refine ⟨_, _, scanNumber_append hy hdash, _, rfl, _, _, ⟨scanNumber_append hm hdash, hmonths⟩,
      _, rfl, _, _, ⟨hend, hdays⟩, ?_⟩
    rw [if_neg (not_not.2 rfl), if_pos hlast]

theorem isDayShape_iff {cs : List Char} : isDayShape cs = true ↔ ∃ a b c d e f g h,
    cs = [a, b, c, d, '-', e, f, '-', g, h] ∧
      ∀ x ∈ [a, b, c, d, e, f, g, h], isDecimalDigit x = true := by
  unfold isDayShape
  split
  · next a b c d e f g h =>
    rw [List.all_eq_true]
    constructor
    · intro hall
      exact ⟨a, b, c, d, e, f, g, h, rfl, hall⟩
    · rintro ⟨_, _, _, _, _, _, _, _, heq, hall⟩
      cases heq
      exact hall
  · next hother =>
    constructor
    · intro h
      nomatch h
    · rintro ⟨_, _, _, _, _, _, _, _, rfl, -⟩
      exact absurd rfl (hother _ _ _ _ _ _ _ _)

/-- The shape leaves room for figures of full width only, and the reader turns away all digits that
are not ASCII. -/
theorem isDay_iff {cs : List Char} :
    IsDay cs ↔ isDayShape cs = true ∧ ∃ day, scanDay cs = .ok day := by
  constructor
  · rintro ⟨hy, hm, hd, hlast, hlow, hhigh⟩
    rename_i y m d last
    have hdays := Nat.le_trans hhigh hlast.le_31
    obtain ⟨hmin, hmax, rfl⟩ := monthHas_iff.1 hlast
    have hupTo : ∀ {width ds}, 0 < width → AreFigures width ds → AreDigitsUpTo width ds :=
      fun hpos h => ⟨List.ne_nil_of_length_pos (h.length ▸ hpos), Nat.le_of_eq h.length, h.digits⟩
    constructor
    · have hall : ∀ c ∈ y ++ m ++ d, isDecimalDigit c = true := by
        intro c hc
        rcases List.mem_append.1 hc with hc | hc
        · rcases List.mem_append.1 hc with hc | hc
          · exact isDecimalDigit_of_isAsciiDigit (hy.digits c hc)
          · exact isDecimalDigit_of_isAsciiDigit (hm.digits c hc)
        · exact isDecimalDigit_of_isAsciiDigit (hd.digits c hc)
      match y, m, d, hy.length, hm.length, hd.length with
      | [_, _, _, _], [_, _], [_, _], _, _, _ =>
        exact isDayShape_iff.2 ⟨_, _, _, _, _, _, _, _, rfl, hall⟩
    · exact ⟨_, scanDay_eq_ok_iff.2 ⟨y, m, d, rfl, ⟨hupTo (by decide) hy, rfl⟩,
        ⟨hupTo (by decide) hm, rfl⟩, ⟨hupTo (by decide) hd, rfl⟩, ⟨hmin, hmax⟩, ⟨hlow, hdays⟩,
        hhigh⟩⟩
  · rintro ⟨hshape, ⟨year, month, day⟩, hscan⟩
    obtain ⟨a, b, c, d, e, f, g, h, hcs, -⟩ := isDayShape_iff.1 hshape
    obtain ⟨y, m, d, rfl, ⟨hy, rfl⟩, ⟨hm, rfl⟩, ⟨hd, rfl⟩, hmonths, hdays, hlast⟩ :=
      scanDay_eq_ok_iff.1 hscan
    have hlength := congrArg List.length hcs
    simp only [List.length_append, List.length_cons, List.length_nil] at hlength
    have hy' := hy.length_le
    have hm' := hm.length_le
    have hd' := hd.length_le
    exact .mk ⟨by omega, hy.digits⟩ ⟨by omega, hm.digits⟩ ⟨by omega, hd.digits⟩
      (monthHas_iff.2 ⟨hmonths.1, hmonths.2, rfl⟩) hdays.1 hlast

/-! ## Checking -/

theorem checkDate_cases (name value : String) :
    checkDate name value = .ok () ∧ (IsRelative value.toList ∨ IsDay value.toList) ∨
    (∃ why, checkDate name value = .error (.badParameter name ("'" ++ value ++ why))) ∧
      ¬(IsRelative value.toList ∨ IsDay value.toList) := by
  rw [← isRelativeDate_iff, isDay_iff, checkDate]
  by_cases hrelative : isRelativeDate value.toList = true
  · exact .inl ⟨if_pos hrelative, .inl hrelative⟩
  rw [if_neg hrelative]
  by_cases hshape : isDayShape value.toList = true
  · rw [if_pos hshape]
    cases hscan : scanDay value.toList with
    | ok day => exact .inl ⟨rfl, .inr ⟨hshape, day, rfl⟩⟩
    | error fault =>
      refine .inr ⟨⟨"' is not a calendar date: " ++ fault.message, ?_⟩, ?_⟩
      · simp only [String.append_assoc]
      · rintro (h | ⟨-, day, h⟩)
        · exact hrelative h
        · nomatch h
  · rw [if_neg hshape]
    refine .inr ⟨⟨_, rfl⟩, ?_⟩
    rintro (h | ⟨h, -⟩)
    · exact hrelative h
    · exact hshape h

/-- A date passes its check exactly if it is relative or a day of the calendar. Any other text fails
the check for its parameter, with a reason that quotes it. -/
theorem date_passes_iff (name value : String) :
    (checkDate name value = .ok () ↔ IsRelative value.toList ∨ IsDay value.toList) ∧
    ((∃ why, checkDate name value = .error (.badParameter name ("'" ++ value ++ why))) ↔
      ¬(IsRelative value.toList ∨ IsDay value.toList)) := by
  obtain ⟨heq, hdate⟩ | ⟨⟨why, heq⟩, hdate⟩ := checkDate_cases name value
  · rw [heq]
    refine ⟨iff_of_true rfl hdate, iff_of_false ?_ (not_not.2 hdate)⟩
    rintro ⟨_, h⟩
    nomatch h
  · rw [heq]
    exact ⟨iff_of_false (fun h => nomatch h) hdate, iff_of_true ⟨why, rfl⟩ hdate⟩

/-- A day that is one in leap years only, and digits of another script, which an offset may have. -/
example : checkDate "startDate" "1900-02-29" = .error (.badParameter "startDate"
      "'1900-02-29' is not a calendar date: input is out of range") ∧
    checkDate "endDate" "today-٣d" = .ok () := by
  decide

end SellerApi.Parameter
