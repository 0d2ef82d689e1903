import SellerApi.Proofs.Number.Literal
import SellerApi.Proofs.Report.Table

/-! # Counts

A cell of counts that is a whole number is read exactly, or is null if it does not fit 64 bits
(`tally_of_integer`). A cell with a point or a power of ten is rounded to a double before it is
asked for its integer, so that it is kept only if its number is that double, or if the double is no
such integer (`tally_of_decimal`). -/

namespace SellerApi

open SellerApi.Number SellerApi.Text

variable {cell : String}

theorem abs_lt_iff_of_eq {q : ℚ} {v : ℤ} (h : q = v) : |q| < 2 ^ 63 ↔ |v| < 2 ^ 63 := by
  rw [h, ← Int.cast_abs]
  exact_mod_cast Iff.rfl

/-- Where a literal is no integer of 64 bits, its cell is the nearest double, if that is one. -/
theorem cellTally?_eq_some_iff {d : Decimal} (h : SpellsDecimal (trimChars cell.toList) d)
    (hplain : readInt64? (trimChars cell.toList) = none) {v : ℤ} :
    cellTally? cell = some v ↔
      |v| < 2 ^ 63 ∧ ∃ x : Binary64, x.IsNearest d.toRat ∧ x.toRat = v := by
  have hread : cellTally? cell = some v ↔ d.value.whole? = some v ∧ |v| < 2 ^ 63 := by
    rw [cellTally?, hplain, cellNumber?_eq, readDecimal?_of_spells h, Option.bind_some,
      Option.filter_eq_some_iff, decide_eq_true_eq, Int.abs_eq_natAbs]
    exact and_congr_right' (by omega)
  rw [hread, Binary64.whole?_eq_some_iff]
  constructor
  · rintro ⟨⟨hfinite, hvalue⟩, hlt⟩
    rcases d.isNearest_value with hnearest | ⟨hinfinite, -⟩
    · exact ⟨hlt, d.value, hnearest, hvalue⟩
    · exact absurd hfinite (by simp [hinfinite])
  · rintro ⟨hlt, x, hx, hvalue⟩
    rcases d.isNearest_value with hnearest | ⟨-, hlarge⟩
    · exact ⟨⟨hnearest.finite, (hnearest.toRat_eq hx).trans hvalue⟩, hlt⟩
    · exact absurd ((abs_lt_iff_of_eq hvalue).2 hlt) (not_lt.2 (hx.le_abs hlarge))

/-! ## Whole numbers -/

/-- No rounding brings a whole number that does not fit back into the range. -/
theorem cellTally?_of_integer {n : ℤ} (h : SpellsInteger (trimChars cell.toList) n) :
    cellTally? cell = if -2 ^ 63 ≤ n ∧ n ≤ 2 ^ 63 - 1 then some n else none := by
  split
  · next hrange => rw [cellTally?, readInt64?_eq_some_iff.2 ⟨h, hrange⟩]
  · next hrange =>
    have hplain : readInt64? (trimChars cell.toList) = none :=
      readInt64?_eq_none_iff.2 fun m hm => h.unique hm ▸ hrange
    obtain ⟨d, hd, hvalue⟩ := h.exists_decimal
    rw [Option.eq_none_iff_forall_ne_some]
    intro v hv
    obtain ⟨hlt, x, hx, hxv⟩ := (cellTally?_eq_some_iff hd hplain).1 hv
    have hlarge : ¬|n| < 2 ^ 63 := fun hn => hrange (by rw [abs_lt] at hn; omega)
    have habs := hx.le_abs (not_lt.1 ((abs_lt_iff_of_eq hvalue).not.2 hlarge))
    exact absurd ((abs_lt_iff_of_eq hxv).2 hlt) (not_lt.2 habs)

/-- A cell of counts that is a whole number, however long, is that number if it fits 64 bits, and
null otherwise. So it stands in the typed table of every report. -/
theorem tally_of_integer {n : ℤ} (h : SpellsInteger (trimChars cell.toList) n) :
    cellTally? cell = (if -2 ^ 63 ≤ n ∧ n ≤ 2 ^ 63 - 1 then some n else none) ∧
    ∀ (r : Report) (t : Table) (i j : Nat) (row : List String) (c : Column),
      r.typedTable = .ok t → r.rows[i]? = some row → row[j]? = some cell →
        r.columns[j]? = some c → c.role = .tally →
          t.cell? i j =
            some (.integer (if -2 ^ 63 ≤ n ∧ n ≤ 2 ^ 63 - 1 then some n else none)) := by
  refine ⟨cellTally?_of_integer h, fun r t i j row c ht hrow hcell hc hrole => ?_⟩
  have hconverts : r.Converts r.fields r.rows r.typedTable :=
    Report.converts_tableOf _ fun hcheck => (Report.check_eq_ok_iff.1 hcheck).1
  have hfield : r.fields[j]? = some (c.field c.role.cellKind) := by
    rw [Report.fields, List.getElem?_map, hc, Option.map_some]
  rw [((hconverts.ok_iff t).1 ht).2.cell_eq hrow hcell hfield, hrole, ← cellTally?_of_integer h]
  rfl

/-- A cell just beyond the range, whose nearest double is the end of the range. -/
def edgeReport : Report where
  columns := [{ name := "N", role := .tally }]
  rows := [["\u2003-9223372036854775809 "]]

theorem tally_of_integer_edges :
    SpellsInteger (trimChars "\u2003-9223372036854775809 ".toList) (-9223372036854775809) ∧
    cellTally? "\u2003-9223372036854775809 " = none ∧
    ∃ t, edgeReport.typedTable = .ok t ∧ t.cell? 0 0 = some (.integer none) := by
  have hspells : SpellsInteger (trimChars "\u2003-9223372036854775809 ".toList)
      (-9223372036854775809) := by
    have htrim : trimChars "\u2003-9223372036854775809 ".toList =
        ['-'] ++ "9223372036854775809".toList := by decide +kernel
    have hdigits : Json.AreDigits "9223372036854775809".toList :=
      ⟨by decide, List.all_eq_true.1 (by decide)⟩
    rw [htrim]
    exact SpellsInteger.mk .minus hdigits
  obtain ⟨hcell, htable⟩ := tally_of_integer hspells
  refine ⟨hspells, hcell, _, rfl, ?_⟩
  exact htable edgeReport _ 0 0 _ _ rfl rfl rfl rfl rfl

/-! ## Literals -/

/-- A number in a cell of counts is not altered silently: the cell is null or the number itself, and
null if the number is no integer of 64 bits. -/
structure KeepsNumber (cell : String) (q : ℚ) : Prop where
  exact : ∀ v : ℤ, cellTally? cell = some v → (v : ℚ) = q
  null : (∀ v : ℤ, -2 ^ 63 ≤ v → v ≤ 2 ^ 63 - 1 → (v : ℚ) ≠ q) → cellTally? cell = none

/-- A cell of counts that is a literal, but no integer of 64 bits as it stands, is the double
nearest to its number if that is such an integer, and null otherwise. So its number is kept exactly
if it is that double, or if the double is too large or not whole. -/
theorem tally_of_decimal {d : Decimal} (h : SpellsDecimal (trimChars cell.toList) d)
    (hplain : ∀ n : ℤ, SpellsInteger (trimChars cell.toList) n → ¬(-2 ^ 63 ≤ n ∧ n ≤ 2 ^ 63 - 1)) :
    (∀ v : ℤ, cellTally? cell = some v ↔
      |v| < 2 ^ 63 ∧ ∃ x : Binary64, x.IsNearest d.toRat ∧ x.toRat = v) ∧
    (KeepsNumber cell d.toRat ↔ ∀ x : Binary64, x.IsNearest d.toRat →
      x.toRat = d.toRat ∨ 2 ^ 63 ≤ |x.toRat| ∨ ∀ v : ℤ, x.toRat ≠ v) := by
  have hnone := readInt64?_eq_none_iff.2 hplain
  refine ⟨fun v => cellTally?_eq_some_iff h hnone, fun hkeeps x hx => ?_, fun hrounded => ?_⟩
  · by_contra hother
    obtain ⟨hne, hsmall, hwhole⟩ :
        x.toRat ≠ d.toRat ∧ |x.toRat| < 2 ^ 63 ∧ ∃ v : ℤ, x.toRat = v := by
      simpa using hother
    obtain ⟨v, hv⟩ := hwhole
    have hlt := (abs_lt_iff_of_eq hv).1 hsmall
    exact hne (hv.trans (hkeeps.exact v ((cellTally?_eq_some_iff h hnone).2 ⟨hlt, x, hx, hv⟩)))
  · have hexact : ∀ v : ℤ, cellTally? cell = some v → |v| < 2 ^ 63 ∧ (v : ℚ) = d.toRat := by
      intro v hv
      obtain ⟨hlt, x, hx, hvalue⟩ := (cellTally?_eq_some_iff h hnone).1 hv
      refine ⟨hlt, ?_⟩
      rcases hrounded x hx with hsame | hlarge | hbroken
      · exact hvalue.symm.trans hsame
      · exact absurd ((abs_lt_iff_of_eq hvalue).2 hlt) (not_lt.2 hlarge)
      · exact absurd hvalue (hbroken v)
    refine ⟨fun v hv => (hexact v hv).2, fun hno => ?_⟩
    rw [Option.eq_none_iff_forall_ne_some]
    intro v hv
    obtain ⟨hlt, hsame⟩ := hexact v hv
    rw [abs_lt] at hlt
    exact hno v hlt.1.le (by omega) hsame

/-- A whole number between two doubles. -/
def oddLiteral : Decimal := ⟨false, "9007199254740993".toList, ['0'], 0⟩

/-- A number halfway between two whole ones, which are doubles. -/
def halfLiteral : Decimal := ⟨false, "4503599627370497".toList, ['5'], 0⟩

theorem toRat_oddLiteral : oddLiteral.toRat = 9007199254740993 := by
  have hvalue : oddLiteral.scaled = (90071992547409930, -1) := by decide +kernel
  rw [Decimal.toRat, Decimal.magnitude, hvalue]
  norm_num [oddLiteral]

theorem toRat_halfLiteral : halfLiteral.toRat = 9007199254740995 / 2 := by
  have hvalue : halfLiteral.scaled = (45035996273704975, -1) := by decide +kernel
  rw [Decimal.toRat, Decimal.magnitude, hvalue]
  norm_num [halfLiteral]

theorem spells_pointed {whole fraction : List Char} (h : Json.AreDigits (whole ++ fraction)) :
    SpellsDecimal (whole ++ '.' :: fraction) ⟨false, whole, fraction, 0⟩ := by
  simpa using SpellsDecimal.mk .bare (.pointed h) .missing

theorem tally_of_decimal_odd :
    SpellsDecimal (trimChars "9007199254740993.0".toList) oddLiteral ∧
    (∀ n : ℤ, SpellsInteger (trimChars "9007199254740993.0".toList) n →
      ¬(-2 ^ 63 ≤ n ∧ n ≤ 2 ^ 63 - 1)) ∧
    (∃ x : Binary64, x.IsNearest 9007199254740993 ∧ x.toRat = 9007199254740992) ∧
    ¬KeepsNumber "9007199254740993.0" 9007199254740993 := by
  have htrim : trimChars "9007199254740993.0".toList =
      "9007199254740993".toList ++ '.' :: ['0'] := by
    decide +kernel
  have hspells : SpellsDecimal (trimChars "9007199254740993.0".toList) oddLiteral := by
    rw [htrim]
    exact spells_pointed ⟨by decide, List.all_eq_true.1 (by decide)⟩
  have hplain : ∀ n : ℤ, SpellsInteger (trimChars "9007199254740993.0".toList) n →
      ¬(-2 ^ 63 ≤ n ∧ n ≤ 2 ^ 63 - 1) :=
    fun n hn => absurd hn (not_spellsInteger (by decide +kernel) n)
  obtain ⟨hcell, hkeeps⟩ := tally_of_decimal hspells hplain
  obtain ⟨-, x, hx, hvalue⟩ := (hcell 9007199254740992).1 (by decide +kernel)
  rw [toRat_oddLiteral] at hx hkeeps
  norm_num at hvalue
  refine ⟨hspells, hplain, ⟨x, hx, hvalue⟩, fun h => ?_⟩
  rcases hkeeps.1 h x hx with hsame | hlarge | hbroken
  · rw [hvalue] at hsame
    norm_num at hsame
  · rw [hvalue] at hlarge
    norm_num at hlarge
  · exact hbroken 9007199254740992 (by rw [hvalue]; norm_num)

/-- The number is altered: it becomes the even one of its neighbours. -/
theorem not_keepsNumber_half :
    SpellsDecimal (trimChars "4503599627370497.5".toList) halfLiteral ∧
    (∀ n : ℤ, ¬SpellsInteger (trimChars "4503599627370497.5".toList) n) ∧
    cellTally? "4503599627370497.5" = some 4503599627370498 ∧
    ¬KeepsNumber "4503599627370497.5" halfLiteral.toRat := by
  have htrim : trimChars "4503599627370497.5".toList =
      "4503599627370497".toList ++ '.' :: ['5'] := by
    decide +kernel
  have hcell : cellTally? "4503599627370497.5" = some 4503599627370498 := by decide +kernel
  refine ⟨?_, not_spellsInteger (by decide +kernel), hcell, fun h => ?_⟩
  · rw [htrim]
    exact spells_pointed ⟨by decide, List.all_eq_true.1 (by decide)⟩
  · have hsame := h.exact _ hcell
    rw [toRat_halfLiteral] at hsame
    norm_num at hsame

end SellerApi
