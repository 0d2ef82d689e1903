import SellerApi.Proofs.Json.Numeral
import SellerApi.Proofs.Number.Order
import SellerApi.Proofs.Text.Pieces

/-! # Literals

What whole numbers and decimal literals look like (`SpellsInteger`, `SpellsDecimal`), and that they
are read as what they denote: a whole number exactly (`readSigned?_eq_some_iff`), a decimal literal
as the double nearest to its number (`readDecimal?_of_spells`, `Decimal.isNearest_value`). -/

namespace SellerApi.Number

open SellerApi.Json (AreDigits)
open SellerApi.Text Binary64

/-! ## Spelling -/

/-- A sign in front of a number, which may be missing, and whether it makes the number negative. -/
inductive SpellsSign : List Char → Bool → Prop where
  | bare : SpellsSign [] false
  | plus : SpellsSign ['+'] false
  | minus : SpellsSign ['-'] true

/-- A whole number: one digit or more after the sign. -/
inductive SpellsInteger : List Char → ℤ → Prop where
  | mk {sign ds : List Char} {negative : Bool} (hsign : SpellsSign sign negative)
    (hds : AreDigits ds) :
    SpellsInteger (sign ++ ds) (if negative then -(digitsValue ds : ℤ) else digitsValue ds)

/-- The digits of a literal, before and behind its point. The point may be missing, and so may be
the digits on one of its sides. -/
inductive SpellsDigits : List Char → List Char → List Char → Prop where
  | whole {whole : List Char} (h : AreDigits whole) : SpellsDigits whole whole []
  | pointed {whole fraction : List Char} (h : AreDigits (whole ++ fraction)) :
    SpellsDigits (whole ++ '.' :: fraction) whole fraction

/-- The power of ten at the end of a literal, which may be missing. -/
inductive SpellsPower : List Char → ℤ → Prop where
  | missing : SpellsPower [] 0
  | marked {mark : Char} {text : List Char} {k : ℤ} (hmark : mark = 'e' ∨ mark = 'E')
    (h : SpellsInteger text k) : SpellsPower (mark :: text) k

/-- A decimal literal. -/
inductive SpellsDecimal : List Char → Decimal → Prop where
  | mk {sign digits power whole fraction : List Char} {negative : Bool} {k : ℤ}
    (hsign : SpellsSign sign negative) (hdigits : SpellsDigits digits whole fraction)
    (hpower : SpellsPower power k) :
    SpellsDecimal (sign ++ (digits ++ power)) ⟨negative, whole, fraction, k⟩

/-- The number that a literal denotes. -/
def Decimal.toRat (d : Decimal) : ℚ := if d.negative then -d.magnitude else d.magnitude

/-- A whole number is a literal of the same number. -/
theorem SpellsInteger.exists_decimal {cs : List Char} {n : ℤ} (h : SpellsInteger cs n) :
    ∃ d, SpellsDecimal cs d ∧ d.toRat = n := by
  obtain ⟨hsign, hds⟩ := h
  rename_i sign ds negative
  refine ⟨⟨negative, ds, [], 0⟩, by simpa using SpellsDecimal.mk hsign (.whole hds) .missing, ?_⟩
  have hmagnitude : Decimal.magnitude ⟨negative, ds, [], 0⟩ = digitsValue ds := by
    simp [Decimal.magnitude, Decimal.scaled]
  rw [Decimal.toRat, hmagnitude]
  cases negative <;> simp

/-! ## Reading whole numbers -/

/-- What does not start with a sign. -/
def Unsigned (cs : List Char) : Prop := cs.head? ≠ some '-' ∧ cs.head? ≠ some '+'

theorem unsigned_of_areDigits {ds : List Char} (h : AreDigits ds) (rest : List Char) :
    Unsigned (ds ++ rest) := by
  cases ds with
  | nil => exact absurd rfl h.ne_nil
  | cons d ds =>
    have hminus := h.cons_ne (d := '-') (by decide)
    have hplus := h.cons_ne (d := '+') (by decide)
    simp [Unsigned, hminus, hplus]

theorem splitSign_append {sign cs : List Char} {negative : Bool} (hsign : SpellsSign sign negative)
    (hcs : Unsigned cs) : splitSign (sign ++ cs) = (negative, cs) := by
  cases hsign with
  | bare =>
    cases cs with
    | nil => rfl
    | cons c cs =>
      obtain ⟨hminus, hplus⟩ := hcs
      simp only [List.head?_cons, ne_eq, Option.some.injEq] at hminus hplus
      rw [List.nil_append, splitSign] <;> simp_all
  | plus | minus => rfl

theorem exists_sign (cs : List Char) :
    ∃ sign, cs = sign ++ (splitSign cs).2 ∧ SpellsSign sign (splitSign cs).1 := by
  unfold splitSign
  split
  · exact ⟨_, rfl, .minus⟩
  · exact ⟨_, rfl, .plus⟩
  · exact ⟨_, rfl, .bare⟩

theorem readSigned?_eq (cs : List Char) : readSigned? cs =
    (readNat? (splitSign cs).2).map fun n : Nat => if (splitSign cs).1 then -(n : ℤ) else n := by
  have hcast : ∀ (ds : List Char) (f : ℤ → ℤ),
      ((do return ((← readNat? ds : Nat) : ℤ)) : Option ℤ).map f =
        (readNat? ds).map fun n : Nat => f n := by
    intro ds f
    cases readNat? ds <;> rfl
  unfold readSigned? readPositive?
  split
  · exact hcast _ _
  next hminus =>
  split
  · exact hcast _ _
  next hplus =>
  have hsplit : splitSign cs = (false, cs) := by rw [splitSign] <;> simp_all
  rw [hsplit]
  exact hcast _ _

theorem readNat?_eq_some_iff {cs : List Char} {n : Nat} :
    readNat? cs = some n ↔ AreDigits cs ∧ digitsValue cs = n := by
  rw [readNat?, Option.ite_none_right_eq_some, List.all_eq_true, Option.some.injEq]
  exact and_congr_left' ⟨fun h => ⟨h.1, h.2⟩, fun h => ⟨h.1, h.2⟩⟩

/-- A whole number is read exactly, and nothing else is read as one. -/
theorem readSigned?_eq_some_iff {cs : List Char} {n : ℤ} :
    readSigned? cs = some n ↔ SpellsInteger cs n := by
  rw [readSigned?_eq, Option.map_eq_some_iff]
  constructor
  · rintro ⟨k, hk, rfl⟩
    obtain ⟨hds, rfl⟩ := readNat?_eq_some_iff.1 hk
    obtain ⟨sign, hcs, hsign⟩ := exists_sign cs
    have hspells := SpellsInteger.mk hsign hds
    rwa [← hcs] at hspells
  · rintro ⟨hsign, hds⟩
    have hunsigned := unsigned_of_areDigits hds []
    rw [List.append_nil] at hunsigned
    rw [splitSign_append hsign hunsigned]
    exact ⟨_, readNat?_eq_some_iff.2 ⟨hds, rfl⟩, rfl⟩

theorem not_spellsInteger {cs : List Char} (h : readSigned? cs = none) (n : ℤ) :
    ¬SpellsInteger cs n := fun hn => nomatch h.symm.trans (readSigned?_eq_some_iff.2 hn)

/-- A text spells one whole number at most. -/
theorem SpellsInteger.unique {cs : List Char} {n m : ℤ} (h : SpellsInteger cs n)
    (h' : SpellsInteger cs m) : n = m :=
  Option.some.inj ((readSigned?_eq_some_iff.2 h).symm.trans (readSigned?_eq_some_iff.2 h'))

theorem isInt64_iff {n : ℤ} : isInt64 n = true ↔ -2 ^ 63 ≤ n ∧ n ≤ 2 ^ 63 - 1 := by
  simp only [isInt64, Bool.and_eq_true, decide_eq_true_eq]
  omega

/-- A text is read as an integer of 64 bits if it spells one. -/
theorem readInt64?_eq_some_iff {cs : List Char} {n : ℤ} :
    readInt64? cs = some n ↔ SpellsInteger cs n ∧ -2 ^ 63 ≤ n ∧ n ≤ 2 ^ 63 - 1 := by
  rw [readInt64?, Option.filter_eq_some_iff, readSigned?_eq_some_iff, isInt64_iff]

theorem readInt64?_eq_none_iff {cs : List Char} : readInt64? cs = none ↔
    ∀ n : ℤ, SpellsInteger cs n → ¬(-2 ^ 63 ≤ n ∧ n ≤ 2 ^ 63 - 1) := by
  rw [Option.eq_none_iff_forall_ne_some]
  exact forall_congr' fun n => by rw [ne_eq, readInt64?_eq_some_iff, not_and]

/-! ## Reading decimal literals -/

theorem readExponent?_of_spells {power : List Char} {k : ℤ} (h : SpellsPower power k) :
    readExponent? power = some k := by
  cases h with
  | missing => rfl
  | marked hmark h => rw [readExponent?, if_pos hmark, readSigned?_eq_some_iff.2 h]

/-- No digit starts a power. -/
theorem SpellsPower.head?_not_digit {power : List Char} {k : ℤ} (h : SpellsPower power k) :
    ∀ c ∈ power.head?, isAsciiDigit c = false := by
  cases h with
  | missing => nofun
  | marked hmark _ => rcases hmark with rfl | rfl <;> simp <;> decide

/-- A digit or the point starts a literal behind its sign. -/
theorem SpellsDigits.exists_cons {digits whole fraction : List Char}
    (h : SpellsDigits digits whole fraction) :
    ∃ c cs, digits = c :: cs ∧ (isAsciiDigit c = true ∨ c = '.') := by
  cases h with
  | whole h =>
    obtain ⟨c, cs, rfl⟩ := List.exists_cons_of_ne_nil h.ne_nil
    exact ⟨c, cs, rfl, .inl (h.digits c List.mem_cons_self)⟩
  | pointed h =>
    cases whole with
    | nil => exact ⟨_, _, rfl, .inr rfl⟩
    | cons c cs => exact ⟨c, _, rfl, .inl (h.digits c List.mem_cons_self)⟩

theorem SpellsDigits.unsigned {digits whole fraction : List Char}
    (h : SpellsDigits digits whole fraction) (rest : List Char) : Unsigned (digits ++ rest) := by
  obtain ⟨c, cs, rfl, hc⟩ := h.exists_cons
  have hne : ∀ d, isAsciiDigit d = false → d ≠ '.' → c ≠ d := by
    rintro d hdigit hpoint rfl
    rcases hc with hc | hc
    · exact absurd hc (by simp [hdigit])
    · exact hpoint hc
  have hminus := hne '-' (by decide) (by decide)
  have hplus := hne '+' (by decide) (by decide)
  simp [Unsigned, hminus, hplus]

theorem readLiteral?_of_spells {cs : List Char} {d : Decimal} (h : SpellsDecimal cs d) :
    readLiteral? cs = some d := by
  cases h with
  | @mk sign digits power whole fraction negative k hsign hdigits hpower =>
  have hdigit := hpower.head?_not_digit
  have hexponent := readExponent?_of_spells hpower
  unfold readLiteral?
  rw [splitSign_append hsign (hdigits.unsigned _)]
  cases hdigits with
  | whole h =>
    obtain ⟨htake, hdrop⟩ := span_append h.digits hdigit
    have hne := List.isEmpty_eq_false_iff.2 h.ne_nil
    simp only [htake, hdrop, hne, Bool.false_and, Bool.false_eq_true, if_false]
    -- the power is not taken for the digits behind a point
    cases hpower with
    | missing => rfl
    | marked hmark _ => rcases hmark with rfl | rfl <;> simp [hexponent]
  | pointed h =>
    have hwhole : ∀ d ∈ whole, isAsciiDigit d = true := fun d hd =>
      h.digits d (List.mem_append_left _ hd)
    have hfraction : ∀ d ∈ fraction, isAsciiDigit d = true := fun d hd =>
      h.digits d (List.mem_append_right _ hd)
    have hne : (whole.isEmpty && fraction.isEmpty) = false := by
      simpa using h.ne_nil
    have hpoint : ∀ c ∈ ('.' :: (fraction ++ power)).head?, isAsciiDigit c = false := by
      rintro _ ⟨⟩
      decide
    rw [List.append_assoc, List.cons_append]
    obtain ⟨htake, hdrop⟩ := span_append hwhole hpoint
    obtain ⟨htake', hdrop'⟩ := span_append hfraction hdigit
    simp only [htake, hdrop, htake', hdrop', hne, Bool.false_eq_true, if_false, hexponent]
    rfl

/-- A literal is not one of the words for what has no digits. -/
theorem readWord?_of_spells {cs : List Char} {d : Decimal} (h : SpellsDecimal cs d) :
    readWord? cs = none := by
  cases h with
  | @mk sign digits power whole fraction negative k hsign hdigits hpower =>
  obtain ⟨c, cs, rfl, hc⟩ := hdigits.exists_cons
  -- what starts a literal has one case, and starts no word
  have hlower : c.toLower = c := by
    rcases hc with hc | rfl
    · simp only [isAsciiDigit, Bool.and_eq_true, decide_eq_true_eq] at hc
      have hcapital : ¬(c.val ≥ 'A'.val ∧ c.val ≤ 'Z'.val) := fun h =>
        absurd (UInt32.le_iff_toNat_le.1 h.1) (by
          rw [show 'A'.val.toNat = 65 by rfl]
          exact Nat.not_le.2 (Nat.lt_of_le_of_lt hc.2 (by decide)))
      exact dif_neg hcapital
    · decide
  have hword : ∀ word : String, word.toList.head? = some 'i' ∨ word.toList.head? = some 'n' →
      String.ofList ((c :: cs ++ power).map Char.toLower) ≠ word := by
    rintro word hhead rfl
    simp only [List.cons_append, List.map_cons, hlower, String.toList_ofList, List.head?_cons,
      Option.some.injEq] at hhead
    rcases hhead with rfl | rfl <;> revert hc <;> decide
  unfold readWord?
  rw [splitSign_append hsign (hdigits.unsigned _)]
  simp only
  rw [if_neg, if_neg]
  · exact hword _ (by decide)
  · exact not_or.2 ⟨hword _ (by decide), hword _ (by decide)⟩

/-- A literal is read as the double nearest to its number. -/
theorem readDecimal?_of_spells {cs : List Char} {d : Decimal} (h : SpellsDecimal cs d) :
    readDecimal? cs = some d.value := by
  rw [readDecimal?, readWord?_of_spells h, readLiteral?_of_spells h]
  rfl

/-! ## What a literal is read as -/

theorem Decimal.magnitude_nonneg (d : Decimal) : 0 ≤ d.magnitude := by
  unfold magnitude
  positivity

theorem Decimal.abs_toRat (d : Decimal) : |d.toRat| = d.magnitude := by
  unfold toRat
  split
  · rw [abs_neg, abs_of_nonneg d.magnitude_nonneg]
  · exact abs_of_nonneg d.magnitude_nonneg

/-- A literal is read as the double nearest to its number, unless that is too large. -/
theorem Decimal.isNearest_value (d : Decimal) :
    d.value.IsNearest d.toRat ∨ d.value.isFinite = false ∧ 2 ^ 63 ≤ |d.toRat| := by
  have hsign : d.toRat = if d.negative then -|d.toRat| else |d.toRat| := by
    rw [d.abs_toRat, toRat]
  have hrounds := d.rounds_value
  rw [← d.abs_toRat] at hrounds
  generalize d.value = x at hrounds
  cases hrounds with
  | finite h => exact .inl (isNearest_of_attracts h hsign)
  | infinite h =>
    refine .inr ⟨rfl, le_trans ?_ h⟩
    calc (2 : ℚ) ^ 63
      _ ≤ (2 ^ 53 - 1 / 2) * 2 ^ (11 : ℤ) := by norm_num
      _ ≤ (2 ^ 53 - 1 / 2) * 2 ^ (971 : ℤ) := by
        gcongr <;> norm_num

end SellerApi.Number
