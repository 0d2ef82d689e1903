import SellerApi.Number.FloatText
import SellerApi.Proofs.Json.Numeral
import SellerApi.Proofs.Number.Shortest

/-! # Doubles as numerals

The text of a finite double is a proper numeral in every style, and the double is the nearest one to
the decimal that the numeral denotes (`exists_floatText?_eq`). -/

namespace SellerApi.Json

open SellerApi.Number SellerApi.Text

/-- The literal that a numeral is. -/
def Numeral.decimal (n : Numeral) : Decimal where
  negative := n.negative
  whole := n.whole
  fraction := n.fraction.getD []
  exponent :=
    match n.exponent with
    | none => 0
    | some (down, ds) => if down then -(digitsValue ds : ℤ) else digitsValue ds

/-- A numeral that writes digits: it is proper and has their value. -/
structure Numeral.Writes (n : Numeral) (d : Digits) : Prop where
  proper : n.IsProper
  magnitude_eq : n.decimal.magnitude = d.magnitude

theorem isAsciiDigit_of_mem_zeros {n : Nat} {c : Char} (h : c ∈ List.replicate n '0') :
    isAsciiDigit c = true := by
  rw [List.eq_of_mem_replicate h]
  decide

theorem areDigits_append {ds es : List Char} (hne : ds ++ es ≠ [])
    (hds : ∀ c ∈ ds, isAsciiDigit c = true) (hes : ∀ c ∈ es, isAsciiDigit c = true) :
    AreDigits (ds ++ es) :=
  ⟨hne, fun c hc => (List.mem_append.1 hc).elim (hds c) (hes c)⟩

theorem areDigits_zero : AreDigits ['0'] :=
  ⟨List.cons_ne_nil _ _, fun _ hc => isAsciiDigit_of_mem_zeros (n := 1) hc⟩

/-- Digits with the point where it belongs among them and the zeros around them. -/
theorem Numeral.writes_of_digits {n : Numeral} (hn : n.IsProper) {d : Digits} (front back : Nat)
    (hdigits : n.whole ++ n.fraction.getD [] =
      List.replicate front '0' ++ d.digits ++ List.replicate back '0')
    (hpoint : (n.whole.length : ℤ) + n.decimal.exponent = front + d.exponent + 1) : n.Writes d := by
  refine ⟨hn, ?_⟩
  have hlength := congrArg List.length hdigits
  simp only [List.length_append, List.length_replicate] at hlength
  -- zeros in front do not count, and each one behind is a power of ten
  have hvalue : digitsValue (n.whole ++ n.fraction.getD []) = digitsValue d.digits * 10 ^ back := by
    rw [hdigits, digitsValue_append_zeros, digitsValue_zeros_append]
  calc n.decimal.magnitude
    _ = (digitsValue (n.whole ++ n.fraction.getD []) : ℚ) *
          10 ^ (n.decimal.exponent - (n.fraction.getD []).length) := rfl
    _ = digitsValue d.digits *
          10 ^ ((back : ℤ) + (n.decimal.exponent - (n.fraction.getD []).length)) := by
      rw [hvalue, zpow_add₀ (by norm_num), zpow_natCast]
      push_cast
      ring
    _ = d.magnitude := by
      rw [Digits.magnitude]
      congr 2
      omega

theorem Numeral.isProper_point {negative : Bool} {whole fraction : List Char}
    (hwhole : AreDigits whole) (hfraction : AreDigits fraction)
    (hlead : whole.head? = some '0' → whole.length = 1) :
    (⟨negative, whole, some fraction, none⟩ : Numeral).IsProper where
  whole := hwhole
  lead := hlead
  fraction ds hds := Option.some.inj hds ▸ hfraction
  exponent e he := by contradiction

section

variable {d : Digits} (hd : d.IsProper) (negative : Bool)
include hd

/-- The point is in front of the digits. -/
theorem exists_writes_below (plus : Bool) (he : d.exponent < 0) :
    ∃ n : Numeral, n.Writes d ∧ n.negative = negative ∧ n.unsigned plus = positional d := by
  have hfraction := areDigits_append (by simp [hd.ne_nil])
    (fun _ => isAsciiDigit_of_mem_zeros (n := (-d.exponent - 1).toNat)) hd.digits
  refine ⟨_, Numeral.writes_of_digits
    (Numeral.isProper_point areDigits_zero hfraction fun _ => rfl)
    ((-d.exponent - 1).toNat + 1) 0 (by simp [List.replicate_succ]) ?_, rfl, ?_⟩
  · simp only [Numeral.decimal, List.length_singleton]
    omega
  · simp [positional, he, Numeral.unsigned, fractionText, powerText]

/-- The point is among the digits. -/
theorem exists_writes_among (plus : Bool) {places : Nat} (he : d.exponent = places)
    (hlong : places + 1 < d.digits.length) :
    ∃ n : Numeral, n.Writes d ∧ n.negative = negative ∧ n.unsigned plus = positional d := by
  have hwhole : AreDigits (d.digits.take (places + 1)) :=
    ⟨by simp [hd.ne_nil], fun c hc => hd.digits c (List.mem_of_mem_take hc)⟩
  have hfraction : AreDigits (d.digits.drop (places + 1)) :=
    ⟨by simpa using hlong, fun c hc => hd.digits c (List.mem_of_mem_drop hc)⟩
  refine ⟨_, Numeral.writes_of_digits (Numeral.isProper_point hwhole hfraction fun h => ?_) 0 0
    (by simp) ?_, rfl, ?_⟩
  · rw [List.head?_take, if_neg (by omega)] at h
    rw [hd.lead h] at hlong
    simp at hlong
  · simp only [Numeral.decimal, List.length_take, he]
    omega
  · simp [positional, he, Numeral.unsigned, fractionText, powerText, hlong.not_ge, hlong.le]

/-- The point is behind the digits. -/
theorem exists_writes_behind (plus : Bool) {places : Nat} (he : d.exponent = places)
    (hshort : d.digits.length ≤ places + 1) :
    ∃ n : Numeral, n.Writes d ∧ n.negative = negative ∧ n.unsigned plus = positional d := by
  have hwhole := areDigits_append (by simp [hd.ne_nil]) hd.digits
    (fun _ => isAsciiDigit_of_mem_zeros (n := places + 1 - d.digits.length))
  refine ⟨_, Numeral.writes_of_digits (Numeral.isProper_point hwhole areDigits_zero fun h => ?_) 0
    (places + 1 - d.digits.length + 1) (by simp [List.replicate_succ']) ?_, rfl, ?_⟩
  · rw [List.head?_append_of_ne_nil _ hd.ne_nil] at h
    obtain rfl := hd.lead h
    obtain rfl : places = 0 := by simpa using he.symm
    rfl
  · simp only [Numeral.decimal, List.length_append, List.length_replicate, he]
    omega
  · simp [positional, he, Numeral.unsigned, fractionText, powerText,
      show ¬(places : ℤ) < 0 by omega, List.take_of_length_le hshort,
      List.drop_of_length_le hshort]

theorem exists_writes_positional (plus : Bool) :
    ∃ n : Numeral, n.Writes d ∧ n.negative = negative ∧ n.unsigned plus = positional d := by
  by_cases hbelow : d.exponent < 0
  · exact exists_writes_below hd negative plus hbelow
  · obtain ⟨places, he⟩ : ∃ places : Nat, d.exponent = places := ⟨d.exponent.toNat, by omega⟩
    rcases Nat.lt_or_ge (places + 1) d.digits.length with hlong | hshort
    · exact exists_writes_among hd negative plus he hlong
    · exact exists_writes_behind hd negative plus he hshort

omit hd in
/-- The digits behind the first one, or a zero where a style asks for one. -/
theorem exists_fraction {tail : List Char} (htail : ∀ c ∈ tail, isAsciiDigit c = true)
    (pointed : Bool) : ∃ fraction back, (∀ ds ∈ fraction, AreDigits ds) ∧
      fraction.getD [] = tail ++ List.replicate back '0' ∧
        fractionText fraction =
          if (if tail.isEmpty && pointed then ['0'] else tail).isEmpty then []
          else '.' :: (if tail.isEmpty && pointed then ['0'] else tail) := by
  cases tail with
  | nil =>
    cases pointed with
    | true =>
      refine ⟨some ['0'], 1, fun ds hds => ?_, rfl, rfl⟩
      obtain rfl := Option.some.inj hds
      exact areDigits_zero
    | false => exact ⟨none, 0, fun ds h => absurd h (Option.not_mem_none ds), rfl, rfl⟩
  | cons c cs =>
    refine ⟨some (c :: cs), 0, fun ds hds => ?_, by simp, rfl⟩
    obtain rfl := Option.some.inj hds
    exact ⟨List.cons_ne_nil _ _, htail⟩

theorem exists_writes_scientific (style : FloatStyle) : ∃ n : Numeral, n.Writes d ∧
    n.negative = negative ∧ n.unsigned style.plus = scientific style d := by
  obtain ⟨ds, e⟩ := d
  cases ds with
  | nil => exact absurd rfl hd.ne_nil
  | cons c tail =>
    obtain ⟨fraction, back, hfraction, hback, htext⟩ :=
      exists_fraction (fun d h => hd.digits d (List.mem_cons_of_mem c h)) style.pointed
    obtain ⟨n, hn⟩ : ∃ n : Numeral,
      n = ⟨negative, [c], fraction, some (decide (e < 0), (natText e.natAbs).toList)⟩ := ⟨_, rfl⟩
    have hproper : n.IsProper := by
      rw [hn]
      refine ⟨⟨List.cons_ne_nil _ _, fun d h => ?_⟩, fun _ => rfl, hfraction, fun e he => ?_⟩
      · rw [List.mem_singleton.1 h]
        exact hd.digits c List.mem_cons_self
      · rw [← Option.some.inj he]
        exact areDigits_natText _
    have hexponent : n.decimal.exponent = e := by
      simp only [hn, Numeral.decimal, digitsValue_natText, decide_eq_true_eq]
      split <;> omega
    refine ⟨n, Numeral.writes_of_digits hproper 0 back ?_ ?_, ?_, ?_⟩
    · simp [hn, hback]
    · rw [hexponent, hn]
      simp [add_comm]
    · rw [hn]
    · simp [hn, Numeral.unsigned, htext, scientific, powerText, natText, Nat.toList_repr]

end

theorem isProper_zero : Digits.IsProper ⟨['0'], 0⟩ :=
  ⟨areDigits_zero.ne_nil, areDigits_zero.digits, fun _ => rfl⟩

/-- Only zero has no significand. -/
theorem significand_eq_zero_iff {exponent fraction : Nat} :
    Binary64.significand exponent fraction = 0 ↔ exponent = 0 ∧ fraction = 0 := by
  unfold Binary64.significand
  split <;> omega

/-- The digits that a style arranges, a zero among them. -/
def writtenDigits (exponent fraction : Nat) : Digits :=
  if exponent = 0 ∧ fraction = 0 then ⟨['0'], 0⟩ else shortest exponent fraction

section

variable {exponent : Fin 2047} {fraction : Fin 0x10_0000_0000_0000}

theorem isProper_writtenDigits : (writtenDigits exponent fraction).IsProper := by
  unfold writtenDigits
  split
  · exact isProper_zero
  · next hne => exact (shortest_spec (mt significand_eq_zero_iff.1 hne)).1

/-- A numeral of these digits denotes a number that the double is nearest to. -/
theorem Numeral.Writes.value_eq {n : Numeral} (h : n.Writes (writtenDigits exponent fraction)) :
    n.decimal.value = .finite n.negative exponent fraction := by
  have hmagnitude := h.magnitude_eq
  by_cases hzero : exponent.val = 0 ∧ fraction.val = 0
  · rw [writtenDigits, if_pos hzero] at hmagnitude
    have hvalue : n.decimal.value = .zero n.negative :=
      Decimal.value_of_magnitude_eq_zero (hmagnitude.trans (zero_mul _))
    rw [hvalue, Binary64.zero, Binary64.finite.injEq]
    exact ⟨rfl, Fin.ext hzero.1.symm, Fin.ext hzero.2.symm⟩
  · rw [writtenDigits, if_neg hzero] at hmagnitude
    have hs := mt significand_eq_zero_iff.1 hzero
    exact Decimal.value_of_attracts (hmagnitude ▸ (shortest_spec hs).2) hs

end

theorem floatText?_of_not_finite (style : FloatStyle) {x : Binary64} (hx : x.isFinite = false) :
    floatText? style x = none := by
  cases x with
  | finite => contradiction
  | _ => rfl

/-- The text of a finite double is that of a numeral, and the double is the nearest one to what the
numeral denotes. -/
theorem exists_floatText?_eq (style : FloatStyle) {x : Binary64} (hx : x.isFinite = true) :
    ∃ n : Numeral, n.IsProper ∧ floatText? style x = some (n.text style.plus) ∧
      n.decimal.value = x := by
  cases x with
  | finite negative exponent fraction =>
    obtain ⟨n, hn, hnegative, hunsigned⟩ : ∃ n : Numeral,
        n.Writes (writtenDigits exponent fraction) ∧ n.negative = negative ∧
          n.unsigned style.plus =
            if style.lowest ≤ (writtenDigits exponent fraction).exponent ∧
              (writtenDigits exponent fraction).exponent ≤ style.highest
            then positional (writtenDigits exponent fraction)
            else scientific style (writtenDigits exponent fraction) := by
      split
      · exact exists_writes_positional isProper_writtenDigits negative style.plus
      · exact exists_writes_scientific isProper_writtenDigits negative style
    refine ⟨n, hn.proper, ?_, ?_⟩
    · rw [floatText?, Numeral.text, hunsigned, hnegative, writtenDigits]
    · rw [← hnegative]
      exact hn.value_eq
  | _ => contradiction

end SellerApi.Json
