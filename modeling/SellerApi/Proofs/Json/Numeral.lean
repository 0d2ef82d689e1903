import SellerApi.Json.Reader
import SellerApi.Proofs.Text.Integer

/-! # Reading numerals that were written

The text of a numeral (`Numeral.text`) reads back in front of whatever ends a value (`Ends`), if its
parts consist of digits and its whole part has no needless zero in front (`Numeral.IsProper`). The
reader follows it part by part: each part ends where no digit stands. -/

namespace SellerApi.Json

open SellerApi.Text

/-! ## What follows a part -/

/-- What ends a value: the end of the document, or what follows a value in a list or record. -/
def Ends (rest : Source) : Prop :=
  rest = [] ∨ ∃ c cs, rest = some c :: cs ∧ c ∈ [',', ']', '}']

theorem Ends.of_mem {c : Char} (h : c ∈ [',', ']', '}']) (cs : Source) : Ends (some c :: cs) :=
  .inr ⟨c, cs, rfl, h⟩

/-- What no digit starts. -/
def EndsDigits (rest : Source) : Prop := ∀ c ∈ rest.head?, isDigitAt c = false

theorem Ends.endsDigits {rest : Source} (h : Ends rest) : EndsDigits rest := by
  intro c hc
  obtain rfl | ⟨d, cs, rfl, hd⟩ := h
  · contradiction
  · obtain rfl := Option.some.inj hc
    simp only [List.mem_cons, List.not_mem_nil, or_false] at hd
    rcases hd with rfl | rfl | rfl <;> decide

theorem splitDigits_append {ds : List Char} (hd : ∀ c ∈ ds, isAsciiDigit c = true) {rest : Source}
    (h : EndsDigits rest) : splitDigits (ds.map some ++ rest) = (ds, rest) := by
  induction ds with
  | nil =>
    cases rest with
    | nil => rfl
    | cons c cs => simp [splitDigits, h c rfl]
  | cons d ds ih =>
    have hfirst : isDigitAt (some d) = true := hd d List.mem_cons_self
    have hrest := ih fun c hc => hd c (List.mem_cons_of_mem _ hc)
    simp only [splitDigits, Prod.mk.injEq] at hrest
    rw [List.map_cons, List.cons_append, splitDigits, List.takeWhile_cons_of_pos hfirst,
      List.dropWhile_cons_of_pos hfirst, List.filterMap_cons_some (f := id) (b := d) rfl, hrest.1,
      hrest.2]

/-! ## Parts of a numeral -/

/-- One digit or more. -/
structure AreDigits (ds : List Char) : Prop where
  ne_nil : ds ≠ []
  digits : ∀ c ∈ ds, isAsciiDigit c = true

theorem areDigits_natText (n : Nat) : AreDigits (natText n).toList :=
  ⟨natText_ne_nil n, fun _ => isAsciiDigit_of_mem_natText⟩

/-- A digit is no other character. -/
theorem AreDigits.cons_ne {c d : Char} {cs : List Char} (h : AreDigits (c :: cs))
    (hd : isAsciiDigit d = false) : c ≠ d := by
  rintro rfl
  have := h.digits c List.mem_cons_self
  simp_all

/-- The text of the digits after the point. -/
def fractionText : Option (List Char) → List Char
  | none => []
  | some ds => '.' :: ds

/-- The text of an exponent. A positive one may have its sign. -/
def powerText (plus : Bool) : Option (Bool × List Char) → List Char
  | none => []
  | some (down, ds) => 'e' :: (if down then ['-'] else if plus then ['+'] else []) ++ ds

/-- The text of a numeral without its sign. -/
def Numeral.unsigned (plus : Bool) (n : Numeral) : List Char :=
  n.whole ++ fractionText n.fraction ++ powerText plus n.exponent

/-- The text of a numeral. -/
def Numeral.text (plus : Bool) (n : Numeral) : List Char :=
  if n.negative then '-' :: n.unsigned plus else n.unsigned plus

/-- A numeral as it may stand in a document. -/
structure Numeral.IsProper (n : Numeral) : Prop where
  whole : AreDigits n.whole
  /-- Only zero itself starts with a zero. -/
  lead : n.whole.head? = some '0' → n.whole.length = 1
  fraction : ∀ ds ∈ n.fraction, AreDigits ds
  exponent : ∀ e ∈ n.exponent, AreDigits e.2

variable {rest : Source}

theorem endsDigits_powerText (plus : Bool) (e : Option (Bool × List Char)) (h : Ends rest) :
    EndsDigits ((powerText plus e).map some ++ rest) := by
  cases e with
  | none => exact h.endsDigits
  | some e =>
    intro c hc
    obtain rfl := Option.some.inj hc
    decide

theorem readPower?_powerText (plus : Bool) {e : Option (Bool × List Char)}
    (he : ∀ p ∈ e, AreDigits p.2) (h : Ends rest) :
    readPower? ((powerText plus e).map some ++ rest) = some (e, rest) := by
  cases e with
  | none =>
    obtain rfl | ⟨c, cs, rfl, hc⟩ := h
    · rfl
    · simp only [List.mem_cons, List.not_mem_nil, or_false] at hc
      rcases hc with rfl | rfl | rfl <;> rfl
  | some e =>
    obtain ⟨down, ds⟩ := e
    have hds := he _ rfl
    have hsplit := splitDigits_append hds.digits h.endsDigits
    have hne : ds.isEmpty = false := List.isEmpty_eq_false_iff.2 hds.ne_nil
    cases down with
    | true => simp [powerText, readPower?, hsplit, hne]
    | false =>
      cases plus with
      | true => simp [powerText, readPower?, hsplit, hne]
      | false =>
        -- the first digit is not taken for a sign
        cases ds with
        | nil => contradiction
        | cons d ds =>
          have hminus := hds.cons_ne (d := '-') (by decide)
          have hplus := hds.cons_ne (d := '+') (by decide)
          rw [List.map_cons, List.cons_append] at hsplit
          simp [powerText, readPower?, hminus, hplus, hsplit]

theorem readFraction?_fractionText (plus : Bool) {f : Option (List Char)}
    (hf : ∀ ds ∈ f, AreDigits ds) (e : Option (Bool × List Char)) (h : Ends rest) :
    readFraction? ((fractionText f).map some ++ ((powerText plus e).map some ++ rest)) =
      some (f, (powerText plus e).map some ++ rest) := by
  cases f with
  | none =>
    -- neither an exponent nor what ends a value starts with a point
    cases e with
    | none =>
      obtain rfl | ⟨c, cs, rfl, hc⟩ := h
      · rfl
      · simp only [List.mem_cons, List.not_mem_nil, or_false] at hc
        rcases hc with rfl | rfl | rfl <;> rfl
    | some e => rfl
  | some ds =>
    have hds := hf _ rfl
    have hne : ds.isEmpty = false := List.isEmpty_eq_false_iff.2 hds.ne_nil
    rw [fractionText, List.map_cons, List.cons_append, readFraction?,
      splitDigits_append hds.digits (endsDigits_powerText plus e h)]
    simp [hne]

/-- A numeral reads back, its sign apart. -/
theorem readNumeral?_unsigned (plus : Bool) {n : Numeral} (hn : n.IsProper) (h : Ends rest) :
    readNumeral? n.negative ((n.unsigned plus).map some ++ rest) = some (n, rest) := by
  have hzero : (n.whole.head? == some '0' && n.whole.length != 1) = false := by
    by_cases hhead : n.whole.head? = some '0'
    · simp [hn.lead hhead]
    · simp [hhead]
  have hne : n.whole.isEmpty = false := List.isEmpty_eq_false_iff.2 hn.whole.ne_nil
  have hends : EndsDigits
      ((fractionText n.fraction).map some ++ ((powerText plus n.exponent).map some ++ rest)) := by
    cases n.fraction with
    | none => exact endsDigits_powerText plus n.exponent h
    | some ds =>
      intro c hc
      obtain rfl := Option.some.inj hc
      decide
  have hsplit := splitDigits_append hn.whole.digits hends
  rw [Numeral.unsigned, List.map_append, List.map_append, List.append_assoc, List.append_assoc]
  simp only [readNumeral?, hsplit, hne, hzero, Bool.or_false, Bool.false_eq_true, if_false,
    readFraction?_fractionText plus hn.fraction n.exponent h, Option.bind_eq_bind, Option.bind_some,
    readPower?_powerText plus hn.exponent h]
  rfl

/-! ## Numerals as values -/

theorem skipGap_cons {c : Char} (h : isGap (some c) = false) (cs : Source) :
    skipGap (some c :: cs) = some c :: cs := by
  rw [skipGap, List.dropWhile_cons, if_neg (by simp [h])]

/-- A digit starts a number. -/
theorem readValue?_of_digit {c : Char} (h : isAsciiDigit c = true) (fuel : Nat) (cs : Source) :
    readValue? (fuel + 1) (some c :: cs) =
      (readNumeral? false (some c :: cs)).map fun p => (.number p.1, p.2) := by
  have hne : ∀ d, isAsciiDigit d = false → c ≠ d := by
    rintro d hd rfl
    rw [h] at hd
    contradiction
  have hgap : isGap (some c) = false := by
    simp [isGap, hne ' ' (by decide), hne '\t' (by decide), hne '\n' (by decide),
      hne '\r' (by decide)]
  have hquote := hne '"' (by decide)
  have hlist := hne '[' (by decide)
  have hrecord := hne '{' (by decide)
  have ht := hne 't' (by decide)
  have hf := hne 'f' (by decide)
  have hn := hne 'n' (by decide)
  have hminus := hne '-' (by decide)
  rw [readValue?, skipGap_cons hgap]
  split <;> simp_all

/-- The text of a numeral reads back in front of whatever ends a value. -/
theorem readValue?_numeral (plus : Bool) {n : Numeral} (hn : n.IsProper) (fuel : Nat)
    (h : Ends rest) :
    readValue? (fuel + 1) ((n.text plus).map some ++ rest) = some (.number n, rest) := by
  have hread := readNumeral?_unsigned plus hn h
  unfold Numeral.text
  cases hneg : n.negative with
  | true =>
    rw [hneg] at hread
    rw [if_pos rfl, List.map_cons, List.cons_append, readValue?, skipGap_cons (by decide)]
    simp [hread]
  | false =>
    rw [hneg] at hread
    rw [if_neg Bool.false_ne_true]
    cases hwhole : n.whole with
    | nil => exact absurd hwhole hn.whole.ne_nil
    | cons c cs =>
      have hc := hn.whole.digits c (by simp [hwhole])
      obtain ⟨text, htext⟩ : ∃ text, n.unsigned plus = c :: text :=
        ⟨_, by rw [Numeral.unsigned, hwhole]; rfl⟩
      rw [htext, List.map_cons, List.cons_append] at hread ⊢
      rw [readValue?_of_digit hc, hread]
      rfl

end SellerApi.Json
