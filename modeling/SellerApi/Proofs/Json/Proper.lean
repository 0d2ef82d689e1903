import SellerApi.Proofs.Json.Document

/-! # Numerals of documents that were read

The reader hands out only numerals that may stand in a document (`Node.IsProper`,
`isProper_of_readNode?`). Of these one numeral alone stands for an integer: the one that it is
written as (`Numeral.IsProper.number?_eq_int_iff`). -/

namespace SellerApi.Json

open SellerApi.Number (Binary64)
open SellerApi.Text

/-! ## Parts of a numeral -/

theorem digits_of_splitDigits (cs : Source) : ∀ c ∈ (splitDigits cs).1, isAsciiDigit c = true := by
  intro c hc
  obtain ⟨_, hmem, rfl⟩ := List.mem_filterMap.1 hc
  exact List.all_eq_true.1 (List.all_takeWhile (p := isDigitAt)) _ hmem

theorem areDigits_of_splitDigits {cs : Source} (h : ¬(splitDigits cs).1.isEmpty = true) :
    AreDigits (splitDigits cs).1 :=
  ⟨mt List.isEmpty_iff.2 h, digits_of_splitDigits cs⟩

theorem areDigits_of_readFraction? {cs rest : Source} {fraction : Option (List Char)}
    (h : readFraction? cs = some (fraction, rest)) : ∀ ds ∈ fraction, AreDigits ds := by
  unfold readFraction? at h
  split at h
  · dsimp only at h
    split at h
    · nomatch h
    next hne =>
    cases h
    rintro _ ⟨⟩
    exact areDigits_of_splitDigits hne
  · cases h
    nofun

theorem areDigits_of_readPower? {cs rest : Source} {power : Option (Bool × List Char)}
    (h : readPower? cs = some (power, rest)) : ∀ p ∈ power, AreDigits p.2 := by
  have hdigits : ∀ (down : Bool) (cs : Source),
      (if (splitDigits cs).1.isEmpty then none
        else some (some (down, (splitDigits cs).1), (splitDigits cs).2)) = some (power, rest) →
      ∀ p ∈ power, AreDigits p.2 := by
    intro down cs h
    split at h
    · nomatch h
    next hne =>
    cases h
    rintro _ ⟨⟩
    exact areDigits_of_splitDigits hne
  unfold readPower? at h
  split at h
  · split at h
    · -- whatever sign there is, the same follows
      dsimp only at h
      split at h <;> exact hdigits _ _ h
    · cases h
      nofun
  · cases h
    nofun

theorem isProper_of_readNumeral? {negative : Bool} {cs rest : Source} {n : Numeral}
    (h : readNumeral? negative cs = some (n, rest)) : n.IsProper := by
  unfold readNumeral? at h
  dsimp only at h
  split at h
  · nomatch h
  next hwhole =>
  simp only [Bool.or_eq_true, Bool.and_eq_true, beq_iff_eq, bne_iff_ne, not_or, not_and,
    Decidable.not_not] at hwhole
  obtain ⟨⟨fraction, cs₁⟩, hfraction, h⟩ := Option.bind_eq_some_iff.1 h
  obtain ⟨⟨power, cs₂⟩, hpower, h⟩ := Option.bind_eq_some_iff.1 h
  cases h
  exact ⟨areDigits_of_splitDigits hwhole.1, hwhole.2, areDigits_of_readFraction? hfraction,
    areDigits_of_readPower? hpower⟩

/-! ## Integers -/

/-- A numeral that stands for an integer is the one that the integer is written as. -/
theorem Numeral.IsProper.number?_eq_int_iff {n : Numeral} (h : n.IsProper) {i : Int} :
    n.number? = some (.int i) ↔ n = .ofInt i ∧ IsWord i := by
  constructor
  · intro hn
    obtain ⟨negative, whole, fraction, exponent⟩ := n
    have hfloat : ∀ o : Option Binary64, o.map Number.float ≠ some (.int i) := by
      rintro (_ | x) <;> nofun
    have htext := natText_digitsValue h.whole.ne_nil h.whole.digits h.lead
    unfold number? at hn
    dsimp only at hn htext
    split at hn
    case isFalse => exact absurd hn (hfloat _)
    next hwhole =>
    simp only [Bool.and_eq_true, Option.isNone_iff_eq_none] at hwhole
    obtain ⟨rfl, rfl⟩ := hwhole
    split at hn
    · next hrange =>
      cases hn
      have hsign : negative = false := by simpa using hrange.1
      exact ⟨by simp [ofInt, hsign, htext], by unfold IsWord; omega⟩
    split at hn
    · next hrange =>
      cases hn
      exact ⟨by simp [ofInt, hrange.1, hrange.2.1, htext], by unfold IsWord; omega⟩
    · exact absurd hn (hfloat _)
  · rintro ⟨rfl, hi⟩
    exact number?_ofInt hi

/-! ## Documents -/

/-- All numerals of a document are such as may stand in one. -/
inductive Node.IsProper : Node → Prop where
  | null : IsProper .null
  | bool (b : Bool) : IsProper (.bool b)
  | number {n : Numeral} (h : n.IsProper) : IsProper (.number n)
  | text (s : Option String) : IsProper (.text s)
  | list {items : List Node} (h : ∀ n ∈ items, n.IsProper) : IsProper (.list items)
  | record {members : List (Option String × Node)} (h : ∀ m ∈ members, m.2.IsProper) :
    IsProper (.record members)

/-- What is read with so much fuel is proper. -/
structure ReadsProper (fuel : Nat) : Prop where
  value : ∀ {cs rest : Source} {n : Node}, readValue? fuel cs = some (n, rest) → n.IsProper
  items : ∀ {cs rest : Source} {ns : List Node}, readItems? fuel cs = some (ns, rest) →
    ∀ n ∈ ns, n.IsProper
  members : ∀ {cs rest : Source} {ms : List (Option String × Node)},
    readMembers? fuel cs = some (ms, rest) → ∀ m ∈ ms, m.2.IsProper

variable {fuel : Nat}

theorem ReadsProper.value_succ (ih : ReadsProper fuel) {cs rest : Source} {n : Node}
    (h : readValue? (fuel + 1) cs = some (n, rest)) : n.IsProper := by
  rw [readValue?] at h
  split at h
  · obtain ⟨p, -, heq⟩ := Option.map_eq_some_iff.1 h
    cases heq
    exact .text _
  · split at h
    · cases h
      exact .list (List.forall_mem_nil _)
    · obtain ⟨p, hp, heq⟩ := Option.map_eq_some_iff.1 h
      cases heq
      exact .list (ih.items hp)
  · split at h
    · cases h
      exact .record (List.forall_mem_nil _)
    · obtain ⟨p, hp, heq⟩ := Option.map_eq_some_iff.1 h
      cases heq
      exact .record (ih.members hp)
  · obtain ⟨p, -, heq⟩ := Option.map_eq_some_iff.1 h
    cases heq
    exact .bool true
  · obtain ⟨p, -, heq⟩ := Option.map_eq_some_iff.1 h
    cases heq
    exact .bool false
  · obtain ⟨p, -, heq⟩ := Option.map_eq_some_iff.1 h
    cases heq
    exact .null
  · obtain ⟨p, hp, heq⟩ := Option.map_eq_some_iff.1 h
    cases heq
    exact .number (isProper_of_readNumeral? hp)
  · obtain ⟨p, hp, heq⟩ := Option.map_eq_some_iff.1 h
    cases heq
    exact .number (isProper_of_readNumeral? hp)

theorem ReadsProper.items_succ (ih : ReadsProper fuel) {cs rest : Source} {ns : List Node}
    (h : readItems? (fuel + 1) cs = some (ns, rest)) : ∀ n ∈ ns, n.IsProper := by
  rw [readItems?] at h
  obtain ⟨⟨item, cs₁⟩, hitem, h⟩ := Option.bind_eq_some_iff.1 h
  have hfirst := ih.value hitem
  dsimp only at h
  split at h
  · obtain ⟨⟨items, cs₂⟩, hitems, h⟩ := Option.bind_eq_some_iff.1 h
    cases h
    exact List.forall_mem_cons.2 ⟨hfirst, ih.items hitems⟩
  · cases h
    exact List.forall_mem_singleton.2 hfirst
  · cases h

theorem ReadsProper.members_succ (ih : ReadsProper fuel) {cs rest : Source}
    {ms : List (Option String × Node)} (h : readMembers? (fuel + 1) cs = some (ms, rest)) :
    ∀ m ∈ ms, m.2.IsProper := by
  rw [readMembers?] at h
  simp only [Option.bind_eq_bind, Option.pure_def] at h
  split at h
  case h_2 => cases h
  obtain ⟨⟨name, cs₁⟩, -, h⟩ := Option.bind_eq_some_iff.1 h
  dsimp only at h
  split at h
  case h_2 => cases h
  obtain ⟨⟨value, cs₂⟩, hvalue, h⟩ := Option.bind_eq_some_iff.1 h
  have hfirst := ih.value hvalue
  dsimp only at h
  split at h
  · obtain ⟨⟨members, cs₃⟩, hmembers, h⟩ := Option.bind_eq_some_iff.1 h
    cases h
    exact List.forall_mem_cons.2 ⟨hfirst, ih.members hmembers⟩
  · cases h
    exact List.forall_mem_singleton.2 hfirst
  · cases h

theorem readsProper (fuel : Nat) : ReadsProper fuel := by
  induction fuel with
  | zero => exact ⟨nofun, nofun, nofun⟩
  | succ fuel ih => exact ⟨ih.value_succ, ih.items_succ, ih.members_succ⟩

/-- A document that was read is proper. -/
theorem isProper_of_readNode? {octets : List UInt8} {n : Node} (h : readNode? octets = some n) :
    n.IsProper := by
  rw [readNode?, readSource?] at h
  obtain ⟨⟨node, rest⟩, hread, h⟩ := Option.bind_eq_some_iff.1 h
  dsimp only at h
  split at h
  · cases h
    exact (readsProper _).value hread
  · cases h

end SellerApi.Json
