import SellerApi.Proofs.DataType
import SellerApi.Proofs.Json.Edit
import SellerApi.Proofs.Json.Proper
import SellerApi.Proofs.Number.Literal

/-! # The count of matched rows

A report tells how many rows matched as an integer or as a text, or leaves it open (`TellsCount`).
The reader takes the count from its place in the document (`HasCount`) and otherwise reads the
report as if none were there; what tells no count fails the report as a whole. The writer puts the
count there as a text (`Report.matchedRows_exact`).
-/

namespace SellerApi

open SellerApi.Json SellerApi.Number SellerApi.Text

/-! ## Counts -/

/-- What stands at the place of a count, and the count that it tells. -/
inductive TellsCount : Option Node → Option ℤ → Prop where
  | missing : TellsCount none none
  | null : TellsCount (some .null) none
  | number {n : ℤ} (h : -2 ^ 63 ≤ n ∧ n ≤ 2 ^ 63 - 1) :
    TellsCount (some (.number (.ofInt n))) (some n)
  /-- A whole number between blanks. -/
  | text {before cs behind : List Char} {n : ℤ} (hbefore : ∀ b ∈ before, isBlank b = true)
    (hbehind : ∀ b ∈ behind, isBlank b = true) (hspells : SpellsInteger cs n)
    (h : -2 ^ 63 ≤ n ∧ n ≤ 2 ^ 63 - 1) :
    TellsCount (some (.text (some (String.ofList (before ++ cs ++ behind))))) (some n)
  /-- Nothing, or nothing but blanks. -/
  | blank {cs : List Char} (h : ∀ b ∈ cs, isBlank b = true) :
    TellsCount (some (.text (some (String.ofList cs)))) none

theorem not_isBlank_of_spellsInteger {cs : List Char} {n : ℤ} (h : SpellsInteger cs n) :
    cs ≠ [] ∧ ∀ c ∈ cs, isBlank c = false := by
  obtain ⟨hsign, hds⟩ := h
  rename_i sign ds negative
  refine ⟨by simp [hds.ne_nil], fun c hc => ?_⟩
  rcases List.mem_append.1 hc with hc | hc
  · cases hsign with
    | bare => nomatch hc
    | plus | minus =>
      obtain rfl := List.mem_singleton.1 hc
      decide
  · exact not_isBlank_of_isAsciiDigit (hds.digits c hc)

theorem countOfNode?_number {n : Numeral} (h : n.IsProper) {count : Option ℤ} :
    countOfNode? (some (.number n)) = some count ↔ TellsCount (some (.number n)) count := by
  rw [countOfNode?]
  constructor
  · intro hcount
    split at hcount
    case h_2 => cases hcount
    next i hi =>
    split at hcount
    case isFalse => cases hcount
    next hrange =>
    cases hcount
    obtain ⟨rfl, -⟩ := h.number?_eq_int_iff.1 hi
    exact .number (isInt64_iff.1 hrange)
  · intro htells
    cases htells with
    | @number i hrange =>
      have hword : IsWord i := ⟨hrange.1, by simp only [bound64]; omega⟩
      rw [number?_ofInt hword]
      exact if_pos (isInt64_iff.2 hrange)

theorem countOfNode?_text {s : String} {count : Option ℤ} :
    countOfNode? (some (.text (some s))) = some count ↔
      TellsCount (some (.text (some s))) count := by
  rw [countOfNode?]
  constructor
  · intro hcount
    obtain ⟨before, behind, hs, hbefore, hbehind⟩ := exists_margins s.toList
    generalize trimChars s.toList = inner at hcount hs
    obtain rfl : s = String.ofList (before ++ inner ++ behind) := by
      rw [← hs, String.ofList_toList]
    split at hcount
    · next hempty =>
      cases hcount
      obtain rfl := List.isEmpty_iff.1 hempty
      exact .blank (List.forall_mem_append.2 ⟨by simpa using hbefore, hbehind⟩)
    · obtain ⟨n, hn, rfl⟩ := Option.map_eq_some_iff.1 hcount
      obtain ⟨hspells, hrange⟩ := readInt64?_eq_some_iff.1 hn
      exact .text hbefore hbehind hspells hrange
  · intro htells
    generalize hs : some (Node.text (some s)) = slot at htells
    cases htells with
    | missing | null | number => cases hs
    | text hbefore hbehind hspells hrange =>
      cases hs
      obtain ⟨hne, hkeep⟩ := not_isBlank_of_spellsInteger hspells
      rw [String.toList_ofList, trimChars_append_of_blank hbefore hbehind,
        trimChars_of_not_blank hkeep]
      simp only [List.isEmpty_eq_false_iff.2 hne, readInt64?_eq_some_iff.2 ⟨hspells, hrange⟩]
      rfl
    | blank h =>
      cases hs
      rw [String.toList_ofList, trimChars_of_all_blank h]
      rfl

/-- A count is read exactly if one is told, or left open. -/
theorem countOfNode?_eq_some_iff {slot : Option Node} (hproper : ∀ v ∈ slot, v.IsProper)
    {count : Option ℤ} : countOfNode? slot = some count ↔ TellsCount slot count := by
  match slot with
  | none =>
    constructor
    · rintro ⟨⟩
      exact .missing
    · rintro ⟨⟩
      rfl
  | some .null =>
    constructor
    · rintro ⟨⟩
      exact .null
    · rintro ⟨⟩
      rfl
  | some (.number n) =>
    cases hproper _ rfl with
    | number h => exact countOfNode?_number h
  | some (.text (some s)) => exact countOfNode?_text
  | some (.text none) | some (.bool _) | some (.list _) | some (.record _) =>
    exact iff_of_false (fun h => nomatch h) fun h => nomatch h

/-! ## Their place in a document -/

/-- A document of a report, what stands at the place of its count, and the document without it. -/
inductive HasCount : Node → Option Node → Node → Prop where
  | named {front back : List (Option String × Node)} (v : Node)
    (h : ∀ m ∈ front ++ back, m.1 ≠ some "totalMatchedRows") :
    HasCount (.record (front ++ (some "totalMatchedRows", v) :: back)) (some v)
      (.record (front ++ back))
  | unnamed {members : List (Option String × Node)}
    (h : ∀ m ∈ members, m.1 ≠ some "totalMatchedRows") :
    HasCount (.record members) none (.record members)
  /-- In a list the count is the sixth item. -/
  | listed {front back : List Node} (v : Node) (h : front.length = 5) :
    HasCount (.list (front ++ v :: back)) (some v) (.list (front ++ .null :: back))
  | unlisted {items : List Node} (h : items.length ≤ 5) : HasCount (.list items) none (.list items)

variable {doc bare : Node} {slot : Option Node}

/-- The names of the fields of a report. -/
abbrev Report.fieldNames : List String :=
  ["kind", "headers", "rows", "averages", "totals", "totalMatchedRows", "warnings"]

/-- What is found of the fields in a document and in the one without the count: nothing at all, or
the same in all other places. -/
inductive SlotsApart (slot : Option Node) :
    Option (List (Option Node)) → Option (List (Option Node)) → Prop where
  | unfound : SlotsApart slot none none
  | found {slot' : Option Node} (hopen : countOfNode? slot' = some none)
    (kind columns rows averages totals warnings : Option Node) :
    SlotsApart slot (some [kind, columns, rows, averages, totals, slot, warnings])
      (some [kind, columns, rows, averages, totals, slot', warnings])

theorem valuesNamed_eq_nil_iff {name : String} {members : List (Option String × Node)} :
    valuesNamed name members = [] ↔ ∀ m ∈ members, m.1 ≠ some name := by
  rw [valuesNamed, List.filterMap_eq_nil_iff]
  exact forall₂_congr fun m _ => by simp

theorem slotsApart_record {members others : List (Option String × Node)}
    (hnamed : (members.all fun m => m.1.isSome) = others.all fun m => m.1.isSome)
    (hother : ∀ name ≠ "totalMatchedRows", fieldNamed? members name = fieldNamed? others name)
    (hslot : fieldNamed? members "totalMatchedRows" = some slot)
    (hnone : fieldNamed? others "totalMatchedRows" = some none) :
    SlotsApart slot ((Node.record members).fields? Report.fieldNames)
      ((Node.record others).fields? Report.fieldNames) := by
  rw [Node.fields?, Node.fields?, hnamed]
  split
  case isFalse => exact .unfound
  simp only [List.mapM_cons, List.mapM_nil, hslot, hnone, hother "kind" (by decide),
    hother "headers" (by decide), hother "rows" (by decide), hother "averages" (by decide),
    hother "totals" (by decide), hother "warnings" (by decide)]
  cases fieldNamed? others "kind" with
  | none => exact .unfound
  | some _ =>
  cases fieldNamed? others "headers" with
  | none => exact .unfound
  | some _ =>
  cases fieldNamed? others "rows" with
  | none => exact .unfound
  | some _ =>
  cases fieldNamed? others "averages" with
  | none => exact .unfound
  | some _ =>
  cases fieldNamed? others "totals" with
  | none => exact .unfound
  | some _ =>
  cases fieldNamed? others "warnings" with
  | none => exact .unfound
  | some _ => exact .found rfl ..

theorem slotsApart_listed {front : List Node} (back : List Node) (v : Node)
    (h : front.length = 5) :
    SlotsApart (some v) ((Node.list (front ++ v :: back)).fields? Report.fieldNames)
      ((Node.list (front ++ .null :: back)).fields? Report.fieldNames) := by
  match front, back, h with
  | [_, _, _, _, _], [], _ => exact .found rfl ..
  | [_, _, _, _, _], [_], _ => exact .found rfl ..
  | [_, _, _, _, _], _ :: _ :: _, _ => exact .unfound

theorem slotsApart_unlisted {items : List Node} (h : items.length ≤ 5) :
    SlotsApart none ((Node.list items).fields? Report.fieldNames)
      ((Node.list items).fields? Report.fieldNames) := by
  match items, h with
  | [], _ | [_], _ | [_, _], _ | [_, _, _], _ | [_, _, _, _], _ | [_, _, _, _, _], _ =>
    exact .found rfl ..

theorem HasCount.slotsApart (h : HasCount doc slot bare) :
    SlotsApart slot (doc.fields? Report.fieldNames) (bare.fields? Report.fieldNames) := by
  cases h with
  | @named front back v h =>
    obtain ⟨hfront, hback⟩ := List.forall_mem_append.1 h
    have hhere : valuesNamed "totalMatchedRows" [(some "totalMatchedRows", v)] = [v] := rfl
    refine slotsApart_record (by simp) (fun name hname => ?_) ?_ ?_
    · have helse : valuesNamed name [(some "totalMatchedRows", v)] = [] := by
        simp [valuesNamed, hname.symm]
      rw [fieldNamed?, fieldNamed?, valuesNamed_append_cons, helse, List.append_nil,
        valuesNamed_append]
    · rw [fieldNamed?, valuesNamed_append_cons, hhere, valuesNamed_eq_nil_iff.2 hfront,
        valuesNamed_eq_nil_iff.2 hback]
      rfl
    · rw [fieldNamed?, valuesNamed_eq_nil_iff.2 h]
  | @unnamed members h =>
    have hnone : fieldNamed? members "totalMatchedRows" = some none := by
      rw [fieldNamed?, valuesNamed_eq_nil_iff.2 h]
    exact slotsApart_record rfl (fun _ _ => rfl) hnone hnone
  | listed v h => exact slotsApart_listed _ v h
  | unlisted h => exact slotsApart_unlisted h

/-- A document is read as the one without its count, and the count on its own. -/
theorem HasCount.ofNode?_eq (h : HasCount doc slot bare) : Report.ofNode? doc =
    (Report.ofNode? bare).bind fun r =>
      (countOfNode? slot).map fun count => { r with matchedRows := count } := by
  have hslots := h.slotsApart
  rw [Report.ofNode?, Report.ofNode?]
  generalize doc.fields? _ = slots at hslots
  generalize bare.fields? _ = slots' at hslots
  cases hslots with
  | unfound => rfl
  | found hopen kind columns rows averages totals warnings =>
  simp only [Option.bind_eq_bind, Option.bind_some, hopen]
  cases optional Node.text? kind with
  | none => rfl
  | some _ =>
  cases orElse [] (Node.list? Column.ofNode?) columns with
  | none => rfl
  | some _ =>
  cases orElse [] (Node.list? (Node.list? Node.text?)) rows with
  | none => rfl
  | some _ =>
  cases orElse [] (Node.list? Node.text?) averages with
  | none => rfl
  | some _ =>
  cases orElse [] (Node.list? Node.text?) totals with
  | none => rfl
  | some _ =>
  cases orElse [] (Node.list? Node.text?) warnings with
  | none => cases countOfNode? slot <;> rfl
  | some _ => cases countOfNode? slot <;> rfl

theorem exists_of_mapM {α β : Type} {f : α → Option β} {xs : List α} {ys : List β}
    (h : xs.mapM f = some ys) {x : α} (hx : x ∈ xs) : ∃ y, f x = some y := by
  induction xs generalizing ys with
  | nil => nomatch hx
  | cons x' xs ih =>
    rw [List.mapM_cons] at h
    obtain ⟨y, hy, h⟩ := Option.bind_eq_some_iff.1 h
    obtain ⟨ys', hys, -⟩ := Option.bind_eq_some_iff.1 h
    rcases List.mem_cons.1 hx with rfl | hx
    · exact ⟨y, hy⟩
    · exact ih hys hx

/-- Each document that is read has one place for the count at most: no member is repeated. -/
theorem exists_hasCount {r : Report} (h : Report.ofNode? doc = some r) :
    ∃ slot bare, HasCount doc slot bare := by
  rw [Report.ofNode?] at h
  obtain ⟨slots, hslots, -⟩ := Option.bind_eq_some_iff.1 h
  cases doc with
  | null | bool | number | text => cases hslots
  | list items =>
    by_cases hshort : items.length ≤ 5
    · exact ⟨_, _, .unlisted hshort⟩
    · obtain ⟨v, back, hback⟩ : ∃ v back, items.drop 5 = v :: back :=
        List.exists_cons_of_length_pos (by rw [List.length_drop]; omega)
      have hsplit := List.take_append_drop 5 items
      rw [hback] at hsplit
      rw [← hsplit]
      exact ⟨_, _, .listed v (by rw [List.length_take]; omega)⟩
  | record members =>
    obtain ⟨-, hslots⟩ := Option.ite_none_right_eq_some.1 hslots
    obtain ⟨slot, hslot⟩ := exists_of_mapM hslots (x := "totalMatchedRows") (by decide)
    unfold fieldNamed? at hslot
    split at hslot
    · next hnone => exact ⟨_, _, .unnamed (valuesNamed_eq_nil_iff.1 hnone)⟩
    · next v hone =>
      obtain ⟨front, m, back, rfl, hfront, hm, hback⟩ := List.filterMap_eq_cons_iff.1 hone
      obtain ⟨hname, hv⟩ := Option.ite_none_right_eq_some.1 hm
      obtain rfl : m = (some "totalMatchedRows", v) := Prod.ext hname (Option.some.inj hv)
      refine ⟨_, _, .named v (List.forall_mem_append.2
        ⟨valuesNamed_eq_nil_iff.1 (List.filterMap_eq_nil_iff.2 hfront),
          valuesNamed_eq_nil_iff.1 hback⟩)⟩
    · cases hslot

theorem HasCount.isProper (h : HasCount doc slot bare) (hdoc : doc.IsProper) :
    ∀ v ∈ slot, v.IsProper := by
  cases h with
  | named v _ =>
    rintro _ ⟨⟩
    cases hdoc with
    | record h => exact h (some "totalMatchedRows", v) (by simp)
  | listed v _ =>
    rintro _ ⟨⟩
    cases hdoc with
    | list h => exact h v (by simp)
  | unnamed | unlisted => nofun

/-! ## Reports -/

namespace Report

/-- The member for the count, among members of other names. -/
theorem exists_toValue_eq (r : Report) : ∃ front back, r.toValue = .record (front ++
      (r.matchedRows.map fun n => ("totalMatchedRows", .text (intText n))).toList ++ back) ∧
    ∀ m ∈ front ++ back, m.1 ≠ "totalMatchedRows" := by
  refine ⟨[whenSome "kind" .text r.kind, whenAny "headers" Column.toValue r.columns,
    whenAny "rows" textsValue r.rows, whenAny "averages" .text r.averages,
    whenAny "totals" .text r.totals].filterMap id,
    [whenAny "warnings" .text r.warnings].filterMap id, ?_, ?_⟩
  · have hcount : [whenSome "totalMatchedRows" (fun n => .text (intText n)) r.matchedRows].filterMap
        id = (r.matchedRows.map fun n => ("totalMatchedRows", .text (intText n))).toList := by
      cases r.matchedRows <;> rfl
    rw [← hcount, ← List.filterMap_append, ← List.filterMap_append]
    rfl
  · rw [← List.filterMap_append]
    intro m hm
    obtain ⟨written, hmem, hm⟩ := List.mem_filterMap.1 hm
    obtain ⟨name, hne, hname⟩ :
        ∃ name, name ≠ "totalMatchedRows" ∧ Named name written := by
      simp only [List.cons_append, List.nil_append, List.mem_cons, List.not_mem_nil,
        or_false] at hmem
      rcases hmem with rfl | rfl | rfl | rfl | rfl | rfl
      · exact ⟨"kind", by decide, named_whenSome _ _ _⟩
      · exact ⟨"headers", by decide, named_whenAny _ _ _⟩
      · exact ⟨"rows", by decide, named_whenAny _ _ _⟩
      · exact ⟨"averages", by decide, named_whenAny _ _ _⟩
      · exact ⟨"totals", by decide, named_whenAny _ _ _⟩
      · exact ⟨"warnings", by decide, named_whenAny _ _ _⟩
    exact hname m hm ▸ hne

/-- A report whose document has a place for the count is read exactly if it is read without the
count and what stands there tells one, or leaves it open; then it is that report with that count.
Every document that is read has such a place, filled or not. A count is written as the text of the
number, and no member is written without a count. -/
theorem matchedRows_exact :
    (∀ octets doc slot bare, readNode? octets = some doc → HasCount doc slot bare →
      ∀ r : Report, DataType.report.decode octets = some r ↔
        ∃ (r₀ : Report) (count : Option ℤ), ofNode? bare = some r₀ ∧ TellsCount slot count ∧
          r = { r₀ with matchedRows := count }) ∧
    (∀ octets (r : Report), DataType.report.decode octets = some r →
      ∃ doc slot bare, readNode? octets = some doc ∧ HasCount doc slot bare) ∧
    ∀ r : Report, ∃ front back, r.toValue = .record (front ++
        (r.matchedRows.map fun n => ("totalMatchedRows", .text (intText n))).toList ++ back) ∧
      ∀ m ∈ front ++ back, m.1 ≠ "totalMatchedRows" := by
  refine ⟨fun octets doc slot bare hread hcount r => ?_, fun octets r hr => ?_, exists_toValue_eq⟩
  · have hdecode : DataType.report.decode octets = some r ↔ ofNode? doc = some r := by
      rw [DataType.decode, hread]
      rfl
    have htells : ∀ {count}, countOfNode? slot = some count ↔ TellsCount slot count :=
      countOfNode?_eq_some_iff (hcount.isProper (isProper_of_readNode? hread))
    rw [hdecode, hcount.ofNode?_eq, Option.bind_eq_some_iff]
    constructor
    · rintro ⟨r₀, hr₀, h⟩
      obtain ⟨count, hc, rfl⟩ := Option.map_eq_some_iff.1 h
      exact ⟨r₀, count, hr₀, htells.1 hc, rfl⟩
    · rintro ⟨r₀, count, hr₀, hc, rfl⟩
      exact ⟨r₀, hr₀, Option.map_eq_some_iff.2 ⟨count, htells.2 hc, rfl⟩⟩
  · obtain ⟨doc, hread, hdoc⟩ := Option.bind_eq_some_iff.1 hr
    obtain ⟨slot, bare, hcount⟩ := exists_hasCount hdoc
    exact ⟨doc, slot, bare, hread, hcount⟩

/-- A report that says nothing but its count. -/
def countOnly (v : Value) : Value := .record [("totalMatchedRows", v)]

theorem hasCount_countOnly (v : Value) :
    HasCount (countOnly v).node (some v.node) (.record []) :=
  @HasCount.named [] [] v.node (List.forall_mem_nil _)

/-- A text with needless zeros between blanks, and the least integer beyond 64 bits. -/
theorem matchedRows_exact_edges :
    DataType.report.decode (Utf8.encode (countOnly (.text " -0007\u2003")).toText.toList) =
      some ({ matchedRows := some (-7) } : Report) ∧
    ∀ r : Report, DataType.report.decode
      (Utf8.encode (countOnly (.number (.int 9223372036854775808))).toText.toList) ≠ some r := by
  obtain ⟨hread, -⟩ := matchedRows_exact
  constructor
  · have hwhole : (countOnly (.text " -0007\u2003")).IsWhole :=
      .record (List.forall_mem_singleton.2 (.text _))
    have hdigits : AreDigits "0007".toList := ⟨by decide, List.all_eq_true.1 (by decide)⟩
    have hspells : SpellsInteger "-0007".toList (-7) := .mk .minus hdigits
    have hbefore : ∀ b ∈ [' '], isBlank b = true := List.forall_mem_singleton.2 rfl
    have hbehind : ∀ b ∈ ['\u2003'], isBlank b = true := List.forall_mem_singleton.2 rfl
    refine (hread _ _ _ _ (readNode?_toText hwhole) (hasCount_countOnly _) _).2
      ⟨{}, _, rfl, ?_, rfl⟩
    exact .text hbefore hbehind hspells (by decide)
  · intro r hr
    have hwhole : (countOnly (.number (.int 9223372036854775808))).IsWhole :=
      .record (List.forall_mem_singleton.2 (.number (by decide)))
    obtain ⟨r₀, count, -, htells, -⟩ :=
      (hread _ _ _ _ (readNode?_toText hwhole) (hasCount_countOnly _) r).1 hr
    have hcount := (countOfNode?_number (isProper_ofInt _)).2 htells
    rw [countOfNode?, number?_ofInt (by decide)] at hcount
    cases hcount

/-- The canonical text of a number, perhaps with zeros in front of its digits and, if it is not
negative, with a plus sign. -/
inductive PadsNumeral : ℤ → List Char → Prop where
  | natural {sign : List Char} (hsign : sign = [] ∨ sign = ['+']) (zeros n : ℕ) :
    PadsNumeral (.ofNat n) (sign ++ (List.replicate zeros '0' ++ (natText n).toList))
  | negative (zeros n : ℕ) :
    PadsNumeral (.negSucc n) ('-' :: (List.replicate zeros '0' ++ (natText (n + 1)).toList))

theorem PadsNumeral.not_isBlank {n : ℤ} {cs : List Char} (h : PadsNumeral n cs) :
    ∀ c ∈ cs, isBlank c = false := by
  have hdigits : ∀ zeros n, ∀ c ∈ List.replicate zeros '0' ++ (natText n).toList,
      isBlank c = false := by
    intro zeros n
    refine List.forall_mem_append.2 ⟨fun c hc => ?_, fun c hc => ?_⟩
    · rw [List.eq_of_mem_replicate hc]
      rfl
    · exact not_isBlank_of_isAsciiDigit (isAsciiDigit_of_mem_natText hc)
  cases h with
  | natural hsign zeros n =>
    refine List.forall_mem_append.2 ⟨?_, hdigits zeros n⟩
    rcases hsign with rfl | rfl
    · exact List.forall_mem_nil _
    · exact List.forall_mem_singleton.2 rfl
  | negative zeros n => exact List.forall_mem_cons.2 ⟨rfl, hdigits zeros (n + 1)⟩

/-- Only a number below zero takes a minus sign. -/
theorem not_padsNumeral_minus_zero (n : ℤ) : ¬PadsNumeral n ['-', '0'] := by
  intro h
  generalize hcs : ['-', '0'] = cs at h
  cases h with
  | natural hsign zeros n =>
    rcases hsign with rfl | rfl
    · have hminus : '-' ∈ List.replicate zeros '0' ++ (natText n).toList :=
        hcs ▸ List.mem_cons_self
      rcases List.mem_append.1 hminus with hminus | hminus
      · exact absurd (List.eq_of_mem_replicate hminus) (by decide)
      · exact absurd (isAsciiDigit_of_mem_natText hminus) (by decide)
    · cases hcs
  | negative zeros n =>
    have hdigits : ['0'] = List.replicate zeros '0' ++ (natText (n + 1)).toList :=
      (List.cons.inj hcs).2
    have hlength := congrArg List.length hdigits
    have hpos := List.length_pos_of_ne_nil (natText_ne_nil (n + 1))
    simp only [List.length_singleton, List.length_append, List.length_replicate] at hlength
    obtain rfl : zeros = 0 := by omega
    have hvalue : digitsValue ['0'] = n + 1 := by
      rw [hdigits]
      exact digitsValue_natText (n + 1)
    cases hvalue

/-- A zero with a minus sign tells a count too. It is not blank, and it is no canonical text of a
number either, with zeros or a plus sign in front of it or blanks around it. -/
theorem counts_minus_zero :
    DataType.report.decode (Utf8.encode "\x7b\"totalMatchedRows\":\"-0\"\x7d".toList) =
      some ({ matchedRows := some 0 } : Report) ∧
    (¬∀ c ∈ "-0".toList, isBlank c = true) ∧
    ∀ (n : ℤ) (before cs behind : List Char), (∀ b ∈ before, isBlank b = true) →
      (∀ b ∈ behind, isBlank b = true) → PadsNumeral n cs →
        "-0".toList ≠ before ++ cs ++ behind := by
  refine ⟨?_, fun hblank => absurd (hblank '-' List.mem_cons_self) (by decide),
    fun n before cs behind hbefore hbehind hcs h => ?_⟩
  · have hwhole : (countOnly (.text "-0")).IsWhole :=
      .record (List.forall_mem_singleton.2 (.text _))
    have hread := readNode?_toText hwhole
    rw [show (countOnly (.text "-0")).toText = "\x7b\"totalMatchedRows\":\"-0\"\x7d" from
      by decide +kernel] at hread
    have hdigits : AreDigits ['0'] := ⟨by decide, List.all_eq_true.1 (by decide)⟩
    have hspells : SpellsInteger "-0".toList 0 := .mk .minus hdigits
    have hcount : countOfNode? (some (Value.text "-0").node) = some (some 0) :=
      countOfNode?_text.2
        (.text (List.forall_mem_nil _) (List.forall_mem_nil _) hspells (by decide))
    have hreport : ofNode? (countOnly (.text "-0")).node = some { matchedRows := some 0 } := by
      rw [(hasCount_countOnly _).ofNode?_eq, hcount]
      rfl
    rw [DataType.decode, hread]
    exact hreport
  · have htrim := congrArg trimChars h
    rw [trimChars_append_of_blank hbefore hbehind, trimChars_of_not_blank hcs.not_isBlank] at htrim
    obtain rfl : cs = ['-', '0'] := htrim.symm
    exact not_padsNumeral_minus_zero n hcs

end Report
end SellerApi
