import SellerApi.Proofs.Json.Numeral
import SellerApi.Proofs.Json.Text
import SellerApi.Proofs.Text.Utf8

/-! # Reading documents that were written

The compact text of a value reads back as the document that says the value (`Value.node`), as long
as its numbers are integers of at most 64 bits (`Value.IsWhole`): `readNode?_toText`. The reader is
followed value by value, in front of any rest that ends a value (`Ends`). -/

namespace SellerApi.Json

open SellerApi.Text

/-! ## The document of a value -/

/-- An integer as it is written. -/
def Numeral.ofInt (n : Int) : Numeral := ⟨n < 0, (natText n.natAbs).toList, none, none⟩

/-- The integers that a number keeps as they are. -/
def IsWord (n : Int) : Prop := -0x8000_0000_0000_0000 ≤ n ∧ n < bound64

instance (n : Int) : Decidable (IsWord n) := inferInstanceAs (Decidable (_ ∧ _))

mutual
/-- The document that says a value; a double has none and is taken for null. -/
def Value.node : Value → Node
  | .null => .null
  | .bool b => .bool b
  | .number (.int n) => .number (.ofInt n)
  | .number (.float _) => .null
  | .text s => .text (some s)
  | .list items => .list (nodes items)
  | .record members => .record (memberNodes members)

def nodes : List Value → List Node
  | [] => []
  | v :: vs => v.node :: nodes vs

def memberNodes : List (String × Value) → List (Option String × Node)
  | [] => []
  | (name, v) :: ms => (some name, v.node) :: memberNodes ms
end

theorem nodes_eq_map (vs : List Value) : nodes vs = vs.map Value.node := by
  induction vs with
  | nil => rfl
  | cons v vs ih => rw [nodes, ih, List.map_cons]

theorem memberNodes_eq_map (ms : List (String × Value)) :
    memberNodes ms = ms.map fun m => (some m.1, m.2.node) := by
  induction ms with
  | nil => rfl
  | cons m ms ih => rw [memberNodes, ih, List.map_cons]

/-- All numbers of a value are integers that are kept as they are. -/
inductive Value.IsWhole : Value → Prop where
  | null : IsWhole .null
  | bool (b : Bool) : IsWhole (.bool b)
  | number {n : Int} (h : IsWord n) : IsWhole (.number (.int n))
  | text (s : String) : IsWhole (.text s)
  | list {items : List Value} (h : ∀ v ∈ items, v.IsWhole) : IsWhole (.list items)
  | record {members : List (String × Value)} (h : ∀ m ∈ members, m.2.IsWhole) :
    IsWhole (.record members)

/-! ## Numbers -/

theorem number?_ofInt {n : Int} (h : IsWord n) : (Numeral.ofInt n).number? = some (.int n) := by
  obtain ⟨hlow, hhigh⟩ := h
  simp only [Numeral.number?, Numeral.ofInt, Option.isNone_none, Bool.and_self, if_true,
    digitsValue_natText, decide_eq_true_eq]
  by_cases hneg : n < 0
  · rw [if_neg (by simp [hneg]), if_pos (by omega), show -(n.natAbs : Int) = n by omega]
  · rw [if_pos (by omega), show (n.natAbs : Int) = n by omega]

theorem isProper_ofInt (n : Int) : (Numeral.ofInt n).IsProper where
  whole := areDigits_natText _
  lead h := by
    by_cases hn : n.natAbs = 0
    · simp [Numeral.ofInt, hn, natText_zero]
    · exact absurd h (head?_natText_ne hn)
  fraction _ h := by contradiction
  exponent _ h := by contradiction

theorem text_ofInt (n : Int) : (Numeral.ofInt n).text false = (intText n).toList := by
  cases n <;>
    simp [Numeral.ofInt, Numeral.text, Numeral.unsigned, fractionText, powerText, intText,
      Int.negSucc_lt_zero]

/-! ## Values -/

/-- A text that reads as a node, in front of whatever ends a value. -/
def Spells (text : List Char) (n : Node) : Prop :=
  ∀ (fuel : Nat) {rest : Source}, text.length < fuel → Ends rest →
    readValue? fuel (text.map some ++ rest) = some (n, rest)

/-- The text of a value reads back, in front of whatever ends a value. -/
def Value.Reads (v : Value) : Prop := Spells v.render v.node

/-- A value starts with a character that is neither a blank nor a closing bracket. -/
theorem exists_render_eq_cons {v : Value} (h : v.IsWhole) :
    ∃ c cs, v.render = c :: cs ∧ isGap (some c) = false ∧ c ≠ ']' := by
  cases h with
  | null => exact ⟨'n', _, rfl, by decide, by decide⟩
  | bool b =>
    cases b with
    | true => exact ⟨'t', _, rfl, by decide, by decide⟩
    | false => exact ⟨'f', _, rfl, by decide, by decide⟩
  | @number n _ =>
    cases n with
    | ofNat n =>
      cases hcs : (natText n).toList with
      | nil => exact absurd hcs (natText_ne_nil n)
      | cons c cs =>
        have hc : isAsciiDigit c = true := isAsciiDigit_of_mem_natText (n := n) (by simp [hcs])
        refine ⟨c, cs, hcs, ?_, by rintro rfl; revert hc; decide⟩
        cases hgap : isGap (some c) with
        | false => rfl
        | true =>
          simp only [isGap, Bool.or_eq_true, decide_eq_true_eq] at hgap
          rcases hgap with ((rfl | rfl) | rfl) | rfl <;> (revert hc; decide)
    | negSucc n =>
      exact ⟨'-', (natText (n + 1)).toList, by simp [Value.render, Number.render, intText],
        by decide, by decide⟩
  | text s => exact ⟨'"', _, rfl, by decide, by decide⟩
  | list _ => exact ⟨'[', _, rfl, by decide, by decide⟩
  | record _ => exact ⟨'{', _, rfl, by decide, by decide⟩

theorem spells_numeral (plus : Bool) {n : Numeral} (h : n.IsProper) :
    Spells (n.text plus) (.number n) := by
  intro fuel rest hfuel hrest
  obtain ⟨fuel, rfl⟩ : ∃ k, fuel = k + 1 := ⟨fuel - 1, by omega⟩
  exact readValue?_numeral plus h fuel hrest

theorem spells_intText (n : Int) : Spells (intText n).toList (.number (.ofInt n)) := by
  rw [← text_ofInt]
  exact spells_numeral false (isProper_ofInt n)

theorem spells_renderText (s : String) : Spells (renderText s) (.text (some s)) := by
  intro fuel rest hfuel _
  obtain ⟨fuel, rfl⟩ : ∃ k, fuel = k + 1 := ⟨fuel - 1, by omega⟩
  rw [map_renderText_append, readValue?, skipGap_cons (by decide)]
  simp only [readText?_escape_append, Option.map_some]

theorem spells_null : Spells "null".toList .null := by
  intro fuel rest hfuel _
  obtain ⟨fuel, rfl⟩ : ∃ k, fuel = k + 1 := ⟨fuel - 1, by omega⟩
  rfl

/-- The items of a list read back one by one. -/
theorem readItems?_render {v : Value} {vs : List Value} (h : ∀ w ∈ v :: vs, w.Reads)
    (fuel : Nat) (hfuel : (renderItems (v :: vs)).length + 1 < fuel) (rest : Source) :
    readItems? fuel ((renderItems (v :: vs)).map some ++ some ']' :: rest) =
      some (nodes (v :: vs), rest) := by
  induction vs generalizing v fuel with
  | nil =>
    obtain ⟨fuel, rfl⟩ : ∃ k, fuel = k + 1 := ⟨fuel - 1, by omega⟩
    have hread := h v List.mem_cons_self fuel (by simp only [renderItems] at hfuel; omega)
      (Ends.of_mem (c := ']') (by decide) rest)
    rw [renderItems, readItems?, hread]
    simp [skipGap_cons, isGap, nodes]
  | cons w ws ih =>
    obtain ⟨fuel, rfl⟩ : ∃ k, fuel = k + 1 := ⟨fuel - 1, by omega⟩
    simp only [renderItems, List.length_append, List.length_cons] at hfuel
    have hlater := ih (fun u hu => h u (List.mem_cons_of_mem _ hu)) fuel (by omega)
    have hread := h v List.mem_cons_self fuel (by omega)
      (Ends.of_mem (c := ',') (by decide) ((renderItems (w :: ws)).map some ++ some ']' :: rest))
    rw [renderItems, List.map_append, List.append_assoc, List.map_cons, List.cons_append,
      readItems?, hread]
    simp [skipGap_cons, isGap, hlater, nodes]

/-- The text of the members of a record that is not empty, and what they read as. -/
inductive SpellsMembers : List Char → List (Option String × Node) → Prop where
  | last {name : String} {text : List Char} {n : Node} (h : Spells text n) :
    SpellsMembers (renderText name ++ ':' :: text) [(some name, n)]
  | more {name : String} {text later : List Char} {n : Node} {ms : List (Option String × Node)}
    (h : Spells text n) (hlater : SpellsMembers later ms) :
    SpellsMembers (renderText name ++ ':' :: text ++ ',' :: later) ((some name, n) :: ms)

theorem SpellsMembers.readMembers?_eq {text : List Char} {ms : List (Option String × Node)}
    (h : SpellsMembers text ms) (fuel : Nat) (hfuel : text.length + 1 < fuel) (rest : Source) :
    readMembers? fuel (text.map some ++ some '}' :: rest) = some (ms, rest) := by
  obtain ⟨fuel, rfl⟩ : ∃ k, fuel = k + 1 := ⟨fuel - 1, by omega⟩
  induction h generalizing fuel with
  | @last name text n h =>
    simp only [List.length_append, List.length_cons] at hfuel
    have hread := h fuel (by omega) (Ends.of_mem (c := '}') (by decide) rest)
    rw [List.map_append, List.append_assoc, List.map_cons, List.cons_append, map_renderText_append,
      readMembers?, skipGap_cons (by decide)]
    simp only [readText?_escape_append, Option.bind_eq_bind, Option.bind_some,
      skipGap_cons (show isGap (some ':') = false by decide), hread,
      skipGap_cons (show isGap (some '}') = false by decide)]
    rfl
  | @more name text later n ms h _ ih =>
    simp only [List.length_append, List.length_cons] at hfuel
    obtain ⟨fuel, rfl⟩ : ∃ k, fuel = k + 1 := ⟨fuel - 1, by omega⟩
    have hread := h (fuel + 1) (by omega)
      (Ends.of_mem (c := ',') (by decide) (later.map some ++ some '}' :: rest))
    have hlater := ih fuel (by omega)
    rw [List.map_append, List.map_append, List.append_assoc, List.append_assoc, List.map_cons,
      List.map_cons, List.cons_append, List.cons_append, map_renderText_append, readMembers?,
      skipGap_cons (by decide)]
    simp only [readText?_escape_append, Option.bind_eq_bind, Option.bind_some,
      skipGap_cons (show isGap (some ':') = false by decide), hread,
      skipGap_cons (show isGap (some ',') = false by decide), hlater]
    rfl

theorem SpellsMembers.spells {text : List Char} {ms : List (Option String × Node)}
    (h : SpellsMembers text ms) : Spells ('{' :: text ++ ['}']) (.record ms) := by
  intro fuel rest hfuel _
  simp only [List.length_append, List.length_cons] at hfuel
  obtain ⟨fuel, rfl⟩ : ∃ k, fuel = k + 1 := ⟨fuel - 1, by omega⟩
  have hread := h.readMembers?_eq fuel (by omega) rest
  -- members start with a quote, so the record is not taken for an empty one
  obtain ⟨cs, rfl⟩ : ∃ cs, text = '"' :: cs := by
    cases h with
    | last => exact ⟨_, by rw [renderText]; rfl⟩
    | more => exact ⟨_, by rw [renderText]; rfl⟩
  rw [List.map_cons, List.cons_append] at hread
  rw [List.map_append, List.map_cons, List.map_cons, List.append_assoc, List.cons_append,
    List.cons_append, readValue?, skipGap_cons (by decide)]
  simp only [skipGap_cons (show isGap (some '"') = false by decide)]
  exact congrArg (Option.map fun p => (Node.record p.1, p.2)) hread

theorem spells_emptyRecord : Spells ['{', '}'] (.record []) := by
  intro fuel rest hfuel _
  obtain ⟨fuel, rfl⟩ : ∃ k, fuel = k + 1 := ⟨fuel - 1, by omega⟩
  rfl

theorem reads_list {items : List Value} (hwhole : ∀ v ∈ items, v.IsWhole)
    (h : ∀ v ∈ items, v.Reads) : Value.Reads (.list items) := by
  intro fuel rest hfuel _
  obtain ⟨fuel, rfl⟩ : ∃ k, fuel = k + 1 := ⟨fuel - 1, by omega⟩
  cases items with
  | nil => rfl
  | cons v vs =>
    -- the first item does not begin like the end of the list
    obtain ⟨c, cs, hcs, hgap, hne⟩ : ∃ c cs, renderItems (v :: vs) = c :: cs ∧
        isGap (some c) = false ∧ c ≠ ']' := by
      obtain ⟨c, cs, hcs, hc⟩ := exists_render_eq_cons (hwhole v List.mem_cons_self)
      cases vs with
      | nil => exact ⟨c, cs, hcs, hc⟩
      | cons w ws => exact ⟨c, _, by rw [renderItems, hcs]; rfl, hc⟩
    have hitems := readItems?_render h fuel
      (by simp only [Value.render, List.length_cons, List.length_append] at hfuel; omega) rest
    have htext : (Value.list (v :: vs)).render.map some ++ rest =
        some '[' :: ((renderItems (v :: vs)).map some ++ some ']' :: rest) := by
      simp [Value.render]
    rw [hcs, List.map_cons, List.cons_append] at hitems htext
    rw [htext, readValue?, skipGap_cons (by decide)]
    simp only [skipGap_cons hgap]
    split
    · simp_all
    · rw [hitems]
      rfl

theorem spellsMembers_render {m : String × Value} {ms : List (String × Value)}
    (h : ∀ w ∈ m :: ms, w.2.Reads) :
    SpellsMembers (renderMembers (m :: ms)) (memberNodes (m :: ms)) := by
  induction ms generalizing m with
  | nil => exact .last (h m List.mem_cons_self)
  | cons w ws ih =>
    exact .more (h m List.mem_cons_self) (ih fun u hu => h u (List.mem_cons_of_mem _ hu))

theorem reads_record {members : List (String × Value)} (h : ∀ m ∈ members, m.2.Reads) :
    Value.Reads (.record members) := by
  cases members with
  | nil => exact spells_emptyRecord
  | cons m ms =>
    exact (spellsMembers_render h).spells

/-- The text of a value reads back in front of whatever ends a value. -/
theorem Value.IsWhole.reads {v : Value} (h : v.IsWhole) : v.Reads := by
  induction h with
  | null => exact spells_null
  | bool b =>
    intro fuel rest hfuel _
    obtain ⟨fuel, rfl⟩ : ∃ k, fuel = k + 1 := ⟨fuel - 1, by omega⟩
    cases b <;> rfl
  | number _ => exact spells_intText _
  | text s => exact spells_renderText s
  | list hwhole ih => exact reads_list hwhole ih
  | record _ ih => exact reads_record ih

theorem Spells.readNode?_eq {text : List Char} {n : Node} (h : Spells text n) :
    readNode? (Utf8.encode text) = some n := by
  have hread := h ((text.map some).length + 1) (by simp) (.inl rfl)
  rw [List.append_nil] at hread
  rw [readNode?, Utf8.decode_encode, readSource?, hread]
  rfl

/-- The compact text of a value reads back. -/
theorem readNode?_toText {v : Value} (h : v.IsWhole) :
    readNode? (Utf8.encode v.toText.toList) = some v.node := by
  rw [Value.toText, String.toList_ofList]
  exact h.reads.readNode?_eq

end SellerApi.Json
