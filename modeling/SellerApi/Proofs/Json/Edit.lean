import Mathlib.Logic.Relation
import SellerApi.Json.Record

/-! # Documents that differ in what nobody reads

A reader of records knows the names of some members, at each place of a document those of the record
type that stands there: its `Shape`. An `Edit` of a document puts the members of a record into
another order or adds one whose name is not known at its place, anywhere. A reader `Respects` its
shape if it does not tell edited documents apart; texts, truth values, numbers and choices do, lists
and records do when their parts do (`respects_list`, `respects_record`). Since a reader has one
result for all documents between which edits lead, in either direction (`Respects.eq_of_edits`), the
order of members and members that are unknown never matter.
-/

namespace SellerApi.Json

/-! ## Shapes and edits -/

/-- The names that are known at each place of a document. -/
inductive Shape where
  /-- No record type stands here. -/
  | plain
  | list (item : Shape)
  | record (fields : List (String × Shape))

/-- What stands at the member of a name. -/
def Shape.at : Shape → Option String → Shape
  | .record fields, some name => (fields.lookup name).getD .plain
  | _, _ => .plain

/-- What stands at an item of a list; fields may also be given by position. -/
def Shape.entry : Shape → Nat → Shape
  | .list item, _ => item
  | .record fields, i => ((fields[i]?).map Prod.snd).getD .plain
  | .plain, _ => .plain

/-- One edit that no reader of the shape notices. -/
inductive Edit : Shape → Node → Node → Prop where
  | permute {s : Shape} {members members' : List (Option String × Node)}
    (h : members.Perm members') : Edit s (.record members) (.record members')
  /-- A member is added whose name is not known here. -/
  | add {fields : List (String × Shape)} {name : String} (h : name ∉ fields.map Prod.fst)
    (front back : List (Option String × Node)) (value : Node) :
    Edit (.record fields) (.record (front ++ back)) (.record (front ++ (some name, value) :: back))
  | member {s : Shape} {name : Option String} {n n' : Node} (h : Edit (s.at name) n n')
    (front back : List (Option String × Node)) :
    Edit s (.record (front ++ (name, n) :: back)) (.record (front ++ (name, n') :: back))
  | item {s : Shape} (front back : List Node) {n n' : Node} (h : Edit (s.entry front.length) n n') :
    Edit s (.list (front ++ n :: back)) (.list (front ++ n' :: back))

/-- Documents between which edits lead, in either direction. -/
def Edits (s : Shape) : Node → Node → Prop := Relation.EqvGen (Edit s)

/-- A reader that does not tell edited documents apart. -/
def Respects {α : Type} (s : Shape) (read : Node → Option α) : Prop :=
  ∀ n n', Edit s n n' → read n = read n'

theorem Respects.eq_of_edits {α : Type} {s : Shape} {read : Node → Option α} (h : Respects s read)
    {n n' : Node} (hn : Edits s n n') : read n = read n' := by
  induction hn with
  | rel n n' hn => exact h n n' hn
  | refl => rfl
  | symm _ _ _ ih => exact ih.symm
  | trans _ _ _ _ _ ih ih' => exact ih.trans ih'

/-! ## Single values -/

theorem respects_text (s : Shape) : Respects s Node.text? := by
  intro n n' h
  cases h <;> rfl

theorem respects_bool (s : Shape) : Respects s Node.bool? := by
  intro n n' h
  cases h <;> rfl

theorem respects_below (s : Shape) (bound : Nat) : Respects s (Node.below? bound) := by
  intro n n' h
  cases h <;> rfl

theorem Respects.map {α β : Type} {s : Shape} {read : Node → Option α} (h : Respects s read)
    (f : α → β) : Respects s fun n => (read n).map f :=
  fun n n' hn => congrArg (Option.map f) (h n n' hn)

theorem mapM_append_cons {α : Type} (read : Node → Option α) (front back : List Node) (n : Node) :
    (front ++ n :: back).mapM read =
      (front.mapM read).bind fun xs => (read n).bind fun x =>
        (back.mapM read).map fun ys => xs ++ x :: ys := by
  rw [List.mapM_append, List.mapM_cons]
  cases front.mapM read <;> cases read n <;> cases back.mapM read <;> rfl

theorem respects_list {α : Type} {item : Shape} {read : Node → Option α} (h : Respects item read) :
    Respects (.list item) (Node.list? read) := by
  intro n n' hn
  cases hn with
  | permute | member => rfl
  | item front back hitem =>
    rw [Node.list?, Node.list?, mapM_append_cons, mapM_append_cons, h _ _ hitem]

/-! ## Fields -/

/-- What is found of a field in a document and in an edited one. -/
inductive Slot (s : Shape) : Option Node → Option Node → Prop where
  | same (x : Option Node) : Slot s x x
  | edited {n n' : Node} (h : Edit s n n') : Slot s (some n) (some n')

/-- What is found of all fields. -/
inductive Slots : List (String × Shape) → List (Option Node) → List (Option Node) → Prop where
  | nil : Slots [] [] []
  | cons {name : String} {s : Shape} {x x' : Option Node} {fields : List (String × Shape)}
    {xs xs' : List (Option Node)} (h : Slot s x x') (hrest : Slots fields xs xs') :
    Slots ((name, s) :: fields) (x :: xs) (x' :: xs')

namespace Slot

variable {α : Type} {s : Shape} {read : Node → Option α} {x x' : Option Node}

/-- Only records and lists are edited, and they stay what they are. -/
theorem optional_eq (h : Slot s x x') (hread : Respects s read) :
    optional read x = optional read x' := by
  cases h with
  | same => rfl
  | edited h =>
    have hmap : ∀ n n', Edit s n n' → (read n).map some = (read n').map some :=
      fun n n' h => congrArg _ (hread n n' h)
    cases h with
    | permute h => exact hmap _ _ (.permute h)
    | add h => exact hmap _ _ (.add h ..)
    | member h => exact hmap _ _ (.member h ..)
    | item front back h => exact hmap _ _ (.item front back h)

theorem orElse_eq (h : Slot s x x') (hread : Respects s read) (fallback : α) :
    orElse fallback read x = orElse fallback read x' := by
  cases h with
  | same => rfl
  | edited h => exact hread _ _ h

theorem required_eq (h : Slot s x x') (hread : Respects s read) :
    required read x = required read x' := by
  cases h with
  | same => rfl
  | edited h => exact hread _ _ h

theorem isNone_eq (h : Slot s x x') : x.isNone = x'.isNone := by
  cases h <;> rfl

end Slot

theorem Slots.same (fields : List (String × Shape)) {slots : List (Option Node)}
    (h : slots.length = fields.length) : Slots fields slots slots := by
  induction fields generalizing slots with
  | nil => rw [List.length_eq_zero_iff.1 h]; exact .nil
  | cons field fields ih =>
    cases slots with
    | nil => cases h
    | cons x slots => exact .cons (.same x) (ih (Nat.succ.inj h))

theorem Shape.at_of_mem {fields : List (String × Shape)} (hnodup : (fields.map Prod.fst).Nodup)
    {name : String} {s : Shape} (h : (name, s) ∈ fields) :
    (Shape.record fields).at (some name) = s := by
  obtain ⟨front, back, rfl⟩ := List.append_of_mem h
  rw [List.map_append, List.map_cons, List.nodup_append] at hnodup
  have hfront : ∀ f ∈ front, (name != f.1) = true := fun f hf =>
    bne_iff_ne.2 fun heq =>
      hnodup.2.2 f.1 (List.mem_map_of_mem hf) name List.mem_cons_self heq.symm
  have hlookup : (front ++ (name, s) :: back).lookup name = some s :=
    List.lookup_eq_some_iff.2 ⟨front, back, rfl, hfront⟩
  rw [Shape.at, hlookup, Option.getD_some]

theorem fieldNamed?_perm {members members' : List (Option String × Node)}
    (h : members.Perm members') (name : String) :
    fieldNamed? members name = fieldNamed? members' name := by
  have hvalues : (valuesNamed name members).Perm (valuesNamed name members') := h.filterMap _
  unfold fieldNamed?
  generalize valuesNamed name members = values at hvalues
  generalize valuesNamed name members' = values' at hvalues
  match values, values', hvalues.length_eq with
  | [], [], _ => rfl
  | [n], [n'], _ => rw [List.singleton_perm_singleton.1 hvalues]
  | _ :: _ :: _, _ :: _ :: _, _ => rfl

theorem valuesNamed_append_cons (name : String) (front back : List (Option String × Node))
    (m : Option String × Node) :
    valuesNamed name (front ++ m :: back) =
      valuesNamed name front ++ valuesNamed name [m] ++ valuesNamed name back := by
  rw [valuesNamed, List.filterMap_append, ← List.singleton_append, List.filterMap_append,
    ← List.append_assoc]
  rfl

/-- What is found of a known field in an edited record is the same, or it is edited. -/
theorem fieldNamed?_edit {fields : List (String × Shape)}
    {members members' : List (Option String × Node)}
    (h : Edit (.record fields) (.record members) (.record members')) {name : String}
    (hname : name ∈ fields.map Prod.fst) :
    Option.Rel (Slot ((Shape.record fields).at (some name)))
      (fieldNamed? members name) (fieldNamed? members' name) := by
  have hsame : ∀ x, Option.Rel (Slot ((Shape.record fields).at (some name))) x x := by
    rintro (_ | x)
    · exact .none
    · exact .some (.same x)
  cases h with
  | permute h => exact fieldNamed?_perm h name ▸ hsame _
  | @add _ added hadded front back value =>
    have hne : added ≠ name := fun heq => hadded (heq ▸ hname)
    have hvalues : valuesNamed name (front ++ (some added, value) :: back) =
        valuesNamed name (front ++ back) := by
      simp [valuesNamed, hne]
    rw [fieldNamed?, fieldNamed?, hvalues]
    exact hsame _
  | @member _ place n n' h front back =>
    by_cases hplace : place = some name
    · subst hplace
      have hhere : ∀ x : Node, valuesNamed name [(some name, x)] = [x] := fun x => by
        simp [valuesNamed]
      simp only [fieldNamed?, valuesNamed_append_cons, hhere]
      -- another member of this name makes the field fail before and behind the edit
      rcases valuesNamed name front with _ | ⟨v, _ | ⟨w, vs⟩⟩
      · cases valuesNamed name back with
        | nil => exact .some (.edited h)
        | cons => exact .none
      · exact .none
      · exact .none
    · have helse : ∀ x : Node, valuesNamed name [(place, x)] = [] := fun x => by
        simp [valuesNamed, hplace]
      simp only [fieldNamed?, valuesNamed_append_cons, helse]
      exact hsame _

theorem all_named_edit {s : Shape} {members members' : List (Option String × Node)}
    (h : Edit s (.record members) (.record members')) :
    (members'.all fun m => m.1.isSome) = members.all fun m => m.1.isSome := by
  cases h with
  | permute h => exact h.all_eq.symm
  | add | member => simp only [List.all_append, List.all_cons, Option.isSome_some, Bool.true_and]

theorem mapM_slots {fields : List (String × Shape)} {find find' : String → Option (Option Node)}
    (h : ∀ f ∈ fields, Option.Rel (Slot f.2) (find f.1) (find' f.1)) :
    Option.Rel (Slots fields) ((fields.map Prod.fst).mapM find)
      ((fields.map Prod.fst).mapM find') := by
  induction fields with
  | nil => exact .some .nil
  | cons field fields ih =>
    obtain ⟨hfield, hfields⟩ := List.forall_mem_cons.1 h
    have hrest := ih hfields
    simp only [List.map_cons, List.mapM_cons]
    generalize find field.1 = x, find' field.1 = x' at hfield
    generalize (fields.map Prod.fst).mapM find = xs, (fields.map Prod.fst).mapM find' = xs' at hrest
    cases hfield with
    | none => exact .none
    | some hslot =>
      cases hrest with
      | none => exact .none
      | some hslots => exact .some (.cons hslot hslots)

theorem slots_item {fields : List (String × Shape)} {front back : List (Option Node)} {n n' : Node}
    (hlength : (front ++ some n :: back).length = fields.length)
    (h : Edit ((Shape.record fields).entry front.length) n n') :
    Slots fields (front ++ some n :: back) (front ++ some n' :: back) := by
  induction front generalizing fields with
  | nil =>
    cases fields with
    | nil => cases hlength
    | cons field fields => exact .cons (.edited h) (.same fields (Nat.succ.inj hlength))
  | cons x front ih =>
    cases fields with
    | nil => cases hlength
    | cons field fields => exact .cons (.same x) (ih (Nat.succ.inj hlength) h)

/-- What is found of the fields of a record type in a document and in an edited one: nothing at all,
or the same but for fields whose nodes are edited. -/
theorem Edit.fields?_rel {fields : List (String × Shape)} {n n' : Node}
    (h : Edit (.record fields) n n') (hnodup : (fields.map Prod.fst).Nodup) :
    Option.Rel (Slots fields) (n.fields? (fields.map Prod.fst))
      (n'.fields? (fields.map Prod.fst)) := by
  have hrecord : ∀ {members members' : List (Option String × Node)},
      Edit (.record fields) (.record members) (.record members') →
      Option.Rel (Slots fields) ((Node.record members).fields? (fields.map Prod.fst))
        ((Node.record members').fields? (fields.map Prod.fst)) := by
    intro members members' h
    rw [Node.fields?, Node.fields?, all_named_edit h]
    split
    · refine mapM_slots fun field hfield => ?_
      have hslot := fieldNamed?_edit h (List.mem_map_of_mem hfield)
      rwa [Shape.at_of_mem hnodup hfield] at hslot
    · exact .none
  cases h with
  | permute h => exact hrecord (.permute h)
  | add h => exact hrecord (.add h ..)
  | member h => exact hrecord (.member h ..)
  | @item _ front back n n' h =>
    have hlength : (front ++ n' :: back).length = (front ++ n :: back).length := by
      rw [List.length_append, List.length_append]
      rfl
    rw [Node.fields?, Node.fields?, hlength]
    split
    · next hle =>
      rw [List.length_map] at hle
      simp only [List.map_append, List.map_cons, List.append_assoc, List.cons_append]
      refine .some (slots_item ?_ (by rwa [List.length_map]))
      simp only [List.length_append, List.length_cons, List.length_map,
        List.length_replicate] at hle ⊢
      omega
    · exact .none

/-- A record type does not tell documents apart if its fields do not tell what is found of them
apart. -/
theorem respects_record {α : Type} {fields : List (String × Shape)}
    {build : List (Option Node) → Option α} (hnodup : (fields.map Prod.fst).Nodup)
    (h : ∀ slots slots', Slots fields slots slots' → build slots = build slots') :
    Respects (.record fields) fun n => (n.fields? (fields.map Prod.fst)).bind build := by
  intro n n' hn
  have hfields := hn.fields?_rel hnodup
  dsimp only
  generalize n.fields? (fields.map Prod.fst) = found, n'.fields? (fields.map Prod.fst) = found'
    at hfields
  cases hfields with
  | none => rfl
  | some hslots => exact h _ _ hslots

end SellerApi.Json
