import Mathlib.Data.List.Forall2
import SellerApi.Json.Record
import SellerApi.Proofs.Json.Document

/-! # Records that are written and read

`Inverse` says that a reader undoes a writer and hands out valid values only. Texts, truth values,
bounded numbers and lists have one, and `fields?_recordOf` finds in a written record what was put
into it, so that a record has one when its fields do. -/

namespace SellerApi.Json

/-- A reader that undoes a writer on valid values, and that hands out nothing else. -/
structure Inverse {α : Type} (read : Node → Option α) (write : α → Value) (valid : α → Prop) :
    Prop where
  whole : ∀ {x}, valid x → (write x).IsWhole
  /-- Null stands for nothing. -/
  ne_null : ∀ x, (write x).node ≠ .null
  read_write : ∀ {x}, valid x → read (write x).node = some x
  valid_of_read : ∀ {n x}, read n = some x → valid x

/-- What is written reads back. -/
theorem Inverse.readNode?_bind {α : Type} {read : Node → Option α} {write : α → Value}
    {valid : α → Prop} (h : Inverse read write valid) {x : α} (hx : valid x) :
    (readNode? (Text.Utf8.encode (write x).toText.toList)).bind read = some x := by
  rw [readNode?_toText (h.whole hx), Option.bind_some, h.read_write hx]

/-! ## Single values -/

theorem inverse_text : Inverse Node.text? .text fun _ => True where
  whole _ := .text _
  ne_null _ := by simp [Value.node]
  read_write _ := rfl
  valid_of_read _ := trivial

/-- A type of words reads back if its words stand for its values. -/
theorem inverse_word {α : Type} {word : α → String} {ofWord : String → α} {valid : α → Prop}
    (hword : ∀ {a}, valid a → ofWord (word a) = a) (hvalid : ∀ w, valid (ofWord w)) :
    Inverse (fun n => n.text?.map ofWord) (fun a => .text (word a)) valid where
  whole _ := .text _
  ne_null _ := by simp [Value.node]
  read_write h := congrArg some (hword h)
  valid_of_read h := by
    obtain ⟨w, -, rfl⟩ := Option.map_eq_some_iff.1 h
    exact hvalid w

theorem inverse_bool : Inverse Node.bool? .bool fun _ => True where
  whole _ := .bool _
  ne_null _ := by simp [Value.node]
  read_write _ := rfl
  valid_of_read _ := trivial

theorem inverse_below {bound : Nat} (hbound : bound ≤ Text.bound64) :
    Inverse (Node.below? bound) ofNat (· < bound) where
  whole {n} hn := .number ⟨by omega, by omega⟩
  ne_null _ := by simp [ofNat, Value.node]
  read_write {n} hn := by
    have hword : IsWord (n : Int) := ⟨by omega, by omega⟩
    simp only [ofNat, Value.node, Node.below?, number?_ofInt hword]
    rw [if_pos (by omega), Int.toNat_natCast]
  valid_of_read {m n} h := by
    unfold Node.below? at h
    split at h
    · split at h
      · split at h
        · next hi => obtain rfl := Option.some.inj h; omega
        · contradiction
      · contradiction
    · contradiction

theorem inverse_list {α : Type} {read : Node → Option α} {write : α → Value} {valid : α → Prop}
    (h : Inverse read write valid) :
    Inverse (Node.list? read) (fun xs => .list (xs.map write)) fun xs => ∀ x ∈ xs, valid x where
  whole hxs := .list fun v hv => by
    obtain ⟨x, hx, rfl⟩ := List.mem_map.1 hv
    exact h.whole (hxs x hx)
  ne_null _ := by simp [Value.node]
  read_write {xs} hxs := by
    simp only [Value.node, nodes_eq_map, Node.list?]
    induction xs with
    | nil => rfl
    | cons x xs ih =>
      rw [List.map_cons, List.map_cons, List.mapM_cons, h.read_write (hxs x List.mem_cons_self),
        ih fun y hy => hxs y (List.mem_cons_of_mem _ hy)]
      rfl
  valid_of_read {n xs} hread := by
    cases n with
    | list items =>
      simp only [Node.list?] at hread
      induction items generalizing xs with
      | nil =>
        obtain rfl : [] = xs := Option.some.inj hread
        exact List.forall_mem_nil _
      | cons n ns ih =>
        simp only [List.mapM_cons, Option.bind_eq_bind, Option.bind_eq_some_iff, Option.pure_def,
          Option.some.injEq] at hread
        obtain ⟨x, hx, ys, hys, rfl⟩ := hread
        exact List.forall_mem_cons.2 ⟨h.valid_of_read hx, ih hys⟩
    | _ => contradiction

/-! ## Members of a record -/

/-- A member that, if it is written at all, has this name. -/
def Named (name : String) (slot : Option (String × Value)) : Prop := ∀ m ∈ slot, m.1 = name

/-- What a reader finds of a member. -/
def slotNode (slot : Option (String × Value)) : Option Node := slot.map fun m => m.2.node

/-- All numbers of a member are integers that are kept as they are. -/
def SlotWhole (slot : Option (String × Value)) : Prop := ∀ m ∈ slot, m.2.IsWhole

section

variable {α : Type} (name : String) (write : α → Value)

@[simp] theorem named_present (v : Value) : Named name (present name v) := by
  simp [Named, present]

@[simp] theorem named_whenSome (x : Option α) : Named name (whenSome name write x) := by
  simp [Named, whenSome]

@[simp] theorem named_whenAny (xs : List α) : Named name (whenAny name write xs) := by
  simp [Named, whenAny]

@[simp] theorem slotNode_present (v : Value) : slotNode (present name v) = some v.node := rfl

@[simp] theorem slotNode_whenSome (x : Option α) :
    slotNode (whenSome name write x) = x.map fun a => (write a).node := by
  simp [slotNode, whenSome, Function.comp_def]

@[simp] theorem slotNode_whenAny (xs : List α) :
    slotNode (whenAny name write xs) =
      if xs = [] then none else some (Value.list (xs.map write)).node := by
  cases xs <;> rfl

end

theorem valuesNamed_append (name : String) (ms ns : List (Option String × Node)) :
    valuesNamed name (ms ++ ns) = valuesNamed name ms ++ valuesNamed name ns :=
  List.filterMap_append

/-- The nodes that the written members have under a name. -/
def nodesNamed (name : String) (slots : List (Option (String × Value))) : List Node :=
  valuesNamed name (memberNodes (slots.filterMap id))

theorem nodesNamed_append (name : String) (ss ts : List (Option (String × Value))) :
    nodesNamed name (ss ++ ts) = nodesNamed name ss ++ nodesNamed name ts := by
  simp [nodesNamed, memberNodes_eq_map, valuesNamed_append]

theorem nodesNamed_singleton {name : String} {slot : Option (String × Value)}
    (h : Named name slot) : nodesNamed name [slot] = (slotNode slot).toList := by
  cases slot with
  | none => rfl
  | some m => simp [nodesNamed, memberNodes, valuesNamed, slotNode, h m rfl]

theorem nodesNamed_of_ne {names : List String} {slots : List (Option (String × Value))}
    (h : List.Forall₂ Named names slots) {name : String} (hname : name ∉ names) :
    nodesNamed name slots = [] := by
  induction h with
  | nil => rfl
  | @cons n s ns ss hs _ ih =>
    rw [List.mem_cons, not_or] at hname
    have hfirst : nodesNamed name [s] = [] := by
      cases s with
      | none => rfl
      | some m => simp [nodesNamed, memberNodes, valuesNamed, hs m rfl, Ne.symm hname.1]
    rw [← List.singleton_append, nodesNamed_append, hfirst, ih hname.2]
    rfl

/-- Under the name of a member there is that member alone. -/
theorem forall₂_nodesNamed {names front : List String}
    {slots before : List (Option (String × Value))}
    (hbefore : List.Forall₂ Named front before) (h : List.Forall₂ Named names slots)
    (hnodup : (front ++ names).Nodup) :
    List.Forall₂ (fun name slot => nodesNamed name (before ++ slots) = (slotNode slot).toList)
      names slots := by
  induction h generalizing front before with
  | nil => exact .nil
  | @cons n s ns ss hs hss ih =>
    have hsplit := List.nodup_append.1 hnodup
    have hns := List.nodup_cons.1 hsplit.2.1
    constructor
    · rw [← List.singleton_append, nodesNamed_append, nodesNamed_append,
        nodesNamed_of_ne hbefore fun hn => hsplit.2.2 n hn n List.mem_cons_self rfl,
        nodesNamed_singleton hs, nodesNamed_of_ne hss hns.1, List.nil_append, List.append_nil]
    · have hfirst : List.Forall₂ Named (front ++ [n]) (before ++ [s]) :=
        List.rel_append hbefore (.cons hs .nil)
      have hmore := ih hfirst (by simpa using hnodup)
      simpa using hmore

theorem mapM_eq_some_of_forall₂ {α β : Type} {f : α → Option β} {as : List α} {bs : List β}
    (h : List.Forall₂ (fun a b => f a = some b) as bs) : as.mapM f = some bs := by
  induction h with
  | nil => rfl
  | cons ha _ ih => rw [List.mapM_cons, ha, ih]; rfl

/-- In a written record, the fields are found that were put into it. -/
theorem fields?_recordOf {names : List String} {slots : List (Option (String × Value))}
    (hnamed : List.Forall₂ Named names slots) (hnodup : names.Nodup) :
    (recordOf slots).node.fields? names = some (slots.map slotNode) := by
  have hall : (memberNodes (slots.filterMap id)).all (·.1.isSome) = true := by
    rw [memberNodes_eq_map, List.all_map, List.all_eq_true]
    exact fun _ _ => rfl
  rw [recordOf, Value.node, Node.fields?, if_pos hall]
  have hfound := forall₂_nodesNamed .nil hnamed (by simpa using hnodup)
  refine mapM_eq_some_of_forall₂ (List.forall₂_map_right_iff.2 (hfound.imp fun name slot h => ?_))
  rw [List.nil_append, nodesNamed] at h
  rw [fieldNamed?, h]
  cases slotNode slot <;> rfl

theorem isWhole_recordOf {slots : List (Option (String × Value))}
    (h : ∀ slot ∈ slots, SlotWhole slot) : (recordOf slots).IsWhole := by
  refine .record fun m hm => ?_
  obtain ⟨slot, hslot, hm⟩ := List.mem_filterMap.1 hm
  exact h slot hslot m hm

theorem recordOf_ne_null (slots : List (Option (String × Value))) :
    (recordOf slots).node ≠ .null := by simp [recordOf, Value.node]

/-! ## Fields that may be missing -/

section

variable {α : Type} {read : Node → Option α} {write : α → Value} {valid : α → Prop}
  (h : Inverse read write valid) (name : String)
include h

theorem optional_map {x : Option α} (hx : ∀ a ∈ x, valid a) :
    optional read (x.map fun a => (write a).node) = some x := by
  cases x with
  | none => rfl
  | some a =>
    rw [Option.map_some, optional]
    · rw [h.read_write (hx a rfl)]
      rfl
    · exact h.ne_null a

theorem valid_of_optional {o : Option Node} {x : Option α} (ho : optional read o = some x) :
    ∀ a ∈ x, valid a := by
  unfold optional at ho
  split at ho
  · cases ho; simp
  · cases ho; simp
  · obtain ⟨a, ha, rfl⟩ := Option.map_eq_some_iff.1 ho
    intro b hb
    obtain rfl : a = b := Option.some.inj hb
    exact h.valid_of_read ha

theorem optional_orNull {x : Option α} (hx : ∀ a ∈ x, valid a) :
    optional read (some (orNull write x).node) = some x := by
  cases x with
  | none => rfl
  | some a => exact optional_map h (x := some a) hx

theorem orElse_written {fallback x : α} (hx : valid x) :
    orElse fallback read (some (write x).node) = some x := h.read_write hx

theorem valid_of_orElse {fallback x : α} (hfallback : valid fallback) {o : Option Node}
    (ho : orElse fallback read o = some x) : valid x := by
  cases o with
  | none => exact Option.some.inj ho ▸ hfallback
  | some n => exact h.valid_of_read ho

/-- A list that is only written when it has items reads back. -/
theorem orElse_list (xs : List α) (hxs : ∀ x ∈ xs, valid x) :
    orElse [] (Node.list? read)
      (if xs = [] then none else some (Value.list (xs.map write)).node) = some xs := by
  cases xs with
  | nil => rfl
  | cons x xs => exact (inverse_list h).read_write hxs

theorem slotWhole_present {x : α} (hx : valid x) : SlotWhole (present name (write x)) := by
  intro m hm
  obtain rfl := Option.some.inj hm
  exact h.whole hx

theorem slotWhole_whenSome {x : Option α} (hx : ∀ a ∈ x, valid a) :
    SlotWhole (whenSome name write x) := by
  intro m hm
  obtain ⟨a, ha, rfl⟩ := Option.map_eq_some_iff.1 hm
  exact h.whole (hx a ha)

theorem slotWhole_whenAny (xs : List α) (hxs : ∀ x ∈ xs, valid x) :
    SlotWhole (whenAny name write xs) := by
  intro m hm
  cases xs with
  | nil => contradiction
  | cons x xs =>
    obtain rfl := Option.some.inj hm
    exact (inverse_list h).whole hxs

theorem slotWhole_orNull {x : Option α} (hx : ∀ a ∈ x, valid a) :
    SlotWhole (present name (orNull write x)) := by
  intro m hm
  obtain rfl := Option.some.inj hm
  cases x with
  | none => exact .null
  | some a => exact h.whole (hx a rfl)

end

end SellerApi.Json
