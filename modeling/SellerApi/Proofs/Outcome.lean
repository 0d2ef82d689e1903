import Mathlib.Data.List.Forall2

/-! # Steps that can fail

How a result of several steps came about: `bind_eq_ok_iff` for one step behind another,
`mapM_eq_ok_iff` for one step per entry of a list. A check passes where its condition holds
(`ite_eq_ok_iff`). Checks made one after the other pass if all of them do (`forM_eq_ok_iff`), and
otherwise fail as the first one that does not (`forM_eq_error_iff`); so do steps that give results
(`mapM_eq_error_iff`). -/

namespace SellerApi

variable {ε α β : Type}

theorem bind_eq_ok_iff {x : Except ε α} {f : α → Except ε β} {b : β} :
    x >>= f = .ok b ↔ ∃ a, x = .ok a ∧ f a = .ok b := by
  cases x <;> simp [bind, Except.bind]

theorem mapM_eq_ok_iff {f : α → Except ε β} {xs : List α} {ys : List β} :
    xs.mapM f = .ok ys ↔ List.Forall₂ (fun x y => f x = .ok y) xs ys := by
  induction xs generalizing ys with
  | nil => cases ys <;> simp [pure, Except.pure]
  | cons x xs ih =>
    rw [List.mapM_cons, bind_eq_ok_iff]
    constructor
    · rintro ⟨y, hy, h⟩
      obtain ⟨ys', hys, h⟩ := bind_eq_ok_iff.1 h
      cases h
      exact .cons hy (ih.1 hys)
    · rintro (_ | ⟨hy, hys⟩)
      exact ⟨_, hy, bind_eq_ok_iff.2 ⟨_, ih.2 hys, rfl⟩⟩

theorem ite_eq_ok_iff {p : Prop} [Decidable p] {e : ε} :
    (if p then .ok () else .error e : Except ε Unit) = .ok () ↔ p := by
  split <;> simp [*]

theorem forM_eq_ok_iff {f : α → Except ε Unit} {xs : List α} :
    xs.forM f = .ok () ↔ ∀ x ∈ xs, f x = .ok () := by
  induction xs with
  | nil => simp [pure, Except.pure]
  | cons x xs ih =>
    rw [List.forM, bind_eq_ok_iff, List.forall_mem_cons]
    constructor
    · rintro ⟨⟨⟩, hx, hxs⟩
      exact ⟨hx, ih.1 hxs⟩
    · rintro ⟨hx, hxs⟩
      exact ⟨(), hx, ih.2 hxs⟩

theorem forM_eq_error_iff {f : α → Except ε Unit} {xs : List α} {e : ε} :
    xs.forM f = .error e ↔ ∃ before x after, xs = before ++ x :: after ∧
      (∀ y ∈ before, f y = .ok ()) ∧ f x = .error e := by
  induction xs with
  | nil => simp [pure, Except.pure]
  | cons x xs ih =>
    have hcons : (x :: xs).forM f = (f x >>= fun _ => xs.forM f) := rfl
    rw [hcons]
    cases hx : f x with
    | error e' =>
      constructor
      · intro h
        cases h
        exact ⟨[], x, xs, rfl, List.forall_mem_nil _, hx⟩
      · rintro ⟨before, y, after, hsplit, hpass, hy⟩
        cases before with
        | nil =>
          cases hsplit
          exact hx.symm.trans hy
        | cons z before =>
          cases hsplit
          rw [hpass x List.mem_cons_self] at hx
          cases hx
    | ok u =>
      refine Iff.trans ih ⟨?_, ?_⟩
      · rintro ⟨before, y, after, rfl, hpass, hy⟩
        exact ⟨x :: before, y, after, rfl, List.forall_mem_cons.2 ⟨hx, hpass⟩, hy⟩
      · rintro ⟨before, y, after, hsplit, hpass, hy⟩
        cases before with
        | nil =>
          cases hsplit
          rw [hx] at hy
          cases hy
        | cons z before =>
          cases hsplit
          exact ⟨before, y, after, rfl, (List.forall_mem_cons.1 hpass).2, hy⟩

/-- Steps made one after the other fail as the first one that does. -/
theorem mapM_eq_error_iff {f : α → Except ε β} {xs : List α} {e : ε} :
    xs.mapM f = .error e ↔ ∃ before x after, xs = before ++ x :: after ∧
      (∀ y ∈ before, ∃ b, f y = .ok b) ∧ f x = .error e := by
  have hforM : xs.mapM f = .error e ↔ xs.forM (fun x => (f x).map fun _ => ()) = .error e := by
    induction xs with
    | nil => simp [pure, Except.pure]
    | cons x xs ih =>
      rw [List.mapM_cons, List.forM]
      cases f x with
      | error e' => simp [bind, Except.bind, Except.map]
      | ok b =>
        refine Iff.trans ?_ ih
        cases xs.mapM f <;> simp [bind, Except.bind, pure, Except.pure]
  have hok : ∀ y, (f y).map (fun _ => ()) = .ok () ↔ ∃ b, f y = .ok b := fun y => by
    cases f y <;> simp [Except.map]
  have herror : ∀ y, (f y).map (fun _ => ()) = .error e ↔ f y = .error e := fun y => by
    cases f y <;> simp [Except.map]
  simp only [hforM, forM_eq_error_iff, hok, herror]

theorem exists_mapM_eq_error_iff {f : α → Except ε β} {xs : List α} :
    (∃ e, xs.mapM f = .error e) ↔ ∃ x ∈ xs, ∃ e, f x = .error e := by
  induction xs with
  | nil => simp [pure, Except.pure]
  | cons x xs ih =>
    rw [List.mapM_cons, List.exists_mem_cons_iff, ← ih]
    cases f x <;> cases xs.mapM f <;> simp [bind, Except.bind, pure, Except.pure]

theorem mapM_congr {f g : α → Except ε β} {xs : List α} (h : ∀ x ∈ xs, f x = g x) :
    xs.mapM f = xs.mapM g := by
  induction xs with
  | nil => rfl
  | cons x xs ih =>
    obtain ⟨hx, hxs⟩ := List.forall_mem_cons.1 h
    rw [List.mapM_cons, List.mapM_cons, hx, ih hxs]

/-! ## Two results -/

/-- The same failure twice, or two successes that are related. -/
inductive SameOutcome (R : α → β → Prop) : Except ε α → Except ε β → Prop where
  | error (e : ε) : SameOutcome R (.error e) (.error e)
  | ok {a : α} {b : β} (h : R a b) : SameOutcome R (.ok a) (.ok b)

namespace SameOutcome

theorem of_eq {x y : Except ε α} (h : x = y) : SameOutcome Eq x y := by
  cases h
  cases x with
  | error e => exact .error e
  | ok a => exact .ok rfl

theorem eq {x y : Except ε α} (h : SameOutcome Eq x y) : x = y := by
  cases h with
  | error e => rfl
  | ok h => rw [h]

theorem bind {γ δ : Type} {R : α → β → Prop} {S : γ → δ → Prop} {x : Except ε α} {y : Except ε β}
    (h : SameOutcome R x y) {f : α → Except ε γ} {g : β → Except ε δ}
    (hnext : ∀ a b, R a b → SameOutcome S (f a) (g b)) : SameOutcome S (x >>= f) (y >>= g) := by
  cases h with
  | error e => exact .error e
  | ok h => exact hnext _ _ h

end SameOutcome

end SellerApi
