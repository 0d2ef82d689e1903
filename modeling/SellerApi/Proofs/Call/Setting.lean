import SellerApi.Call.Options

/-! # What settings leave behind

A call is built by settings, one after the other, each of one kind. What is set anew each time comes
from the last setting of its kind (`lastOf`), what is added to from all of them in their order. So
it does not matter how settings of different kinds stand to each other (`agreeByKind_swap`).
-/

namespace SellerApi

variable {σ κ : Type} [DecidableEq κ] (kind : σ → κ)

/-- The last setting of a kind. -/
def lastOf (k : κ) (settings : List σ) : Option σ := (settings.filter (kind · = k)).getLast?

theorem lastOf_concat (k : κ) (settings : List σ) (s : σ) :
    lastOf kind k (settings ++ [s]) = if kind s = k then some s else lastOf kind k settings := by
  unfold lastOf
  by_cases hs : kind s = k
  · simp [hs]
  · simp [hs]

/-- What is read off the last setting of a kind, behind one more setting. -/
theorem bind_lastOf_concat {β : Type} (read : σ → Option β) (k : κ) (settings : List σ) (s : σ) :
    (lastOf kind k (settings ++ [s])).bind read =
      if kind s = k then read s else (lastOf kind k settings).bind read := by
  rw [lastOf_concat]
  split
  · rfl
  · rfl

/-- Two sequences in which the settings of each kind are the same and in the same order. -/
def AgreeByKind (settings settings' : List σ) : Prop :=
  ∀ k, settings.filter (kind · = k) = settings'.filter (kind · = k)

variable {kind}

theorem AgreeByKind.lastOf_eq {settings settings' : List σ}
    (h : AgreeByKind kind settings settings') (k : κ) :
    lastOf kind k settings = lastOf kind k settings' := congrArg List.getLast? (h k)

/-- Neighbours of different kinds may change places. -/
theorem agreeByKind_swap {s t : σ} (hne : kind s ≠ kind t) (before after : List σ) :
    AgreeByKind kind (before ++ s :: t :: after) (before ++ t :: s :: after) := by
  intro k
  rw [List.filter_append, List.filter_append]
  congr 1
  by_cases hs : kind s = k
  · have ht : kind t ≠ k := fun ht => hne (hs.trans ht.symm)
    simp [hs, ht]
  · simp [List.filter_cons, hs]

end SellerApi
