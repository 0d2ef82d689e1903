import Mathlib.Algebra.GroupWithZero.Nat
import SellerApi.Proofs.Listing.Turn

/-! # Listings with a limit of pages

A pager with a limit does what it would do without it for as long as fewer pages are recorded; from
then on its calls come to nothing and send nothing (`Pager.nexts_limited`). How far a pager without
a limit has come is told by the pages recorded since its start (`Pager.Has`): their number, the
number of their items, and whether the last of them has a token to go on with (`IsOver`).
-/

namespace SellerApi

open SellerApi.Http SellerApi.Resource

/-! ## Listings told from their pages -/

section

variable {α : Type}

/-- The token that goes with the request behind some pages; at first, it is the one to start
from. -/
def tokenBehind (start : Option String) (pages : List (Page α)) : Option String :=
  match pages.getLast? with
  | none => start
  | some page => page.nextPageToken

/-- The last page has no token to go on with: none, an empty one, or the one that it was asked for
with. -/
def IsOver (start : Option String) (pages : List (Page α)) : Prop :=
  ∃ front page, pages = front ++ [page] ∧ (page.nextPageToken = none ∨
    page.nextPageToken = some "" ∨ page.nextPageToken = tokenBehind start front)

theorem tokenBehind_concat (start : Option String) (front : List (Page α)) (page : Page α) :
    tokenBehind start (front ++ [page]) = page.nextPageToken := by
  rw [tokenBehind, List.getLast?_concat]

theorem isOver_concat {start : Option String} {front : List (Page α)} {page : Page α} :
    IsOver start (front ++ [page]) ↔ page.nextPageToken = none ∨ page.nextPageToken = some "" ∨
      page.nextPageToken = tokenBehind start front := by
  constructor
  · rintro ⟨front', page', heq, h⟩
    obtain ⟨rfl, hpage⟩ := List.append_inj' heq rfl
    rw [List.singleton_inj.1 hpage]
    exact h
  · intro h
    exact ⟨front, page, rfl, h⟩

theorem not_isOver_nil (start : Option String) : ¬IsOver start ([] : List (Page α)) := by
  rintro ⟨front, page, heq, -⟩
  exact List.append_ne_nil_of_right_ne_nil _ (List.cons_ne_nil _ _) heq.symm

end

namespace Progress

variable {p : Progress} {items : Nat} {next : Option String}

theorem done_record_iff (hrunning : p.done = false) :
    (p.record items next).2.done = true ↔ next = none ∨ next = some "" ∨ next = p.token := by
  cases next with
  | none => exact iff_of_true rfl (.inl rfl)
  | some token =>
    by_cases hne : token = ""
    · subst hne
      exact iff_of_true rfl (.inr (.inl rfl))
    by_cases hsent : p.token = some token
    · refine iff_of_true ?_ (.inr (.inr hsent.symm))
      simp [record, Continuation.ofToken, hne, hsent, finish]
    · rw [record_more p items hne hsent]
      refine iff_of_false (Bool.eq_false_iff.1 hrunning) ?_
      rintro (h | h | h)
      · cases h
      · exact hne (Option.some.inj h)
      · exact hsent h.symm

theorem token_record (h : (p.record items next).2.done = false) :
    (p.record items next).2.token = next := by
  cases next with
  | none => rfl
  | some token =>
    by_cases hne : token = ""
    · subst hne
      cases h
    by_cases hsent : p.token = some token
    · simp [record, Continuation.ofToken, hne, hsent, finish] at h
    · rw [record_more p items hne hsent]

end Progress

namespace Pager

variable {α : Type} [Wire α] {c : Client} {call : ListCall α} {p q : Pager α} {l : Link}

omit [Wire α] in
/-- A pager without a limit that has recorded these pages since it started at a token. -/
structure Has (start : Option String) (pages : List (Page α)) (p : Pager α) : Prop where
  unlimited : p.maxPages = none
  pages_eq : p.progress.pages = pages.length
  items_eq : p.progress.items = (pages.map (·.items.length)).sum
  token_eq : p.progress.done = false → p.progress.token = tokenBehind start pages
  done_iff : p.progress.done = true ↔ IsOver start pages

omit [Wire α] in
theorem has_start (call : ListCall α) : Has call.firstToken [] (start call) :=
  ⟨rfl, rfl, rfl, fun _ => rfl, iff_of_false (by simp [start, Progress.startingAt])
    (not_isOver_nil _)⟩

theorem Has.next {first : Option String} {pages : List (Page α)} (h : Has first pages p)
    (hquiet : p.watched = true → l.Quiet) (c : Client) :
    ∃ messages used, l.Exchanged (p.next c l).2.2 messages used ∧
      Has first (pages ++ pagesOf α used) (p.next c l).2.1 := by
  have hturn := turn c p l
  generalize (p.next c l).1 = result, (p.next c l).2.1 = q, (p.next c l).2.2 = l' at hturn
  have hsame : ∀ {used : List Reply}, pagesOf α used = [] →
      Has first (pages ++ pagesOf α used) p := by
    intro used hnone
    rwa [hnone, List.append_nil]
  cases hturn with
  | ended => exact ⟨[], [], .none rfl rfl, hsame rfl⟩
  | full _ hfull => simp [isFull, h.unlimited] at hfull
  | cancelled _ _ hwatched hfired => cases (hquiet hwatched).unfired.symm.trans hfired
  | interrupted _ hwatched hl' hfires =>
    have hnone := List.forall_mem_singleton.1 ((hquiet hwatched).fires_exchanged hl').1
    cases hnone.symm.trans hfires
  | failed _ hl' _ hnone => exact ⟨_, _, hl', hsame hnone⟩
  | @received m x page _ hopen hl' hpage =>
    refine ⟨_, _, hl', h.unlimited, ?_, ?_, fun hrunning => ?_, ?_⟩
    · rw [pagesOf_answer hpage, List.length_append, ← h.pages_eq]
      exact p.progress.pages_record _ _
    · rw [pagesOf_answer hpage, List.map_append, List.sum_append, ← h.items_eq]
      exact p.progress.items_record _ _
    · rw [pagesOf_answer hpage, tokenBehind_concat]
      exact Progress.token_record hrunning
    · rw [pagesOf_answer hpage, isOver_concat, ← h.token_eq hopen.running]
      exact Progress.done_record_iff hopen.running

theorem Has.nexts {first : Option String} {pages : List (Page α)} (h : Has first pages p)
    (hquiet : p.watched = true → l.Quiet) (c : Client) (n : Nat) :
    ∃ messages used, l.Exchanged (nexts c n p l).2.2 messages used ∧
      Has first (pages ++ pagesOf α used) (nexts c n p l).2.1 := by
  induction n generalizing p pages l with
  | zero => exact ⟨[], [], .none rfl rfl, (List.append_nil pages).symm ▸ h⟩
  | succ n ih =>
    obtain ⟨messages, used, hl, hnext⟩ := h.next hquiet c
    obtain ⟨later, more, hl', hlater⟩ := ih hnext ((turn c p l).quiet hquiet)
    refine ⟨_, _, hl.trans hl', ?_⟩
    rw [pagesOf_append, ← List.append_assoc]
    exact hlater

/-! ## A limit of pages -/

omit [Wire α] in
/-- The pager with a limit of pages. -/
def limited (p : Pager α) (n : Nat) : Pager α := { p with maxPages := some n }

section

omit [Wire α]

@[simp] theorem call_limited (p : Pager α) (n : Nat) : (p.limited n).call = p.call := rfl

@[simp] theorem progress_limited (p : Pager α) (n : Nat) : (p.limited n).progress = p.progress :=
  rfl

@[simp] theorem watched_limited (p : Pager α) (n : Nat) : (p.limited n).watched = p.watched := rfl

theorem isFull_limited {n : Nat} : (p.limited n).isFull = true ↔ n ≤ p.progress.pages := by
  rw [isFull, limited, Option.any_some, decide_eq_true_iff]

theorem finish_of_done (h : p.progress.done = true) : p.finish = p := by
  rw [finish, Progress.finish, ← h]

end

/-- Below its limit a pager does what it does without one. -/
theorem next_limited (hlimit : p.maxPages = none) {n : Nat} (h : p.progress.pages < n) :
    (p.limited n).next c l =
      ((p.next c l).1, (p.next c l).2.1.limited n, (p.next c l).2.2) := by
  have hbelow : (p.limited n).isFull = false :=
    Bool.eq_false_iff.2 fun hfull => absurd (isFull_limited.1 hfull) (by omega)
  have hfree : p.isFull = false := by rw [isFull, hlimit, Option.any_none]
  rcases hfetch : c.fetchJson (α := Page α) (p.call.request p.progress.token) l with ⟨result, l'⟩
  simp only [next, hbelow, hfree, hfetch, call_limited, progress_limited, watched_limited,
    Bool.false_eq_true, if_false]
  split_ifs
  · rfl
  · rfl
  · rfl
  · cases result <;> rfl

/-- At its limit a pager comes to nothing any more. -/
theorem next_limited_of_le {n : Nat} (h : n ≤ p.progress.pages) :
    (p.limited n).next c l = (.ok none, p.finish.limited n, l) := by
  by_cases hdone : (p.limited n).progress.done = true
  · rw [next, if_pos hdone, finish_of_done (p := p) hdone]
  · rw [next, if_neg hdone, if_pos (isFull_limited.2 h)]
    rfl

theorem nexts_limited_of_le {n : Nat} (h : n ≤ p.progress.pages) (c : Client) (k : Nat)
    (l : Link) :
    nexts c k (p.limited n) l =
      (List.replicate k (.ok none), (if 0 < k then p.finish else p).limited n, l) := by
  induction k generalizing p with
  | zero => rfl
  | succ k ih =>
    have hfinish : (if 0 < k then p.finish.finish else p.finish) = p.finish := ite_self p.finish
    rw [nexts, next_limited_of_le h]
    dsimp only
    rw [ih (p := p.finish) h, hfinish, if_pos k.succ_pos, List.replicate_succ]

/-- What a pager does under a limit is what it does without one until the limit is reached. -/
theorem exists_nexts_limited (hlimit : p.maxPages = none) (c : Client) (n k : Nat) (l : Link) :
    ∃ j ≤ k, (∀ i < j, (nexts c i p l).2.1.progress.pages < n) ∧
      (j < k → n ≤ (nexts c j p l).2.1.progress.pages) ∧
      nexts c k (p.limited n) l =
        ((nexts c j p l).1 ++ List.replicate (k - j) (.ok none),
          (if j < k then (nexts c j p l).2.1.finish else (nexts c j p l).2.1).limited n,
          (nexts c j p l).2.2) := by
  induction k generalizing p l with
  | zero => exact ⟨0, Nat.le_refl 0, nofun, nofun, rfl⟩
  | succ k ih =>
    by_cases hbelow : p.progress.pages < n
    · have hnext : (p.next c l).2.1.maxPages = none := (turn c p l).maxPages_eq.trans hlimit
      obtain ⟨j, hj, hfewer, hreached, hnexts⟩ := ih hnext (p.next c l).2.2
      refine ⟨j + 1, Nat.succ_le_succ hj, fun i hi => ?_, fun hlt => hreached (by omega), ?_⟩
      · cases i with
        | zero => exact hbelow
        | succ i => exact hfewer i (by omega)
      · rw [nexts, next_limited hlimit hbelow]
        dsimp only
        rw [hnexts]
        simp only [nexts, Nat.add_lt_add_iff_right, Nat.add_sub_add_right, List.cons_append]
    · refine ⟨0, Nat.zero_le _, nofun, fun _ => Nat.not_lt.1 hbelow, ?_⟩
      rw [nexts_limited_of_le (Nat.not_lt.1 hbelow)]
      rfl

/-! ## The limit is kept -/

theorem Turn.pages_le {n : Nat} {result : Except Failure (Option (Answer (Page α)))} {l' : Link}
    (h : Turn c p l result q l') (hmax : p.maxPages = some n) (hle : p.progress.pages ≤ n) :
    q.progress.pages ≤ n := by
  cases h with
  | ended | full | cancelled | interrupted | failed => exact hle
  | received hopen =>
    have hbelow := hopen.below
    rw [isFull, hmax, Option.any_some, decide_eq_false_iff_not] at hbelow
    rw [Progress.pages_record]
    omega

theorem pages_nexts_le {n : Nat} (hmax : p.maxPages = some n) (hle : p.progress.pages ≤ n)
    (c : Client) (k : Nat) (l : Link) : (nexts c k p l).2.1.progress.pages ≤ n := by
  induction k generalizing p l with
  | zero => exact hle
  | succ k ih =>
    have hturn := turn c p l
    exact ih (hturn.maxPages_eq.trans hmax) (hturn.pages_le hmax hle) _

/-- If no signal fires, a pager with a limit of `n` pages comes to what it comes to without the
limit, up to the call that records page `n`; its calls behind that one, which are left out of the
first `j`, come to no page and send nothing. The pages that it counts, with their items, are those
that the replies hold which it used up, the page of a repeated token with them, and there are at
most `n`, so that a counter which holds the limit holds them. As soon as they are over or `n`, every
further call comes to no page and leaves the link alone. -/
theorem nexts_limited (hquiet : call.options.watched = true → l.Quiet) (c : Client)
    (n k : Nat) :
    ∃ j results p l' q messages used, j ≤ k ∧ nexts c j (start call) l = (results, p, l') ∧
      (∀ i < j, (nexts c i (start call) l).2.1.progress.pages < n) ∧
      (j < k → q.progress.pages = n) ∧
      nexts c k ((start call).limited n) l =
        (results ++ List.replicate (k - j) (.ok none), q, l') ∧
      l.Exchanged l' messages used ∧ (n = 0 → l' = l) ∧ q.progress.pages = p.progress.pages ∧
      q.progress.pages = (pagesOf α used).length ∧ q.progress.pages ≤ n ∧
      q.progress.items = ((pagesOf α used).map (·.items.length)).sum ∧
      (IsOver call.firstToken (pagesOf α used) ∨ q.progress.pages = n → ∀ more later, ∃ q',
        nexts c more q later = (List.replicate more (.ok none), q', later)) := by
  obtain ⟨j, hj, hfewer, hreached, hnexts⟩ :=
    exists_nexts_limited (p := start call) rfl c n k l
  obtain ⟨messages, used, hl', hhas⟩ := (has_start call).nexts hquiet c j
  have hle := pages_nexts_le (p := (start call).limited n) rfl (Nat.zero_le n) c k l
  rcases hrun : nexts c j (start call) l with ⟨results, p, l'⟩
  rw [hrun] at hreached hnexts hl' hhas
  rw [List.nil_append] at hhas
  rw [hnexts] at hle
  -- the pager at its limit differs from the one without it in that it may be done
  have hpages : (if j < k then p.finish else p).progress.pages = p.progress.pages := by
    split <;> rfl
  have hitems : (if j < k then p.finish else p).progress.items = p.progress.items := by
    split <;> rfl
  refine ⟨j, results, p, l', _, messages, used, hj, hrun, hfewer, fun hlt => ?_, hnexts, hl', ?_,
    hpages, ?_, hle, ?_, ?_⟩
  · exact Nat.le_antisymm hle (hpages.symm ▸ hreached hlt)
  · rintro rfl
    obtain rfl : j = 0 := Nat.eq_zero_of_not_pos fun hpos => Nat.not_lt_zero _ (hfewer 0 hpos)
    exact (Prod.mk.inj (Prod.mk.inj hrun).2).2.symm
  · exact hpages.trans hhas.pages_eq
  · exact hitems.trans hhas.items_eq
  · rintro (hover | hfull) more later
    · refine nexts_of_over (.inl ?_) more later
      have hdone := hhas.done_iff.2 hover
      rw [progress_limited]
      split
      · rfl
      · exact hdone
    · exact nexts_of_over (.inr (isFull_limited.2 (Nat.le_of_eq hfull.symm))) more later

theorem nexts_limited_unsteady : ∃ results q l',
    nexts sampleClient 6 ((start watchedCall).limited 1) { replies := unsteadyReplies } =
      (results ++ [.ok none, .ok none], q, l') ∧
    results.length = 4 ∧ l'.sent.length = 4 ∧ q.progress.pages = 1 := by
  have hquiet : watchedCall.options.watched = true →
      ({ replies := unsteadyReplies } : Link).Quiet := fun _ => ⟨rfl, by decide⟩
  obtain ⟨j, results, p, l', q, messages, used, hj, hrun, hfewer, hreached, hnexts, -, -, hcount,
    -⟩ := nexts_limited hquiet sampleClient 1 6
  have hnone : ∀ i < 4, (nexts sampleClient i (start watchedCall)
      { replies := unsteadyReplies }).2.1.progress.pages = 0 := by
    decide +kernel
  have hone : (nexts sampleClient 4 (start watchedCall)
      { replies := unsteadyReplies }).2.1.progress.pages = 1 := by
    decide +kernel
  obtain rfl : j = 4 := by
    rcases Nat.lt_trichotomy j 4 with h | h | h
    · have hpages := hnone j h
      rw [hrun, ← hcount, hreached (by omega)] at hpages
      cases hpages
    · exact h
    · have hpages := hfewer 4 h
      rw [hone] at hpages
      omega
  have hlengths : (nexts sampleClient 4 (start watchedCall)
      { replies := unsteadyReplies }).1.length = 4 ∧ (nexts sampleClient 4 (start watchedCall)
      { replies := unsteadyReplies }).2.2.sent.length = 4 := by
    decide +kernel
  rw [hrun] at hlengths
  exact ⟨results, q, l', hnexts, hlengths.1, hlengths.2, hreached (by decide)⟩

end Pager
end SellerApi
