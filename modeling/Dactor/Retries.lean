/-
Dactor/Retries.lean

Retry loops over an arbitrary attempt.  An attempt takes a state, succeeds or
fails, and leaves a state behind; the next attempt starts from there.  So an
attempt and a start state have a sequence of outcomes, of any length, and a
loop with a budget reads a first stretch of it:

* `before`, `outcome` — the state before attempt `k`, and its outcome, when
  all earlier attempts are made one after the other;
* `retry` — at most `n` attempts with a wait before each, up to the first
  success; `tries` is how many of them are made;
* `retry_ok_iff`, `retry_left`, `lt_tries_iff` — its result, what it leaves
  behind, and how far it goes, in terms of the outcomes;
* `iterate_increasing` — waits that grow.
-/
import Mathlib.Data.List.Iterate
import Mathlib.Order.Basic

namespace Retries

variable {X ε D : Type*}

/-! ### Attempts one after the other -/

/-- The state before attempt `k`, counted from zero. -/
def before (attempt : X → Except ε Unit × X) (x : X) (k : ℕ) : X :=
  (fun y => (attempt y).2)^[k] x

/-- The outcome of attempt `k`. -/
def outcome (attempt : X → Except ε Unit × X) (x : X) (k : ℕ) : Except ε Unit :=
  (attempt (before attempt x k)).1

theorem outcome_zero (attempt : X → Except ε Unit × X) (x : X) :
    outcome attempt x 0 = (attempt x).1 := rfl

variable {attempt : X → Except ε Unit × X}

theorem before_succ (x : X) (k : ℕ) :
    before attempt x (k + 1) = before attempt (attempt x).2 k := rfl

theorem outcome_succ (x : X) (k : ℕ) :
    outcome attempt x (k + 1) = outcome attempt (attempt x).2 k := rfl

/-! ### A loop with a budget -/

/-- At most `n` attempts, each after a wait, until one succeeds; the error `e`
when none does.  The last component lists the waits. -/
def retry (attempt : X → Except ε Unit × X) (next : D → D) (e : ε) :
    ℕ → D → X → Except ε Unit × X × List D
  | 0, _, x => (.error e, x, [])
  | n + 1, d, x =>
    match attempt x with
    | (.ok (), x') => (.ok (), x', [d])
    | (.error _, x') =>
      let r := retry attempt next e n (next d) x'
      (r.1, r.2.1, d :: r.2.2)

/-- How many of `n` attempts are made when the first success ends them. -/
def tries (attempt : X → Except ε Unit × X) : ℕ → X → ℕ
  | 0, _ => 0
  | n + 1, x =>
    match attempt x with
    | (.ok (), _) => 1
    | (.error _, x') => tries attempt n x' + 1

variable {next : D → D} {e : ε}

/-- After a failed attempt it is up to the others. -/
theorem exists_ok_succ {x x' : X} {e' : ε} (h : attempt x = (.error e', x')) (n : ℕ) :
    (∃ k < n + 1, outcome attempt x k = .ok ()) ↔ ∃ k < n, outcome attempt x' k = .ok () := by
  constructor
  · rintro ⟨k, hk, hok⟩
    cases k with
    | zero =>
        rw [outcome_zero, h] at hok
        cases hok
    | succ k =>
        rw [outcome_succ, h] at hok
        exact ⟨k, Nat.lt_of_succ_lt_succ hk, hok⟩
  · rintro ⟨k, hk, hok⟩
    refine ⟨k + 1, Nat.succ_lt_succ hk, ?_⟩
    rw [outcome_succ, h]
    exact hok

/-- The loop succeeds when one of the attempts in its budget does. -/
theorem retry_ok_iff (n : ℕ) (d : D) (x : X) :
    (retry attempt next e n d x).1 = .ok () ↔ ∃ k < n, outcome attempt x k = .ok () := by
  induction n generalizing d x with
  | zero => simp [retry]
  | succ n ih =>
      rcases h : attempt x with ⟨e' | ⟨⟩, x'⟩
      · simp only [retry, h]
        rw [ih]
        exact (exists_ok_succ h n).symm
      · have hfirst : outcome attempt x 0 = .ok () := by rw [outcome_zero, h]
        simp only [retry, h]
        exact iff_of_true trivial ⟨0, Nat.succ_pos n, hfirst⟩

/-- Otherwise it returns the error it was given. -/
theorem retry_result (n : ℕ) (d : D) (x : X) :
    (retry attempt next e n d x).1 = .ok () ∨ (retry attempt next e n d x).1 = .error e := by
  induction n generalizing d x with
  | zero => exact .inr rfl
  | succ n ih =>
      rcases h : attempt x with ⟨e' | ⟨⟩, x'⟩
      · simp only [retry, h]
        exact ih (next d) x'
      · simp only [retry, h]
        exact .inl trivial

/-- What the loop leaves behind, and the waits: one for each attempt made. -/
theorem retry_left (n : ℕ) (d : D) (x : X) :
    (retry attempt next e n d x).2 =
      (before attempt x (tries attempt n x), List.iterate next d (tries attempt n x)) := by
  induction n generalizing d x with
  | zero => rfl
  | succ n ih =>
      rcases h : attempt x with ⟨e' | ⟨⟩, x'⟩
      · simp only [retry, tries, h]
        rw [ih, before_succ, h]
        rfl
      · simp only [retry, tries, h]
        rw [before_succ, h]
        rfl

/-- Attempt `m` is made when it is in the budget and the earlier ones failed. -/
theorem lt_tries_iff (attempt : X → Except ε Unit × X) (m n : ℕ) (x : X) :
    m < tries attempt n x ↔ m < n ∧ ∀ k < m, outcome attempt x k ≠ .ok () := by
  induction n generalizing m x with
  | zero => simp [tries]
  | succ n ih =>
      rcases h : attempt x with ⟨e' | ⟨⟩, x'⟩
      · have hfirst : outcome attempt x 0 ≠ .ok () := by
          rw [outcome_zero, h]
          exact fun hok => by cases hok
        have hlater : ∀ k, outcome attempt x (k + 1) = outcome attempt x' k := by
          intro k
          rw [outcome_succ, h]
        simp only [tries, h]
        cases m with
        | zero => simp
        | succ m =>
            rw [Nat.succ_lt_succ_iff, Nat.succ_lt_succ_iff, ih, Nat.forall_lt_succ_left]
            simp only [hlater, hfirst, ne_eq, not_false_eq_true, true_and]
      · have hfirst : outcome attempt x 0 = .ok () := by rw [outcome_zero, h]
        simp only [tries, h, Nat.lt_one_iff]
        constructor
        · rintro rfl
          exact ⟨Nat.succ_pos n, fun k hk => absurd hk (Nat.not_lt_zero k)⟩
        · rintro ⟨-, hall⟩
          by_contra hm
          exact hall 0 (Nat.pos_of_ne_zero hm) hfirst

/-- When all attempts in the budget fail, all of them are made. -/
theorem tries_of_failing {n : ℕ} {x : X} (h : ∀ k < n, outcome attempt x k ≠ .ok ()) :
    tries attempt n x = n := by
  apply eq_of_forall_lt_iff
  intro m
  rw [lt_tries_iff]
  exact and_iff_left_of_imp fun hm k hk => h k (hk.trans hm)

/-! ### Waits that grow -/

/-- Along an iteration that does not decrease while `P` holds, `P` holds and
the values grow. -/
theorem iterate_increasing [Preorder D] (next : D → D) {P : D → Prop}
    (hnext : ∀ d, P d → d ≤ next d ∧ P (next d)) (n : ℕ) {d : D} (hd : P d) :
    (List.iterate next d n).Pairwise (· ≤ ·) ∧ ∀ y ∈ List.iterate next d n, d ≤ y ∧ P y := by
  induction n generalizing d with
  | zero => exact ⟨List.Pairwise.nil, fun y hy => by cases hy⟩
  | succ n ih =>
      obtain ⟨hle, hP⟩ := hnext d hd
      obtain ⟨hsorted, hall⟩ := ih hP
      have habove : ∀ y ∈ List.iterate next (next d) n, d ≤ y := by
        intro y hy
        exact hle.trans (hall y hy).1
      refine ⟨List.pairwise_cons.mpr ⟨habove, hsorted⟩, ?_⟩
      intro y hy
      rcases List.mem_cons.mp hy with rfl | hy
      · exact ⟨le_rfl, hd⟩
      · exact ⟨habove y hy, (hall y hy).2⟩

end Retries
