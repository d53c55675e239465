/-
Dactor/SlidingWindow.lean

Sliding windows over a log of instants.

* `recent w t` — the entries of a log that are at most `w` old at `t`; a log
  that is pruned as time goes on loses none of them (`recent_recent`).
* `Metered w n` — every entry was made while fewer than `n` entries before it
  were recent; then no interval of length `w` holds more than `n` of them
  (`Metered.interval`).

Instants are natural numbers; a log lists them oldest first.
-/
import Mathlib.Data.List.Induction
import Mathlib.Data.List.Basic

namespace SlidingWindow

variable {w n t t' : ℕ} {l : List ℕ}

/-- The entries that are at most `w` old at the instant `t`. -/
def recent (w t : ℕ) (l : List ℕ) : List ℕ := l.filter fun s => t - s ≤ w

theorem recent_append (l₁ l₂ : List ℕ) : recent w t (l₁ ++ l₂) = recent w t l₁ ++ recent w t l₂ :=
  List.filter_append ..

/-- Pruning at an earlier instant takes away nothing that is recent later. -/
theorem recent_recent (h : t ≤ t') : recent w t' (recent w t l) = recent w t' l := by
  rw [recent, recent, recent, List.filter_filter]
  apply List.filter_congr
  intro s _
  rw [← Bool.decide_and, decide_eq_decide]
  omega

/-- Every entry was made while fewer than `n` of the entries before it were
recent. -/
def Metered (w n : ℕ) (l : List ℕ) : Prop :=
  ∀ pre t, pre ++ [t] <+: l → (recent w t pre).length < n

theorem metered_nil (w n : ℕ) : Metered w n [] := by
  intro pre t h
  cases pre <;> cases List.prefix_nil.mp h

theorem Metered.concat (h : Metered w n l) (ht : (recent w t l).length < n) :
    Metered w n (l ++ [t]) := by
  intro pre s hpre
  rcases List.prefix_concat_iff.mp hpre with heq | hpre
  · obtain ⟨rfl, hs⟩ := List.append_inj' heq rfl
    cases hs
    exact ht
  · exact h pre s hpre

theorem Metered.of_concat (h : Metered w n (l ++ [t])) :
    Metered w n l ∧ (recent w t l).length < n :=
  ⟨fun pre s hpre => h pre s (hpre.trans (List.prefix_append l [t])), h l t List.prefix_rfl⟩

/-- In a metered log, an interval of length at most `w`, with both its ends,
holds at most `n` entries. -/
theorem Metered.interval (h : Metered w n l) {a b : ℕ} (hab : b ≤ a + w) :
    (l.filter fun s => a ≤ s ∧ s ≤ b).length ≤ n := by
  induction l using List.reverseRecOn with
  | nil => exact Nat.zero_le n
  | append_singleton l t ih =>
      obtain ⟨hbefore, hlast⟩ := h.of_concat
      rw [List.filter_append, List.length_append]
      by_cases ht : a ≤ t ∧ t ≤ b
      · -- what the interval holds besides the last entry is recent there
        have hsub : (l.filter fun s => a ≤ s ∧ s ≤ b).Sublist (recent w t l) := by
          apply List.monotone_filter_right
          intro s hs
          simp only [decide_eq_true_eq] at hs ⊢
          omega
        rw [List.filter_cons_of_pos (by simpa using ht), List.filter_nil]
        exact Nat.lt_of_le_of_lt hsub.length_le hlast
      · rw [List.filter_cons_of_neg (by simpa using ht), List.filter_nil]
        exact ih hbefore

end SlidingWindow
