/-
Dactor/Streaks.lean

Streaks in a growing log.  A block of a log is an uninterrupted stretch of
it; the streak of a property is the longest block at the end of the log in
which every entry has it.

* `BlocksLe` — every block of entries with the property is at most `b` long;
* `blocksLe_concat` — it is enough to watch the streak as the log grows;
* `length_le_streak` — the streak is the longest such block.

A system that writes a log bounds its streaks by an invariant of its own
state; entries are of any type.
-/
import Mathlib.Data.List.DropRight

namespace Streaks

variable {α : Type*} {p : α → Prop} [DecidablePred p]

/-- The length of the longest block of entries with the property `p` that
ends where the log ends. -/
def streak (p : α → Prop) [DecidablePred p] (log : List α) : Nat :=
  (log.rtakeWhile (p ·)).length

theorem streak_concat_pos {x : α} (h : p x) (log : List α) :
    streak p (log ++ [x]) = streak p log + 1 := by
  have hx : (fun y => decide (p y)) x = true := decide_eq_true h
  rw [streak, List.rtakeWhile_concat_pos _ _ x hx, List.length_append]
  rfl

theorem streak_concat_neg {x : α} (h : ¬ p x) (log : List α) : streak p (log ++ [x]) = 0 := by
  have hx : ¬ (fun y => decide (p y)) x = true := by simpa using h
  rw [streak, List.rtakeWhile_concat_neg _ _ x hx]
  rfl

/-- A block at the end of the log is no longer than the streak. -/
theorem length_le_streak {block log : List α} (hb : block <:+ log) (h : ∀ x ∈ block, p x) :
    block.length ≤ streak p log := by
  induction log using List.reverseRecOn generalizing block with
  | nil =>
      rw [List.suffix_nil.mp hb]
      exact Nat.zero_le _
  | append_singleton log x ih =>
      rcases List.suffix_concat_iff.mp hb with rfl | ⟨front, rfl, hfront⟩
      · exact Nat.zero_le _
      · -- the block is one entry longer than a block of the shorter log
        have hx : p x := h x (by simp)
        have hle := ih hfront fun y hy => h y (List.mem_append_left _ hy)
        rw [streak_concat_pos hx, List.length_append]
        exact Nat.succ_le_succ hle

/-- Every block of entries with the property `p` is at most `b` long. -/
def BlocksLe (p : α → Prop) (b : Nat) (log : List α) : Prop :=
  ∀ block, block <:+: log → (∀ x ∈ block, p x) → block.length ≤ b

omit [DecidablePred p] in
theorem blocksLe_nil (b : Nat) : BlocksLe p b [] := by
  intro block hb _
  rw [List.infix_nil.mp hb]
  exact Nat.zero_le b

/-- As the log grows, only the blocks at its end are new. -/
theorem blocksLe_concat {b : Nat} {log : List α} {x : α} (h : BlocksLe p b log)
    (hs : streak p (log ++ [x]) ≤ b) : BlocksLe p b (log ++ [x]) := by
  intro block hb hall
  rcases List.infix_concat_iff.mp hb with hsuffix | hinfix
  · exact (length_le_streak hsuffix hall).trans hs
  · exact h block hinfix hall

end Streaks
