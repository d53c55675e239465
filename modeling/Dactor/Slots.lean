/-
Dactor/Slots.lean

Lists whose entries are replaced one at a time, in place, or that grow at the
end:

* `set_eq_self`, `map_set_of_eq`, `forall_mem_set` — what the new entry shares with the old
  one, and with all others, the list keeps;
* `rel_set`, `set_cases` — every entry is related to the one it replaces, and is new or
  old; `concat_cases` — the same when the list grows;
* `filterMap_set_perm` — what is collected from the entries changes by what
  the one entry gives.

The module names nothing of the program that is verified with it.
-/
import Mathlib.Data.List.Basic

namespace Slots

variable {α β : Type*} {l : List α} {i : ℕ} {a b : α}

theorem set_eq_self (h : l[i]? = some a) : l.set i a = l := by
  obtain ⟨hi, rfl⟩ := List.getElem?_eq_some_iff.mp h
  exact List.set_getElem_self hi

theorem map_set_of_eq (k : α → β) (h : l[i]? = some a) (hk : k b = k a) :
    (l.set i b).map k = l.map k := by
  obtain ⟨hi, rfl⟩ := List.getElem?_eq_some_iff.mp h
  rw [List.map_set, hk, ← List.getElem_map k, List.set_getElem_self]
  rw [List.length_map]
  exact hi

theorem forall_mem_set {P : α → Prop} (h : ∀ x ∈ l, P x) (hb : P b) : ∀ x ∈ l.set i b, P x := by
  intro x hx
  rcases List.mem_or_eq_of_mem_set hx with hmem | rfl
  · exact h x hmem
  · exact hb

/-- An entry of the new list is the new one or an old one. -/
theorem set_cases {j : ℕ} {x : α} (h : (l.set i b)[j]? = some x) :
    i = j ∧ x = b ∨ i ≠ j ∧ l[j]? = some x := by
  by_cases hij : i = j
  · subst hij
    have hi : i < l.length := by
      have := (List.getElem?_eq_some_iff.mp h).1
      rwa [List.length_set] at this
    rw [List.getElem?_set_self hi] at h
    cases h
    exact .inl ⟨rfl, rfl⟩
  · rw [List.getElem?_set_ne hij] at h
    exact .inr ⟨hij, h⟩

theorem concat_cases {j : ℕ} {x : α} (h : (l ++ [b])[j]? = some x) :
    l[j]? = some x ∨ j = l.length ∧ x = b := by
  rcases Nat.lt_trichotomy j l.length with hj | hj | hj
  · rw [List.getElem?_append_left hj] at h
    exact .inl h
  · rw [hj, List.getElem?_concat_length] at h
    cases h
    exact .inr ⟨hj, rfl⟩
  · rw [List.getElem?_eq_none (by simp; omega)] at h
    cases h

theorem rel_set {R : α → α → Prop} (hrefl : ∀ x, R x x) (h : l[i]? = some a) (hab : R a b)
    {j : ℕ} {x : α} (hx : l[j]? = some x) : ∃ y, (l.set i b)[j]? = some y ∧ R x y := by
  by_cases hij : i = j
  · subst hij
    rw [h] at hx
    cases hx
    obtain ⟨hi, -⟩ := List.getElem?_eq_some_iff.mp h
    exact ⟨b, List.getElem?_set_self hi, hab⟩
  · refine ⟨x, ?_, hrefl x⟩
    rw [List.getElem?_set_ne hij]
    exact hx

theorem filterMap_cons_toList (f : α → Option β) (a : α) (l : List α) :
    (a :: l).filterMap f = (f a).toList ++ l.filterMap f := by
  rw [List.filterMap_cons]
  cases f a with
  | none => rfl
  | some b => rfl

theorem filterMap_set_perm (f : α → Option β) (h : l[i]? = some a) (b : α) :
    ((l.set i b).filterMap f ++ (f a).toList).Perm (l.filterMap f ++ (f b).toList) := by
  induction l generalizing i with
  | nil => cases h
  | cons x rest ih =>
      cases i with
      | zero =>
          cases h
          rw [List.set_cons_zero, filterMap_cons_toList, filterMap_cons_toList]
          -- `(f b ++ r) ++ f a` to `(f a ++ r) ++ f b`
          apply (List.perm_append_comm.append_right _).trans
          rw [List.append_assoc]
          apply (List.perm_append_comm.append_left _).trans
          rw [← List.append_assoc]
          exact List.perm_append_comm.append_right _
      | succ i =>
          rw [List.set_cons_succ, filterMap_cons_toList, filterMap_cons_toList,
            List.append_assoc, List.append_assoc]
          exact (ih h).append_left _

end Slots
