/-
Dactor/Counters.lean

Numbers from a 64-bit counter that wraps around: the counter starts at
`first`, and the `n`-th caller gets `first + n` modulo `2 ^ 64`.

* `ofNat_add_inj` — callers less than `2 ^ 64` apart get different numbers;
* `Issued` — a list of numbers that such a counter gave out, in this order and
  perhaps with others in between; `Issued.unique` — before it has come round,
  no number is twice in it.
-/
import Mathlib.Algebra.Order.Ring.Nat
import Mathlib.Data.List.Basic
import Mathlib.Data.List.Nodup

namespace Counters

theorem ofNat_add_inj {first n m : ℕ} (hn : n < 2 ^ 64) (hm : m < 2 ^ 64)
    (h : UInt64.ofNat (first + n) = UInt64.ofNat (first + m)) : n = m := by
  have hmod := congrArg UInt64.toNat h
  rw [UInt64.toNat_ofNat', UInt64.toNat_ofNat'] at hmod
  omega

/-- Numbers, each with that of the caller who got it, out of `issued` callers. -/
structure Issued (first issued : ℕ) (l : List (UInt64 × ℕ)) : Prop where
  numbers : ∀ p ∈ l, p.1 = UInt64.ofNat (first + p.2) ∧ p.2 < issued
  increasing : (l.map Prod.snd).Pairwise (· < ·)

variable {first issued : ℕ} {l : List (UInt64 × ℕ)}

theorem issued_nil (first issued : ℕ) : Issued first issued [] :=
  ⟨fun p hp => (by cases hp), List.Pairwise.nil⟩

/-- The number of a caller that is not listed. -/
theorem Issued.skip (h : Issued first issued l) : Issued first (issued + 1) l :=
  ⟨fun p hp => ⟨(h.numbers p hp).1, Nat.lt_succ_of_lt (h.numbers p hp).2⟩, h.increasing⟩

theorem Issued.concat (h : Issued first issued l) :
    Issued first (issued + 1) (l ++ [(UInt64.ofNat (first + issued), issued)]) := by
  refine ⟨?_, ?_⟩
  · intro p hp
    rcases List.mem_append.mp hp with hp | hp
    · exact h.skip.numbers p hp
    · rw [List.mem_singleton.mp hp]
      exact ⟨rfl, Nat.lt_succ_self issued⟩
  · rw [List.map_append]
    refine List.pairwise_append.mpr ⟨h.increasing, List.pairwise_singleton _ _, ?_⟩
    intro n hn m hm
    obtain ⟨p, hp, rfl⟩ := List.mem_map.mp hn
    rw [List.mem_singleton.mp hm]
    exact (h.numbers p hp).2

theorem Issued.unique (h : Issued first issued l) (hissued : issued ≤ 2 ^ 64) {i j : ℕ}
    {p q : UInt64 × ℕ} (hp : l[i]? = some p) (hq : l[j]? = some q) (hpq : p.1 = q.1) : i = j := by
  obtain ⟨hpnum, hplt⟩ := h.numbers p (List.mem_of_getElem? hp)
  obtain ⟨hqnum, hqlt⟩ := h.numbers q (List.mem_of_getElem? hq)
  rw [hpnum, hqnum] at hpq
  have hcaller : p.2 = q.2 :=
    ofNat_add_inj (Nat.lt_of_lt_of_le hplt hissued) (Nat.lt_of_lt_of_le hqlt hissued) hpq
  have hnodup : (l.map Prod.snd).Nodup := h.increasing.imp Nat.ne_of_lt
  refine (List.getElem?_inj ?_ hnodup).mp ?_
  · rw [List.length_map]
    exact (List.getElem?_eq_some_iff.mp hp).1
  · rw [List.getElem?_map, List.getElem?_map, hp, hq, Option.map_some, Option.map_some, hcaller]

end Counters
