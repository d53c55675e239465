/-
Dactor/Selection.lean

Selecting from a list by a strict weak order `r`, and the stable sort it
leads to.

* `FirstMin r pre x post` — `x` is the first of the minimal elements of
  `pre ++ x :: post`; a scan that keeps the best element so far maintains it
  (`FirstMin.extend_of_rel`, `FirstMin.extend_of_not_rel`).
* `insertionSort_of_firstMin` — taking out the first minimal element is one
  step of the stable sort.
* `insertionSort_congr` — a stable sort asks its order only about pairs in
  the order in which they stand in the list.
* `flatMap_filter_eq_insertionSort` — gathering the elements key by key is
  the stable sort by the key.

Elements and keys are of any type.
-/
import Mathlib.Data.List.Sort
import Mathlib.Order.RelClasses

namespace Selection

variable {α : Type*} {r : α → α → Prop}

/-! ### The first minimal element -/

/-- What is smaller than something is smaller than anything between. -/
theorem rel_or_rel [IsStrictWeakOrder α r] {a c : α} (h : r a c) (b : α) : r a b ∨ r b c := by
  by_contra hnot
  obtain ⟨hab, hbc⟩ := not_or.mp hnot
  have hba : ¬ r b a := fun hba => hbc (IsTrans.trans _ _ _ hba h)
  have hcb : ¬ r c b := fun hcb => hab (IsTrans.trans _ _ _ h hcb)
  exact (IsStrictWeakOrder.incomp_trans a b c ⟨hab, hba⟩ ⟨hbc, hcb⟩).1 h

/-- `x` is smaller than everything before it, and nothing after it is
smaller. -/
structure FirstMin (r : α → α → Prop) (pre : List α) (x : α) (post : List α) : Prop where
  earlier : ∀ y ∈ pre, r x y
  later : ∀ y ∈ post, ¬ r y x

theorem firstMin_singleton (r : α → α → Prop) (x : α) : FirstMin r [] x [] :=
  ⟨by simp, by simp⟩

/-- A smaller element at the end takes over. -/
theorem FirstMin.extend_of_rel [IsStrictWeakOrder α r] {pre post : List α} {x y : α}
    (h : FirstMin r pre x post) (hy : r y x) : FirstMin r (pre ++ x :: post) y [] := by
  refine ⟨fun z hz => ?_, by simp⟩
  rcases List.mem_append.mp hz with hz | hz
  · exact IsTrans.trans _ _ _ hy (h.earlier z hz)
  · rcases List.mem_cons.mp hz with rfl | hz
    · exact hy
    · exact (rel_or_rel hy z).resolve_right (h.later z hz)

/-- Any other element at the end changes nothing. -/
theorem FirstMin.extend_of_not_rel {pre post : List α} {x y : α} (h : FirstMin r pre x post)
    (hy : ¬ r y x) : FirstMin r pre x (post ++ [y]) := by
  refine ⟨h.earlier, fun z hz => ?_⟩
  rcases List.mem_append.mp hz with hz | hz
  · exact h.later z hz
  · rw [List.mem_singleton.mp hz]
    exact hy

/-- Nothing is smaller than the first minimal element. -/
theorem FirstMin.minimal [IsStrictOrder α r] {pre post : List α} {x : α}
    (h : FirstMin r pre x post) : ∀ y ∈ pre ++ x :: post, ¬ r y x := by
  intro y hy hyx
  rcases List.mem_append.mp hy with hy | hy
  · exact irrefl_of r x (IsTrans.trans _ _ _ (h.earlier y hy) hyx)
  · rcases List.mem_cons.mp hy with rfl | hy
    · exact irrefl_of r y hyx
    · exact h.later y hy hyx

/-! ### The stable sort -/

variable [DecidableRel r]

/-- Putting elements in front of a list whose head they do not precede. -/
theorem foldr_orderedInsert_cons {le : α → α → Prop} [DecidableRel le] {x : α} {pre : List α}
    (h : ∀ y ∈ pre, ¬ le y x) (l : List α) :
    pre.foldr (List.orderedInsert le) (x :: l)
      = x :: pre.foldr (List.orderedInsert le) l := by
  induction pre with
  | nil => rfl
  | cons y pre ih =>
      rw [List.foldr_cons, List.foldr_cons, ih fun z hz => h z (List.mem_cons_of_mem y hz),
        List.orderedInsert_of_not_le le _ (h y List.mem_cons_self)]

/-- Sorting brings the first minimal element to the front and sorts the
others. -/
theorem insertionSort_of_firstMin {pre post : List α} {x : α} (h : FirstMin r pre x post) :
    (pre ++ x :: post).insertionSort (fun a b => ¬ r b a)
      = x :: (pre ++ post).insertionSort (fun a b => ¬ r b a) := by
  have hfront : (x :: post).insertionSort (fun a b => ¬ r b a)
      = x :: post.insertionSort (fun a b => ¬ r b a) :=
    List.insertionSort_cons_of_forall_rel _ h.later
  have hpre : ∀ y ∈ pre, ¬ ¬ r x y := fun y hy hnot => hnot (h.earlier y hy)
  calc (pre ++ x :: post).insertionSort (fun a b => ¬ r b a)
      = pre.foldr (List.orderedInsert fun a b => ¬ r b a)
          ((x :: post).insertionSort fun a b => ¬ r b a) := List.foldr_append
    _ = x :: pre.foldr (List.orderedInsert fun a b => ¬ r b a)
          (post.insertionSort fun a b => ¬ r b a) := by
        rw [hfront, foldr_orderedInsert_cons hpre]
    _ = x :: (pre ++ post).insertionSort (fun a b => ¬ r b a) :=
        congrArg (x :: ·) List.foldr_append.symm

section Congr

variable {le le' : α → α → Prop} [DecidableRel le] [DecidableRel le']

theorem orderedInsert_congr {a : α} {l : List α} (h : ∀ b ∈ l, le a b ↔ le' a b) :
    l.orderedInsert le a = l.orderedInsert le' a := by
  induction l with
  | nil => rfl
  | cons b l ih =>
      have htail := ih fun c hc => h c (List.mem_cons_of_mem b hc)
      simp only [List.orderedInsert_cons, htail, h b List.mem_cons_self]

/-- Two orders that agree on each element and the ones behind it sort alike. -/
theorem insertionSort_congr {l : List α} (h : l.Pairwise fun a b => le a b ↔ le' a b) :
    l.insertionSort le = l.insertionSort le' := by
  induction l with
  | nil => rfl
  | cons a l ih =>
      obtain ⟨ha, hl⟩ := List.pairwise_cons.mp h
      rw [List.insertionSort_cons, List.insertionSort_cons, ih hl]
      apply orderedInsert_congr
      intro b hb
      exact ha b ((List.mem_insertionSort le').mp hb)

end Congr

/-! ### Gathering by key -/

section Keys

variable {κ : Type*} [LinearOrder κ]

theorem orderedInsert_append_of_not_le {le : α → α → Prop} [DecidableRel le] {a : α}
    {front : List α} (h : ∀ b ∈ front, ¬ le a b) (rest : List α) :
    (front ++ rest).orderedInsert le a = front ++ rest.orderedInsert le a := by
  induction front with
  | nil => rfl
  | cons b front ih =>
      rw [List.cons_append, List.orderedInsert_of_not_le le _ (h b List.mem_cons_self),
        ih fun c hc => h c (List.mem_cons_of_mem b hc), List.cons_append]

theorem orderedInsert_of_forall_le {le : α → α → Prop} [DecidableRel le] {a : α} {l : List α}
    (h : ∀ b ∈ l, le a b) : l.orderedInsert le a = a :: l := by
  cases l with
  | nil => rfl
  | cons b l => exact List.orderedInsert_cons_of_le le l (h b List.mem_cons_self)

/-- A new first element goes to the front of the elements with its key. -/
theorem orderedInsert_flatMap (key : α → κ) (a : α) (l : List α) {keys : List κ}
    (hkeys : keys.Pairwise (· < ·)) (ha : key a ∈ keys) :
    (keys.flatMap fun k => l.filter fun x => key x = k).orderedInsert
        (fun x y => key x ≤ key y) a
      = keys.flatMap fun k => (a :: l).filter fun x => key x = k := by
  induction keys with
  | nil => cases ha
  | cons k keys ih =>
      obtain ⟨hk, hkeys⟩ := List.pairwise_cons.mp hkeys
      rw [List.flatMap_cons, List.flatMap_cons]
      rcases List.mem_cons.mp ha with rfl | ha
      · -- the keys that follow are larger, so `a` stops here
        have hrest : (keys.flatMap fun k => (a :: l).filter fun x => key x = k)
            = keys.flatMap fun k => l.filter fun x => key x = k := by
          apply List.flatMap_congr
          intro k hkm
          have hne : ¬ key a = k := (hk k hkm).ne
          rw [List.filter_cons_of_neg (by simpa using hne)]
        rw [hrest, List.filter_cons_of_pos (by simp), List.cons_append]
        apply orderedInsert_of_forall_le
        intro b hb
        rcases List.mem_append.mp hb with hb | hb
        · have hkey : key b = key a := by simpa using (List.mem_filter.mp hb).2
          exact hkey.ge
        · obtain ⟨k, hkm, hb⟩ := List.mem_flatMap.mp hb
          have hkey : key b = k := by simpa using (List.mem_filter.mp hb).2
          exact (hkey ▸ hk k hkm).le
      · have hlt : k < key a := hk (key a) ha
        have hfront : ∀ b ∈ l.filter (fun x => key x = k), ¬ key a ≤ key b := by
          intro b hb
          have hkey : key b = k := by simpa using (List.mem_filter.mp hb).2
          rw [hkey]
          exact not_le_of_gt hlt
        rw [orderedInsert_append_of_not_le hfront, ih hkeys ha,
          List.filter_cons_of_neg (by simpa using hlt.ne')]

/-- Gathering the elements of a list key by key is sorting it by the key. -/
theorem flatMap_filter_eq_insertionSort (key : α → κ) {keys : List κ}
    (hkeys : keys.Pairwise (· < ·)) {l : List α} (hl : ∀ a ∈ l, key a ∈ keys) :
    (keys.flatMap fun k => l.filter fun x => key x = k)
      = l.insertionSort fun x y => key x ≤ key y := by
  induction l with
  | nil => simp
  | cons a l ih =>
      rw [List.insertionSort_cons, ← ih fun b hb => hl b (List.mem_cons_of_mem a hb),
        orderedInsert_flatMap key a l hkeys (hl a List.mem_cons_self)]

end Keys

end Selection
