/-
Dactor/Handover.lean

Items that are issued in an order and handed over later, one at a time, in
any order.  A `Backlog` keeps what was issued, what waits and what was handed
over, the latter in hand-over order.

On every schedule nothing is lost or handed over twice (`Conserved`).  When
each hand-over takes an item before which no item of the same key waits, the
items of each key also leave in the order they were issued (`InOrder`).
Nothing here is about a particular system: items and keys are arbitrary.
-/
import Mathlib.Data.List.Basic

namespace Handover

variable {α κ : Type*}

structure Backlog (α : Type*) where
  issued : List α
  waiting : List α
  handed : List α

namespace Backlog

def empty : Backlog α := ⟨[], [], []⟩

def issue (l : Backlog α) (x : α) : Backlog α :=
  { l with issued := l.issued ++ [x], waiting := l.waiting ++ [x] }

/-- Issue several items, in order. -/
def issueAll (l : Backlog α) (xs : List α) : Backlog α := xs.foldl issue l

theorem issueAll_issued (l : Backlog α) (xs : List α) :
    (l.issueAll xs).issued = l.issued ++ xs := by
  induction xs generalizing l with
  | nil => exact (List.append_nil _).symm
  | cons x xs ih =>
      show ((l.issue x).issueAll xs).issued = _
      rw [ih]
      exact List.append_assoc _ [x] xs

/-- A property that issuing one item keeps. -/
theorem issueAll_induction {P : Backlog α → Prop} (hissue : ∀ l x, P l → P (l.issue x))
    {l : Backlog α} (h : P l) (xs : List α) : P (l.issueAll xs) := by
  induction xs generalizing l with
  | nil => exact h
  | cons x xs ih => exact ih (hissue l x h)

/-- Hand over the `i`-th waiting item, if there is one. -/
def hand (l : Backlog α) (i : Nat) : Backlog α :=
  match l.waiting[i]? with
  | none => l
  | some x => { l with waiting := l.waiting.eraseIdx i, handed := l.handed ++ [x] }

theorem hand_of_none {l : Backlog α} {i : Nat} (h : l.waiting[i]? = none) : l.hand i = l := by
  simp only [hand, h]

theorem hand_of_some {l : Backlog α} {i : Nat} {x : α} (h : l.waiting[i]? = some x) :
    l.hand i = { l with waiting := l.waiting.eraseIdx i, handed := l.handed ++ [x] } := by
  simp only [hand, h]

theorem hand_issued (l : Backlog α) (i : Nat) : (l.hand i).issued = l.issued := by
  rw [hand]
  split <;> rfl

/-- The waiting items around the `i`-th one. -/
theorem waiting_split {l : Backlog α} {i : Nat} {x : α} (h : l.waiting[i]? = some x) :
    l.waiting = l.waiting.take i ++ x :: l.waiting.drop (i + 1) ∧
      l.waiting.eraseIdx i = l.waiting.take i ++ l.waiting.drop (i + 1) := by
  obtain ⟨hi, hx⟩ := List.getElem?_eq_some_iff.mp h
  refine ⟨?_, List.eraseIdx_eq_take_drop_succ _ _⟩
  rw [← hx, List.getElem_cons_drop, List.take_append_drop]

/-! ### Nothing is lost or doubled -/

/-- What was handed over and what waits is, up to the order, what was
issued. -/
def Conserved (l : Backlog α) : Prop := (l.handed ++ l.waiting).Perm l.issued

theorem Conserved.empty : (empty : Backlog α).Conserved := List.Perm.nil

theorem Conserved.issue {l : Backlog α} (h : l.Conserved) (x : α) : (l.issue x).Conserved := by
  show (l.handed ++ (l.waiting ++ [x])).Perm (l.issued ++ [x])
  rw [← List.append_assoc]
  exact h.append_right [x]

theorem Conserved.hand {l : Backlog α} (h : l.Conserved) (i : Nat) : (l.hand i).Conserved := by
  cases hi : l.waiting[i]? with
  | none => rwa [hand_of_none hi]
  | some x =>
      obtain ⟨hsplit, herase⟩ := waiting_split hi
      rw [hand_of_some hi]
      show ((l.handed ++ [x]) ++ l.waiting.eraseIdx i).Perm l.issued
      refine List.Perm.trans ?_ h
      rw [herase, List.append_assoc, List.singleton_append]
      refine List.Perm.append_left l.handed ?_
      refine List.perm_middle.symm.trans ?_
      rw [← hsplit]

/-! ### Order, key by key -/

variable [DecidableEq κ] (key : α → κ)

/-- For each key, what was handed over followed by what waits is what was
issued. -/
def InOrder (l : Backlog α) : Prop :=
  ∀ k, (l.handed ++ l.waiting).filter (fun x => key x = k) = l.issued.filter fun x => key x = k

/-- No item of the same key waits before the `i`-th one. -/
def Oldest (l : Backlog α) (i : Nat) : Prop :=
  ∀ x ∈ l.waiting[i]?, ∀ y ∈ l.waiting.take i, key y ≠ key x

instance (l : Backlog α) (i : Nat) : Decidable (l.Oldest key i) :=
  inferInstanceAs (Decidable (∀ x ∈ l.waiting[i]?, ∀ y ∈ l.waiting.take i, key y ≠ key x))

variable {key}

theorem InOrder.empty : InOrder key (empty : Backlog α) := fun _ => rfl

theorem InOrder.issue {l : Backlog α} (h : l.InOrder key) (x : α) : (l.issue x).InOrder key := by
  intro k
  show (l.handed ++ (l.waiting ++ [x])).filter _ = (l.issued ++ [x]).filter _
  rw [← List.append_assoc, List.filter_append (l.handed ++ l.waiting),
    List.filter_append l.issued, h k]

/-- Handing over the oldest item of its key keeps the order: for its own key
the items before it play no role, and for the others it does not. -/
theorem InOrder.hand {l : Backlog α} (h : l.InOrder key) {i : Nat} (hi : l.Oldest key i) :
    (l.hand i).InOrder key := by
  cases hx : l.waiting[i]? with
  | none => rwa [hand_of_none hx]
  | some x =>
      obtain ⟨hsplit, herase⟩ := waiting_split hx
      rw [hand_of_some hx]
      intro k
      rw [← h k]
      show ((l.handed ++ [x]) ++ l.waiting.eraseIdx i).filter _ = (l.handed ++ l.waiting).filter _
      rw [herase]
      nth_rewrite 3 [hsplit]
      simp only [List.filter_append, List.filter_cons, List.filter_nil, List.append_assoc]
      by_cases hk : key x = k
      · have hbefore : (l.waiting.take i).filter (fun y => key y = k) = [] := by
          rw [List.filter_eq_nil_iff]
          intro y hy
          rw [decide_eq_true_eq, ← hk]
          exact hi x hx y hy
        simp [hk, hbefore]
      · simp [hk]

/-- What was handed over of a key is a beginning of what was issued of it. -/
theorem InOrder.handed_prefix {l : Backlog α} (h : l.InOrder key) (k : κ) :
    l.handed.filter (fun x => key x = k) <+: l.issued.filter fun x => key x = k := by
  rw [← h k, List.filter_append]
  exact List.prefix_append _ _

/-- With one key for all items, the whole list is in order. -/
theorem InOrder.append_eq {l : Backlog α} (h : l.InOrder fun _ => ()) :
    l.handed ++ l.waiting = l.issued := by
  have hall := h ()
  simpa only [decide_true, List.filter_true] using hall

end Backlog

end Handover
