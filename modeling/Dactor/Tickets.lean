/-
Dactor/Tickets.lean

Numbered tickets and where they are.  Tickets are issued as 0, 1, 2, …; each
is pending, in the order in which it will be looked at, or it has been
settled, or it has been lost.

The tickets that are accounted for are always among those issued, each at
most once (`Sound`).  When none is lost they are exactly those issued
(`Balanced`), and an entry keeps that exactly if it loses none
(`balanced_record_iff`); what is lost stays lost.  Nothing here is about a
particular system.
-/
import Mathlib.Data.List.Nodup
import Mathlib.Data.List.Perm.Subperm

namespace Tickets

/-- The number of tickets issued, those pending, oldest first, and those
settled, a ticket as often as it was. -/
structure Tally where
  issued : Nat
  pending : List Nat
  settled : List Nat
  deriving DecidableEq, Repr

/-- What can be done with tickets. -/
inductive Entry
  /-- A new ticket is put behind those pending. -/
  | enter
  /-- A new ticket is settled at once. -/
  | refuse
  /-- A new ticket is issued and lost. -/
  | misplace
  /-- The oldest pending ticket is settled. -/
  | settle
  /-- The oldest pending ticket is lost. -/
  | forget
  /-- All pending tickets are lost. -/
  | discard
  | nothing
  deriving DecidableEq, Repr

namespace Tally

def empty : Tally := ⟨0, [], []⟩

def record (t : Tally) : Entry → Tally
  | .enter => ⟨t.issued + 1, t.pending ++ [t.issued], t.settled⟩
  | .refuse => ⟨t.issued + 1, t.pending, t.settled ++ [t.issued]⟩
  | .misplace => ⟨t.issued + 1, t.pending, t.settled⟩
  | .settle => ⟨t.issued, t.pending.tail, t.settled ++ t.pending.take 1⟩
  | .forget => ⟨t.issued, t.pending.tail, t.settled⟩
  | .discard => ⟨t.issued, [], t.settled⟩
  | .nothing => t

/-- The entry loses no ticket. -/
def Lossless (t : Tally) : Entry → Prop
  | .enter | .refuse | .settle | .nothing => True
  | .misplace => False
  | .forget | .discard => t.pending = []

/-- What is accounted for was issued, and is accounted for once. -/
def Sound (t : Tally) : Prop := (t.settled ++ t.pending).Subperm (List.range t.issued)

/-- Every ticket is accounted for once. -/
def Balanced (t : Tally) : Prop := (t.settled ++ t.pending).Perm (List.range t.issued)

variable {t : Tally}

theorem sound_empty : empty.Sound := List.Subperm.refl []

theorem balanced_empty : empty.Balanced := List.Perm.refl []

/-! ### Counting -/

theorem Sound.length_le (h : t.Sound) : t.settled.length + t.pending.length ≤ t.issued := by
  have hle := List.Subperm.length_le h
  rwa [List.length_append, List.length_range] at hle

/-- Tickets that are accounted for once are all of them when their number is
right. -/
theorem Sound.balanced_iff (h : t.Sound) :
    t.Balanced ↔ t.settled.length + t.pending.length = t.issued := by
  constructor
  · intro hb
    have hlen := hb.length_eq
    rwa [List.length_append, List.length_range] at hlen
  · intro hlen
    apply List.Subperm.perm_of_length_le h
    rw [List.length_append, List.length_range]
    exact Nat.le_of_eq hlen.symm

theorem Balanced.sound (h : t.Balanced) : t.Sound := h.subperm

theorem Sound.count_settled_le (h : t.Sound) (n : Nat) : t.settled.count n ≤ 1 := by
  calc t.settled.count n
      ≤ (t.settled ++ t.pending).count n := by rw [List.count_append]; exact Nat.le_add_right _ _
    _ ≤ (List.range t.issued).count n := List.Subperm.count_le h n
    _ ≤ 1 := List.nodup_iff_count_le_one.mp List.nodup_range n

/-- With nothing pending, the tally is balanced when every ticket has been
settled once. -/
theorem Sound.balanced_iff_count (h : t.Sound) (hpending : t.pending = []) :
    t.Balanced ↔ ∀ n < t.issued, t.settled.count n = 1 := by
  have hsub : t.settled.Subperm (List.range t.issued) := by
    simpa [Sound, hpending] using h
  have heq : t.Balanced ↔ t.settled.Perm (List.range t.issued) := by
    simp [Balanced, hpending]
  rw [heq]
  constructor
  · intro hperm n hn
    rw [hperm.count_eq]
    exact List.count_eq_one_of_mem List.nodup_range (List.mem_range.mpr hn)
  · intro hcount
    apply hsub.antisymm
    apply List.subperm_of_subset List.nodup_range
    intro n hn
    have hone := hcount n (List.mem_range.mp hn)
    exact List.count_pos_iff.mp (by omega)

/-! ### One entry -/

theorem Sound.record (h : t.Sound) (e : Entry) : (t.record e).Sound := by
  cases e with
  | enter =>
      show (t.settled ++ (t.pending ++ [t.issued])).Subperm (List.range (t.issued + 1))
      rw [← List.append_assoc, List.range_succ]
      exact (List.subperm_append_right _).mpr h
  | refuse =>
      show (t.settled ++ [t.issued] ++ t.pending).Subperm (List.range (t.issued + 1))
      -- the new ticket overtakes those that are pending
      have hmove : (t.settled ++ [t.issued] ++ t.pending).Perm
          (t.settled ++ t.pending ++ [t.issued]) := by
        rw [List.append_assoc, List.append_assoc]
        exact List.Perm.append_left _ List.perm_append_comm
      rw [List.range_succ]
      exact hmove.subperm.trans ((List.subperm_append_right _).mpr h)
  | misplace =>
      show (t.settled ++ t.pending).Subperm (List.range (t.issued + 1))
      rw [List.range_succ]
      exact h.trans (List.sublist_append_left _ _).subperm
  | settle =>
      show (t.settled ++ t.pending.take 1 ++ t.pending.tail).Subperm (List.range t.issued)
      rw [List.append_assoc, ← List.drop_one, List.take_append_drop]
      exact h
  | forget =>
      show (t.settled ++ t.pending.tail).Subperm (List.range t.issued)
      exact ((List.tail_sublist _).append_left _).subperm.trans h
  | discard =>
      show (t.settled ++ []).Subperm (List.range t.issued)
      exact ((List.nil_sublist _).append_left _).subperm.trans h
  | nothing => exact h

/-- An entry leaves the tally balanced exactly if it was and the entry loses
no ticket. -/
theorem balanced_record_iff (h : t.Sound) (e : Entry) :
    (t.record e).Balanced ↔ t.Balanced ∧ t.Lossless e := by
  rw [(h.record e).balanced_iff, h.balanced_iff]
  -- only the lengths matter; a tally that lost a ticket stays too short
  have hle := h.length_le
  have hlen : t.pending = [] ↔ t.pending.length = 0 := List.length_eq_zero_iff.symm
  cases e with
  | enter =>
      simp only [record, Lossless, List.length_append, List.length_singleton, and_true]
      omega
  | refuse =>
      simp only [record, Lossless, List.length_append, List.length_singleton, and_true]
      omega
  | misplace =>
      simp only [record, Lossless, and_false, iff_false]
      omega
  | settle =>
      simp only [record, Lossless, List.length_append, List.length_take, List.length_tail, and_true]
      omega
  | forget =>
      simp only [record, Lossless, List.length_tail, hlen]
      omega
  | discard =>
      simp only [record, Lossless, List.length_nil, hlen]
      omega
  | nothing => simp [record, Lossless]

end Tally

end Tickets
