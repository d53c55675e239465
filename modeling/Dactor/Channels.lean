/-
Dactor/Channels.lean

First-in first-out channels with an optional capacity, as tokio's `mpsc`
channels are.  A channel that holds more than its capacity cannot be built:
the bound is a field of the structure.

`trySend` fails on a closed channel before it looks for room, `offer` is
what a sender that ignores the outcome leaves behind, and `recv` takes the
oldest message.  Nothing here is about a particular system.
-/
import Mathlib.Data.List.Basic

namespace Channels

variable {T : Type*}

/-- A channel and what waits in it, oldest first.  `closed` means that the
receiver is gone. -/
structure Channel (T : Type*) where
  capacity : Option Nat
  queue : List T
  closed : Bool
  fits : ∀ c ∈ capacity, queue.length ≤ c

inductive TrySendError
  | full | closed
  deriving DecidableEq, Repr

namespace Channel

def new (capacity : Option Nat) : Channel T where
  capacity
  queue := []
  closed := false
  fits := fun c _ => Nat.zero_le c

/-- One more message fits. -/
def HasRoom (ch : Channel T) : Prop := ∀ c ∈ ch.capacity, ch.queue.length < c

instance (ch : Channel T) : Decidable ch.HasRoom :=
  match h : ch.capacity with
  | none => isTrue (by intro c hc; rw [h] at hc; cases hc)
  | some c =>
    decidable_of_iff (ch.queue.length < c)
      ⟨fun hlt c' hc' => by rw [h] at hc'; cases hc'; exact hlt, fun hroom => hroom c h⟩

/-- A message sent now is taken in. -/
def Admits (ch : Channel T) : Prop := ch.closed = false ∧ ch.HasRoom

instance (ch : Channel T) : Decidable ch.Admits :=
  inferInstanceAs (Decidable (ch.closed = false ∧ ch.HasRoom))

/-- The channel with one more message, for which there is room. -/
def enqueue (ch : Channel T) (x : T) (h : ch.HasRoom) : Channel T :=
  { ch with
    queue := ch.queue ++ [x]
    fits := fun c hc => by rw [List.length_append]; exact h c hc }

def trySend (ch : Channel T) (x : T) : Except TrySendError (Channel T) :=
  if ch.closed then .error .closed
  else if h : ch.HasRoom then .ok (ch.enqueue x h)
  else .error .full

/-- The channel after `let _ = tx.try_send(x)`. -/
def offer (ch : Channel T) (x : T) : Channel T :=
  match ch.trySend x with
  | .ok ch' => ch'
  | .error _ => ch

/-- Take the oldest message. -/
def recv (ch : Channel T) : Option (T × Channel T) :=
  match h : ch.queue with
  | [] => none
  | x :: rest =>
    some (x, { ch with
      queue := rest
      fits := fun c hc => by
        have hle := ch.fits c hc
        rw [h, List.length_cons] at hle
        exact Nat.le_of_succ_le hle })

/-- The receiver is dropped, and what waits is discarded with it. -/
def close (ch : Channel T) : Channel T where
  capacity := ch.capacity
  queue := []
  closed := true
  fits := fun c _ => Nat.zero_le c

/-! ### Sending -/

@[simp] theorem enqueue_queue (ch : Channel T) (x : T) (h : ch.HasRoom) :
    (ch.enqueue x h).queue = ch.queue ++ [x] := rfl

theorem trySend_of_admits {ch : Channel T} (h : ch.Admits) (x : T) :
    ch.trySend x = .ok (ch.enqueue x h.2) := by
  rw [trySend, if_neg (by rw [h.1]; exact Bool.false_ne_true), dif_pos h.2]

theorem trySend_of_closed {ch : Channel T} (h : ch.closed = true) (x : T) :
    ch.trySend x = .error .closed := by
  rw [trySend, if_pos h]

theorem trySend_of_full {ch : Channel T} (hopen : ch.closed = false) (h : ¬ ch.HasRoom) (x : T) :
    ch.trySend x = .error .full := by
  rw [trySend, if_neg (by rw [hopen]; exact Bool.false_ne_true), dif_neg h]

theorem not_admits_iff {ch : Channel T} :
    ¬ ch.Admits ↔ ch.closed = true ∨ ch.closed = false ∧ ¬ ch.HasRoom := by
  rw [Admits]
  cases ch.closed <;> simp

theorem offer_of_admits {ch : Channel T} (h : ch.Admits) (x : T) :
    ch.offer x = ch.enqueue x h.2 := by
  rw [offer, trySend_of_admits h]

theorem offer_of_not_admits {ch : Channel T} (h : ¬ ch.Admits) (x : T) : ch.offer x = ch := by
  rcases not_admits_iff.mp h with hclosed | ⟨hopen, hfull⟩
  · rw [offer, trySend_of_closed hclosed]
  · rw [offer, trySend_of_full hopen hfull]

@[simp] theorem offer_capacity (ch : Channel T) (x : T) : (ch.offer x).capacity = ch.capacity := by
  by_cases h : ch.Admits
  · rw [offer_of_admits h]; rfl
  · rw [offer_of_not_admits h]

@[simp] theorem offer_closed (ch : Channel T) (x : T) : (ch.offer x).closed = ch.closed := by
  by_cases h : ch.Admits
  · rw [offer_of_admits h]; rfl
  · rw [offer_of_not_admits h]

theorem offer_queue (ch : Channel T) (x : T) :
    (ch.offer x).queue = if ch.Admits then ch.queue ++ [x] else ch.queue := by
  by_cases h : ch.Admits
  · rw [offer_of_admits h, if_pos h]; rfl
  · rw [offer_of_not_admits h, if_neg h]

/-- An unbounded channel has room. -/
theorem hasRoom_of_unbounded {ch : Channel T} (h : ch.capacity = none) : ch.HasRoom := by
  intro c hc
  rw [h] at hc
  cases hc

/-- So has an empty channel whose capacity is not zero. -/
theorem hasRoom_of_empty {ch : Channel T} {n : Nat} (hcap : ch.capacity = some (n + 1))
    (h : ch.queue = []) : ch.HasRoom := by
  intro c hc
  rw [hcap] at hc
  cases hc
  rw [h]
  exact Nat.succ_pos n

/-! ### Receiving -/

theorem recv_eq_none {ch : Channel T} : ch.recv = none ↔ ch.queue = [] := by
  rw [recv]
  split
  · next h => exact ⟨fun _ => h, fun _ => rfl⟩
  · next x rest h =>
      constructor
      · intro hnone
        cases hnone
      · intro hnil
        cases h.symm.trans hnil

theorem recv_eq_some {ch ch' : Channel T} {x : T} (h : ch.recv = some (x, ch')) :
    ch.queue = x :: ch'.queue ∧ ch'.capacity = ch.capacity ∧ ch'.closed = ch.closed := by
  rw [recv] at h
  split at h
  · cases h
  · next y rest hq =>
      obtain ⟨rfl, rfl⟩ := Prod.mk.inj (Option.some.inj h)
      exact ⟨hq, rfl, rfl⟩

end Channel

end Channels
