/-
Dactor/QueueOrder.lean

The order in which the priority side of the outbound queue is emptied.

* `selection_stable` — a pop takes the earliest of the minimal entries of
  any comparer that is a strict weak order, as both comparers of the source
  are; strict lanes give a batch back stably sorted by lane.
* `drain_agrees_with_pops` — draining strict lanes is popping until empty.
  In comparer mode a drain sorts by priority and enqueue time, which is
  popping until empty for a comparer that orders the stored entries so.

Both ways of emptying a queue are compared with a stable sort, step by step
for pops (`popMany_eq`).
-/
import Mathlib.Data.Prod.Lex
import Dactor.QueueRuns
import Dactor.Selection

namespace Dactor

open Runs Selection OutboundPriorityQueue

namespace OutboundPriorityQueue

/-! ### Popping again and again -/

/-- The envelopes that pops at the given instants return. -/
def popMany : List Nat → OutboundPriorityQueue → List WireEnvelope × OutboundPriorityQueue
  | [], q => ([], q)
  | now :: nows, q =>
    match q.pop now with
    | (none, q) => popMany nows q
    | (some e, q) =>
      let r := popMany nows q
      (e :: r.1, r.2)

theorem popMany_of_empty {q : OutboundPriorityQueue} (h : q.total = 0) (nows : List Nat) :
    popMany nows q = ([], q) := by
  induction nows with
  | nil => rfl
  | cons now nows ih =>
      rw [popMany, pop_of_empty h]
      exact ih

/-- If each pop at an admitted instant takes the head off the list `out`,
then pops until the queue is empty return that list. -/
theorem popMany_eq (Inv : OutboundPriorityQueue → Prop) (ok : Nat → Prop)
    (out : OutboundPriorityQueue → List WireEnvelope)
    (hnil : ∀ q, Inv q → q.total = 0 → out q = [])
    (hstep : ∀ q now, Inv q → ok now → q.total ≠ 0 →
      ∃ e q', q.pop now = (some e, q') ∧ out q = e :: out q' ∧ q'.total = q.total - 1 ∧ Inv q')
    {q : OutboundPriorityQueue} (h : Inv q) {nows : List Nat} (hok : ∀ now ∈ nows, ok now)
    (hlen : q.total ≤ nows.length) : (popMany nows q).1 = out q := by
  induction nows generalizing q with
  | nil =>
      rw [hnil q h (Nat.le_zero.mp hlen)]
      rfl
  | cons now nows ih =>
      by_cases hempty : q.total = 0
      · rw [popMany_of_empty hempty, hnil q h hempty]
      · obtain ⟨e, q', hpop, hout, htotal, h'⟩ := hstep q now h (hok now List.mem_cons_self) hempty
        have hlen' : q'.total ≤ nows.length := by
          rw [List.length_cons] at hlen
          omega
        have hrest := ih h' (fun t ht => hok t (List.mem_cons_of_mem now ht)) hlen'
        simp only [popMany, hpop, hrest, hout]

/-- As many pops as the queue holds envelopes empty it. -/
theorem Wf.popMany_total {q : OutboundPriorityQueue} (h : q.Wf) {nows : List Nat}
    (hlen : q.total ≤ nows.length) : (popMany nows q).2.total = 0 := by
  induction nows generalizing q with
  | nil => exact Nat.le_zero.mp hlen
  | cons now nows ih =>
      by_cases hempty : q.total = 0
      · rw [popMany_of_empty hempty]
        exact hempty
      · obtain ⟨side, e, q', hpop, htakes, -⟩ := h.pop_spec hempty now
        have hlen' : q'.total ≤ nows.length := by
          rw [List.length_cons] at hlen
          rw [htakes.total_eq]
          omega
        simp only [popMany, hpop]
        exact ih (h.takes htakes) hlen'

/-! ### Strict lanes -/

/-- A well-formed queue in strict lane mode without stream items. -/
structure Strict (q : OutboundPriorityQueue) : Prop where
  wf : q.Wf
  lane_mode : q.comparer = none
  max_eq : q.maxConsecutive = 0
  no_stream : q.streamFifo = []

/-- The first non-empty lane holds the first envelope of all lanes. -/
theorem flatMap_update_first (lanes : Fin 5 → List WireEnvelope) {lane : Fin 5}
    {e : WireEnvelope} {rest : List WireEnvelope} (hlane : lanes lane = e :: rest)
    {order : List (Fin 5)} (hnd : order.Nodup)
    (hfirst : order.find? (fun i => !(lanes i).isEmpty) = some lane) :
    order.flatMap lanes = e :: order.flatMap (Function.update lanes lane rest) := by
  induction order with
  | nil => cases hfirst
  | cons i order ih =>
      obtain ⟨hi, hnd⟩ := List.nodup_cons.mp hnd
      rw [List.flatMap_cons, List.flatMap_cons]
      by_cases hempty : lanes i = []
      · -- an empty lane before it adds nothing, before and after
        have hne : i ≠ lane := by
          rintro rfl
          rw [hempty] at hlane
          cases hlane
        have hfirst' : order.find? (fun i => !(lanes i).isEmpty) = some lane := by
          simpa [hempty] using hfirst
        rw [Function.update_of_ne hne, hempty, List.nil_append, List.nil_append, ih hnd hfirst']
      · have heq : i = lane := by simpa [hempty] using hfirst
        subst heq
        rw [Function.update_self, flatMap_update_of_notMem lanes rest hi, hlane,
          List.cons_append]

theorem Strict.stored_eq {q : OutboundPriorityQueue} (h : q.Strict) :
    q.stored = laneOrder.flatMap q.lanes := by
  rw [stored, priorityItems, h.no_stream, h.wf.sorted_nil h.lane_mode]
  rfl

/-- A pop takes the front of the lanes, taken together. -/
theorem Strict.pop_eq {q : OutboundPriorityQueue} (h : q.Strict) (hne : q.total ≠ 0) (now : Nat) :
    ∃ e q', q.pop now = (some e, q') ∧
      laneOrder.flatMap q.lanes = e :: laneOrder.flatMap q'.lanes ∧
      q'.total = q.total - 1 ∧ q'.Strict := by
  have hitems : laneOrder.flatMap q.lanes ≠ [] := by
    intro hnil
    exact hne (by rw [h.wf.total_eq, h.stored_eq, hnil]; rfl)
  obtain ⟨busy, hbusy⟩ := q.lanes_ne_nil_iff.mp hitems
  rcases hf : laneOrder.find? (fun i => !(q.lanes i).isEmpty) with - | lane
  · have := List.find?_eq_none.mp hf busy (mem_laneOrder busy)
    simp [hbusy] at this
  have hlane : q.lanes lane ≠ [] := by simpa using List.find?_some hf
  obtain ⟨e, rest, hcons⟩ := List.exists_cons_of_ne_nil hlane
  obtain ⟨e', q', hpop', htakes⟩ := popLane_spec q hlane
  have hq' : q.popLane lane = (some e,
      { q with lanes := Function.update q.lanes lane rest, total := q.total - 1 }) := by
    simp only [popLane, hcons]
  rw [hq', Prod.mk.injEq] at hpop'
  obtain ⟨-, rfl⟩ := hpop'
  have hpop : q.pop now = q.popLane lane := by
    rw [h.wf.pop_of_no_stream h.no_stream hne now]
    simp only [popPriority, popStrict, h.lane_mode, Option.isSome_none, Bool.false_eq_true,
      if_false, h.max_eq, if_true, hf]
  refine ⟨e, _, hpop.trans hq', flatMap_update_first q.lanes hcons nodup_laneOrder hf, rfl, ?_⟩
  exact ⟨h.wf.takes htakes, h.lane_mode, h.max_eq, h.no_stream⟩

/-- Strict lanes are popped lane by lane. -/
theorem Strict.popMany_eq {q : OutboundPriorityQueue} (h : q.Strict) {nows : List Nat}
    (hlen : q.total ≤ nows.length) : (popMany nows q).1 = laneOrder.flatMap q.lanes := by
  refine OutboundPriorityQueue.popMany_eq Strict (fun _ => True)
    (fun q => laneOrder.flatMap q.lanes) ?_ ?_ h (fun _ _ => trivial) hlen
  · intro q h hempty
    rw [← h.stored_eq, ← List.length_eq_zero_iff, ← h.wf.total_eq, hempty]
  · intro q now h _ hne
    exact h.pop_eq hne now

/-- The lane of an envelope. -/
def laneOf (e : WireEnvelope) : Fin 5 := laneIndexFromPriority (extractPriority e)

/-- Push the envelopes one after the other, each at its own instant. -/
def pushMany (q : OutboundPriorityQueue) (batch : List (WireEnvelope × Nat)) :
    OutboundPriorityQueue :=
  batch.foldl (fun q entry => (q.push entry.1 entry.2).2) q

/-- The envelopes of a batch for which the queue has room. -/
def admitted (q : OutboundPriorityQueue) (batch : List (WireEnvelope × Nat)) :
    List WireEnvelope :=
  (if q.capacity = 0 then batch else batch.take (q.capacity - q.total)).map (·.1)

theorem push_lane {q : OutboundPriorityQueue} (hc : q.comparer = none) (hfull : ¬ q.Full)
    {e : WireEnvelope} (he : routed e = .priority) (now : Nat) :
    (q.push e now).2 = { q with
      lanes := Function.update q.lanes (laneOf e) (q.lanes (laneOf e) ++ [e]),
      total := q.total + 1 } := by
  rcases push_cases hfull e now with ⟨hside, -⟩ | ⟨-, hsome, -⟩ | ⟨-, -, hpush⟩
  · rw [he] at hside
    cases hside
  · exact absurd hc hsome
  · rw [hpush]
    rfl

theorem admitted_of_full {q : OutboundPriorityQueue} (h : q.Full)
    (batch : List (WireEnvelope × Nat)) : q.admitted batch = [] := by
  have hzero : q.capacity - q.total = 0 := Nat.sub_eq_zero_of_le h.2
  rw [admitted, if_neg h.1.ne', hzero]
  rfl

theorem admitted_cons {q q' : OutboundPriorityQueue} (h : ¬ q.Full)
    (hcap : q'.capacity = q.capacity) (htotal : q'.total = q.total + 1)
    (entry : WireEnvelope × Nat) (batch : List (WireEnvelope × Nat)) :
    q.admitted (entry :: batch) = entry.1 :: q'.admitted batch := by
  have hroom : ¬ (0 < q.capacity ∧ q.capacity ≤ q.total) := h
  simp only [admitted, hcap, htotal]
  split
  · rfl
  · next hpos =>
    have hsucc : q.capacity - q.total = q.capacity - (q.total + 1) + 1 := by omega
    rw [hsucc]
    rfl

/-- Each lane takes, at its end, the envelopes of the batch that belong to
it. -/
theorem Strict.pushMany {q : OutboundPriorityQueue} (h : q.Strict)
    {batch : List (WireEnvelope × Nat)} (hbatch : ∀ entry ∈ batch, routed entry.1 = .priority) :
    (q.pushMany batch).Strict ∧ (q.pushMany batch).total = q.total + (q.admitted batch).length ∧
      ∀ lane, (q.pushMany batch).lanes lane
        = q.lanes lane ++ (q.admitted batch).filter (laneOf · = lane) := by
  induction batch generalizing q with
  | nil =>
      have hnone : q.admitted [] = [] := by simp [admitted]
      rw [hnone]
      exact ⟨h, rfl, fun lane => (List.append_nil _).symm⟩
  | cons entry batch ih =>
      have hlater := fun e he => hbatch e (List.mem_cons_of_mem entry he)
      have hcons : q.pushMany (entry :: batch)
          = (q.push entry.1 entry.2).2.pushMany batch := rfl
      rw [hcons]
      by_cases hfull : q.Full
      · -- a full queue stays as it is
        have hsame : (q.push entry.1 entry.2).2 = q := by rw [push_of_full hfull]
        have := ih h hlater
        rw [admitted_of_full hfull] at this
        rw [hsame, admitted_of_full hfull]
        exact this
      · have hentry := hbatch entry List.mem_cons_self
        have hpush := push_lane h.lane_mode hfull hentry entry.2
        obtain ⟨q', hq', hputs⟩ := push_spec hfull entry.1 entry.2
        have hsnd : (q.push entry.1 entry.2).2 = q' := by rw [hq']
        rw [hsnd] at hpush ⊢
        have h' : q'.Strict := by
          refine ⟨h.wf.puts hfull hputs, hputs.comparer_eq.trans h.lane_mode, ?_, ?_⟩
          · rw [hpush]
            exact h.max_eq
          · rw [hpush]
            exact h.no_stream
        obtain ⟨hstrict, htotal, hlanes⟩ := ih h' hlater
        rw [admitted_cons hfull hputs.capacity_eq hputs.total_eq]
        refine ⟨hstrict, ?_, fun lane => ?_⟩
        · rw [htotal, hputs.total_eq, List.length_cons]
          omega
        · have hq'lanes : q'.lanes = Function.update q.lanes (laneOf entry.1)
              (q.lanes (laneOf entry.1) ++ [entry.1]) := by rw [hpush]
          rw [hlanes, hq'lanes]
          by_cases hlane : laneOf entry.1 = lane
          · subst hlane
            rw [Function.update_self, List.append_assoc,
              List.filter_cons_of_pos (by simp)]
            rfl
          · rw [Function.update_of_ne (Ne.symm hlane),
              List.filter_cons_of_neg (by simpa using hlane)]

/-- Strict lanes give a batch back sorted by lane, and each lane's envelopes
in the order in which they were pushed. -/
theorem Strict.popMany_pushMany {q : OutboundPriorityQueue} (h : q.Strict) (hempty : q.total = 0)
    {batch : List (WireEnvelope × Nat)} (hbatch : ∀ entry ∈ batch, routed entry.1 = .priority)
    {nows : List Nat} (hlen : (q.admitted batch).length ≤ nows.length) :
    (popMany nows (q.pushMany batch)).1
      = (q.admitted batch).insertionSort (fun a b => laneOf a ≤ laneOf b) := by
  obtain ⟨hstrict, htotal, hlanes⟩ := h.pushMany hbatch
  have hnil : laneOrder.flatMap q.lanes = [] := by
    rw [← h.stored_eq, ← List.length_eq_zero_iff, ← h.wf.total_eq, hempty]
  have hlane : ∀ lane, (q.pushMany batch).lanes lane
      = (q.admitted batch).filter (laneOf · = lane) := by
    intro lane
    rw [hlanes, List.flatMap_eq_nil_iff.mp hnil lane (mem_laneOrder lane), List.nil_append]
  have hlen' : (q.pushMany batch).total ≤ nows.length := by
    rw [htotal, hempty, Nat.zero_add]
    exact hlen
  rw [hstrict.popMany_eq hlen', funext hlane]
  exact flatMap_filter_eq_insertionSort laneOf (by decide) fun e _ => mem_laneOrder (laneOf e)

/-! ### The comparer scan -/

/-- `x` is `Less` than `y` for the comparer at the instant. -/
def Before (comparer : WireEnvelopeComparer) (now : Nat) (x y : QueuedEnvelope) : Prop :=
  comparer x.metadata y.metadata now = .lt

instance Before.decidable (comparer : WireEnvelopeComparer) (now : Nat) :
    DecidableRel (Before comparer now) := fun _ _ => inferInstanceAs (Decidable (_ = _))

/-- The scan ends on the first minimal entry: `pre ++ x :: post` is what it
has looked at so far, with the best entry at the index `pre.length`. -/
theorem scanBest_spec {less : QueuedEnvelope → QueuedEnvelope → Bool}
    [IsStrictWeakOrder QueuedEnvelope (fun a b => less a b = true)]
    (xs pre : List QueuedEnvelope) (x : QueuedEnvelope) (post : List QueuedEnvelope)
    (h : FirstMin (fun a b => less a b = true) pre x post) :
    ∃ pre' x' post', pre ++ x :: post ++ xs = pre' ++ x' :: post' ∧
      FirstMin (fun a b => less a b = true) pre' x' post' ∧
      scanBest less xs (pre ++ x :: post).length (pre.length, x) = (pre'.length, x') := by
  induction xs generalizing pre x post with
  | nil => exact ⟨pre, x, post, List.append_nil _, h, rfl⟩
  | cons y xs ih =>
      by_cases hless : less y x = true
      · -- `y` becomes the best entry
        obtain ⟨pre', x', post', hsplit, hmin, hscan⟩ :=
          ih (pre ++ x :: post) y [] (h.extend_of_rel hless)
        refine ⟨pre', x', post', ?_, hmin, ?_⟩
        · rw [← hsplit, List.append_assoc (pre ++ x :: post) [y] xs]
          rfl
        · have hlen : (pre ++ x :: post ++ [y]).length = (pre ++ x :: post).length + 1 :=
            List.length_append
          rw [← hscan, scanBest, if_pos hless, hlen]
      · obtain ⟨pre', x', post', hsplit, hmin, hscan⟩ :=
          ih pre x (post ++ [y]) (h.extend_of_not_rel hless)
        refine ⟨pre', x', post', ?_, hmin, ?_⟩
        · rw [← hsplit]
          simp
        · have hlen : (pre ++ x :: post).length + 1 = (pre ++ x :: (post ++ [y])).length := by
            simp
            omega
          rw [← hscan, scanBest, if_neg hless, hlen]

/-- A scan that starts on the first entry, by a test for the order `r`. -/
theorem scanBest_firstMin {less : QueuedEnvelope → QueuedEnvelope → Bool}
    {r : QueuedEnvelope → QueuedEnvelope → Prop} [IsStrictWeakOrder QueuedEnvelope r]
    (hless : ∀ a b, less a b = true ↔ r a b) (first : QueuedEnvelope)
    (rest : List QueuedEnvelope) :
    ∃ pre x post, first :: rest = pre ++ x :: post ∧ FirstMin r pre x post ∧
      scanBest less rest 1 (0, first) = (pre.length, x) := by
  have hr : (fun a b => less a b = true) = r := by
    funext a b
    exact propext (hless a b)
  subst hr
  exact scanBest_spec rest [] first [] (firstMin_singleton (fun a b => less a b = true) first)

/-- `self.sorted.remove(best)` for the entry the scan ends on. -/
theorem popComparer_of_scan {q : OutboundPriorityQueue} {comparer : WireEnvelopeComparer}
    (hc : q.comparer = some comparer) {first x : QueuedEnvelope}
    {rest pre post : List QueuedEnvelope} (hsorted : q.sorted = first :: rest)
    (hsplit : q.sorted = pre ++ x :: post) {now : Nat}
    (hscan : scanBest (fun x y => comparer x.metadata y.metadata now == .lt) rest 1 (0, first)
      = (pre.length, x)) :
    q.popComparer now
      = (some x.envelope, { q with sorted := pre ++ post, total := q.total - 1 }) := by
  have hget : q.sorted[pre.length]? = some x := by
    rw [hsplit]
    simp
  have herase : q.sorted.eraseIdx pre.length = pre ++ post := by
    rw [hsplit, List.eraseIdx_append_of_length_le (Nat.le_refl _)]
    simp
  rw [hsorted] at hget herase
  simp only [popComparer, hc, hsorted, hscan, hget, herase]

/-- A pop in comparer mode takes out the first minimal entry. -/
theorem popComparer_eq {q : OutboundPriorityQueue} {comparer : WireEnvelopeComparer}
    (hc : q.comparer = some comparer) (hne : q.sorted ≠ []) (now : Nat)
    [IsStrictWeakOrder QueuedEnvelope (Before comparer now)] :
    ∃ pre x post, q.sorted = pre ++ x :: post ∧ FirstMin (Before comparer now) pre x post ∧
      q.popComparer now
        = (some x.envelope, { q with sorted := pre ++ post, total := q.total - 1 }) := by
  obtain ⟨first, rest, hsorted⟩ := List.exists_cons_of_ne_nil hne
  have hless : ∀ a b : QueuedEnvelope,
      (comparer a.metadata b.metadata now == .lt) = true ↔ Before comparer now a b :=
    fun _ _ => beq_iff_eq
  obtain ⟨pre, x, post, hsplit, hmin, hscan⟩ := scanBest_firstMin hless first rest
  have hsplit : q.sorted = pre ++ x :: post := hsorted.trans hsplit
  exact ⟨pre, x, post, hsplit, hmin, popComparer_of_scan hc hsorted hsplit hscan⟩

/-- A well-formed queue in comparer mode without stream items. -/
structure Compared (comparer : WireEnvelopeComparer) (q : OutboundPriorityQueue) : Prop where
  wf : q.Wf
  comparer_eq : q.comparer = some comparer
  no_stream : q.streamFifo = []

theorem Compared.stored_eq {comparer : WireEnvelopeComparer} {q : OutboundPriorityQueue}
    (h : q.Compared comparer) : q.stored = q.sorted.map (·.envelope) := by
  have hlanes : laneOrder.flatMap q.lanes = [] :=
    List.flatMap_eq_nil_iff.mpr fun lane _ => h.wf.lanes_nil (by simp [h.comparer_eq]) lane
  rw [stored, priorityItems, h.no_stream, hlanes, List.append_nil]
  rfl

theorem Compared.total_eq {comparer : WireEnvelopeComparer} {q : OutboundPriorityQueue}
    (h : q.Compared comparer) : q.total = q.sorted.length := by
  rw [h.wf.total_eq, h.stored_eq, List.length_map]

theorem Compared.pop_eq_popComparer {comparer : WireEnvelopeComparer} {q : OutboundPriorityQueue}
    (h : q.Compared comparer) (hne : q.sorted ≠ []) (now : Nat) :
    q.pop now = q.popComparer now := by
  have htotal : q.total ≠ 0 := by
    rw [h.total_eq]
    exact (List.length_pos_iff.mpr hne).ne'
  rw [h.wf.pop_of_no_stream h.no_stream htotal now]
  simp only [popPriority, h.comparer_eq, Option.isSome_some, if_true]

theorem Compared.pop_eq {comparer : WireEnvelopeComparer} {q : OutboundPriorityQueue}
    (h : q.Compared comparer) (hne : q.sorted ≠ []) (now : Nat)
    [IsStrictWeakOrder QueuedEnvelope (Before comparer now)] :
    ∃ pre x post, q.sorted = pre ++ x :: post ∧ FirstMin (Before comparer now) pre x post ∧
      q.pop now = (some x.envelope, { q with sorted := pre ++ post, total := q.total - 1 }) := by
  rw [h.pop_eq_popComparer hne now]
  exact popComparer_eq h.comparer_eq hne now

/-- Pops at one instant return the stable sort by the comparer. -/
theorem Compared.popMany_eq {comparer : WireEnvelopeComparer} {q : OutboundPriorityQueue}
    (h : q.Compared comparer) (now : Nat)
    [IsStrictWeakOrder QueuedEnvelope (Before comparer now)] {n : Nat} (hlen : q.total ≤ n) :
    (popMany (List.replicate n now) q).1
      = (q.sorted.insertionSort fun a b => ¬ Before comparer now b a).map (·.envelope) := by
  refine OutboundPriorityQueue.popMany_eq (Compared comparer) (· = now)
    (fun q => (q.sorted.insertionSort fun a b => ¬ Before comparer now b a).map (·.envelope))
    ?_ ?_ h (fun _ ht => List.eq_of_mem_replicate ht) (hlen.trans_eq List.length_replicate.symm)
  · intro q h hempty
    rw [h.total_eq, List.length_eq_zero_iff] at hempty
    rw [hempty]
    rfl
  · intro q t h ht hne
    subst ht
    have hsorted : q.sorted ≠ [] := by
      intro hnil
      exact hne (by rw [h.total_eq, hnil]; rfl)
    obtain ⟨pre, x, post, hsplit, hmin, hpop⟩ := h.pop_eq hsorted t
    refine ⟨x.envelope, _, hpop, ?_, rfl, ?_⟩
    · rw [hsplit, insertionSort_of_firstMin hmin]
      rfl
    · obtain ⟨side, e, q', hpop', htakes, -⟩ := h.wf.pop_spec hne t
      rw [hpop, Prod.mk.injEq] at hpop'
      obtain ⟨-, rfl⟩ := hpop'
      exact ⟨h.wf.takes htakes, h.comparer_eq, h.no_stream⟩

end OutboundPriorityQueue

/-! ### The comparers of the source -/

/-- `Less` is a strict weak order at the instant. -/
def StrictWeak (comparer : WireEnvelopeComparer) (now : Nat) : Prop :=
  IsStrictWeakOrder EnvelopeMetadata fun a b => comparer a b now = .lt

theorem StrictWeak.before {comparer : WireEnvelopeComparer} {now : Nat}
    (h : StrictWeak comparer now) : IsStrictWeakOrder QueuedEnvelope (Before comparer now) :=
  have : IsStrictWeakOrder EnvelopeMetadata fun a b => comparer a b now = .lt := h
  inferInstanceAs (IsStrictWeakOrder QueuedEnvelope
    (Function.onFun (fun a b => comparer a b now = .lt) QueuedEnvelope.metadata))

/-- A comparer that compares by a key. -/
theorem strictWeak_of_key {κ : Type*} [LinearOrder κ] (key : EnvelopeMetadata → κ)
    {comparer : WireEnvelopeComparer} {now : Nat}
    (h : ∀ a b, comparer a b now = .lt ↔ key a < key b) : StrictWeak comparer now where
  irrefl a hlt := lt_irrefl _ ((h a a).mp hlt)
  trans a b c hab hbc := (h a c).mpr (((h a b).mp hab).trans ((h b c).mp hbc))
  incomp_trans a b c hab hbc := by
    simp only [h, not_lt] at hab hbc ⊢
    exact ⟨hbc.1.trans hab.1, hab.2.trans hbc.2⟩

theorem compare_priority (a b : UInt8) : compare a b = .lt ↔ a.toNat < b.toNat := by
  rw [← UInt8.lt_iff_toNat_lt]
  exact compareOfLessAndEq_eq_lt

theorem strictWeak_strictPriority (now : Nat) : StrictWeak strictPriorityWireComparer now :=
  strictWeak_of_key (·.priority.toNat) fun _ _ => compare_priority _ _

/-- Aged entries come first, by enqueue time; the others by priority. -/
def agingKey (maxAge now : Nat) (a : EnvelopeMetadata) : Nat ×ₗ Nat :=
  if maxAge ≤ durationSince now a.enqueuedAt then toLex (0, a.enqueuedAt)
  else toLex (1, a.priority.toNat)

theorem strictWeak_aging (maxAge now : Nat) : StrictWeak (agingWireComparer maxAge) now := by
  apply strictWeak_of_key (agingKey maxAge now)
  intro a b
  -- the two keys compare across the boundary by their first component only
  by_cases ha : maxAge ≤ durationSince now a.enqueuedAt <;>
    by_cases hb : maxAge ≤ durationSince now b.enqueuedAt <;>
    simp [agingWireComparer, agingKey, ha, hb, Prod.Lex.toLex_lt_toLex, compare_lt_iff_lt,
      compare_priority]

/-! ### Entries wait in the order in which they came -/

namespace OutboundPriorityQueue

/-- The vector and the lanes of `q'` are those of `q` with entries left out. -/
structure Shrinks (q q' : OutboundPriorityQueue) : Prop where
  sorted : q'.sorted.Sublist q.sorted
  lanes : ∀ lane, (q'.lanes lane).Sublist (q.lanes lane)

theorem Shrinks.refl (q : OutboundPriorityQueue) : q.Shrinks q :=
  ⟨List.Sublist.refl _, fun _ => List.Sublist.refl _⟩

theorem popLane_shrinks (q : OutboundPriorityQueue) (lane : Fin 5) :
    q.Shrinks (q.popLane lane).2 := by
  unfold popLane
  split
  · exact .refl q
  · next e rest hlane =>
    refine ⟨List.Sublist.refl _, fun i => ?_⟩
    show (Function.update q.lanes lane rest i).Sublist (q.lanes i)
    by_cases hi : i = lane
    · subst hi
      rw [Function.update_self, hlane]
      exact List.sublist_cons_self e rest
    · rw [Function.update_of_ne hi]

theorem popStrict_shrinks (q : OutboundPriorityQueue) : q.Shrinks q.popStrict.2 := by
  unfold popStrict
  split
  · exact .refl q
  · exact q.popLane_shrinks _

theorem popCurrent_shrinks (q : OutboundPriorityQueue) : q.Shrinks q.popCurrent.2 := by
  have hlane := q.popLane_shrinks q.currentLane
  unfold popCurrent
  split
  · next hpop => rwa [hpop] at hlane
  · next hpop =>
    rw [hpop] at hlane
    exact ⟨hlane.sorted, hlane.lanes⟩

theorem popFair_shrinks (q : OutboundPriorityQueue) : q.Shrinks q.popFair.2 := by
  -- moving the cursor changes neither the vector nor the lanes
  have hmove : ∀ (lane : Fin 5) (count : Nat), q.Shrinks (popCurrent
      { q with currentLane := lane, consecutiveFromLane := count }).2 := by
    intro lane count
    have hcurrent := popCurrent_shrinks { q with currentLane := lane, consecutiveFromLane := count }
    exact ⟨hcurrent.sorted, hcurrent.lanes⟩
  simp only [popFair]
  split
  · split
    · exact ⟨List.Sublist.refl _, fun _ => List.Sublist.refl _⟩
    · exact hmove _ _
  · split
    · split
      · exact ⟨List.Sublist.refl _, fun _ => List.Sublist.refl _⟩
      · exact hmove _ _
    · exact q.popCurrent_shrinks

theorem popComparer_shrinks (q : OutboundPriorityQueue) (now : Nat) :
    q.Shrinks (q.popComparer now).2 := by
  simp only [popComparer]
  split
  · exact .refl q
  · exact .refl q
  · split
    · exact .refl q
    · exact ⟨List.eraseIdx_sublist _ _, fun _ => List.Sublist.refl _⟩

/-- A pop takes entries out and leaves the rest in order. -/
theorem Wf.pop_shrinks {q : OutboundPriorityQueue} (h : q.Wf) (now : Nat) :
    q.Shrinks (q.pop now).2 := by
  by_cases hempty : q.total = 0
  · rw [pop_of_empty hempty]
    exact .refl q
  rw [h.pop_eq hempty now]
  split
  · unfold popPriority
    split
    · exact q.popComparer_shrinks now
    · split
      · exact q.popStrict_shrinks
      · exact q.popFair_shrinks
  · unfold popStream
    split <;> exact ⟨List.Sublist.refl _, fun _ => List.Sublist.refl _⟩

theorem push_sorted {q : OutboundPriorityQueue} (hfull : ¬ q.Full) (e : WireEnvelope)
    (now : Nat) : (q.push e now).2.sorted = q.sorted ∨
      (q.push e now).2.sorted = q.sorted ++ [⟨e, ⟨extractPriority e, now⟩⟩] := by
  rcases push_cases hfull e now with ⟨-, hpush⟩ | ⟨-, -, hpush⟩ | ⟨-, -, hpush⟩
  · exact .inl (by rw [hpush])
  · exact .inr (by rw [hpush])
  · exact .inl (by rw [hpush])

end OutboundPriorityQueue

/-- The entries of the vector stand in the order in which they were
accepted. -/
structure Ledger.Queued (s : Ledger) : Prop where
  wf : s.queue.Wf
  order : (s.queue.sorted.map (·.envelope)).Sublist s.accepted

theorem Ledger.Queued.step {s : Ledger} (op : QueueOp) (h : s.Queued) : (s.step op).Queued := by
  cases op with
  | push e now =>
      by_cases hfull : s.queue.Full
      · simp only [Ledger.step, push_of_full hfull]
        exact h
      · obtain ⟨q', hpush, hputs⟩ := push_spec hfull e now
        have hq' : (s.queue.push e now).2 = q' := by rw [hpush]
        simp only [Ledger.step, hpush]
        refine ⟨h.wf.puts hfull hputs, ?_⟩
        show (q'.sorted.map (·.envelope)).Sublist (s.accepted ++ [e])
        rcases hq' ▸ push_sorted hfull e now with hsorted | hsorted
        · rw [hsorted]
          exact h.order.trans (List.sublist_append_left _ _)
        · rw [hsorted, List.map_append]
          exact h.order.append_right [e]
  | pop now =>
      have hshrinks := h.wf.pop_shrinks now
      by_cases hempty : s.queue.total = 0
      · simp only [Ledger.step, pop_of_empty hempty]
        exact h
      · obtain ⟨side, e, q', hpop, htakes, -⟩ := h.wf.pop_spec hempty now
        rw [hpop] at hshrinks
        simp only [Ledger.step, hpop]
        exact ⟨h.wf.takes htakes, (hshrinks.sorted.map _).trans h.order⟩
  | peek => exact h
  | drainOrdered =>
      simp only [Ledger.step, h.wf.drainOrdered_spec.1]
      exact ⟨wf_clear _, List.nil_sublist _⟩
  | clear => exact ⟨wf_clear _, List.nil_sublist _⟩

theorem Ledger.queued (cfg : QueueConfig) (ops : List QueueOp) :
    (run Ledger.step (.start cfg) ops).Queued := by
  apply run_induction (fun s op h => h.step op) ops
  refine ⟨cfg.build_spec.1, ?_⟩
  cases cfg <;> exact List.nil_sublist _

/-! ### Selection -/

/-- **Priority selection is stable and minimal.**  In comparer mode, without
stream items and for a comparer that is a strict weak order at the instant,
the entries wait in the order in which they were accepted, and a pop takes
out an entry that none is `Less` than and that is `Less` than every earlier
one; pops at that instant return the stable sort.  Both comparers of the
source are strict weak orders at every instant.  In strict lane mode, pops
return what the queue admits of a batch stably sorted by lane, an envelope
without a priority counting as normal. -/
theorem selection_stable :
    (∀ (cfg : QueueConfig) (ops : List QueueOp) (comparer : WireEnvelopeComparer) (now : Nat),
      let s := run Ledger.step (.start cfg) ops
      let q := s.queue
      q.streamFifo = [] → q.comparer = some comparer → StrictWeak comparer now →
        (q.sorted.map (·.envelope)).Sublist s.accepted ∧
        (q.sorted ≠ [] → ∃ pre x post, q.sorted = pre ++ x :: post ∧
          q.pop now = (some x.envelope, { q with sorted := pre ++ post, total := q.total - 1 }) ∧
          (∀ y ∈ q.sorted, ¬ Before comparer now y x) ∧ (∀ y ∈ pre, Before comparer now x y)) ∧
        ∀ n, q.total ≤ n → (popMany (List.replicate n now) q).1
          = (q.sorted.insertionSort fun a b => ¬ Before comparer now b a).map (·.envelope)) ∧
    (∀ now, StrictWeak strictPriorityWireComparer now) ∧
    (∀ maxAge now, StrictWeak (agingWireComparer maxAge) now) ∧
    (∀ (cfg : QueueConfig) (ops : List QueueOp) (batch : List (WireEnvelope × Nat))
        (nows : List Nat),
      let q := (run Ledger.step (.start cfg) ops).queue
      q.comparer = none → q.maxConsecutive = 0 → q.total = 0 →
      (∀ entry ∈ batch, routed entry.1 = .priority) →
      (q.admitted batch).length ≤ nows.length →
        (popMany nows (q.pushMany batch)).1
          = (q.admitted batch).insertionSort fun a b => laneOf a ≤ laneOf b) ∧
    (∀ e : WireEnvelope,
      e.headers.get priorityHeaderName = none ∨ e.headers.get priorityHeaderName = some [] →
        laneOf e = laneIndexFromPriority Priority.normal.value) := by
  refine ⟨?_, strictWeak_strictPriority, strictWeak_aging, ?_, ?_⟩
  · intro cfg ops comparer now s q hstream hc hweak
    have hq := Ledger.queued cfg ops
    have hcompared : q.Compared comparer := ⟨hq.wf, hc, hstream⟩
    have := hweak.before
    refine ⟨hq.order, fun hne => ?_, fun n hn => hcompared.popMany_eq now hn⟩
    obtain ⟨pre, x, post, hsplit, hmin, hpop⟩ := hcompared.pop_eq hne now
    refine ⟨pre, x, post, hsplit, hpop, ?_, hmin.earlier⟩
    rw [hsplit]
    exact hmin.minimal
  · intro cfg ops batch nows q hc hmax hempty hbatch hlen
    have hwf : q.Wf := (Ledger.queued cfg ops).wf
    -- an empty queue has no stream items
    have hstored : q.stored = [] := by rw [← List.length_eq_zero_iff, ← hwf.total_eq, hempty]
    have hstrict : q.Strict := ⟨hwf, hc, hmax, (List.append_eq_nil_iff.mp hstored).1⟩
    exact hstrict.popMany_pushMany hempty hbatch hlen
  · rintro e (h | h)
    · simp [laneOf, extractPriority, h]
    · simp [laneOf, extractPriority, h]

/-- A background envelope and, a hundred ticks later, a critical one. -/
def agedRun : List QueueOp :=
  [.push (sampleEnvelope .tell 255 1) 0, .push (sampleEnvelope .tell 0 2) 100]

/-- The same two for strict lanes. -/
def agedBatch : List (WireEnvelope × Nat) :=
  [(sampleEnvelope .tell 255 1, 0), (sampleEnvelope .tell 0 2, 100)]

theorem selection_stable_agedRun :
    let q := (run Ledger.step (.start (.withComparer (agingWireComparer 50) 0)) agedRun).queue
    (popMany [100, 100] q).1
        = (q.sorted.insertionSort fun a b => ¬ Before (agingWireComparer 50) 100 b a).map
            (·.envelope) ∧
      (popMany [100, 100] (OutboundPriorityQueue.new.pushMany agedBatch)).1
        = (OutboundPriorityQueue.new.admitted agedBatch).insertionSort
            fun a b => laneOf a ≤ laneOf b :=
  ⟨(selection_stable.1 (.withComparer (agingWireComparer 50) 0) agedRun _ 100 rfl rfl
      (strictWeak_aging 50 100)).2.2 2 (by decide),
    selection_stable.2.2.2.1 .new [] agedBatch [100, 100] rfl rfl rfl (by decide) (by decide)⟩

/-! ### Draining -/

/-- Of two entries the comparer calls the later one `Less` exactly when it
comes first by priority and enqueue time. -/
def AgreesWithDrain (comparer : WireEnvelopeComparer) (now : Nat) (entries : List QueuedEnvelope) :
    Prop :=
  entries.Pairwise fun a b => Before comparer now b a ↔ ¬ drainLe a b

/-- The strict comparer does, if the clock does not go back. -/
theorem strictPriority_agrees {entries : List QueuedEnvelope}
    (h : entries.Pairwise fun a b => a.metadata.enqueuedAt ≤ b.metadata.enqueuedAt) (now : Nat) :
    AgreesWithDrain strictPriorityWireComparer now entries := by
  refine h.imp fun {a b} hle => ?_
  have hlt : Before strictPriorityWireComparer now b a
      ↔ b.metadata.priority.toNat < a.metadata.priority.toNat := compare_priority _ _
  rw [hlt]
  simp only [drainLe, hle, and_true, UInt8.lt_iff_toNat_lt, ← UInt8.toNat_inj]
  omega

/-- **Draining agrees with popping** on a queue without stream items, in
strict lane mode.  In comparer mode a drain sorts by priority and enqueue
time, whatever the comparer; that is the order of the pops at an instant if
the comparer is a strict weak order then and agrees with the drain on the
stored entries, as the strict comparer does if the clock does not go back.
Either way the queue is left empty. -/
theorem drain_agrees_with_pops (cfg : QueueConfig) (ops : List QueueOp) :
    let q := (run Ledger.step (.start cfg) ops).queue
    q.streamFifo = [] →
      q.drainOrdered.2.stored = [] ∧ q.drainOrdered.2.total = 0 ∧
      (∀ nows, q.total ≤ nows.length → (popMany nows q).2.total = 0) ∧
      (q.comparer = none → q.maxConsecutive = 0 → ∀ nows, q.total ≤ nows.length →
        q.drainOrdered.1 = (popMany nows q).1) ∧
      ∀ comparer, q.comparer = some comparer →
        q.drainOrdered.1 = (q.sorted.insertionSort drainLe).map (·.envelope) ∧
        (∀ now n, q.total ≤ n → StrictWeak comparer now →
          AgreesWithDrain comparer now q.sorted →
          q.drainOrdered.1 = (popMany (List.replicate n now) q).1) ∧
        (comparer = strictPriorityWireComparer →
          (q.sorted.Pairwise fun a b => a.metadata.enqueuedAt ≤ b.metadata.enqueuedAt) →
          ∀ now n, q.total ≤ n → q.drainOrdered.1 = (popMany (List.replicate n now) q).1) := by
  intro q hstream
  have hwf : q.Wf := (Ledger.queued cfg ops).wf
  have hclear := hwf.drainOrdered_spec.1
  refine ⟨by rw [hclear, stored_clear], by rw [hclear]; rfl, fun nows => hwf.popMany_total, ?_, ?_⟩
  · intro hc hmax nows hlen
    have hstrict : q.Strict := ⟨hwf, hc, hmax, hstream⟩
    rw [hstrict.popMany_eq hlen]
    simp only [drainOrdered, isComparerMode, hc, Option.isSome_none, Bool.false_eq_true, if_false,
      hstream, List.nil_append]
  · intro comparer hc
    have hcompared : q.Compared comparer := ⟨hwf, hc, hstream⟩
    have hdrain : q.drainOrdered.1 = (q.sorted.insertionSort drainLe).map (·.envelope) := by
      simp only [drainOrdered, isComparerMode, hc, Option.isSome_some, if_true, hstream,
        List.nil_append]
    have hagree : ∀ now n, q.total ≤ n → StrictWeak comparer now →
        AgreesWithDrain comparer now q.sorted →
        q.drainOrdered.1 = (popMany (List.replicate n now) q).1 := by
      intro now n hlen hweak hagrees
      have := hweak.before
      rw [hdrain, hcompared.popMany_eq now hlen]
      apply congrArg (List.map _)
      apply insertionSort_congr
      exact hagrees.imp fun hiff => (not_iff_comm.mp hiff.symm).symm
    refine ⟨hdrain, hagree, ?_⟩
    rintro rfl htimes now n hlen
    exact hagree now n hlen (strictWeak_strictPriority now) (strictPriority_agrees htimes now)

theorem drain_agrees_with_pops_agedRun :
    let q := (run Ledger.step (.start (.withComparer strictPriorityWireComparer 0)) agedRun).queue
    q.drainOrdered.1 = (popMany (List.replicate 2 100) q).1 :=
  ((drain_agrees_with_pops (.withComparer strictPriorityWireComparer 0) agedRun rfl).2.2.2.2
    strictPriorityWireComparer rfl).2.2 rfl (by decide) 100 2 (by decide)

/-- By age the background envelope goes first, and a drain puts the critical
one first. -/
theorem drain_agrees_with_pops_fails :
    ¬ ∀ (cfg : QueueConfig) (ops : List QueueOp) (comparer : WireEnvelopeComparer) (now n : Nat),
      let q := (run Ledger.step (.start cfg) ops).queue
      q.streamFifo = [] → q.comparer = some comparer → StrictWeak comparer now → q.total ≤ n →
        q.drainOrdered.1 = (popMany (List.replicate n now) q).1 := by
  intro h
  have heq := h (.withComparer (agingWireComparer 50) 0) agedRun _ 100 2 rfl rfl
    (strictWeak_aging 50 100) (by decide)
  exact absurd heq (by decide)

end Dactor
