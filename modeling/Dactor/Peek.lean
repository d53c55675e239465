/-
Dactor/Peek.lean

What `peek` says about the next `pop` of the outbound queue.

`peek` looks at the stream FIFO first and at the front of the first
non-empty lane, or the most urgent entry of the vector, after that.
`peek_predicts_pop` says for each mode, in every reachable queue, when the
next pop returns that envelope: always in strict lane mode; in fair lane
mode exactly when the cursor leads to the first non-empty lane; with stream
items exactly when it is their turn; in comparer mode when the comparer
orders the stored entries by priority.

That the envelopes are different ones in the other cases rests on where an
envelope can wait (`Placed`).
-/
import Dactor.FairLanes
import Dactor.QueueOrder

namespace Dactor

open Runs Selection OutboundPriorityQueue

namespace OutboundPriorityQueue

/-! ### Where an envelope waits -/

/-- Every envelope waits on the side, and in the lane, it belongs to. -/
structure Placed (q : OutboundPriorityQueue) : Prop where
  wf : q.Wf
  fifo : ∀ e ∈ q.streamFifo, routed e = .stream
  priority : ∀ e ∈ q.priorityItems, routed e = .priority
  lanes : ∀ lane, ∀ e ∈ q.lanes lane, laneOf e = lane

theorem push_lanes {q : OutboundPriorityQueue} (hfull : ¬ q.Full) (e : WireEnvelope)
    (now : Nat) : (q.push e now).2.lanes = q.lanes ∨ (q.push e now).2.lanes
      = Function.update q.lanes (laneOf e) (q.lanes (laneOf e) ++ [e]) := by
  rcases push_cases hfull e now with ⟨-, hpush⟩ | ⟨-, -, hpush⟩ | ⟨-, -, hpush⟩
  · exact .inl (by rw [hpush])
  · exact .inl (by rw [hpush])
  · exact .inr (by rw [hpush]; rfl)

theorem Placed.push {q : OutboundPriorityQueue} (h : q.Placed) (e : WireEnvelope) (now : Nat) :
    (q.push e now).2.Placed := by
  by_cases hfull : q.Full
  · rw [push_of_full hfull]
    exact h
  obtain ⟨q', hpush, hputs⟩ := push_spec hfull e now
  have hlanes := push_lanes hfull e now
  have hfifo := hputs.stream_eq
  have hprio := hputs.priority_perm
  rw [hpush] at hlanes ⊢
  refine ⟨h.wf.puts hfull hputs, ?_, ?_, ?_⟩
  -- on each side, and in each lane, at most the pushed envelope is new
  · intro x hx
    rw [show (_, q').2.streamFifo = _ from hfifo] at hx
    split at hx
    · next hside =>
      rcases List.mem_append.mp hx with hx | hx
      · exact h.fifo x hx
      · rw [List.mem_singleton.mp hx]
        exact hside
    · exact h.fifo x hx
  · intro x hx
    have hx := hprio.mem_iff.mp hx
    split at hx
    · next hside =>
      rcases List.mem_cons.mp hx with rfl | hx
      · exact hside
      · exact h.priority x hx
    · exact h.priority x hx
  · intro lane x hx
    rcases hlanes with hlanes | hlanes
    · rw [hlanes] at hx
      exact h.lanes lane x hx
    · rw [hlanes] at hx
      by_cases hlane : lane = laneOf e
      · subst hlane
        rw [Function.update_self] at hx
        rcases List.mem_append.mp hx with hx | hx
        · exact h.lanes _ x hx
        · rw [List.mem_singleton.mp hx]
      · rw [Function.update_of_ne hlane] at hx
        exact h.lanes lane x hx

theorem Placed.pop {q : OutboundPriorityQueue} (h : q.Placed) (now : Nat) :
    (q.pop now).2.Placed := by
  by_cases hempty : q.total = 0
  · rw [pop_of_empty hempty]
    exact h
  have hshrinks := h.wf.pop_shrinks now
  obtain ⟨side, e, q', hpop, htakes, -⟩ := h.wf.pop_spec hempty now
  rw [hpop] at hshrinks ⊢
  refine ⟨h.wf.takes htakes, ?_, ?_, fun lane x hx => h.lanes lane x ((hshrinks.lanes lane).mem hx)⟩
  · intro x hx
    apply h.fifo
    rw [htakes.stream_eq]
    split
    · exact List.mem_cons_of_mem e hx
    · exact hx
  · intro x hx
    apply h.priority
    rw [htakes.priority_perm.mem_iff]
    split
    · exact List.mem_cons_of_mem e hx
    · exact hx

theorem placed_clear (q : OutboundPriorityQueue) : q.clear.Placed := by
  refine ⟨wf_clear q, ?_, ?_, ?_⟩
  · simp [clear]
  · simp [clear, priorityItems]
  · simp [clear]

end OutboundPriorityQueue

theorem Ledger.step_placed {s : Ledger} (op : QueueOp) (h : s.queue.Placed) :
    (s.step op).queue.Placed := by
  cases op with
  | push e now =>
      have hpush := h.push e now
      simp only [Ledger.step]
      split
      · next hq => rwa [hq] at hpush
      · next hq => rwa [hq] at hpush
  | pop now =>
      have hpop := h.pop now
      simp only [Ledger.step]
      split
      · next hq => rwa [hq] at hpop
      · next hq => rwa [hq] at hpop
  | peek => exact h
  | drainOrdered =>
      simp only [Ledger.step, h.wf.drainOrdered_spec.1]
      exact placed_clear _
  | clear => exact placed_clear _

/-- In every reachable queue the envelopes are where they belong. -/
theorem Ledger.placed (cfg : QueueConfig) (ops : List QueueOp) :
    (run Ledger.step (.start cfg) ops).queue.Placed := by
  have hstart : (Ledger.start cfg).queue.Placed := by
    obtain ⟨hwf, hs, hp⟩ := cfg.build_spec
    refine ⟨hwf, by simp [Ledger.start, hs], by simp [Ledger.start, hp], ?_⟩
    cases cfg <;> simp [Ledger.start, QueueConfig.build, withConfig, withComparer,
      OutboundPriorityQueue.new]
  have hall : Always Ledger.step (fun s => s.queue.Placed) (.start cfg) ops := by
    apply always_induction
    · intro s op h
      exact Ledger.step_placed op h
    · exact hstart
  exact hall.last

/-! ### The lanes -/

namespace OutboundPriorityQueue

/-- The first non-empty lane. -/
def firstLane (q : OutboundPriorityQueue) : Option (Fin 5) :=
  laneOrder.find? fun lane => !(q.lanes lane).isEmpty

/-- The lane `pop_fair` takes from. -/
def fairLane (q : OutboundPriorityQueue) : Option (Fin 5) :=
  if q.maxConsecutive ≤ q.consecutiveFromLane then q.nextNonEmptyLane (q.currentLane + 1)
  else if (q.lanes q.currentLane).isEmpty then q.nextNonEmptyLane 0
  else some q.currentLane

theorem CursorMove.fairLane_eq {q : OutboundPriorityQueue} {lane : Fin 5} {count : Nat}
    (h : CursorMove q lane count) : q.fairLane = some lane := by
  cases h with
  | stays below busy =>
      have hbusy : (q.lanes q.currentLane).isEmpty = false := by simpa using busy
      rw [fairLane, if_neg (Nat.not_le_of_lt below), hbusy]
      rfl
  | onward reached next => rw [fairLane, if_pos reached, next]
  | restarts below idle next =>
      rw [fairLane, if_neg (Nat.not_le_of_lt below), idle]
      exact next

theorem findSome?_head? (lanes : Fin 5 → List WireEnvelope) (order : List (Fin 5)) :
    order.findSome? (fun lane => (lanes lane).head?)
      = (order.find? fun lane => !(lanes lane).isEmpty).bind fun lane => (lanes lane).head? := by
  induction order with
  | nil => rfl
  | cons lane order ih =>
      rcases hlane : lanes lane with - | ⟨e, rest⟩
      · simp [hlane, ih]
      · simp [hlane]

theorem peek_lanes {q : OutboundPriorityQueue} (hs : q.streamFifo = []) (hc : q.comparer = none) :
    q.peek = q.firstLane.bind fun lane => (q.lanes lane).head? := by
  simp only [peek, hs, isComparerMode, hc, Option.isSome_none, Bool.false_eq_true, if_false]
  exact findSome?_head? q.lanes laneOrder

theorem firstLane_spec {q : OutboundPriorityQueue} {busy : Fin 5} (h : q.lanes busy ≠ []) :
    ∃ lane, q.firstLane = some lane ∧ q.lanes lane ≠ [] := by
  rcases hf : q.firstLane with - | lane
  · have := List.find?_eq_none.mp hf busy (mem_laneOrder busy)
    simp [h] at this
  · exact ⟨lane, rfl, by simpa using List.find?_some hf⟩

/-- The fronts of two lanes are the same envelope only if the lanes are the
same. -/
theorem Placed.head?_eq_iff {q : OutboundPriorityQueue} (h : q.Placed) {lane lane' : Fin 5}
    (hlane : q.lanes lane ≠ []) :
    (q.lanes lane).head? = (q.lanes lane').head? ↔ lane' = lane := by
  constructor
  · intro heq
    obtain ⟨e, rest, hcons⟩ := List.exists_cons_of_ne_nil hlane
    rw [hcons, List.head?_cons] at heq
    have hmem : e ∈ q.lanes lane := by
      rw [hcons]
      exact List.mem_cons_self
    have hmem' : e ∈ q.lanes lane' := List.mem_of_mem_head? heq.symm
    exact (h.lanes lane' e hmem').symm.trans (h.lanes lane e hmem)
  · rintro rfl
    rfl

theorem exists_busy_lane {q : OutboundPriorityQueue} (h : q.Wf) (hs : q.streamFifo = [])
    (hc : q.comparer = none) (hne : q.total ≠ 0) : ∃ lane, q.lanes lane ≠ [] := by
  rw [← lanes_ne_nil_iff]
  intro hnil
  apply hne
  rw [h.total_eq, stored, priorityItems, hs, h.sorted_nil hc, hnil]
  rfl

theorem peek_of_empty {q : OutboundPriorityQueue} (h : q.Wf) (hempty : q.total = 0) :
    q.peek = none := by
  have hstored : q.stored = [] := by rw [← List.length_eq_zero_iff, ← h.total_eq, hempty]
  obtain ⟨hs, hp⟩ := List.append_eq_nil_iff.mp hstored
  obtain ⟨hsorted, hlanes⟩ := List.append_eq_nil_iff.mp hp
  have hlane : ∀ lane, q.lanes lane = [] := fun lane =>
    List.flatMap_eq_nil_iff.mp hlanes lane (mem_laneOrder lane)
  simp [peek, hs, List.map_eq_nil_iff.mp hsorted, hlane]

/-- A fair pop takes the front of the lane the cursor leads to. -/
theorem Placed.peek_fair_iff {q : OutboundPriorityQueue} (h : q.Placed) (hs : q.streamFifo = [])
    (hc : q.comparer = none) (hmax : q.maxConsecutive ≠ 0) (hne : q.total ≠ 0) (now : Nat) :
    q.peek = (q.pop now).1 ↔ q.fairLane = q.firstLane := by
  obtain ⟨busy, hbusy⟩ := exists_busy_lane h.wf hs hc hne
  obtain ⟨first, hfirst, hlane⟩ := firstLane_spec hbusy
  obtain ⟨lane, count, hmove, -, hfair⟩ := popFair_eq q hbusy
  have hpop : q.pop now = q.popFair := by
    rw [h.wf.pop_of_no_stream hs hne now]
    simp only [popPriority, hc, Option.isSome_none, Bool.false_eq_true, if_false, if_neg hmax]
  rw [peek_lanes hs hc, hfirst, hpop, hfair, hmove.fairLane_eq, Option.some.injEq]
  exact h.head?_eq_iff hlane

/-- With stream items, the pop returns the first of them when they are
alone or it is their turn. -/
theorem Placed.peek_stream_iff {q : OutboundPriorityQueue} (h : q.Placed)
    (hs : q.streamFifo ≠ []) (now : Nat) :
    q.peek = q.streamFifo.head? ∧
      (q.peek = (q.pop now).1 ↔ q.priorityItems = [] ∨ q.total % 2 = 0) := by
  obtain ⟨e, rest, hfifo⟩ := List.exists_cons_of_ne_nil hs
  have hpeek : q.peek = some e := by simp only [peek, hfifo]
  have hne : q.total ≠ 0 := by
    rw [h.wf.total_eq, stored, hfifo]
    simp
  have hstream : q.hasStream = true := q.hasStream_iff.mpr hs
  refine ⟨by rw [hpeek, hfifo]; rfl, ?_⟩
  rw [hpeek, h.wf.pop_eq hne now]
  rcases hserves : q.servesPriority with - | -
  · -- the stream FIFO: its first envelope
    have hcond : q.priorityItems = [] ∨ q.total % 2 = 0 := by
      by_cases hp : q.priorityItems = []
      · exact .inl hp
      · right
        simpa [servesPriority, h.wf.hasPriority_iff.mpr hp, hstream] using hserves
    refine iff_of_true ?_ hcond
    simp [popStream, hfifo]
  · -- the priority side: an envelope of the other kind
    obtain ⟨hprio, hodd⟩ := Bool.and_eq_true_iff.mp hserves
    have hp := h.wf.hasPriority_iff.mp hprio
    have hodd : ¬ q.total % 2 = 0 := by simpa [hstream] using hodd
    refine iff_of_false ?_ (not_or.mpr ⟨hp, hodd⟩)
    obtain ⟨e', q', hpop, htakes⟩ := h.wf.popPriority_spec now hp
    have hmem : e' ∈ q.priorityItems := by
      rw [htakes.priority_perm.mem_iff]
      exact List.mem_cons_self
    have hside : routed e' = .priority := h.priority e' hmem
    have hside' : routed e = .stream := h.fifo e (by rw [hfifo]; exact List.mem_cons_self)
    simp only [if_true, hpop, Option.some.injEq]
    rintro rfl
    rw [hside] at hside'
    cases hside'

/-! ### The vector -/

/-- Smaller priority value, that is, more urgent. -/
def Urgent (a b : QueuedEnvelope) : Prop := a.metadata.priority < b.metadata.priority

instance Urgent.decidable : DecidableRel Urgent := fun a b =>
  inferInstanceAs (Decidable (a.metadata.priority < b.metadata.priority))

/-- Being more urgent is what the strict comparer goes by. -/
theorem before_strictPriority (now : Nat) : Before strictPriorityWireComparer now = Urgent := by
  funext a b
  apply propext
  show compare _ _ = .lt ↔ a.metadata.priority < b.metadata.priority
  rw [compare_priority, UInt8.lt_iff_toNat_lt]

instance Urgent.strictWeak : IsStrictWeakOrder QueuedEnvelope Urgent :=
  before_strictPriority 0 ▸ (strictWeak_strictPriority 0).before

theorem scanBest_congr {less less' : QueuedEnvelope → QueuedEnvelope → Bool}
    (entries : List QueuedEnvelope) (h : ∀ a ∈ entries, ∀ b ∈ entries, less a b = less' a b)
    {xs : List QueuedEnvelope} (hxs : ∀ x ∈ xs, x ∈ entries) (i : Nat)
    {best : Nat × QueuedEnvelope} (hbest : best.2 ∈ entries) :
    scanBest less xs i best = scanBest less' xs i best := by
  induction xs generalizing i best with
  | nil => rfl
  | cons x xs ih =>
      have hx := hxs x List.mem_cons_self
      rw [scanBest, scanBest, h x hx best.2 hbest]
      apply ih fun y hy => hxs y (List.mem_cons_of_mem x hy)
      split
      · exact hx
      · exact hbest

/-- `peek` finds the earliest of the most urgent entries, and so does the
scan of a comparer that goes by priority. -/
theorem peek_sorted {q : OutboundPriorityQueue} (hs : q.streamFifo = [])
    {comparer : WireEnvelopeComparer} (hc : q.comparer = some comparer) (hne : q.sorted ≠ [])
    (now : Nat) :
    ∃ pre x post, q.sorted = pre ++ x :: post ∧ FirstMin Urgent pre x post ∧
      q.peek = some x.envelope ∧
      ((∀ a ∈ q.sorted, ∀ b ∈ q.sorted, Before comparer now a b ↔ Urgent a b) →
        q.popComparer now
          = (some x.envelope, { q with sorted := pre ++ post, total := q.total - 1 })) := by
  obtain ⟨first, rest, hsorted⟩ := List.exists_cons_of_ne_nil hne
  let less := fun x y : QueuedEnvelope => decide (x.metadata.priority < y.metadata.priority)
  have hless : ∀ a b, less a b = true ↔ Urgent a b := fun _ _ => decide_eq_true_iff
  obtain ⟨pre, x, post, hsplit, hmin, hscan⟩ := scanBest_firstMin hless first rest
  have hsplit : q.sorted = pre ++ x :: post := hsorted.trans hsplit
  refine ⟨pre, x, post, hsplit, hmin, ?_, fun hagree => ?_⟩
  -- a comparer that agrees on the stored entries makes the very same scan
  · have hbest : (scanBest less rest 1 (0, first)).2 = x := congrArg Prod.snd hscan
    simp only [peek, hs, isComparerMode, hc, Option.isSome_some, if_true, hsorted]
    rw [show (scanBest _ rest 1 (0, first)).2 = x from hbest]
  · apply popComparer_of_scan hc hsorted hsplit
    rw [← show scanBest less rest 1 (0, first) = _ from hscan]
    rw [hsorted] at hagree
    refine scanBest_congr (first :: rest) ?_ ?_ 1 List.mem_cons_self
    · intro a ha b hb
      rw [Bool.eq_iff_iff]
      exact beq_iff_eq.trans ((hagree a ha b hb).trans decide_eq_true_iff.symm)
    · exact fun y hy => List.mem_cons_of_mem first hy

end OutboundPriorityQueue

/-! ### Peek and pop -/

namespace OutboundPriorityQueue

/-- Strict lanes are peeked at and popped from in the same place. -/
theorem Strict.peek_eq {q : OutboundPriorityQueue} (h : q.Strict) (now : Nat) :
    q.peek = (q.pop now).1 := by
  by_cases hempty : q.total = 0
  · rw [peek_of_empty h.wf hempty, pop_of_empty hempty]
  · obtain ⟨e, q', hpop, hlanes, -, -⟩ := h.pop_eq hempty now
    have hpeek : q.peek = (laneOrder.flatMap q.lanes).head? := by
      simp only [peek, h.no_stream, isComparerMode, h.lane_mode, Option.isSome_none,
        Bool.false_eq_true, if_false, List.head?_flatMap]
    rw [hpeek, hlanes, hpop]
    rfl

theorem peek_eq_none_iff {q : OutboundPriorityQueue} (h : q.Wf) :
    q.peek = none ↔ q.total = 0 := by
  refine ⟨fun hnone => ?_, peek_of_empty h⟩
  by_contra hne
  rcases hs : q.streamFifo with - | ⟨e, rest⟩
  · rcases hc : q.comparer with - | comparer
    · obtain ⟨busy, hbusy⟩ := exists_busy_lane h hs hc hne
      obtain ⟨lane, hfirst, hlane⟩ := firstLane_spec hbusy
      rw [peek_lanes hs hc, hfirst] at hnone
      exact hlane (List.head?_eq_none_iff.mp hnone)
    · have hcompared : q.Compared comparer := ⟨h, hc, hs⟩
      have hsorted : q.sorted ≠ [] := by
        intro hnil
        exact hne (by rw [hcompared.total_eq, hnil]; rfl)
      obtain ⟨pre, x, post, -, -, hpeek, -⟩ := peek_sorted hs hc hsorted 0
      rw [hpeek] at hnone
      cases hnone
  · simp [peek, hs] at hnone

end OutboundPriorityQueue

/-- **What `peek` says about the next `pop`**, in every reachable queue.  They
return nothing together.  A first stream item is returned by both exactly if
there are no priority items or the count is even.  Without stream items,
`peek` returns the front of the first non-empty lane, which is what is popped
in strict lane mode, and in fair lane mode exactly if the cursor leads there;
in comparer mode it returns the earliest of the most urgent entries, which is
what is popped if the comparer orders the stored entries by priority. -/
theorem peek_predicts_pop (cfg : QueueConfig) (ops : List QueueOp) (now : Nat) :
    let q := (run Ledger.step (.start cfg) ops).queue
    (q.peek = none ↔ (q.pop now).1 = none) ∧
    (q.streamFifo ≠ [] → q.peek = q.streamFifo.head? ∧
      (q.peek = (q.pop now).1 ↔ q.priorityItems = [] ∨ q.total % 2 = 0)) ∧
    (q.streamFifo = [] → q.comparer = none →
      q.peek = (q.firstLane.bind fun lane => (q.lanes lane).head?) ∧
      (q.maxConsecutive = 0 → q.peek = (q.pop now).1) ∧
      (q.maxConsecutive ≠ 0 → q.total ≠ 0 →
        (q.peek = (q.pop now).1 ↔ q.fairLane = q.firstLane))) ∧
    (q.streamFifo = [] → q.sorted ≠ [] → ∀ comparer, q.comparer = some comparer →
      (∃ pre x post, q.sorted = pre ++ x :: post ∧ q.peek = some x.envelope ∧
        (∀ y ∈ q.sorted, ¬ Urgent y x) ∧ ∀ y ∈ pre, Urgent x y) ∧
      ((∀ a ∈ q.sorted, ∀ b ∈ q.sorted, Before comparer now a b ↔ Urgent a b) →
        q.peek = (q.pop now).1)) := by
  intro q
  have h : q.Placed := Ledger.placed cfg ops
  refine ⟨?_, fun hs => h.peek_stream_iff hs now, ?_, ?_⟩
  · rw [peek_eq_none_iff h.wf]
    by_cases hempty : q.total = 0
    · simp [pop_of_empty hempty, hempty]
    · obtain ⟨side, e, q', hpop, -, -⟩ := h.wf.pop_spec hempty now
      simp [hpop, hempty]
  · intro hs hc
    refine ⟨peek_lanes hs hc, fun hmax => ?_, fun hmax hne => h.peek_fair_iff hs hc hmax hne now⟩
    have hstrict : q.Strict := ⟨h.wf, hc, hmax, hs⟩
    exact hstrict.peek_eq now
  · intro hs hne comparer hc
    have hcompared : q.Compared comparer := ⟨h.wf, hc, hs⟩
    obtain ⟨pre, x, post, hsplit, hmin, hpeek, hscan⟩ := peek_sorted hs hc hne now
    refine ⟨⟨pre, x, post, hsplit, hpeek, ?_, hmin.earlier⟩, fun hagree => ?_⟩
    · rw [hsplit]
      exact hmin.minimal
    · rw [hpeek, hcompared.pop_eq_popComparer hne now, hscan hagree]

theorem peek_predicts_pop_agedRun :
    let q := (run Ledger.step (.start .new) agedRun).queue
    q.peek = (q.pop 100).1 :=
  ((peek_predicts_pop .new agedRun 100).2.2.1 rfl rfl).2.1 rfl

/-- Two stream items and a priority item, whose turn it is. -/
def mixedRun : List QueueOp :=
  [.push (sampleEnvelope .expand 128 1) 0, .push (sampleEnvelope .expand 128 2) 1,
    .push (sampleEnvelope .tell 0 3) 2]

theorem peek_predicts_pop_fails :
    ¬ ∀ (cfg : QueueConfig) (ops : List QueueOp) (now : Nat),
      let q := (run Ledger.step (.start cfg) ops).queue
      q.peek = (q.pop now).1 := by
  intro h
  exact absurd (h .new mixedRun 3) (by decide)

end Dactor
