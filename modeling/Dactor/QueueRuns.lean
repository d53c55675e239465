/-
Dactor/QueueRuns.lean

Runs of the outbound queue.

* `queue_accounts` — over every sequence of operations on every queue, the
  counter is right and what was accepted is what was popped, drained,
  cleared or is still stored.
* `stream_order` — without `Transform` envelopes, streaming envelopes leave
  in the order in which they were accepted.
* `alternates_iff` — pops take turns between the two sides exactly when an
  even number of pushes is accepted between them.
-/
import Dactor.OutboundQueue
import Dactor.Runs

namespace Dactor

open Runs OutboundPriorityQueue

/-! ### Configurations and operations -/

/-- A call of one of the three constructors. -/
inductive QueueConfig
  | new
  | withConfig (capacity maxConsecutive : Nat)
  | withComparer (comparer : WireEnvelopeComparer) (capacity : Nat)

def QueueConfig.build : QueueConfig → OutboundPriorityQueue
  | .new => .new
  | .withConfig capacity maxConsecutive => .withConfig capacity maxConsecutive
  | .withComparer comparer capacity => .withComparer comparer capacity

theorem QueueConfig.build_spec (cfg : QueueConfig) :
    cfg.build.Wf ∧ cfg.build.streamFifo = [] ∧ cfg.build.priorityItems = [] := by
  cases cfg <;> exact ⟨⟨rfl, fun _ => Nat.zero_le _, fun _ => rfl, fun _ _ => rfl⟩, rfl, rfl⟩

inductive QueueOp
  | push (envelope : WireEnvelope) (now : Nat)
  | pop (now : Nat)
  | peek
  | drainOrdered
  | clear

/-! ### Accounting -/

/-- A queue with everything that went in and out of it.  `left` lists what
`pop` and `drain_ordered` handed out, in order. -/
structure Ledger where
  queue : OutboundPriorityQueue
  accepted : List WireEnvelope
  popped : List WireEnvelope
  drained : List WireEnvelope
  cleared : List WireEnvelope
  left : List WireEnvelope

def Ledger.start (cfg : QueueConfig) : Ledger := ⟨cfg.build, [], [], [], [], []⟩

def Ledger.step (s : Ledger) : QueueOp → Ledger
  | .push e now =>
    match s.queue.push e now with
    | (.ok (), q) => { s with queue := q, accepted := s.accepted ++ [e] }
    | (.error _, q) => { s with queue := q }
  | .pop now =>
    match s.queue.pop now with
    | (some e, q) => { s with queue := q, popped := s.popped ++ [e], left := s.left ++ [e] }
    | (none, q) => { s with queue := q }
  | .peek => s
  | .drainOrdered =>
    let r := s.queue.drainOrdered
    { s with queue := r.2, drained := s.drained ++ r.1, left := s.left ++ r.1 }
  | .clear => { s with queue := s.queue.clear, cleared := s.cleared ++ s.queue.stored }

structure Ledger.Balanced (cfg : QueueConfig) (s : Ledger) : Prop where
  wf : s.queue.Wf
  capacity_eq : s.queue.capacity = cfg.build.capacity
  perm : s.accepted.Perm (s.popped ++ s.drained ++ s.cleared ++ s.queue.stored)

variable {cfg : QueueConfig} {s : Ledger}

theorem Ledger.Balanced.start (cfg : QueueConfig) : (Ledger.start cfg).Balanced cfg where
  wf := cfg.build_spec.1
  capacity_eq := rfl
  perm := by
    obtain ⟨-, hs, hp⟩ := cfg.build_spec
    simp [Ledger.start, stored, hs, hp]

theorem Ledger.Balanced.push (h : s.Balanced cfg) (e : WireEnvelope) (now : Nat) :
    (s.step (.push e now)).Balanced cfg := by
  by_cases hfull : s.queue.Full
  · simp only [Ledger.step, push_of_full hfull]
    exact h
  · obtain ⟨q', hpush, hputs⟩ := push_spec hfull e now
    simp only [Ledger.step, hpush]
    refine ⟨h.wf.puts hfull hputs, hputs.capacity_eq.trans h.capacity_eq, ?_⟩
    -- permutations are compared by counting each envelope
    rw [List.perm_iff_count]
    intro a
    have hold := h.perm.count_eq a
    have hnew := hputs.stored_perm.count_eq a
    simp only [List.count_append, List.count_cons, List.count_nil] at hold hnew ⊢
    omega

theorem Ledger.Balanced.pop (h : s.Balanced cfg) (now : Nat) :
    (s.step (.pop now)).Balanced cfg := by
  by_cases hempty : s.queue.total = 0
  · simp only [Ledger.step, pop_of_empty hempty]
    exact h
  · obtain ⟨side, e, q', hpop, htakes, -⟩ := h.wf.pop_spec hempty now
    simp only [Ledger.step, hpop]
    refine ⟨h.wf.takes htakes, htakes.capacity_eq.trans h.capacity_eq, ?_⟩
    rw [List.perm_iff_count]
    intro a
    have hold := h.perm.count_eq a
    have hnew := htakes.stored_perm.count_eq a
    simp only [List.count_append, List.count_cons, List.count_nil] at hold hnew ⊢
    omega

theorem Ledger.Balanced.drain (h : s.Balanced cfg) :
    (s.step .drainOrdered).Balanced cfg := by
  obtain ⟨hclear, rest, hout, hrest⟩ := h.wf.drainOrdered_spec
  simp only [Ledger.step, hclear]
  refine ⟨wf_clear _, h.capacity_eq, ?_⟩
  rw [List.perm_iff_count]
  intro a
  have hold := h.perm.count_eq a
  have hnew := hrest.count_eq a
  rw [stored_clear, hout]
  simp only [stored, List.count_append, List.count_nil] at hold hnew ⊢
  omega

theorem Ledger.Balanced.clear (h : s.Balanced cfg) : (s.step .clear).Balanced cfg := by
  refine ⟨wf_clear _, h.capacity_eq, ?_⟩
  rw [List.perm_iff_count]
  intro a
  have hold := h.perm.count_eq a
  simp only [Ledger.step, stored_clear, List.count_append, List.count_nil] at hold ⊢
  omega

theorem Ledger.Balanced.step (op : QueueOp) (h : s.Balanced cfg) :
    (s.step op).Balanced cfg := by
  cases op with
  | push e now => exact h.push e now
  | pop now => exact h.pop now
  | peek => exact h
  | drainOrdered => exact h.drain
  | clear => exact h.clear

/-- **The outbound queue loses and duplicates nothing**, whatever its
configuration and whatever is done to it. -/
theorem queue_accounts (cfg : QueueConfig) (ops : List QueueOp) :
    let s := run Ledger.step (.start cfg) ops
    let q := s.queue
    q.total = (q.lanes 0).length + (q.lanes 1).length + (q.lanes 2).length +
        (q.lanes 3).length + (q.lanes 4).length + q.sorted.length + q.streamFifo.length ∧
      q.capacity = cfg.build.capacity ∧
      (0 < q.capacity → q.total ≤ q.capacity) ∧
      s.accepted.Perm (s.popped ++ s.drained ++ s.cleared ++ q.stored) ∧
      (∀ e now r, (q.push e now).1 = .error r → r = e ∧ (q.push e now).2 = q) ∧
      (∀ now, (q.pop now).1.isSome ↔ 0 < q.len) ∧
      (∀ now, (q.pop now).1.isSome → (q.pop now).2.total + 1 = q.total) ∧
      (∀ now, q.priorityItems ≠ [] → (q.popPriority now).1.isSome) := by
  intro s q
  have h : s.Balanced cfg :=
    run_induction (fun s op h => h.step op) ops (Ledger.Balanced.start cfg)
  have hwf : q.Wf := h.wf
  refine ⟨?_, h.capacity_eq, hwf.total_le, h.perm, ?_, ?_, ?_, ?_⟩
  -- the counter, over the seven places an envelope can wait in
  · rw [hwf.total_eq]
    simp only [stored, priorityItems, laneOrder, List.flatMap_cons, List.flatMap_nil,
      List.length_append, List.length_map, List.length_nil]
    omega
  -- a refused push
  · intro e now r hr
    by_cases hfull : q.Full
    · rw [push_of_full hfull] at hr ⊢
      exact ⟨(Except.error.inj hr).symm, rfl⟩
    · obtain ⟨q', hpush, -⟩ := push_spec hfull e now
      rw [hpush] at hr
      cases hr
  -- a pop, and what it does to the counter
  · intro now
    by_cases hempty : q.total = 0
    · rw [pop_of_empty hempty]
      simp [len, hempty]
    · obtain ⟨side, e, q', hpop, -, -⟩ := hwf.pop_spec hempty now
      rw [hpop]
      simp [len, Nat.pos_of_ne_zero hempty]
  · intro now hsome
    by_cases hempty : q.total = 0
    · rw [pop_of_empty hempty] at hsome
      cases hsome
    · obtain ⟨side, e, q', hpop, htakes, -⟩ := hwf.pop_spec hempty now
      rw [hpop]
      show q'.total + 1 = q.total
      rw [htakes.total_eq]
      omega
  -- the priority side, in each of its modes
  · intro now hp
    obtain ⟨e, q', hpop, -⟩ := hwf.popPriority_spec now hp
    rw [hpop]
    rfl

/-! ### Order of streaming envelopes -/

/-- Anything but an independent `Tell` or `Ask`. -/
def WireEnvelope.isStreaming (e : WireEnvelope) : Bool :=
  match e.sendMode with
  | .tell | .ask => false
  | .expand | .reduce | .transform => true

/-- The streaming envelopes of a list. -/
def streams (l : List WireEnvelope) : List WireEnvelope := l.filter (·.isStreaming)

@[simp] theorem streams_append (l₁ l₂ : List WireEnvelope) :
    streams (l₁ ++ l₂) = streams l₁ ++ streams l₂ :=
  List.filter_append ..

theorem streams_eq_nil {l : List WireEnvelope} (h : ∀ e ∈ l, e.isStreaming = false) :
    streams l = [] :=
  List.filter_eq_nil_iff.mpr fun e he => by simp [h e he]

theorem streams_eq_self {l : List WireEnvelope} (h : ∀ e ∈ l, e.isStreaming = true) :
    streams l = l :=
  List.filter_eq_self.mpr h

/-- Apart from `Transform`, envelopes are routed by whether they stream. -/
theorem isStreaming_eq_routed {e : WireEnvelope} (h : e.sendMode ≠ .transform) :
    e.isStreaming = decide (routed e = .stream) := by
  rcases hm : e.sendMode with - | - | - | - | -
  case transform => exact absurd hm h
  all_goals simp [WireEnvelope.isStreaming, routed, hm]

/-- The stream FIFO is what remains of the accepted streaming envelopes
once those that left are taken off the front. -/
structure Ledger.InOrder (s : Ledger) : Prop where
  wf : s.queue.Wf
  order : streams s.left ++ s.queue.streamFifo = streams s.accepted
  fifo : ∀ e ∈ s.queue.streamFifo, e.isStreaming = true
  priority : ∀ e ∈ s.queue.priorityItems, e.isStreaming = false

theorem Ledger.InOrder.start (cfg : QueueConfig) : (Ledger.start cfg).InOrder := by
  obtain ⟨hwf, hs, hp⟩ := cfg.build_spec
  refine ⟨hwf, ?_, ?_, ?_⟩
  · simp [Ledger.start, streams, hs]
  · simp [Ledger.start, hs]
  · simp [Ledger.start, hp]

/-- A refused envelope changes nothing. -/
theorem Ledger.InOrder.refused (h : s.InOrder) (hfull : s.queue.Full) (e : WireEnvelope)
    (now : Nat) : (s.step (.push e now)).InOrder := by
  simp only [Ledger.step, push_of_full hfull]
  exact h

theorem Ledger.InOrder.push (h : s.InOrder) {e : WireEnvelope}
    (he : e.sendMode ≠ .transform) (now : Nat) : (s.step (.push e now)).InOrder := by
  by_cases hfull : s.queue.Full
  · exact h.refused hfull e now
  · obtain ⟨q', hpush, hputs⟩ := push_spec hfull e now
    have hmode := isStreaming_eq_routed he
    have hfifo := hputs.stream_eq
    have hprio := hputs.priority_perm
    simp only [Ledger.step, hpush]
    rcases hside : routed e with - | -
    · -- a streaming envelope joins the FIFO at its end
      simp only [hside, if_true, reduceCtorEq, if_false] at hfifo hprio
      have hstr : e.isStreaming = true := by simpa [hside] using hmode
      refine ⟨h.wf.puts hfull hputs, ?_, ?_, ?_⟩
      · rw [hfifo, streams_append, ← h.order, List.append_assoc]
        simp [streams, hstr]
      · intro x hx
        rw [hfifo] at hx
        rcases List.mem_append.mp hx with hx | hx
        · exact h.fifo x hx
        · rw [List.mem_singleton.mp hx]
          exact hstr
      · intro x hx
        exact h.priority x (hprio.mem_iff.mp hx)
    · -- any other one touches neither the FIFO nor the streams accepted
      simp only [hside, if_true, reduceCtorEq, if_false] at hfifo hprio
      have hstr : e.isStreaming = false := by simpa [hside] using hmode
      refine ⟨h.wf.puts hfull hputs, ?_, ?_, ?_⟩
      · rw [hfifo, streams_append, ← h.order]
        simp [streams, hstr]
      · rw [hfifo]
        exact h.fifo
      · intro x hx
        rcases List.mem_cons.mp (hprio.mem_iff.mp hx) with rfl | hx
        · exact hstr
        · exact h.priority x hx

theorem Ledger.InOrder.pop (h : s.InOrder) (now : Nat) : (s.step (.pop now)).InOrder := by
  by_cases hempty : s.queue.total = 0
  · simp only [Ledger.step, pop_of_empty hempty]
    exact h
  · obtain ⟨side, e, q', hpop, htakes, -⟩ := h.wf.pop_spec hempty now
    have hfifo := htakes.stream_eq
    have hprio := htakes.priority_perm
    simp only [Ledger.step, hpop]
    cases side with
    | stream =>
        simp only [if_true, reduceCtorEq, if_false] at hfifo hprio
        have hstr : e.isStreaming = true := h.fifo e (by rw [hfifo]; exact List.mem_cons_self ..)
        refine ⟨h.wf.takes htakes, ?_, ?_, ?_⟩
        · rw [← h.order, hfifo]
          simp [streams, hstr]
        · intro x hx
          exact h.fifo x (by rw [hfifo]; exact List.mem_cons_of_mem _ hx)
        · intro x hx
          exact h.priority x (hprio.mem_iff.mpr hx)
    | priority =>
        simp only [if_true, reduceCtorEq, if_false] at hfifo hprio
        have hstr : e.isStreaming = false :=
          h.priority e (hprio.mem_iff.mpr (List.mem_cons_self ..))
        refine ⟨h.wf.takes htakes, ?_, ?_, ?_⟩
        · rw [← h.order, hfifo]
          simp [streams, hstr]
        · rw [← hfifo]
          exact h.fifo
        · intro x hx
          exact h.priority x (hprio.mem_iff.mpr (List.mem_cons_of_mem _ hx))

theorem Ledger.InOrder.drain (h : s.InOrder) : (s.step .drainOrdered).InOrder := by
  obtain ⟨hclear, rest, hout, hrest⟩ := h.wf.drainOrdered_spec
  -- what follows the FIFO in a drain comes from the priority side
  have hnone : streams rest = [] :=
    streams_eq_nil fun e he => h.priority e (hrest.mem_iff.mp he)
  simp only [Ledger.step, hclear]
  refine ⟨wf_clear _, ?_, ?_, ?_⟩
  · rw [hout, ← h.order, streams_append, streams_append, hnone, streams_eq_self h.fifo]
    simp [OutboundPriorityQueue.clear]
  · simp [OutboundPriorityQueue.clear]
  · simp [OutboundPriorityQueue.clear, priorityItems]

/-- A push of anything but a `Transform` envelope, or one that a full queue
refuses, a pop, a peek or a drain. -/
def QueueOp.KeepsOrder (s : Ledger) : QueueOp → Prop
  | .push e _ => e.sendMode ≠ .transform ∨ s.queue.Full
  | .pop _ | .peek | .drainOrdered => True
  | .clear => False

instance (s : Ledger) : DecidablePred (QueueOp.KeepsOrder s)
  | .push e _ => inferInstanceAs (Decidable (e.sendMode ≠ .transform ∨ s.queue.Full))
  | .pop _ | .peek | .drainOrdered => isTrue trivial
  | .clear => isFalse id

theorem Ledger.InOrder.step (op : QueueOp) (hop : op.KeepsOrder s) (h : s.InOrder) :
    (s.step op).InOrder := by
  cases op with
  | push e now =>
      rcases hop with hmode | hfull
      · exact h.push hmode now
      · exact h.refused hfull e now
  | pop now => exact h.pop now
  | peek => exact h
  | drainOrdered => exact h.drain
  | clear => exact hop.elim

/-- **Streaming envelopes leave in the order in which they were accepted**,
in every state of every run of pushes, pops and drains in which no `Transform`
envelope is accepted. -/
theorem stream_order (cfg : QueueConfig) (ops : List QueueOp)
    (hops : Admissible Ledger.step QueueOp.KeepsOrder (.start cfg) ops) :
    Always Ledger.step (fun s => streams s.left <+: streams s.accepted) (.start cfg) ops := by
  have hall : Always Ledger.step Ledger.InOrder (.start cfg) ops :=
    always_of_admissible (fun s op hop h => h.step op hop) (Ledger.InOrder.start cfg) hops
  exact hall.mono fun s h => ⟨s.queue.streamFifo, h.order⟩

/-- An envelope with the given send mode, priority header and body. -/
def sampleEnvelope (mode : SendMode) (priority body : UInt8) : WireEnvelope where
  target := ⟨⟨"node-1"⟩, 1⟩
  targetName := "sink"
  messageType := "Item"
  sendMode := mode
  headers := ⟨Finmap.singleton priorityHeaderName [priority]⟩
  body := [body]
  requestId := none
  version := none

def orderedRun : List QueueOp :=
  [.push (sampleEnvelope .expand 255 1) 0, .push (sampleEnvelope .tell 0 2) 1,
    .push (sampleEnvelope .reduce 0 3) 2, .pop 3, .peek, .drainOrdered]

theorem stream_order_orderedRun :
    streams (run Ledger.step (.start (.withConfig 8 2)) orderedRun).left
      = [sampleEnvelope .expand 255 1, sampleEnvelope .reduce 0 3] ∧
    Always Ledger.step (fun s => streams s.left <+: streams s.accepted)
      (.start (.withConfig 8 2)) orderedRun :=
  ⟨by decide, stream_order (.withConfig 8 2) orderedRun (by decide)⟩

/-- Two `Transform` envelopes of one stream, the second more urgent. -/
def transformRun : List QueueOp :=
  [.push (sampleEnvelope .transform 200 1) 0, .push (sampleEnvelope .transform 10 2) 1, .pop 2]

theorem stream_order_fails :
    ¬ ∀ (cfg : QueueConfig) (ops : List QueueOp),
      (∀ op ∈ ops, op matches .push .. | .pop .. | .drainOrdered) →
      Always Ledger.step (fun s => streams s.left <+: streams s.accepted) (.start cfg) ops := by
  intro h
  have hall := h .new transformRun (by decide)
  exact absurd hall.last (by decide)

/-! ### Turns between the two sides -/

/-- The side the next pop takes from, read off the stream FIFO. -/
def takenSide (q : OutboundPriorityQueue) (now : Nat) : Side :=
  if (q.pop now).2.streamFifo.length < q.streamFifo.length then .stream else .priority

/-- A queue, the side of the last pop if both sides held an envelope then,
and the number of envelopes accepted since. -/
structure Turns where
  queue : OutboundPriorityQueue
  last : Option Side
  gap : Nat

def Turns.start (cfg : QueueConfig) : Turns := ⟨cfg.build, none, 0⟩

/-- A pop opens or continues a series if both sides hold an envelope, and
ends it otherwise, as draining and clearing do. -/
def Turns.step (t : Turns) : QueueOp → Turns
  | .push e now =>
    ⟨(t.queue.push e now).2, t.last, if t.queue.Full then t.gap else t.gap + 1⟩
  | .pop now =>
    ⟨(t.queue.pop now).2,
      if t.queue.Contended then some (takenSide t.queue now) else none, 0⟩
  | .peek => t
  | .drainOrdered => ⟨t.queue.drainOrdered.2, none, 0⟩
  | .clear => ⟨t.queue.clear, none, 0⟩

/-- A contended pop takes from the other side than the contended pop before
it. -/
def Turns.Alternating (t : Turns) : QueueOp → Prop
  | .pop now => t.queue.Contended → t.last ≠ some (takenSide t.queue now)
  | _ => True

/-- Between two contended pops an even number of envelopes is accepted. -/
def Turns.EvenGap (t : Turns) : QueueOp → Prop
  | .pop _ => t.queue.Contended → t.last ≠ none → t.gap % 2 = 0
  | _ => True

instance (t : Turns) : DecidablePred t.Alternating
  | .pop now => inferInstanceAs
      (Decidable (t.queue.Contended → t.last ≠ some (takenSide t.queue now)))
  | .push _ _ | .peek | .drainOrdered | .clear => isTrue trivial

/-- A contended pop takes from the stream exactly if the count is even. -/
theorem takenSide_of_contended {q : OutboundPriorityQueue} (h : q.Wf) (hc : q.Contended)
    (now : Nat) : takenSide q now = .stream ↔ q.total % 2 = 0 := by
  have hne : q.total ≠ 0 := by
    rw [h.total_eq, stored, List.length_append]
    have := List.length_pos_iff.mpr hc.1
    omega
  obtain ⟨side, e, q', hpop, htakes, hside⟩ := h.pop_spec hne now
  rw [← hside hc]
  have hfifo := htakes.stream_eq
  cases side with
  | stream =>
      simp only [if_true] at hfifo
      simp [takenSide, hpop, hfifo]
  | priority =>
      simp only [reduceCtorEq, if_false] at hfifo
      simp [takenSide, hpop, hfifo]

/-- The side of the last contended pop can be read off the parity of the
count and of the envelopes accepted since. -/
structure Turns.Tracked (t : Turns) : Prop where
  wf : t.queue.Wf
  parity : ∀ side, t.last = some side →
    (side = .stream ↔ (t.queue.total + t.gap) % 2 = 1)

theorem Turns.Tracked.start (cfg : QueueConfig) : (Turns.start cfg).Tracked where
  wf := cfg.build_spec.1
  parity _ h := by cases h

theorem Turns.Tracked.push {t : Turns} (h : t.Tracked) (e : WireEnvelope) (now : Nat) :
    (t.step (.push e now)).Tracked := by
  by_cases hfull : t.queue.Full
  · simp only [Turns.step, push_of_full hfull, hfull, if_true]
    exact h
  · obtain ⟨q', hpush, hputs⟩ := push_spec hfull e now
    simp only [Turns.step, hpush, hfull, if_false]
    refine ⟨h.wf.puts hfull hputs, fun side hlast => ?_⟩
    rw [h.parity side hlast]
    show _ ↔ (q'.total + (t.gap + 1)) % 2 = 1
    rw [hputs.total_eq]
    omega

theorem Turns.Tracked.pop {t : Turns} (h : t.Tracked) (now : Nat) :
    (t.step (.pop now)).Tracked := by
  by_cases hempty : t.queue.total = 0
  · simp only [Turns.step, pop_of_empty hempty]
    refine ⟨h.wf, fun side hlast => ?_⟩
    -- an empty queue is not contended
    have hnil : t.queue.stored = [] := by
      rw [← List.length_eq_zero_iff, ← h.wf.total_eq, hempty]
    have hnc : ¬ t.queue.Contended := fun hc => hc.1 (List.append_eq_nil_iff.mp hnil).1
    rw [if_neg hnc] at hlast
    cases hlast
  · obtain ⟨side, e, q', hpop, htakes, -⟩ := h.wf.pop_spec hempty now
    simp only [Turns.step]
    refine ⟨by rw [hpop]; exact h.wf.takes htakes, fun taken hlast => ?_⟩
    by_cases hc : t.queue.Contended
    · rw [if_pos hc, Option.some.injEq] at hlast
      subst hlast
      rw [takenSide_of_contended h.wf hc, hpop]
      simp only [htakes.total_eq]
      omega
    · rw [if_neg hc] at hlast
      cases hlast

theorem Turns.Tracked.step {t : Turns} (op : QueueOp) (h : t.Tracked) :
    (t.step op).Tracked := by
  cases op with
  | push e now => exact h.push e now
  | pop now => exact h.pop now
  | peek => exact h
  | drainOrdered =>
      refine ⟨?_, fun _ hlast => by cases hlast⟩
      rw [Turns.step, h.wf.drainOrdered_spec.1]
      exact wf_clear _
  | clear => exact ⟨wf_clear _, fun _ hlast => by cases hlast⟩

/-- The next contended pop changes sides exactly when the gap is even. -/
theorem Turns.Tracked.alternating_iff {t : Turns} (op : QueueOp) (h : t.Tracked) :
    t.Alternating op ↔ t.EvenGap op := by
  cases op with
  | pop now =>
      refine forall_congr' fun hc => ?_
      have hnext := takenSide_of_contended h.wf hc now
      rcases hlast : t.last with - | side
      · simp
      · -- the parity at the last pop, plus the gap, is the parity now
        have hprev := h.parity side hlast
        simp only [ne_eq, Option.some.injEq, reduceCtorEq, not_false_eq_true, forall_const]
        cases side with
        | stream =>
            have hodd : (t.queue.total + t.gap) % 2 = 1 := hprev.mp rfl
            rw [eq_comm, hnext]
            omega
        | priority =>
            have heven : ¬ (t.queue.total + t.gap) % 2 = 1 := fun hp => by cases hprev.mpr hp
            have hside : ¬ Side.priority = takenSide t.queue now
                ↔ takenSide t.queue now = .stream := by
              cases takenSide t.queue now <;> simp
            rw [hside, hnext]
            omega
  | push e now => exact Iff.rfl
  | peek => exact Iff.rfl
  | drainOrdered => exact Iff.rfl
  | clear => exact Iff.rfl

/-- **Neither side is served twice in a row while the other one waits**,
along a run on any queue, exactly when the number of envelopes accepted
between two contended pops is always even. -/
theorem alternates_iff (cfg : QueueConfig) (ops : List QueueOp) :
    Admissible Turns.step Turns.Alternating (.start cfg) ops ↔
      Admissible Turns.step Turns.EvenGap (.start cfg) ops :=
  admissible_congr (fun _ op h => h.step op) (fun _ op h => h.alternating_iff op)
    (Turns.Tracked.start cfg)

/-- Two envelopes on each side; a pop, one more push, a pop. -/
def unfairRun : List QueueOp :=
  [.push (sampleEnvelope .expand 128 1) 0, .push (sampleEnvelope .expand 128 2) 1,
    .push (sampleEnvelope .tell 128 3) 2, .push (sampleEnvelope .tell 128 4) 3,
    .pop 4, .push (sampleEnvelope .tell 128 5) 5, .pop 6]

theorem alternates_fails :
    ¬ ∀ (cfg : QueueConfig) (ops : List QueueOp), (∀ op ∈ ops, op matches .push .. | .pop ..) →
      Admissible Turns.step Turns.Alternating (.start cfg) ops := by
  intro h
  exact absurd (h .new unfairRun (by decide)) (by decide)

end Dactor
