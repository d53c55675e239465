/-
Dactor/OutboundQueue.lean

`OutboundPriorityQueue`: the per-destination queue of wire envelopes.

Envelopes wait in one of seven places: five priority lanes or, in comparer
mode, one vector, and the stream FIFO.  The clock is an argument: `push` and
`pop` take the instant that the source reads with `Instant::now()`.

The second half says once what a successful pop does (`Takes`) and proves it
for each way of popping, so that invariants never look inside `pop`.
-/
import Mathlib.Data.List.Perm.Basic
import Mathlib.Data.List.Sort
import Mathlib.Logic.Function.Basic
import Dactor.Basic

namespace Dactor

/-! ### Comparers -/

structure EnvelopeMetadata where
  priority : UInt8
  enqueuedAt : Nat
  deriving DecidableEq, Repr

/-- `WireEnvelopeComparer::compare(a, b, now)`. -/
abbrev WireEnvelopeComparer := EnvelopeMetadata → EnvelopeMetadata → Nat → Ordering

def strictPriorityWireComparer : WireEnvelopeComparer := fun a b _ =>
  compare a.priority b.priority

def agingWireComparer (maxAge : Nat) : WireEnvelopeComparer := fun a b now =>
  match decide (maxAge ≤ durationSince now a.enqueuedAt),
      decide (maxAge ≤ durationSince now b.enqueuedAt) with
  | true, false => .lt
  | false, true => .gt
  | true, true => compare a.enqueuedAt b.enqueuedAt
  | false, false => compare a.priority b.priority

/-! ### Helpers -/

def priorityHeaderName : String := "dactor.Priority"

def extractPriority (envelope : WireEnvelope) : UInt8 :=
  ((envelope.headers.get priorityHeaderName).bind (·.head?)).getD Priority.normal.value

def laneIndexFromPriority (priority : UInt8) : Fin 5 :=
  if priority ≤ 63 then 0
  else if priority ≤ 127 then 1
  else if priority ≤ 191 then 2
  else if priority ≤ 254 then 3
  else 4

structure QueuedEnvelope where
  envelope : WireEnvelope
  metadata : EnvelopeMetadata
  deriving DecidableEq

/-! ### The queue -/

structure OutboundPriorityQueue where
  lanes : Fin 5 → List WireEnvelope
  maxConsecutive : Nat
  consecutiveFromLane : Nat
  currentLane : Fin 5
  comparer : Option WireEnvelopeComparer
  sorted : List QueuedEnvelope
  streamFifo : List WireEnvelope
  total : Nat
  capacity : Nat

/-- The lanes in the order in which `for lane in &self.lanes` visits them. -/
def laneOrder : List (Fin 5) := [0, 1, 2, 3, 4]

/-- The scan for the best entry: `i` is the index of the next candidate,
`best` the index and the value of the best one so far. -/
def scanBest (less : QueuedEnvelope → QueuedEnvelope → Bool) :
    List QueuedEnvelope → Nat → Nat × QueuedEnvelope → Nat × QueuedEnvelope
  | [], _, best => best
  | x :: xs, i, best => scanBest less xs (i + 1) (if less x best.2 then (i, x) else best)

namespace OutboundPriorityQueue

/-- Lane mode with no capacity limit. -/
def new : OutboundPriorityQueue where
  lanes _ := []
  maxConsecutive := 0
  consecutiveFromLane := 0
  currentLane := 0
  comparer := none
  sorted := []
  streamFifo := []
  total := 0
  capacity := 0

/-- Lane mode with capacity and fairness. -/
def withConfig (capacity maxConsecutive : Nat) : OutboundPriorityQueue :=
  { new with capacity, maxConsecutive }

/-- Comparer mode with optional capacity. -/
def withComparer (comparer : WireEnvelopeComparer) (capacity : Nat) :
    OutboundPriorityQueue :=
  { new with comparer := some comparer, capacity }

def isComparerMode (q : OutboundPriorityQueue) : Bool := q.comparer.isSome

/-- Enqueue an envelope; `Err(envelope)` at capacity. -/
def push (q : OutboundPriorityQueue) (envelope : WireEnvelope) (now : Nat) :
    Except WireEnvelope Unit × OutboundPriorityQueue :=
  if 0 < q.capacity ∧ q.capacity ≤ q.total then (.error envelope, q)
  else
    let q' : OutboundPriorityQueue :=
      match envelope.sendMode with
      | .expand | .reduce => { q with streamFifo := q.streamFifo ++ [envelope] }
      | .tell | .ask | .transform =>
        if q.isComparerMode then
          { q with sorted := q.sorted ++ [⟨envelope, ⟨extractPriority envelope, now⟩⟩] }
        else
          let lane := laneIndexFromPriority (extractPriority envelope)
          { q with lanes := Function.update q.lanes lane (q.lanes lane ++ [envelope]) }
    (.ok (), { q' with total := q'.total + 1 })

def popStream (q : OutboundPriorityQueue) : Option WireEnvelope × OutboundPriorityQueue :=
  match q.streamFifo with
  | [] => (none, q)
  | envelope :: rest => (some envelope, { q with streamFifo := rest, total := q.total - 1 })

/-- `self.sorted.remove(best)`, with the best index found by `scanBest`. -/
def popComparer (q : OutboundPriorityQueue) (now : Nat) :
    Option WireEnvelope × OutboundPriorityQueue :=
  match q.comparer, q.sorted with
  | none, _ => (none, q)
  | some _, [] => (none, q)
  | some comparer, first :: rest =>
    let less := fun x y => comparer x.metadata y.metadata now == .lt
    let best := (scanBest less rest 1 (0, first)).1
    match q.sorted[best]? with
    | none => (none, q)
    | some entry =>
      (some entry.envelope, { q with sorted := q.sorted.eraseIdx best, total := q.total - 1 })

/-- `self.lanes[lane].pop_front()` with its bookkeeping. -/
def popLane (q : OutboundPriorityQueue) (lane : Fin 5) :
    Option WireEnvelope × OutboundPriorityQueue :=
  match q.lanes lane with
  | [] => (none, q)
  | envelope :: rest =>
    (some envelope, { q with lanes := Function.update q.lanes lane rest, total := q.total - 1 })

def popStrict (q : OutboundPriorityQueue) : Option WireEnvelope × OutboundPriorityQueue :=
  match laneOrder.find? fun lane => !(q.lanes lane).isEmpty with
  | none => (none, q)
  | some lane => q.popLane lane

def nextNonEmptyLane (q : OutboundPriorityQueue) (start : Nat) : Option (Fin 5) :=
  ((List.range 5).map fun i => Fin.ofNat 5 (start + i)).find? fun idx =>
    !(q.lanes idx).isEmpty

/-- The tail of `pop_fair`, from the current lane. -/
def popCurrent (q : OutboundPriorityQueue) : Option WireEnvelope × OutboundPriorityQueue :=
  match q.popLane q.currentLane with
  | (none, q) => (none, q)
  | (some envelope, q) =>
    (some envelope, { q with consecutiveFromLane := q.consecutiveFromLane + 1 })

/-- `pop_fair`.  Both cursor moves reset the counter before the early exit
of a search that finds no lane. -/
def popFair (q : OutboundPriorityQueue) : Option WireEnvelope × OutboundPriorityQueue :=
  if q.maxConsecutive ≤ q.consecutiveFromLane then
    let q := { q with consecutiveFromLane := 0 }
    match q.nextNonEmptyLane (q.currentLane + 1) with
    | none => (none, q)
    | some lane => popCurrent { q with currentLane := lane }
  else if (q.lanes q.currentLane).isEmpty then
    let q := { q with consecutiveFromLane := 0 }
    match q.nextNonEmptyLane 0 with
    | none => (none, q)
    | some lane => popCurrent { q with currentLane := lane }
  else q.popCurrent

def popPriority (q : OutboundPriorityQueue) (now : Nat) :
    Option WireEnvelope × OutboundPriorityQueue :=
  if q.comparer.isSome then q.popComparer now
  else if q.maxConsecutive = 0 then q.popStrict
  else q.popFair

def hasStream (q : OutboundPriorityQueue) : Bool := !q.streamFifo.isEmpty

def hasPriority (q : OutboundPriorityQueue) : Bool :=
  if q.isComparerMode then !q.sorted.isEmpty
  else laneOrder.any fun lane => !(q.lanes lane).isEmpty

/-- Dequeue the next envelope.  With items on both sides the parity of
`total` decides which side goes first. -/
def pop (q : OutboundPriorityQueue) (now : Nat) :
    Option WireEnvelope × OutboundPriorityQueue :=
  if q.total = 0 then (none, q)
  else if q.hasStream && !q.hasPriority then q.popStream
  else if !q.hasStream && q.hasPriority then q.popPriority now
  else if q.total % 2 = 0 then
    -- the second attempt of either branch is for a side that turns out empty
    match q.popStream with
    | (some envelope, q) => (some envelope, q)
    | (none, q) => q.popPriority now
  else
    match q.popPriority now with
    | (some envelope, q) => (some envelope, q)
    | (none, q) => q.popStream

/-- Look at the next envelope: the stream FIFO first, then the priority
side, where comparer mode goes by priority alone. -/
def peek (q : OutboundPriorityQueue) : Option WireEnvelope :=
  match q.streamFifo with
  | envelope :: _ => some envelope
  | [] =>
    if q.isComparerMode then
      match q.sorted with
      | [] => none
      | first :: rest =>
        let less := fun x y => decide (x.metadata.priority < y.metadata.priority)
        some (scanBest less rest 1 (0, first)).2.envelope
    else
      laneOrder.findSome? fun lane => (q.lanes lane).head?

/-- The order of `drain_ordered` in comparer mode: by priority, then by
enqueue time. -/
def drainLe (a b : QueuedEnvelope) : Prop :=
  a.metadata.priority < b.metadata.priority ∨
    a.metadata.priority = b.metadata.priority ∧ a.metadata.enqueuedAt ≤ b.metadata.enqueuedAt

instance : DecidableRel drainLe := fun a b =>
  inferInstanceAs (Decidable (a.metadata.priority < b.metadata.priority ∨ _))

/-- Drain all envelopes: stream items first, then the priority side in
order (`sort_by` is stable, as insertion sort is). -/
def drainOrdered (q : OutboundPriorityQueue) :
    List WireEnvelope × OutboundPriorityQueue :=
  if q.isComparerMode then
    (q.streamFifo ++ (q.sorted.insertionSort drainLe).map (·.envelope),
      { q with streamFifo := [], sorted := [], total := 0, consecutiveFromLane := 0 })
  else
    (q.streamFifo ++ laneOrder.flatMap q.lanes,
      { q with streamFifo := [], lanes := fun _ => [], total := 0, consecutiveFromLane := 0 })

def clear (q : OutboundPriorityQueue) : OutboundPriorityQueue :=
  { q with lanes := fun _ => [], sorted := [], streamFifo := [], total := 0,
           consecutiveFromLane := 0 }

def len (q : OutboundPriorityQueue) : Nat := q.total

/-! ### What is stored -/

/-- The envelopes on the priority side. -/
def priorityItems (q : OutboundPriorityQueue) : List WireEnvelope :=
  q.sorted.map (·.envelope) ++ laneOrder.flatMap q.lanes

/-- All envelopes in the queue. -/
def stored (q : OutboundPriorityQueue) : List WireEnvelope :=
  q.streamFifo ++ q.priorityItems

/-- The counter is right, the capacity is respected, and only the storage
of the queue's own mode is used. -/
structure Wf (q : OutboundPriorityQueue) : Prop where
  total_eq : q.total = q.stored.length
  total_le : 0 < q.capacity → q.total ≤ q.capacity
  sorted_nil : q.comparer = none → q.sorted = []
  lanes_nil : q.comparer ≠ none → ∀ lane, q.lanes lane = []

/-! ### What a push and a pop do -/

inductive Side
  | stream | priority
  deriving DecidableEq, Repr

/-- The side `push` puts an envelope on. -/
def routed (envelope : WireEnvelope) : Side :=
  match envelope.sendMode with
  | .expand | .reduce => .stream
  | .tell | .ask | .transform => .priority

/-- `q'` is `q` with `e` removed from the given side: from the front of the
stream FIFO, or from anywhere on the priority side. -/
structure Takes (side : Side) (q : OutboundPriorityQueue) (e : WireEnvelope)
    (q' : OutboundPriorityQueue) : Prop where
  stream_eq : q.streamFifo = if side = .stream then e :: q'.streamFifo else q'.streamFifo
  priority_perm : q.priorityItems.Perm
    (if side = .priority then e :: q'.priorityItems else q'.priorityItems)
  total_eq : q'.total = q.total - 1
  capacity_eq : q'.capacity = q.capacity
  comparer_eq : q'.comparer = q.comparer
  sorted_nil : q.sorted = [] → q'.sorted = []
  lanes_nil : (∀ lane, q.lanes lane = []) → ∀ lane, q'.lanes lane = []

/-- A change to one lane does not show in the others. -/
theorem flatMap_update_of_notMem (lanes : Fin 5 → List WireEnvelope) {lane : Fin 5}
    (items : List WireEnvelope) {order : List (Fin 5)} (h : lane ∉ order) :
    order.flatMap (Function.update lanes lane items) = order.flatMap lanes := by
  apply List.flatMap_congr
  intro i hi
  have hne : i ≠ lane := fun hne => h (hne ▸ hi)
  rw [Function.update_of_ne hne]

/-- Putting `e` into the items of one lane puts it into the items of all
lanes. -/
theorem flatMap_update_perm (lanes : Fin 5 → List WireEnvelope) (lane : Fin 5)
    {e : WireEnvelope} {items : List WireEnvelope} (h : items.Perm (e :: lanes lane))
    {order : List (Fin 5)} (hmem : lane ∈ order) (hnd : order.Nodup) :
    (order.flatMap (Function.update lanes lane items)).Perm (e :: order.flatMap lanes) := by
  induction order with
  | nil => simp at hmem
  | cons i order ih =>
      obtain ⟨hi, hnd⟩ := List.nodup_cons.mp hnd
      rw [List.flatMap_cons, List.flatMap_cons]
      rcases List.mem_cons.mp hmem with rfl | hmem
      · rw [Function.update_self, flatMap_update_of_notMem lanes items hi]
        exact h.append_right _
      · have hil : i ≠ lane := fun hil => hi (hil ▸ hmem)
        rw [Function.update_of_ne hil]
        exact ((ih hmem hnd).append_left (lanes i)).trans List.perm_middle

theorem mem_laneOrder (lane : Fin 5) : lane ∈ laneOrder := by
  revert lane
  decide

theorem nodup_laneOrder : laneOrder.Nodup := by decide

theorem popLane_spec (q : OutboundPriorityQueue) {lane : Fin 5}
    (h : q.lanes lane ≠ []) :
    ∃ e q', q.popLane lane = (some e, q') ∧ Takes .priority q e q' := by
  obtain ⟨e, rest, hlane⟩ := List.exists_cons_of_ne_nil h
  refine ⟨e, _, by simp only [popLane, hlane]; rfl, ?_⟩
  refine
    { stream_eq := rfl, priority_perm := ?_, total_eq := rfl, capacity_eq := rfl,
      comparer_eq := rfl, sorted_nil := id, lanes_nil := fun hl => absurd (hl lane) h }
  -- `q.lanes` is the new family with `e` put back
  have hback : Function.update (Function.update q.lanes lane rest) lane (q.lanes lane)
      = q.lanes := by
    rw [Function.update_idem, Function.update_eq_self]
  have hput : (q.lanes lane).Perm (e :: Function.update q.lanes lane rest lane) := by
    rw [Function.update_self, hlane]
  have hperm := flatMap_update_perm (Function.update q.lanes lane rest) lane hput
    (mem_laneOrder lane) nodup_laneOrder
  rw [hback] at hperm
  exact (hperm.append_left (q.sorted.map (·.envelope))).trans List.perm_middle

theorem popStrict_spec (q : OutboundPriorityQueue) {lane : Fin 5}
    (h : q.lanes lane ≠ []) :
    ∃ e q', q.popStrict = (some e, q') ∧ Takes .priority q e q' := by
  rcases hf : laneOrder.find? (fun lane => !(q.lanes lane).isEmpty) with - | i
  · have := List.find?_eq_none.mp hf lane (mem_laneOrder lane)
    simp [h] at this
  · have hi : q.lanes i ≠ [] := by simpa using List.find?_some hf
    simp only [popStrict, hf]
    exact popLane_spec q hi

/-- The circular search finds a non-empty lane if there is one. -/
theorem nextNonEmptyLane_spec (q : OutboundPriorityQueue) {lane : Fin 5}
    (h : q.lanes lane ≠ []) (start : Nat) :
    ∃ i, q.nextNonEmptyLane start = some i ∧ q.lanes i ≠ [] := by
  rcases hf : q.nextNonEmptyLane start with - | i
  · -- `start + i` meets every residue modulo 5
    have hmem : lane ∈ (List.range 5).map fun i => Fin.ofNat 5 (start + i) := by
      refine List.mem_map.mpr ⟨(lane.val + 5 - start % 5) % 5, ?_, ?_⟩
      · exact List.mem_range.mpr (Nat.mod_lt _ (by omega))
      · apply Fin.ext
        have := lane.isLt
        simp only [Fin.ofNat]
        omega
    have := List.find?_eq_none.mp hf lane hmem
    simp [h] at this
  · exact ⟨i, rfl, by simpa using List.find?_some hf⟩

theorem popCurrent_spec (q : OutboundPriorityQueue) (h : q.lanes q.currentLane ≠ []) :
    ∃ e q', q.popCurrent = (some e, q') ∧ Takes .priority q e q' := by
  obtain ⟨e, q', hq', ht⟩ := popLane_spec q h
  refine ⟨e, { q' with consecutiveFromLane := q'.consecutiveFromLane + 1 }, ?_, ?_⟩
  · simp only [popCurrent, hq']
  · exact ⟨ht.stream_eq, ht.priority_perm, ht.total_eq, ht.capacity_eq, ht.comparer_eq,
      ht.sorted_nil, ht.lanes_nil⟩

/-- `pop_fair` never takes an early exit while a lane holds an envelope. -/
theorem popFair_spec (q : OutboundPriorityQueue) {lane : Fin 5}
    (h : q.lanes lane ≠ []) :
    ∃ e q', q.popFair = (some e, q') ∧ Takes .priority q e q' := by
  -- both cursor moves: reset the counter, find a lane, pop from it
  have hmove : ∀ start, ∃ i, nextNonEmptyLane { q with consecutiveFromLane := 0 } start = some i ∧
      ∃ e q', popCurrent { q with consecutiveFromLane := 0, currentLane := i } = (some e, q') ∧
        Takes .priority q e q' := by
    intro start
    obtain ⟨i, hi, hne⟩ := nextNonEmptyLane_spec { q with consecutiveFromLane := 0 } h start
    obtain ⟨e, q', hq', ht⟩ :=
      popCurrent_spec { q with consecutiveFromLane := 0, currentLane := i } hne
    exact ⟨i, hi, e, q', hq', ⟨ht.stream_eq, ht.priority_perm, ht.total_eq, ht.capacity_eq,
      ht.comparer_eq, ht.sorted_nil, ht.lanes_nil⟩⟩
  unfold popFair
  split
  · obtain ⟨i, hi, hpop⟩ := hmove (q.currentLane + 1)
    simp only [hi]
    exact hpop
  · split
    · obtain ⟨i, hi, hpop⟩ := hmove 0
      simp only [hi]
      exact hpop
    · next hcur => exact popCurrent_spec q (by simpa using hcur)

theorem scanBest_lt (less : QueuedEnvelope → QueuedEnvelope → Bool)
    (xs : List QueuedEnvelope) (i : Nat) (best : Nat × QueuedEnvelope) (h : best.1 < i) :
    (scanBest less xs i best).1 < i + xs.length := by
  induction xs generalizing i best with
  | nil => exact h
  | cons x xs ih =>
      rw [scanBest, List.length_cons]
      have hnext : (if less x best.2 then (i, x) else best).1 < i + 1 := by
        split
        · exact Nat.lt_succ_self i
        · exact Nat.lt_succ_of_lt h
      have := ih (i + 1) _ hnext
      omega

theorem popComparer_spec (q : OutboundPriorityQueue) (now : Nat)
    (hc : q.comparer ≠ none) (h : q.sorted ≠ []) :
    ∃ e q', q.popComparer now = (some e, q') ∧ Takes .priority q e q' := by
  obtain ⟨comparer, hc⟩ := Option.ne_none_iff_exists'.mp hc
  obtain ⟨first, rest, hsorted⟩ := List.exists_cons_of_ne_nil h
  generalize hbest : (scanBest (fun x y => comparer x.metadata y.metadata now == .lt)
    rest 1 (0, first)).1 = best
  have hlt : best < q.sorted.length := by
    have := scanBest_lt (fun x y => comparer x.metadata y.metadata now == .lt)
      rest 1 (0, first) (Nat.zero_lt_one)
    rw [hbest] at this
    rw [hsorted, List.length_cons]
    omega
  -- the index is in range, so the lookup succeeds and `eraseIdx` removes its entry
  refine ⟨q.sorted[best].envelope,
    { q with sorted := q.sorted.eraseIdx best, total := q.total - 1 }, ?_, ?_⟩
  · have hget : (first :: rest)[best]? = some q.sorted[best] := by
      rw [← hsorted, List.getElem?_eq_getElem hlt]
    simp only [popComparer, hc, hsorted, hbest, hget]
  · refine
      { stream_eq := rfl, priority_perm := ?_, total_eq := rfl, capacity_eq := rfl,
        comparer_eq := rfl, sorted_nil := fun hs => absurd hs h, lanes_nil := id }
    have hperm : q.sorted.Perm (q.sorted[best] :: q.sorted.eraseIdx best) :=
      (List.getElem_cons_eraseIdx_perm hlt).symm
    exact (hperm.map _).append_right _

theorem lanes_ne_nil_iff (q : OutboundPriorityQueue) :
    laneOrder.flatMap q.lanes ≠ [] ↔ ∃ lane, q.lanes lane ≠ [] := by
  rw [Ne, List.flatMap_eq_nil_iff]
  constructor
  · intro h
    by_contra hnone
    exact h fun lane _ => by_contra fun hl => hnone ⟨lane, hl⟩
  · rintro ⟨lane, hl⟩ h
    exact hl (h lane (mem_laneOrder lane))

/-- The test `pop` makes on the priority side is exact. -/
theorem Wf.hasPriority_iff {q : OutboundPriorityQueue} (h : q.Wf) :
    q.hasPriority = true ↔ q.priorityItems ≠ [] := by
  rcases hc : q.comparer with - | comparer
  · have hs := h.sorted_nil hc
    simp only [hasPriority, isComparerMode, hc, priorityItems, hs, List.map_nil,
      List.nil_append, Option.isSome_none, lanes_ne_nil_iff]
    simp [mem_laneOrder]
  · have hl := h.lanes_nil (by simp [hc])
    have hlanes : laneOrder.flatMap q.lanes = [] :=
      List.flatMap_eq_nil_iff.mpr fun lane _ => hl lane
    simp [hasPriority, isComparerMode, hc, priorityItems, hlanes]

/-- The priority side gives up an envelope whenever it holds one. -/
theorem Wf.popPriority_spec {q : OutboundPriorityQueue} (h : q.Wf) (now : Nat)
    (hp : q.priorityItems ≠ []) :
    ∃ e q', q.popPriority now = (some e, q') ∧ Takes .priority q e q' := by
  rcases hc : q.comparer with - | comparer
  · -- lane mode: nothing is in the vector, so some lane is non-empty
    have hs := h.sorted_nil hc
    obtain ⟨lane, hl⟩ : ∃ lane, q.lanes lane ≠ [] := by
      rw [← lanes_ne_nil_iff]
      simpa only [priorityItems, hs, List.map_nil, List.nil_append] using hp
    simp only [popPriority, hc, Option.isSome_none, Bool.false_eq_true, if_false]
    split
    · exact popStrict_spec q hl
    · exact popFair_spec q hl
  · -- comparer mode: the other way round
    have hlanes : laneOrder.flatMap q.lanes = [] :=
      List.flatMap_eq_nil_iff.mpr fun lane _ => h.lanes_nil (by simp [hc]) lane
    have hs : q.sorted ≠ [] := by
      intro hs
      exact hp (by simp only [priorityItems, hs, hlanes, List.map_nil, List.append_nil])
    simp only [popPriority, hc, Option.isSome_some, if_true]
    exact popComparer_spec q now (by simp [hc]) hs

theorem popStream_spec (q : OutboundPriorityQueue) (h : q.streamFifo ≠ []) :
    ∃ e q', q.popStream = (some e, q') ∧ Takes .stream q e q' := by
  obtain ⟨e, rest, hfifo⟩ := List.exists_cons_of_ne_nil h
  refine ⟨e, { q with streamFifo := rest, total := q.total - 1 }, ?_, ?_⟩
  · simp only [popStream, hfifo]
  · exact
      { stream_eq := by simpa using hfifo, priority_perm := List.Perm.refl _,
        total_eq := rfl, capacity_eq := rfl, comparer_eq := rfl, sorted_nil := id,
        lanes_nil := id }

/-- Both sides hold an envelope. -/
def Contended (q : OutboundPriorityQueue) : Prop :=
  q.streamFifo ≠ [] ∧ q.priorityItems ≠ []

instance (q : OutboundPriorityQueue) : Decidable q.Contended :=
  inferInstanceAs (Decidable (_ ∧ _))

theorem pop_of_empty {q : OutboundPriorityQueue} (h : q.total = 0) (now : Nat) :
    q.pop now = (none, q) := by
  simp only [pop, h, if_true]

/-- A pop of a non-empty queue goes to the priority side: it holds an
envelope, and the stream FIFO is empty or the count odd. -/
def servesPriority (q : OutboundPriorityQueue) : Bool :=
  q.hasPriority && (!q.hasStream || q.total % 2 != 0)

theorem hasStream_iff (q : OutboundPriorityQueue) :
    q.hasStream = true ↔ q.streamFifo ≠ [] := by
  simp [hasStream]

/-- In a well-formed queue the second attempts of `pop` are never made. -/
theorem Wf.pop_eq {q : OutboundPriorityQueue} (h : q.Wf) (hne : q.total ≠ 0) (now : Nat) :
    q.pop now = if q.servesPriority then q.popPriority now else q.popStream := by
  have hprio := h.hasPriority_iff
  simp only [pop, hne, if_false]
  rcases hs : q.hasStream with - | -
  · -- only the priority side can be non-empty
    have hfifo : q.streamFifo = [] := by simpa [hs] using q.hasStream_iff
    have hp : q.priorityItems ≠ [] := by
      intro hp
      exact hne (by rw [h.total_eq, stored, hfifo, hp]; rfl)
    simp [servesPriority, hs, hprio.mpr hp]
  · obtain ⟨e, q', hpop, -⟩ := popStream_spec q (q.hasStream_iff.mp hs)
    rcases hp : q.hasPriority with - | -
    · simp [servesPriority, hp]
    · -- contended: the first attempt of the branch taken succeeds
      obtain ⟨e₂, q₂, hpop₂, -⟩ := h.popPriority_spec now (hprio.mp hp)
      by_cases heven : q.total % 2 = 0
      · simp [servesPriority, hs, hp, heven, hpop]
      · simp [servesPriority, hs, hp, heven, hpop₂]

/-- Without stream items a pop goes to the priority side. -/
theorem Wf.pop_of_no_stream {q : OutboundPriorityQueue} (h : q.Wf) (hs : q.streamFifo = [])
    (hne : q.total ≠ 0) (now : Nat) : q.pop now = q.popPriority now := by
  have hp : q.priorityItems ≠ [] := by
    intro hp
    exact hne (by rw [h.total_eq, stored, hs, hp]; rfl)
  have hserves : q.servesPriority = true := by
    simp [servesPriority, h.hasPriority_iff.mpr hp, hasStream, hs]
  rw [h.pop_eq hne now, if_pos hserves]

/-- A non-empty queue gives up an envelope; when both sides hold one, from
the stream exactly if the count is even. -/
theorem Wf.pop_spec {q : OutboundPriorityQueue} (h : q.Wf) (hne : q.total ≠ 0)
    (now : Nat) :
    ∃ side e q', q.pop now = (some e, q') ∧ Takes side q e q' ∧
      (q.Contended → (side = .stream ↔ q.total % 2 = 0)) := by
  rw [h.pop_eq hne now]
  rcases hserves : q.servesPriority with - | -
  · -- the stream FIFO, which then holds an envelope
    have hs : q.streamFifo ≠ [] := by
      intro hs
      have hp : q.priorityItems ≠ [] := by
        intro hp
        exact hne (by rw [h.total_eq, stored, hs, hp]; rfl)
      simp [servesPriority, h.hasPriority_iff.mpr hp, hasStream, hs] at hserves
    obtain ⟨e, q', hpop, ht⟩ := popStream_spec q hs
    refine ⟨.stream, e, q', hpop, ht, fun hcont => ?_⟩
    have heven : q.total % 2 = 0 := by
      simpa [servesPriority, h.hasPriority_iff.mpr hcont.2, q.hasStream_iff.mpr hs] using hserves
    exact iff_of_true rfl heven
  · have hprio : q.hasPriority = true := (Bool.and_eq_true_iff.mp hserves).1
    obtain ⟨e, q', hpop, ht⟩ := h.popPriority_spec now (h.hasPriority_iff.mp hprio)
    refine ⟨.priority, e, q', hpop, ht, fun hcont => ?_⟩
    have hodd : ¬ q.total % 2 = 0 := by
      simpa [servesPriority, hprio, q.hasStream_iff.mpr hcont.1] using hserves
    exact iff_of_false (by simp) hodd

/-- The capacity is set and reached. -/
def Full (q : OutboundPriorityQueue) : Prop := 0 < q.capacity ∧ q.capacity ≤ q.total

instance (q : OutboundPriorityQueue) : Decidable q.Full := inferInstanceAs (Decidable (_ ∧ _))

/-- `q'` is `q` with `e` added at the back of the stream FIFO or somewhere
on the priority side. -/
structure Puts (side : Side) (q : OutboundPriorityQueue) (e : WireEnvelope)
    (q' : OutboundPriorityQueue) : Prop where
  stream_eq : q'.streamFifo = if side = .stream then q.streamFifo ++ [e] else q.streamFifo
  priority_perm : q'.priorityItems.Perm
    (if side = .priority then e :: q.priorityItems else q.priorityItems)
  total_eq : q'.total = q.total + 1
  capacity_eq : q'.capacity = q.capacity
  comparer_eq : q'.comparer = q.comparer
  sorted_nil : q.comparer = none → q.sorted = [] → q'.sorted = []
  lanes_nil : q.comparer ≠ none → (∀ lane, q.lanes lane = []) → ∀ lane, q'.lanes lane = []

theorem push_of_full {q : OutboundPriorityQueue} (h : q.Full) (e : WireEnvelope)
    (now : Nat) : q.push e now = (.error e, q) :=
  if_pos h

theorem puts_stream (q : OutboundPriorityQueue) (e : WireEnvelope) :
    Puts .stream q e { q with streamFifo := q.streamFifo ++ [e], total := q.total + 1 } where
  stream_eq := rfl
  priority_perm := List.Perm.refl _
  total_eq := rfl
  capacity_eq := rfl
  comparer_eq := rfl
  sorted_nil _ := id
  lanes_nil _ := id

theorem puts_sorted {q : OutboundPriorityQueue} (hc : q.comparer ≠ none) (e : WireEnvelope)
    (metadata : EnvelopeMetadata) :
    Puts .priority q e
      { q with sorted := q.sorted ++ [⟨e, metadata⟩], total := q.total + 1 } where
  stream_eq := rfl
  priority_perm := by
    simp only [priorityItems, List.map_append, List.map_cons, List.map_nil, if_true,
      List.append_assoc, List.singleton_append]
    exact List.perm_middle
  total_eq := rfl
  capacity_eq := rfl
  comparer_eq := rfl
  sorted_nil hn := absurd hn hc
  lanes_nil _ := id

theorem puts_lane {q : OutboundPriorityQueue} (hc : q.comparer = none) (e : WireEnvelope)
    (lane : Fin 5) :
    Puts .priority q e
      { q with lanes := Function.update q.lanes lane (q.lanes lane ++ [e]),
               total := q.total + 1 } where
  stream_eq := rfl
  priority_perm := by
    have hperm := flatMap_update_perm q.lanes lane (List.perm_append_singleton e _)
      (mem_laneOrder _) nodup_laneOrder
    exact (hperm.append_left (q.sorted.map (·.envelope))).trans List.perm_middle
  total_eq := rfl
  capacity_eq := rfl
  comparer_eq := rfl
  sorted_nil _ := id
  lanes_nil hn := absurd hc hn

/-- What an accepted push does: the stream FIFO for two of the five modes,
otherwise the storage of the queue's own mode. -/
theorem push_cases {q : OutboundPriorityQueue} (h : ¬ q.Full) (e : WireEnvelope) (now : Nat) :
    (routed e = .stream ∧ q.push e now
      = (.ok (), { q with streamFifo := q.streamFifo ++ [e], total := q.total + 1 })) ∨
    (routed e = .priority ∧ q.comparer ≠ none ∧ q.push e now
      = (.ok (), { q with sorted := q.sorted ++ [⟨e, ⟨extractPriority e, now⟩⟩],
                          total := q.total + 1 })) ∨
    (routed e = .priority ∧ q.comparer = none ∧ q.push e now
      = (.ok (), { q with
          lanes := Function.update q.lanes (laneIndexFromPriority (extractPriority e))
            (q.lanes (laneIndexFromPriority (extractPriority e)) ++ [e])
          total := q.total + 1 })) := by
  have hpush : q.push e now = _ := if_neg h
  rw [hpush]
  rcases hm : e.sendMode with - | - | - | - | -
  case expand => exact .inl ⟨by simp [routed, hm], rfl⟩
  case reduce => exact .inl ⟨by simp [routed, hm], rfl⟩
  all_goals
    right
    rcases hc : q.comparer with - | comparer
    · right
      exact ⟨by simp [routed, hm], rfl, by simp [isComparerMode, hc]⟩
    · left
      exact ⟨by simp [routed, hm], by simp, by simp [isComparerMode, hc]⟩

theorem push_spec {q : OutboundPriorityQueue} (h : ¬ q.Full) (e : WireEnvelope)
    (now : Nat) : ∃ q', q.push e now = (.ok (), q') ∧ Puts (routed e) q e q' := by
  rcases push_cases h e now with ⟨hside, hpush⟩ | ⟨hside, hc, hpush⟩ | ⟨hside, hc, hpush⟩
  · exact ⟨_, hpush, hside ▸ puts_stream q e⟩
  · exact ⟨_, hpush, hside ▸ puts_sorted hc e _⟩
  · exact ⟨_, hpush, hside ▸ puts_lane hc e _⟩

/-! ### Every operation keeps the queue well formed -/

theorem Takes.stored_perm {side : Side} {q q' : OutboundPriorityQueue} {e : WireEnvelope}
    (h : Takes side q e q') : q.stored.Perm (e :: q'.stored) := by
  have hs := h.stream_eq
  have hp := h.priority_perm
  cases side with
  | stream =>
      simp only [if_true, reduceCtorEq, if_false] at hs hp
      rw [stored, hs]
      exact (hp.append_left q'.streamFifo).cons e
  | priority =>
      simp only [if_true, reduceCtorEq, if_false] at hs hp
      rw [stored, hs]
      exact (hp.append_left q'.streamFifo).trans List.perm_middle

theorem Puts.stored_perm {side : Side} {q q' : OutboundPriorityQueue} {e : WireEnvelope}
    (h : Puts side q e q') : q'.stored.Perm (e :: q.stored) := by
  have hs := h.stream_eq
  have hp := h.priority_perm
  cases side with
  | stream =>
      simp only [if_true, reduceCtorEq, if_false] at hs hp
      rw [stored, hs, List.append_assoc, List.singleton_append]
      exact List.perm_middle.trans ((hp.append_left q.streamFifo).cons e)
  | priority =>
      simp only [if_true, reduceCtorEq, if_false] at hs hp
      rw [stored, hs]
      exact (hp.append_left q.streamFifo).trans List.perm_middle

theorem Wf.takes {side : Side} {q q' : OutboundPriorityQueue} {e : WireEnvelope}
    (h : q.Wf) (ht : Takes side q e q') : q'.Wf where
  total_eq := by
    have := ht.stored_perm.length_eq
    rw [List.length_cons, ← h.total_eq] at this
    rw [ht.total_eq]
    omega
  total_le hc := by
    rw [ht.capacity_eq] at hc ⊢
    have := h.total_le hc
    rw [ht.total_eq]
    omega
  sorted_nil hn := ht.sorted_nil (h.sorted_nil (ht.comparer_eq ▸ hn))
  lanes_nil hn := ht.lanes_nil (h.lanes_nil (ht.comparer_eq ▸ hn))

theorem Wf.puts {side : Side} {q q' : OutboundPriorityQueue} {e : WireEnvelope}
    (h : q.Wf) (hfull : ¬ q.Full) (ht : Puts side q e q') : q'.Wf where
  total_eq := by
    rw [ht.stored_perm.length_eq, List.length_cons, ← h.total_eq, ht.total_eq]
  total_le hc := by
    rw [ht.capacity_eq] at hc ⊢
    rw [ht.total_eq]
    have : ¬ (0 < q.capacity ∧ q.capacity ≤ q.total) := hfull
    omega
  sorted_nil hn := by
    rw [ht.comparer_eq] at hn
    exact ht.sorted_nil hn (h.sorted_nil hn)
  lanes_nil hn := by
    rw [ht.comparer_eq] at hn
    exact ht.lanes_nil hn (h.lanes_nil hn)

theorem stored_clear (q : OutboundPriorityQueue) : q.clear.stored = [] := by
  simp [clear, stored, priorityItems]

theorem wf_clear (q : OutboundPriorityQueue) : q.clear.Wf where
  total_eq := by rw [stored_clear]; rfl
  total_le _ := Nat.zero_le _
  sorted_nil _ := rfl
  lanes_nil _ _ := rfl

/-- Draining hands over the stream FIFO and then the priority side, and
leaves the queue as `clear` does. -/
theorem Wf.drainOrdered_spec {q : OutboundPriorityQueue} (h : q.Wf) :
    q.drainOrdered.2 = q.clear ∧
      ∃ rest, q.drainOrdered.1 = q.streamFifo ++ rest ∧ rest.Perm q.priorityItems := by
  rcases hc : q.comparer with - | comparer
  · have hs := h.sorted_nil hc
    simp only [drainOrdered, isComparerMode, hc, Option.isSome_none, Bool.false_eq_true,
      if_false]
    refine ⟨?_, _, rfl, ?_⟩
    · rw [clear, hs, hc]
    · rw [priorityItems, hs]
      exact List.Perm.refl _
  · have hl := h.lanes_nil (by simp [hc])
    have hlanes : q.lanes = fun _ => [] := funext hl
    simp only [drainOrdered, isComparerMode, hc, Option.isSome_some, if_true]
    refine ⟨?_, _, rfl, ?_⟩
    · rw [clear, hlanes, hc]
    · rw [priorityItems, hlanes]
      have hnil : laneOrder.flatMap (fun _ => ([] : List WireEnvelope)) = [] := by
        simp
      rw [hnil, List.append_nil]
      exact (List.perm_insertionSort drainLe q.sorted).map _

end OutboundPriorityQueue

end Dactor
