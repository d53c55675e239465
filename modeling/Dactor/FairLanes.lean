/-
Dactor/FairLanes.lean

Fair lane mode of the outbound queue over whole runs.

* `fair_lane_limit` — while another lane waits, no more than
  `max_consecutive` pops in a row come from one lane, as long as the queue
  is not drained or cleared in between; both restart the count.
* `fair_lane_waiting` — a waiting lane is served within
  `4 * max_consecutive + 1` pops in every run in which the search for a lane
  that starts over at the first lane, made when the current lane is found
  empty, ends where the round would have gone on; otherwise two busy lanes
  can keep a third one waiting for ever.

A run keeps a log of the pops answered from the lanes, each with the queue
before it, and of the operations that restart the count.  What a fair pop
does to the cursor is said once (`CursorMove`), what an operation does to
the log once (`LaneRun.Outcome`); the invariants never look inside `pop`.
-/
import Dactor.QueueRuns
import Dactor.Streaks

namespace Dactor

open Runs Streaks OutboundPriorityQueue

namespace OutboundPriorityQueue

/-! ### The cursor -/

/-- How `pop_fair` comes to serve a lane, and the count it leaves. -/
inductive CursorMove (q : OutboundPriorityQueue) : Fin 5 → Nat → Prop
  | stays (below : q.consecutiveFromLane < q.maxConsecutive)
      (busy : q.lanes q.currentLane ≠ []) :
      CursorMove q q.currentLane (q.consecutiveFromLane + 1)
  | onward {lane : Fin 5} (reached : q.maxConsecutive ≤ q.consecutiveFromLane)
      (next : q.nextNonEmptyLane (q.currentLane + 1) = some lane) : CursorMove q lane 1
  | restarts {lane : Fin 5} (below : q.consecutiveFromLane < q.maxConsecutive)
      (idle : q.lanes q.currentLane = []) (next : q.nextNonEmptyLane 0 = some lane) :
      CursorMove q lane 1

/-- `q` after a fair pop from `lane` that leaves the count `count`. -/
def served (q : OutboundPriorityQueue) (lane : Fin 5) (count : Nat) : OutboundPriorityQueue :=
  { q with lanes := Function.update q.lanes lane (q.lanes lane).tail, total := q.total - 1,
           currentLane := lane, consecutiveFromLane := count }

theorem popCurrent_eq {q : OutboundPriorityQueue} (h : q.lanes q.currentLane ≠ []) :
    q.popCurrent = ((q.lanes q.currentLane).head?,
      q.served q.currentLane (q.consecutiveFromLane + 1)) := by
  obtain ⟨e, rest, hlane⟩ := List.exists_cons_of_ne_nil h
  simp only [popCurrent, popLane, served, hlane, List.head?_cons, List.tail_cons]

/-- A fair pop moves the cursor in one of the three ways and takes the front
of the lane the cursor is then on. -/
theorem popFair_eq (q : OutboundPriorityQueue) {busy : Fin 5} (h : q.lanes busy ≠ []) :
    ∃ lane count, CursorMove q lane count ∧ q.lanes lane ≠ [] ∧
      q.popFair = ((q.lanes lane).head?, q.served lane count) := by
  unfold popFair
  by_cases hreached : q.maxConsecutive ≤ q.consecutiveFromLane
  · obtain ⟨lane, hnext, hlane⟩ := nextNonEmptyLane_spec q h (q.currentLane + 1)
    refine ⟨lane, 1, .onward hreached hnext, hlane, ?_⟩
    have hnext' : nextNonEmptyLane { q with consecutiveFromLane := 0 } (q.currentLane + 1)
        = some lane := hnext
    simp only [if_pos hreached, hnext']
    exact popCurrent_eq hlane
  · have hbelow : q.consecutiveFromLane < q.maxConsecutive := Nat.lt_of_not_le hreached
    by_cases hidle : q.lanes q.currentLane = []
    · obtain ⟨lane, hnext, hlane⟩ := nextNonEmptyLane_spec q h 0
      refine ⟨lane, 1, .restarts hbelow hidle hnext, hlane, ?_⟩
      have hnext' : nextNonEmptyLane { q with consecutiveFromLane := 0 } 0 = some lane := hnext
      simp only [if_neg hreached, hidle, List.isEmpty_nil, if_true, hnext']
      exact popCurrent_eq hlane
    · have hempty : (q.lanes q.currentLane).isEmpty = false := by simpa using hidle
      refine ⟨q.currentLane, _, .stays hbelow hidle, hidle, ?_⟩
      simp only [if_neg hreached, hempty, Bool.false_eq_true, if_false]
      exact popCurrent_eq hidle

/-! ### The round -/

/-- The number of lanes passed over on the way round from the lane after
`current` to `lane`; four for `current` itself. -/
def gap (current lane : Fin 5) : Nat := (lane.val + 4 - current.val) % 5

theorem gap_lt (current lane : Fin 5) : gap current lane < 5 := Nat.mod_lt _ (by omega)

theorem gap_inj (current : Fin 5) {lane lane' : Fin 5}
    (h : gap current lane = gap current lane') : lane = lane' := by
  apply Fin.ext
  simp only [gap] at h
  omega

/-- The round onward stops at the first non-empty lane on its way. -/
theorem gap_le_of_next {q : OutboundPriorityQueue} {lane : Fin 5}
    (h : q.nextNonEmptyLane (q.currentLane + 1) = some lane) {busy : Fin 5}
    (hbusy : q.lanes busy ≠ []) : gap q.currentLane lane ≤ gap q.currentLane busy := by
  rw [nextNonEmptyLane, List.find?_map, Option.map_eq_some_iff] at h
  obtain ⟨i, hi, rfl⟩ := h
  obtain ⟨-, hmem, hfirst⟩ := List.find?_range_eq_some.mp hi
  have hi5 : i < 5 := List.mem_range.mp hmem
  have hgap : gap q.currentLane (Fin.ofNat 5 (q.currentLane + 1 + i)) = i := by
    simp only [gap, Fin.ofNat]
    omega
  rw [hgap]
  by_contra hlt
  -- the lane would have been found at an earlier index
  have hback : Fin.ofNat 5 (q.currentLane + 1 + gap q.currentLane busy) = busy := by
    apply Fin.ext
    simp only [gap, Fin.ofNat]
    omega
  have hempty := hfirst _ (Nat.lt_of_not_le hlt)
  simp only [Function.comp_apply, hback] at hempty
  simp [hbusy] at hempty

/-- With another lane waiting the round does not come back to the current
one. -/
theorem ne_current_of_next {q : OutboundPriorityQueue} {lane : Fin 5}
    (h : q.nextNonEmptyLane (q.currentLane + 1) = some lane) {busy : Fin 5}
    (hbusy : q.lanes busy ≠ []) (hne : busy ≠ q.currentLane) : lane ≠ q.currentLane := by
  rintro rfl
  apply hne
  have hle := gap_le_of_next h hbusy
  have hlt := gap_lt q.currentLane busy
  apply gap_inj q.currentLane
  have hself : gap q.currentLane q.currentLane = 4 := by
    simp only [gap]
    omega
  omega

/-- The lane that is shorter in `q'` than in `q`. -/
def takenLane (q q' : OutboundPriorityQueue) : Option (Fin 5) :=
  laneOrder.find? fun lane => decide ((q'.lanes lane).length < (q.lanes lane).length)

theorem takenLane_of_lanes_eq {q q' : OutboundPriorityQueue} (h : q'.lanes = q.lanes) :
    takenLane q q' = none := by
  simp [takenLane, h]

theorem takenLane_served {q : OutboundPriorityQueue} {lane : Fin 5} (h : q.lanes lane ≠ [])
    (count : Nat) : takenLane q (q.served lane count) = some lane := by
  have hpos := List.length_pos_iff.mpr h
  -- `lane` is the one lane that passes the test
  have htest : ∀ i, decide (((q.served lane count).lanes i).length < (q.lanes i).length) = true
      ↔ i = lane := by
    intro i
    by_cases hi : i = lane
    · subst hi
      have hshort : (q.lanes i).length - 1 < (q.lanes i).length := by omega
      simpa [served] using hshort
    · simp [served, hi]
  rcases hf : takenLane q (q.served lane count) with - | i
  · have := List.find?_eq_none.mp hf lane (mem_laneOrder lane)
    exact absurd ((htest lane).mpr rfl) this
  · have hi : i = lane := (htest i).mp (by simpa using List.find?_some hf)
    rw [hi]

end OutboundPriorityQueue

/-! ### The log of a run -/

/-- A pop answered from a lane, with the queue before it, or an operation
that restarts the count. -/
inductive LaneEvent
  | pop (before : OutboundPriorityQueue) (lane : Fin 5)
  | reset

/-- A pop from the lane, made while another lane held an envelope. -/
def LaneEvent.Contested (lane : Fin 5) : LaneEvent → Prop
  | .pop before taken => taken = lane ∧ ∃ other, other ≠ lane ∧ before.lanes other ≠ []
  | .reset => False

/-- A pop from another lane, made while the lane held an envelope. -/
def LaneEvent.PassesOver (lane : Fin 5) : LaneEvent → Prop
  | .pop before taken => taken ≠ lane ∧ before.lanes lane ≠ []
  | .reset => False

instance LaneEvent.decidableContested (lane : Fin 5) : DecidablePred (LaneEvent.Contested lane)
  | .pop before taken => inferInstanceAs
      (Decidable (taken = lane ∧ ∃ other, other ≠ lane ∧ before.lanes other ≠ []))
  | .reset => isFalse id

instance LaneEvent.decidablePassesOver (lane : Fin 5) :
    DecidablePred (LaneEvent.PassesOver lane)
  | .pop before taken => inferInstanceAs (Decidable (taken ≠ lane ∧ before.lanes lane ≠ []))
  | .reset => isFalse id

structure LaneRun where
  queue : OutboundPriorityQueue
  log : List LaneEvent

/-- A run starts with a queue in lane mode. -/
def LaneRun.start (capacity maxConsecutive : Nat) : LaneRun :=
  ⟨.withConfig capacity maxConsecutive, []⟩

def LaneRun.step (s : LaneRun) : QueueOp → LaneRun
  | .push e now => { s with queue := (s.queue.push e now).2 }
  | .pop now =>
    let q := (s.queue.pop now).2
    match takenLane s.queue q with
    | none => { s with queue := q }
    | some lane => ⟨q, s.log ++ [.pop s.queue lane]⟩
  | .peek => s
  | .drainOrdered => ⟨s.queue.drainOrdered.2, s.log ++ [.reset]⟩
  | .clear => ⟨s.queue.clear, s.log ++ [.reset]⟩

/-! ### What an operation does -/

/-- A queue in fair lane mode. -/
structure OutboundPriorityQueue.Fair (m : Nat) (q : OutboundPriorityQueue) : Prop where
  wf : q.Wf
  lane_mode : q.comparer = none
  max_eq : q.maxConsecutive = m
  max_pos : 0 < m
  count_le : q.consecutiveFromLane ≤ m

/-- What an operation does to the cursor and the log of a run. -/
inductive LaneRun.Outcome (s : LaneRun) (op : QueueOp) : LaneRun → Prop
  | quiet {q : OutboundPriorityQueue} (current : q.currentLane = s.queue.currentLane)
      (count : q.consecutiveFromLane = s.queue.consecutiveFromLane) : Outcome s op ⟨q, s.log⟩
  | serves {lane : Fin 5} {count now : Nat} (pop : op = .pop now)
      (side : s.queue.servesPriority = true) (move : CursorMove s.queue lane count)
      (busy : s.queue.lanes lane ≠ []) :
      Outcome s op ⟨s.queue.served lane count, s.log ++ [.pop s.queue lane]⟩
  | resets {q : OutboundPriorityQueue} (count : q.consecutiveFromLane = 0) :
      Outcome s op ⟨q, s.log ++ [.reset]⟩

variable {m : Nat} {s : LaneRun}

theorem OutboundPriorityQueue.CursorMove.count_le {q : OutboundPriorityQueue} {lane : Fin 5}
    {count : Nat} (h : CursorMove q lane count) (hm : 0 < q.maxConsecutive) :
    count ≤ q.maxConsecutive := by
  cases h with
  | stays below _ => exact below
  | onward _ _ => exact hm
  | restarts _ _ _ => exact hm

theorem OutboundPriorityQueue.push_cursor {q : OutboundPriorityQueue} (hfull : ¬ q.Full)
    (e : WireEnvelope) (now : Nat) :
    (q.push e now).2.currentLane = q.currentLane ∧
      (q.push e now).2.consecutiveFromLane = q.consecutiveFromLane ∧
      (q.push e now).2.maxConsecutive = q.maxConsecutive := by
  rcases push_cases hfull e now with ⟨-, hpush⟩ | ⟨-, -, hpush⟩ | ⟨-, -, hpush⟩
  all_goals
    rw [hpush]
    exact ⟨rfl, rfl, rfl⟩

theorem OutboundPriorityQueue.popStream_cursor (q : OutboundPriorityQueue) :
    q.popStream.2.lanes = q.lanes ∧ q.popStream.2.currentLane = q.currentLane ∧
      q.popStream.2.consecutiveFromLane = q.consecutiveFromLane ∧
      q.popStream.2.maxConsecutive = q.maxConsecutive ∧ q.popStream.2.comparer = q.comparer := by
  unfold popStream
  split
  · exact ⟨rfl, rfl, rfl, rfl, rfl⟩
  · exact ⟨rfl, rfl, rfl, rfl, rfl⟩

theorem LaneRun.push_outcome (h : s.queue.Fair m) (e : WireEnvelope) (now : Nat) :
    s.Outcome (.push e now) (s.step (.push e now)) ∧ (s.step (.push e now)).queue.Fair m := by
  by_cases hfull : s.queue.Full
  · simp only [LaneRun.step, push_of_full hfull]
    exact ⟨.quiet rfl rfl, h⟩
  · obtain ⟨q', hpush, hputs⟩ := push_spec hfull e now
    have hkeeps := push_cursor hfull e now
    rw [hpush] at hkeeps
    obtain ⟨hcur, hcount, hmax⟩ := hkeeps
    simp only [LaneRun.step, hpush]
    exact ⟨.quiet hcur hcount, h.wf.puts hfull hputs, hputs.comparer_eq.trans h.lane_mode,
      hmax.trans h.max_eq, h.max_pos, hcount.trans_le h.count_le⟩

theorem LaneRun.pop_outcome (h : s.queue.Fair m) (now : Nat) :
    s.Outcome (.pop now) (s.step (.pop now)) ∧ (s.step (.pop now)).queue.Fair m := by
  by_cases hempty : s.queue.total = 0
  · simp only [LaneRun.step, pop_of_empty hempty, takenLane_of_lanes_eq rfl]
    exact ⟨.quiet rfl rfl, h⟩
  have hwf' : (s.queue.pop now).2.Wf := by
    obtain ⟨side, e, q', hpop, htakes, -⟩ := h.wf.pop_spec hempty now
    rw [hpop]
    exact h.wf.takes htakes
  have hpop := h.wf.pop_eq hempty now
  rcases hside : s.queue.servesPriority with - | -
  · -- the stream FIFO: the lanes and the cursor stay
    simp only [hside, Bool.false_eq_true, if_false] at hpop
    obtain ⟨hlanes, hcur, hcount, hmax, hcomp⟩ := s.queue.popStream_cursor
    rw [hpop] at hwf'
    simp only [LaneRun.step, hpop, takenLane_of_lanes_eq hlanes]
    exact ⟨.quiet hcur hcount, hwf', hcomp.trans h.lane_mode, hmax.trans h.max_eq, h.max_pos,
      hcount.trans_le h.count_le⟩
  · -- the lanes, through `pop_fair`
    have hmax : s.queue.maxConsecutive ≠ 0 := by
      rw [h.max_eq]
      exact h.max_pos.ne'
    have hfair : s.queue.popPriority now = s.queue.popFair := by
      simp only [popPriority, h.lane_mode, Option.isSome_none, Bool.false_eq_true, if_false,
        if_neg hmax]
    obtain ⟨busy, hbusy⟩ : ∃ lane, s.queue.lanes lane ≠ [] := by
      have hprio := (Bool.and_eq_true_iff.mp hside).1
      simpa [hasPriority, isComparerMode, h.lane_mode, mem_laneOrder] using hprio
    obtain ⟨lane, count, hmove, hlane, hpf⟩ := popFair_eq s.queue hbusy
    have hq' : (s.queue.pop now).2 = s.queue.served lane count := by
      rw [hpop, if_pos hside, hfair, hpf]
    rw [hq'] at hwf'
    simp only [LaneRun.step, hq', takenLane_served hlane]
    refine ⟨.serves rfl hside hmove hlane, hwf', h.lane_mode, h.max_eq, h.max_pos, ?_⟩
    rw [← h.max_eq]
    exact hmove.count_le (Nat.pos_of_ne_zero hmax)

/-- Every operation on a queue in fair lane mode has one of the outcomes,
and keeps the mode. -/
theorem LaneRun.step_outcome (h : s.queue.Fair m) (op : QueueOp) :
    s.Outcome op (s.step op) ∧ (s.step op).queue.Fair m := by
  cases op with
  | push e now => exact LaneRun.push_outcome h e now
  | pop now => exact LaneRun.pop_outcome h now
  | peek => exact ⟨.quiet rfl rfl, h⟩
  | clear =>
      exact ⟨.resets rfl, wf_clear _, h.lane_mode, h.max_eq, h.max_pos, Nat.zero_le _⟩
  | drainOrdered =>
      -- draining leaves the queue as clearing does
      have hclear := h.wf.drainOrdered_spec.1
      simp only [LaneRun.step, hclear]
      exact ⟨.resets rfl, wf_clear _, h.lane_mode, h.max_eq, h.max_pos, Nat.zero_le _⟩

theorem LaneRun.fair_start (capacity : Nat) (hm : 0 < m) :
    (LaneRun.start capacity m).queue.Fair m :=
  ⟨(QueueConfig.withConfig capacity m).build_spec.1, rfl, rfl, hm, Nat.zero_le _⟩

/-! ### At most `max_consecutive` pops in a row -/

/-- A streak of contested pops of one lane is on the current lane, and the
queue's own count covers it. -/
structure LaneRun.Limited (m : Nat) (lane : Fin 5) (s : LaneRun) : Prop where
  fair : s.queue.Fair m
  blocks : BlocksLe (LaneEvent.Contested lane) m s.log
  current : 0 < streak (LaneEvent.Contested lane) s.log → s.queue.currentLane = lane
  covered : streak (LaneEvent.Contested lane) s.log ≤ s.queue.consecutiveFromLane

/-- A contested pop extends the count by as much as the streak, or opens a
new streak. -/
theorem LaneRun.Limited.serves {lane taken : Fin 5} {count : Nat} (h : s.Limited m lane)
    (hmove : CursorMove s.queue taken count) (hbusy : s.queue.lanes taken ≠ []) :
    streak (LaneEvent.Contested lane) (s.log ++ [.pop s.queue taken]) ≤ count := by
  by_cases hc : LaneEvent.Contested lane (.pop s.queue taken)
  · rw [streak_concat_pos hc]
    obtain ⟨rfl, other, hne, hother⟩ := hc
    -- a streak under way is on the current lane, which a moving cursor leaves
    have hmoved : taken ≠ s.queue.currentLane →
        streak (LaneEvent.Contested taken) s.log = 0 := by
      intro htaken
      by_contra hpos
      exact htaken (h.current (Nat.pos_of_ne_zero hpos)).symm
    cases hmove with
    | stays below busy => exact Nat.succ_le_succ h.covered
    | onward reached next =>
        by_cases hcur : taken = s.queue.currentLane
        · exact absurd hcur (ne_current_of_next next hother (hcur ▸ hne))
        · rw [hmoved hcur]
    | restarts below idle next =>
        have hcur : taken ≠ s.queue.currentLane := fun hcur => hbusy (hcur ▸ idle)
        rw [hmoved hcur]
  · rw [streak_concat_neg hc]
    exact Nat.zero_le _

theorem LaneRun.Limited.step {lane : Fin 5} (op : QueueOp) (h : s.Limited m lane) :
    (s.step op).Limited m lane := by
  obtain ⟨houtcome, hfair⟩ := LaneRun.step_outcome h.fair op
  generalize s.step op = s' at houtcome hfair
  cases houtcome with
  | quiet current count =>
      exact ⟨hfair, h.blocks, fun hpos => current.trans (h.current hpos),
        h.covered.trans_eq count.symm⟩
  | @serves taken count now pop side move busy =>
      have hcovered := h.serves move busy
      refine ⟨hfair, blocksLe_concat h.blocks (hcovered.trans hfair.count_le), ?_, hcovered⟩
      intro hpos
      by_contra hne
      have hnot : ¬ LaneEvent.Contested lane (.pop s.queue taken) := fun hc => hne hc.1
      rw [streak_concat_neg hnot] at hpos
      exact absurd hpos (lt_irrefl 0)
  | resets count =>
      have hzero : streak (LaneEvent.Contested lane) (s.log ++ [.reset]) = 0 :=
        streak_concat_neg id s.log
      refine ⟨hfair, blocksLe_concat h.blocks (by rw [hzero]; exact Nat.zero_le m), ?_, ?_⟩
      · intro hpos
        rw [hzero] at hpos
        exact absurd hpos (lt_irrefl 0)
      · rw [hzero]
        exact Nat.zero_le _

/-- The queue is empty and its count restarted, while the cursor is where it was. -/
structure OutboundPriorityQueue.Restarted (q q' : OutboundPriorityQueue) : Prop where
  stored : q'.stored = []
  len : q'.len = 0
  count : q'.consecutiveFromLane = 0
  cursor : q'.currentLane = q.currentLane

theorem OutboundPriorityQueue.restarted_clear (q : OutboundPriorityQueue) :
    q.Restarted q.clear where
  stored := by simp [OutboundPriorityQueue.stored, priorityItems, clear]
  len := rfl
  count := rfl
  cursor := rfl

theorem OutboundPriorityQueue.Wf.restarted_drainOrdered {q : OutboundPriorityQueue} (h : q.Wf) :
    q.Restarted q.drainOrdered.2 := by
  rw [h.drainOrdered_spec.1]
  exact q.restarted_clear

/-- **Fair lane mode limits consecutive pops.**  In every state of every run,
no more than `max_consecutive` pops in a row were answered from one lane
while another lane held an envelope before each of them; a drain or a
`clear` between two pops starts a new row: both leave an empty queue with its
count restarted and its cursor in place. -/
theorem fair_lane_limit (capacity m : Nat) (hm : 0 < m) (lane : Fin 5) (ops : List QueueOp) :
    Always LaneRun.step
      (fun s => BlocksLe (LaneEvent.Contested lane) m s.log ∧
        s.queue.Restarted (s.step .drainOrdered).queue ∧ s.queue.Restarted (s.step .clear).queue)
      (.start capacity m) ops := by
  have hall : Always LaneRun.step (LaneRun.Limited m lane) (.start capacity m) ops := by
    apply always_induction (fun s op h => h.step op)
    exact ⟨LaneRun.fair_start capacity hm, blocksLe_nil m, fun hpos => absurd hpos (lt_irrefl 0),
      Nat.zero_le _⟩
  exact hall.mono fun s h =>
    ⟨h.blocks, h.fair.wf.restarted_drainOrdered, s.queue.restarted_clear⟩

/-- An envelope for each of the lanes 0 and 1, a pop, then the same again
with a drain in between. -/
def drainedRun : List QueueOp :=
  [.push (sampleEnvelope .tell 0 1) 0, .push (sampleEnvelope .tell 64 2) 1, .pop 2,
    .drainOrdered,
    .push (sampleEnvelope .tell 0 3) 3, .push (sampleEnvelope .tell 64 4) 4, .pop 5]

theorem fair_lane_limit_drainedRun :
    Always LaneRun.step
      (fun s => BlocksLe (LaneEvent.Contested 0) 1 s.log ∧
        s.queue.Restarted (s.step .drainOrdered).queue ∧ s.queue.Restarted (s.step .clear).queue)
      (.start 0 1) drainedRun :=
  fair_lane_limit 0 1 (by decide) 0 drainedRun

/-- The pops of a log. -/
def pops (log : List LaneEvent) : List LaneEvent := log.filter (· matches .pop ..)

/-- The count is restarted by a drain while the cursor stays, so the two
pops around it both come from lane 0. -/
theorem fair_lane_limit_fails :
    ¬ ∀ (capacity m : Nat), 0 < m → ∀ (lane : Fin 5) (ops : List QueueOp),
      BlocksLe (LaneEvent.Contested lane) m
        (pops (run LaneRun.step (.start capacity m) ops).log) := by
  intro h
  have hle := h 0 1 (by decide) 0 drainedRun _ (List.infix_refl _) (by decide)
  exact absurd hle (by decide)

/-! ### A waiting lane is served -/

/-- A pop that goes to the lanes and finds the current one empty, below its
limit, starts its search over at lane 0; that finds the lane at which the
round would have gone on. -/
def KeepsRound (s : LaneRun) : QueueOp → Prop
  | .pop _ =>
    s.queue.servesPriority = true → s.queue.consecutiveFromLane < s.queue.maxConsecutive →
      s.queue.lanes s.queue.currentLane = [] →
      s.queue.nextNonEmptyLane 0 = s.queue.nextNonEmptyLane (s.queue.currentLane + 1)
  | .push .. | .peek | .drainOrdered | .clear => True

instance KeepsRound.decidable (s : LaneRun) : DecidablePred (KeepsRound s)
  | .pop _ => inferInstanceAs (Decidable (_ → _ → _ → _ = _))
  | .push .. | .peek | .drainOrdered | .clear => isTrue trivial

/-- A streak of pops that pass `lane` over: the cursor is on another lane,
and each lane it has left behind since was served `m` times at most. -/
structure LaneRun.Bounded (m : Nat) (lane : Fin 5) (s : LaneRun) : Prop where
  fair : s.queue.Fair m
  blocks : BlocksLe (LaneEvent.PassesOver lane) (4 * m) s.log
  covered : 0 < streak (LaneEvent.PassesOver lane) s.log →
    s.queue.currentLane ≠ lane ∧ streak (LaneEvent.PassesOver lane) s.log ≤
      m * (3 - gap s.queue.currentLane lane) + s.queue.consecutiveFromLane

theorem gap_le_three {current lane : Fin 5} (h : current ≠ lane) : gap current lane ≤ 3 := by
  have hne : current.val ≠ lane.val := fun hv => h (Fin.ext hv)
  simp only [gap]
  omega

/-- Moving onward to a lane before `lane` shortens the way to `lane`. -/
theorem gap_lt_of_before {current next lane : Fin 5} (h : gap current next < gap current lane) :
    gap next lane < gap current lane := by
  simp only [gap] at h ⊢
  omega

/-- A cursor that moves while `lane` waits, and not to `lane`, comes closer
to it. -/
theorem LaneRun.Bounded.onward {lane taken : Fin 5} (h : s.Bounded m lane)
    (hnext : s.queue.nextNonEmptyLane (s.queue.currentLane + 1) = some taken)
    (hpass : LaneEvent.PassesOver lane (.pop s.queue taken)) :
    streak (LaneEvent.PassesOver lane) s.log + 1 ≤ m * (3 - gap taken lane) + 1 := by
  obtain ⟨hne, hwaits⟩ := hpass
  apply Nat.succ_le_succ
  by_cases hpos : 0 < streak (LaneEvent.PassesOver lane) s.log
  · obtain ⟨hcur, hcovered⟩ := h.covered hpos
    have hcur := gap_le_three hcur
    have hle := gap_le_of_next hnext hwaits
    have hlt : gap s.queue.currentLane taken < gap s.queue.currentLane lane :=
      lt_of_le_of_ne hle fun heq => hne (gap_inj _ heq)
    have hcloser := gap_lt_of_before hlt
    calc streak (LaneEvent.PassesOver lane) s.log
        ≤ m * (3 - gap s.queue.currentLane lane) + s.queue.consecutiveFromLane := hcovered
      _ ≤ m * (3 - gap s.queue.currentLane lane) + m :=
          Nat.add_le_add_left h.fair.count_le _
      _ = m * (3 - gap s.queue.currentLane lane + 1) := (Nat.mul_succ ..).symm
      _ ≤ m * (3 - gap taken lane) := Nat.mul_le_mul_left m (by omega)
  · exact (Nat.le_zero.mp (Nat.le_of_not_lt hpos)).trans_le (Nat.zero_le _)

theorem LaneRun.Bounded.serves {lane taken : Fin 5} {count now : Nat} (h : s.Bounded m lane)
    (hround : KeepsRound s (.pop now)) (hside : s.queue.servesPriority = true)
    (hmove : CursorMove s.queue taken count)
    (hpass : LaneEvent.PassesOver lane (.pop s.queue taken)) :
    streak (LaneEvent.PassesOver lane) s.log + 1 ≤ m * (3 - gap taken lane) + count := by
  cases hmove with
  | stays below busy =>
      by_cases hpos : 0 < streak (LaneEvent.PassesOver lane) s.log
      · exact Nat.succ_le_succ (h.covered hpos).2
      · rw [Nat.le_zero.mp (Nat.le_of_not_lt hpos)]
        omega
  | onward reached next => exact h.onward next hpass
  | restarts below idle next =>
      rw [hround hside below idle] at next
      exact h.onward next hpass

/-- An event that ends the streak. -/
theorem LaneRun.Bounded.breaks {lane : Fin 5} (h : s.Bounded m lane) {q : OutboundPriorityQueue}
    (hfair : q.Fair m) {event : LaneEvent} (hevent : ¬ event.PassesOver lane) :
    LaneRun.Bounded m lane ⟨q, s.log ++ [event]⟩ := by
  have hzero := streak_concat_neg hevent s.log
  refine ⟨hfair, blocksLe_concat h.blocks (by rw [hzero]; exact Nat.zero_le _), ?_⟩
  intro hpos
  rw [hzero] at hpos
  exact absurd hpos (lt_irrefl 0)

theorem LaneRun.Bounded.step {lane : Fin 5} (op : QueueOp) (hround : KeepsRound s op)
    (h : s.Bounded m lane) : (s.step op).Bounded m lane := by
  obtain ⟨houtcome, hfair⟩ := LaneRun.step_outcome h.fair op
  generalize s.step op = s' at houtcome hfair
  cases houtcome with
  | quiet current count =>
      refine ⟨hfair, h.blocks, fun hpos => ?_⟩
      show _ ≠ lane ∧ _ ≤ m * (3 - gap _ lane) + _
      rw [current, count]
      exact h.covered hpos
  | @serves taken count now pop side move busy =>
      subst pop
      by_cases hpass : LaneEvent.PassesOver lane (.pop s.queue taken)
      · have hcovered := h.serves hround side move hpass
        rw [← streak_concat_pos hpass] at hcovered
        -- the lane served is at least one step away from `lane`
        have htotal : m * (3 - gap taken lane) + count ≤ 4 * m := by
          calc m * (3 - gap taken lane) + count
              ≤ m * 3 + m := Nat.add_le_add (Nat.mul_le_mul_left m (Nat.sub_le ..)) hfair.count_le
            _ = 4 * m := by omega
        exact ⟨hfair, blocksLe_concat h.blocks (hcovered.trans htotal),
          fun _ => ⟨hpass.1, hcovered⟩⟩
      · exact h.breaks hfair hpass
  | resets count => exact h.breaks hfair id

/-- **A waiting lane is served within `4 * max_consecutive + 1` pops from the
lanes**, in every state of every run in which no search that starts over at
lane 0 leaves the round. -/
theorem fair_lane_waiting (capacity m : Nat) (hm : 0 < m) (lane : Fin 5) (ops : List QueueOp)
    (hops : Admissible LaneRun.step KeepsRound (.start capacity m) ops) :
    Always LaneRun.step (fun s => BlocksLe (LaneEvent.PassesOver lane) (4 * m) s.log)
      (.start capacity m) ops := by
  have hall : Always LaneRun.step (LaneRun.Bounded m lane) (.start capacity m) ops := by
    refine always_of_admissible (fun s op hround h => h.step op hround) ?_ hops
    exact ⟨LaneRun.fair_start capacity hm, blocksLe_nil _, fun hpos => absurd hpos (lt_irrefl 0)⟩
  exact hall.mono fun s h => h.blocks

theorem fair_lane_waiting_drainedRun :
    Admissible LaneRun.step KeepsRound (.start 0 1) drainedRun ∧
      Always LaneRun.step (fun s => BlocksLe (LaneEvent.PassesOver 1) 4 s.log)
        (.start 0 1) drainedRun :=
  ⟨by decide, fair_lane_waiting 0 1 (by decide) 1 drainedRun (by decide)⟩

/-- A push and a pop of an envelope for lane 0, then for lane 1. -/
def busyPair : List QueueOp :=
  [.push (sampleEnvelope .tell 0 1) 0, .pop 1, .push (sampleEnvelope .tell 64 2) 2, .pop 3]

/-- An envelope waits in lane 4 while lanes 0 and 1 are busy in turn. -/
def starvingRun : List QueueOp :=
  .push (sampleEnvelope .tell 255 0) 0 ::
    (busyPair ++ busyPair ++ busyPair ++ busyPair ++ busyPair)

theorem fair_lane_starves :
    ¬ ∀ (capacity m : Nat), 0 < m → ∀ (lane : Fin 5) (ops : List QueueOp),
      BlocksLe (LaneEvent.PassesOver lane) (4 * m)
        (run LaneRun.step (.start capacity m) ops).log := by
  intro h
  have hle := h 0 2 (by decide) 4 starvingRun _ (List.infix_refl _) (by decide +kernel)
  exact absurd hle (by decide +kernel)

end Dactor
