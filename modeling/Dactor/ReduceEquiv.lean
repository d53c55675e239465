/-
Dactor/ReduceEquiv.lean

Batched and plain reduce are equivalent.

Both drains run the same loop, so what they let through is a function of the
number of turns.  The batched one delivers it in the same order by its
invariant; it does deliver it because the tasks can only come to rest with
nothing left on the way (`Flowing.idle`), and do come to rest because every
step leaves less to do.

Main result: `reduce_batched_equiv`.
-/
import Dactor.ReduceBatched

namespace Dactor

open Runs Channels

variable {σ T : Type}

namespace BatchedDrain

variable {c : ReduceCall σ T} {config : BatchConfig} {istate : σ} {s : BatchedDrain σ T}

/-! ### Nothing is left when nothing moves -/

/-- The actor has emptied its channel. -/
theorem items_nil_of_recv (h : s.step c config .recv = s) : s.items.queue = [] := by
  cases hrecv : s.items.recv with
  | none => exact Channel.recv_eq_none.mp hrecv
  | some p =>
      obtain ⟨item, items⟩ := p
      simp only [step, hrecv] at h
      have hreceived : s.received ++ [item] = s.received := congrArg BatchedDrain.received h
      exact absurd (List.append_right_eq_self.mp hreceived) (List.cons_ne_nil _ _)

theorem Flowing.items_hasRoom (h : s.Flowing c config istate) (hnil : s.items.queue = []) :
    s.items.HasRoom := by
  obtain ⟨n, -, -, hcap⟩ := h.room
  exact Channel.hasRoom_of_empty hcap hnil

/-- With room in the actor's channel, the third task only stands still with
nothing to send, and after the second one has ended only at its own end. -/
theorem Flowing.third_idle (h : s.Flowing c config istate) (hroom : s.items.HasRoom)
    (hidle : s.unbatch = s) :
    s.current = [] ∧ s.batches.queue = [] ∧ (s.phase = .done → s.hungUp = true) := by
  cases hup : s.hungUp with
  | true =>
      obtain ⟨-, hbatches, hcurrent⟩ := h.hungUp hup
      exact ⟨hcurrent, hbatches, fun _ => rfl⟩
  | false =>
      rw [BatchedDrain.unbatch, if_neg (by rw [hup]; exact Bool.false_ne_true)] at hidle
      cases hcurrent : s.current with
      | cons item rest =>
          simp only [hcurrent, Channel.trySend_of_admits ⟨h.itemsOpen, hroom⟩] at hidle
          have hrest : rest = s.current := congrArg BatchedDrain.current hidle
          rw [hcurrent] at hrest
          exact absurd hrest (List.ne_cons_self)
      | nil =>
          simp only [hcurrent] at hidle
          cases hrecv : s.batches.recv with
          | some p =>
              obtain ⟨batch, batches⟩ := p
              obtain ⟨hq, -, -⟩ := Channel.recv_eq_some hrecv
              simp only [hrecv] at hidle
              have hbatch : batch = s.current := congrArg BatchedDrain.current hidle
              have hne := h.batchSize batch (by rw [hq]; exact List.mem_cons_self)
              exact absurd (hbatch.trans hcurrent) hne
          | none =>
              refine ⟨rfl, Channel.recv_eq_none.mp hrecv, fun hphase => ?_⟩
              simp only [hrecv, hphase] at hidle
              have hdone : true = s.hungUp := congrArg BatchedDrain.hungUp hidle
              rw [hup] at hdone
              cases hdone

theorem wrote_intercepted (s : BatchedDrain σ T) (r : Option (List T) × BatchWriter T) :
    (s.wrote r).intercepted = s.intercepted := by
  obtain ⟨batch | batch, w⟩ := r <;> rfl

theorem wrote_phase_ne {r : Option (List T) × BatchWriter T} (hr : r.1.isSome) (since : Nat) :
    (s.wrote r).phase ≠ .waiting since := by
  obtain ⟨batch | batch, w⟩ := r
  · cases hr
  · intro h
    cases h

theorem finalFlush_phase_ne (s : BatchedDrain σ T) (since : Nat) :
    s.finalFlush.phase ≠ .waiting since := by
  rw [BatchedDrain.finalFlush]
  split
  · intro h
    cases h
  · intro h
    cases h

/-- Waiting with an empty channel, the second task moves when the first one
has ended, and sooner or later when it has something in its buffer. -/
theorem Flowing.waiting_idle (h : s.Flowing c config istate) {since : Nat}
    (hphase : s.phase = .waiting since)
    (hidle : ∀ d, (s.step c config (.wait d)).write c.itemSize config =
      s.step c config (.wait d)) :
    s.writer.buffer = [] ∧ s.intercepted.queue = [] ∧ s.intake.loop.done = false := by
  obtain ⟨-, -, timed, hbuf, htimes⟩ := h.ready_at hphase
  have hnow : s.write c.itemSize config = s := hidle 0
  rw [BatchedDrain.write, hphase] at hnow
  dsimp only at hnow
  cases hrecv : s.intercepted.recv with
  | some p =>
      obtain ⟨item, intercepted⟩ := p
      obtain ⟨hq, -, -⟩ := Channel.recv_eq_some hrecv
      simp only [hrecv] at hnow
      -- a push takes the item, and a panic ends the task
      rcases hpush : s.writer.push config item s.clock with ⟨- | sent, w⟩
      · simp only [hpush] at hnow
        have hdone := (congrArg BatchedDrain.phase hnow).trans hphase
        cases hdone
      · simp only [hpush] at hnow
        have hsame : intercepted = s.intercepted := by
          have hfield := congrArg BatchedDrain.intercepted hnow
          rwa [wrote_intercepted] at hfield
        rw [hsame] at hq
        exact absurd hq List.ne_cons_self
  | none =>
      simp only [hrecv] at hnow
      have hrun : s.intake.loop.done = false := by
        cases hdone : s.intake.loop.done with
        | false => rfl
        | true =>
            rw [hdone, if_pos rfl] at hnow
            exact absurd ((congrArg BatchedDrain.phase hnow).trans hphase)
              (finalFlush_phase_ne s since)
      refine ⟨?_, Channel.recv_eq_none.mp hrecv, hrun⟩
      by_contra hne
      -- the timer goes off while the task waits
      have hlater := hidle (since + config.maxDelay)
      have hdue : since + config.maxDelay ≤ s.clock + (since + config.maxDelay) :=
        Nat.le_add_left _ _
      have hsome := hbuf.checkDeadline_due htimes hne hdue
      simp only [step, BatchedDrain.write, hphase, hrecv, hrun, Bool.false_eq_true,
        if_false] at hlater
      rw [if_pos ⟨hne, hdue⟩] at hlater
      exact absurd (congrArg BatchedDrain.phase hlater) (wrote_phase_ne hsome since)

theorem Flowing.second_idle (h : s.Flowing c config istate) (hnil : s.batches.queue = [])
    (hidle : ∀ d, (s.step c config (.wait d)).write c.itemSize config =
      s.step c config (.wait d)) :
    s.phase.batch = [] ∧ s.writer.buffer = [] ∧ s.intercepted.queue = [] ∧
      (s.intake.loop.done = true → s.phase = .done) := by
  cases hphase : s.phase with
  | starting =>
      -- the first poll makes the writer or ends the task
      have hnow : s.write c.itemSize config = s := hidle 0
      rw [BatchedDrain.write, hphase] at hnow
      rcases hnew : (BatchWriter.new c.itemSize config : Option (BatchWriter T)) with - | w
      · simp only [hnew] at hnow
        have hdone := (congrArg BatchedDrain.phase hnow).trans hphase
        cases hdone
      · simp only [hnew] at hnow
        have hwaits := (congrArg BatchedDrain.phase hnow).trans hphase
        cases hwaits
  | waiting since =>
      obtain ⟨hbuf, hq, hrun⟩ := h.waiting_idle hphase hidle
      refine ⟨rfl, hbuf, hq, fun hdone => ?_⟩
      rw [hrun] at hdone
      cases hdone
  | sending batch last =>
      -- there is room for the batch
      obtain ⟨n, -, hcap, -⟩ := h.room
      have hlive : s.hungUp = false := h.live (by rw [hphase]; exact Nat.one_pos)
      have hnow : s.write c.itemSize config = s := hidle 0
      rw [BatchedDrain.write, hphase] at hnow
      simp only [Channel.trySend_of_admits
        ⟨h.batchesOpen hlive, Channel.hasRoom_of_empty hcap hnil⟩] at hnow
      have hfield := (congrArg BatchedDrain.phase hnow).trans hphase
      cases last with
      | true => cases hfield
      | false => cases hfield
  | done =>
      obtain ⟨-, hq, hbuf⟩ := h.ready_at hphase
      exact ⟨rfl, hbuf, hq, fun _ => rfl⟩

theorem Flowing.first_idle (h : s.Flowing c config istate) (hnil : s.intercepted.queue = [])
    (hidle : ∀ d, (s.step c config (.wait d)).step c config .forward = s.step c config (.wait d)) :
    s.intake.held = none := by
  cases hheld : s.intake.held with
  | none => rfl
  | some x =>
      obtain ⟨item, readyAt⟩ := x
      obtain ⟨n, hcap, -, -⟩ := h.room
      have hopen := h.interceptedOpen (h.running_of_held hheld)
      have hready : readyAt ≤ s.clock + readyAt := Nat.le_add_left _ _
      have hlater := hidle readyAt
      simp only [step, Intake.forward_of_admits hheld hready
        ⟨hopen, Channel.hasRoom_of_empty hcap hnil⟩] at hlater
      have hnone : none = s.intake.held :=
        congrArg (fun s : BatchedDrain σ T => s.intake.held) hlater
      rw [hheld] at hnone
      cases hnone

/-- When no task can move, the actor has all that the loop let through, and
its channel is closed if the loop has ended. -/
theorem Flowing.idle (h : s.Flowing c config istate) (hidle : s.Idle c config) :
    s.received = s.intake.loop.forwarded ∧ (s.intake.loop.done = true → s.closed = true) := by
  have htask : ∀ op ∈ tasks, s.step c config op = s := fun op hop => hidle 0 op hop
  have hitems : s.items.queue = [] :=
    items_nil_of_recv (htask .recv (by simp only [tasks, List.mem_cons, or_true, true_or]))
  obtain ⟨hcurrent, hbatches, hup⟩ := h.third_idle (h.items_hasRoom hitems)
    (htask .unbatch (by simp [tasks]))
  obtain ⟨hbatch, hbuf, hq, hended⟩ := h.second_idle hbatches
    fun d => hidle d .write (by simp [tasks])
  have hheld := h.first_idle hq fun d => hidle d .forward (by simp [tasks])
  refine ⟨?_, fun hdone => hup (hended hdone)⟩
  have hway : s.onTheWay = [] := by
    rw [onTheWay, hcurrent, hbatches, hbatch, hbuf, hq, Intake.heldItems, hheld]
    rfl
  rw [← h.flow, hway, delivered, hitems, List.append_nil, List.append_nil]

/-- Left to themselves, the tasks come to rest, unless the second one gets to
a step in which it panics. -/
theorem Flowing.exists_idle (h : s.Flowing c config istate) :
    ∃ more, (∀ op ∈ more, op ∈ tasks ∨ ∃ d, op = .wait d) ∧
      ((run (step c config) s more).Idle c config ∨
        ¬ (run (step c config) s more).WriterFits c config) := by
  -- by induction on the work that is left
  induction hn : s.work using Nat.strong_induction_on generalizing s with
  | _ n ih =>
      by_cases hidle : s.Idle c config
      · exact ⟨[], fun _ hop => absurd hop List.not_mem_nil, .inl hidle⟩
      · simp only [Idle, not_forall] at hidle
        obtain ⟨d, op, hop, hmove⟩ := hidle
        by_cases hfits : (s.step c config (.wait d)).WriterFits c config
        swap
        · refine ⟨[.wait d], fun o ho => ?_, .inr hfits⟩
          rw [List.mem_singleton.mp ho]
          exact .inr ⟨d, rfl⟩
        rcases (h.wait d).progress hop fun _ => hfits with hsame | ⟨hflow, hless⟩
        · exact absurd hsame hmove
        · have hwork : (s.step c config (.wait d)).work = n := hn
          rw [hwork] at hless
          obtain ⟨more, hmore, hrest⟩ := ih _ hless hflow rfl
          refine ⟨.wait d :: op :: more, fun o ho => ?_, hrest⟩
          rcases List.mem_cons.mp ho with rfl | ho
          · exact .inr ⟨d, rfl⟩
          rcases List.mem_cons.mp ho with rfl | ho
          · exact .inl hop
          · exact hmore o ho

/-- A closed channel has everything. -/
theorem Flowing.delivered_eq (h : s.Flowing c config istate) (hclosed : s.closed = true) :
    s.intake.loop.done = true ∧ s.delivered = s.intake.loop.forwarded := by
  obtain ⟨hphase, hbatches, hcurrent⟩ := h.hungUp hclosed
  obtain ⟨hdone, hq, hbuf⟩ := h.ready_at hphase
  have hway : s.onTheWay = [] := by
    rw [onTheWay, hcurrent, hbatches, hphase, hbuf, hq, Intake.heldItems, h.intake.held hdone]
    rfl
  refine ⟨hdone, ?_⟩
  rw [← h.flow, hway, List.append_nil]

theorem Flowing.delivered_prefix (h : s.Flowing c config istate) :
    s.delivered <+: s.intake.loop.forwarded := by
  rw [← h.flow]
  exact List.prefix_append _ _

end BatchedDrain

/-! ### The two drains side by side -/

/-- The notices of a drain, without their text. -/
def DrainLoop.told (l : DrainLoop σ T) : List DropNotice := l.notices.map DropNotice.sansContext

/-- How a batched drain stands to a plain one: after the same turns both have
let the same items through and told the same, and a channel that is closed
has all that the other one will ever have. -/
structure BatchedDrain.Matches (b : BatchedDrain σ T) (q : PlainDrain σ T) : Prop where
  sameTurns : b.intake.loop.turns = q.intake.loop.turns →
    b.delivered ++ b.onTheWay = q.delivered ++ q.intake.heldItems ∧
      b.intake.loop.told = q.intake.loop.told
  batchedClosed : b.closed = true →
    q.delivered <+: b.delivered ∧ q.intake.loop.told <+: b.intake.loop.told
  plainClosed : q.closed = true →
    b.delivered <+: q.delivered ∧ b.intake.loop.told <+: q.intake.loop.told
  bothClosed : b.closed = true → q.closed = true →
    b.delivered = q.delivered ∧ b.intake.loop.told = q.intake.loop.told

/-- The tasks of a batched drain get done: each step leaves less to do, they
can come to rest as long as the second one does not panic, and then the actor
has everything. -/
structure BatchedDrain.GetsDone (c : ReduceCall σ T) (config : BatchConfig)
    (b : BatchedDrain σ T) : Prop where
  progress : ∀ op ∈ tasks, (op = .write → b.WriterFits c config) →
    b.step c config op = b ∨ (b.step c config op).work < b.work
  rests : ∃ more, (∀ op ∈ more, op ∈ tasks ∨ ∃ d, op = .wait d) ∧
    ((run (step c config) b more).Idle c config ∨
      ¬ (run (step c config) b more).WriterFits c config)
  idle : b.Idle c config →
    b.received = b.intake.loop.forwarded ∧ (b.intake.loop.done = true → b.closed = true)

section Drains

variable {c : ReduceCall σ T} {config : BatchConfig} {istate : σ}
variable {b : BatchedDrain σ T} {q : PlainDrain σ T}

/-- What a loop lets through and tells does not depend on the text of its
notices. -/
theorem ReduceCall.drained_told (c : ReduceCall σ T) (context context' : String)
    (istate : σ) (n : Nat) :
    (c.drained context istate n).forwarded = (c.drained context' istate n).forwarded ∧
      (c.drained context istate n).told = (c.drained context' istate n).told := by
  have h := c.drained_sansContext context context' istate n
  have hforwarded : (c.drained context istate n).sansContext.forwarded =
      (c.drained context' istate n).sansContext.forwarded := congrArg DrainLoop.forwarded h
  exact ⟨hforwarded, congrArg DrainLoop.notices h⟩

/-- A loop that has ended has let through and told all that any other has. -/
theorem ReduceCall.drained_prefix (c : ReduceCall σ T) (context context' : String) (istate : σ)
    {n : Nat} (hdone : (c.drained context istate n).done = true) (m : Nat) :
    (c.drained context' istate m).forwarded <+: (c.drained context istate n).forwarded ∧
      (c.drained context' istate m).told <+: (c.drained context istate n).told := by
  obtain ⟨hforwarded, htold⟩ := c.drained_told context' context istate m
  rw [hforwarded, htold]
  rcases Nat.le_total m n with hmn | hnm
  · exact ⟨ReduceCall.forwarded_mono hmn, (ReduceCall.notices_mono hmn).map _⟩
  · rw [ReduceCall.drained_of_done hdone hnm]
    exact ⟨List.prefix_rfl, List.prefix_rfl⟩

theorem BatchedDrain.Flowing.matches (hb : b.Flowing c config istate) (hq : q.Exact c istate) :
    b.Matches q := by
  have hbatched : b.closed = true →
      q.delivered <+: b.delivered ∧ q.intake.loop.told <+: b.intake.loop.told := by
    intro hclosed
    obtain ⟨hdone, hdelivered⟩ := hb.delivered_eq hclosed
    rw [hb.intake.loop] at hdone
    have hprefix := c.drained_prefix feedItemBatched feedItem istate hdone q.intake.loop.turns
    rw [← hb.intake.loop, ← hq.intake.loop] at hprefix
    rw [hdelivered]
    exact ⟨hq.delivered_prefix.trans hprefix.1, hprefix.2⟩
  have hplain : q.closed = true →
      b.delivered <+: q.delivered ∧ b.intake.loop.told <+: q.intake.loop.told := by
    intro hclosed
    have hdone : q.intake.loop.done = true := hclosed
    rw [hq.intake.loop] at hdone
    have hprefix := c.drained_prefix feedItem feedItemBatched istate hdone b.intake.loop.turns
    rw [← hb.intake.loop, ← hq.intake.loop] at hprefix
    rw [hq.delivered_eq hclosed]
    exact ⟨hb.delivered_prefix.trans hprefix.1, hprefix.2⟩
  refine ⟨fun hturns => ?_, hbatched, hplain, fun hb' hq' => ?_⟩
  · rw [hb.flow, hq.flow, hb.intake.loop, hq.intake.loop, hturns]
    exact c.drained_told feedItemBatched feedItem istate q.intake.loop.turns
  · obtain ⟨hqb, htold⟩ := hbatched hb'
    obtain ⟨hbq, htold'⟩ := hplain hq'
    exact ⟨hbq.eq_of_length_le hqb.length_le, htold'.eq_of_length_le htold.length_le⟩

end Drains

/-! ### Main result -/

/-- **Batched reduce is plain reduce where nothing panics.**  For every input,
interceptors (in the same state at the start), configuration and buffer size,
and whatever the schedules of the two drains, as long as the actor keeps its
channel open, nobody cancels, the writer can be made, and an item that is
pushed has a deadline or gets one: the batched drain delivers and reports what the plain one
does, closes the channel only after the last item, and never gets stuck. -/
theorem reduce_batched_equiv (c : ReduceCall σ T) (istate : σ) (config : BatchConfig)
    (buffer plainBuffer : Nat) {ops : List BatchedOp} {plainOps : List DrainOp}
    (hops : Admissible (BatchedDrain.step c config) (BatchedDrain.Undisturbed c config)
      (.start buffer istate) ops)
    (hplain : Admissible (PlainDrain.step c) PlainDrain.Undisturbed
      (.start plainBuffer istate) plainOps) :
    let b := run (BatchedDrain.step c config) (.start buffer istate) ops
    let q := run (PlainDrain.step c) (.start plainBuffer istate) plainOps
    b.Matches q ∧ b.GetsDone c config := by
  have hb := (always_of_admissible BatchedDrain.flowing_step
    (BatchedDrain.flowing_start c config istate buffer) hops).last
  have hq := (PlainDrain.always_exact c istate plainBuffer hplain).last
  refine ⟨hb.matches hq, ⟨fun op hop hfits => ?_, hb.exists_idle, hb.idle⟩⟩
  rcases hb.progress hop hfits with hsame | ⟨-, hless⟩
  · exact .inl hsame
  · exact .inr hless

/-- Drops even numbers and rejects those from 100 on. -/
def numberGuard : OutboundInterceptor Unit Nat where
  name := "guard"
  onSend _ _ headers _ s := (.continued, headers, s)
  onExpandItem _ _ _ item s :=
    (if 100 ≤ item then .reject "too large" else if item % 2 = 0 then .drop else .continued, s)

def numberCall : ReduceCall Unit Nat where
  pipeline := ⟨[numberGuard], true, ⟨⟨"node-1"⟩, 1⟩, "sum"⟩
  messageType := "u64"
  itemSize := 8
  input n := [1, 2, 3, 100, 5][n]?

def batchedSchedule : List BatchedOp :=
  [.write, .next, .forward, .write, .next, .next, .forward, .write, .write, .next, .unbatch,
    .unbatch, .recv, .unbatch, .recv, .write, .unbatch]

def plainSchedule : List DrainOp := [.next, .forward, .recv, .next, .next, .forward, .next]

/-- Both drains get 1 and 3 through, report the 2, and end at the 100. -/
theorem reduce_batched_equiv_numbers :
    let b := run (BatchedDrain.step numberCall ⟨2, 5000000⟩) (.start 0 ()) batchedSchedule
    let q := run (PlainDrain.step numberCall) (.start 8 ()) plainSchedule
    b.closed = true ∧ q.closed = true ∧ b.delivered = q.delivered ∧
      b.intake.loop.told = q.intake.loop.told ∧ b.delivered = [1, 3] := by
  have hops : Admissible (BatchedDrain.step numberCall ⟨2, 5000000⟩)
      (BatchedDrain.Undisturbed numberCall ⟨2, 5000000⟩) (.start 0 ()) batchedSchedule := by
    decide
  have hplain : Admissible (PlainDrain.step numberCall) PlainDrain.Undisturbed
      (.start 8 ()) plainSchedule := by
    repeat first | exact trivial | refine ⟨trivial, ?_⟩
  have hclosed : (run (BatchedDrain.step numberCall ⟨2, 5000000⟩) (.start 0 ())
      batchedSchedule).closed = true := by decide
  have hclosed' : (run (PlainDrain.step numberCall) (.start 8 ()) plainSchedule).closed = true := by
    decide
  obtain ⟨hmatches, -⟩ := reduce_batched_equiv numberCall () ⟨2, 5000000⟩ 0 8 hops hplain
  obtain ⟨hdelivered, htold⟩ := hmatches.bothClosed hclosed hclosed'
  exact ⟨hclosed, hclosed', hdelivered, htold, by decide⟩

/-- Batches of `usize::MAX` items, or with a delay of `Duration::MAX`: the actor
gets nothing and its channel is closed, where the plain drain delivers 1 and
3. -/
theorem reduce_batched_panics :
    let delivers := fun config : BatchConfig =>
      let b := run (BatchedDrain.step numberCall config) (.start 0 ())
        [.write, .next, .forward, .write, .unbatch]
      (b.closed, b.delivered)
    let q := run (PlainDrain.step numberCall) (.start 8 ()) plainSchedule
    delivers ⟨2 ^ 64 - 1, 5000000⟩ = (true, []) ∧ delivers ⟨2, durationMax⟩ = (true, []) ∧
      q.closed = true ∧ q.delivered = [1, 3] := by
  decide

end Dactor
