/-
Dactor/ReduceBatched.lean

The batched drain of a `reduce` call.

`spawn_reduce_batched_drain` runs three tasks: the first intercepts the items
as the plain drain does, the second groups them into batches by size and by
time, and the third takes the batches apart for the actor.  Each waits while
the channel in front of it is full, and each ends when the one before it has
ended and left nothing behind.  The second one also ends, and what it buffers
is lost, when the writer cannot be made or a push panics.

The invariant `Flowing` accounts for every item on its way, and the measure
`work` falls with every step of a task.

Main result: `BatchedDrain.flowing_step`, with `Flowing.progress`.
-/
import Dactor.Batching
import Dactor.ReduceDrain

namespace Dactor

open Runs Channels

variable {σ T : Type}

/-! ### The three tasks -/

/-- Where the writer task is: not yet polled, at the head of its loop since
some instant, in the middle of sending a batch (the one after the loop is the
last), or at its end. -/
inductive WriterPhase (T : Type)
  | starting
  | waiting (since : Nat)
  | sending (batch : List T) (last : Bool)
  | done

/-- The batch being sent. -/
def WriterPhase.batch : WriterPhase T → List T
  | .sending batch _ => batch
  | _ => []

/-- Whether the task has an end before it. -/
def WriterPhase.rank : WriterPhase T → Nat
  | .starting => 2
  | .done => 0
  | _ => 1

/-- The tasks and the channels between them.  `current` is the batch being
taken apart; `hungUp` says that the third task has dropped its ends. -/
structure BatchedDrain (σ T : Type) where
  intake : Intake σ T
  intercepted : Channel T
  writer : BatchWriter T
  phase : WriterPhase T
  batches : Channel (List T)
  current : List T
  hungUp : Bool
  items : Channel T
  received : List T
  clock : Nat
  cancelled : Bool

inductive BatchedOp
  | next
  | forward
  | write
  | unbatch
  | recv
  | wait (d : Nat)
  | cancel
  | close

/-- The context of a batched drain's notices. -/
def feedItemBatched : String := "feed item (batched)"

namespace BatchedDrain

def start (buffer : Nat) (istate : σ) : BatchedDrain σ T where
  intake := .start istate
  intercepted := .new (some (max buffer 1))
  writer := .empty
  phase := .starting
  batches := .new (some (max buffer 1))
  current := []
  hungUp := false
  items := .new (some (max buffer 1))
  received := []
  clock := 0
  cancelled := false

/-- The writer task ends and drops its receiver. -/
def finish (s : BatchedDrain σ T) : BatchedDrain σ T :=
  { s with phase := .done, intercepted := s.intercepted.close }

/-- A call on the writer returned, or waits to send its batch. -/
def wrote (s : BatchedDrain σ T) (r : Option (List T) × BatchWriter T) : BatchedDrain σ T :=
  match r with
  | (none, writer) => { s with writer, phase := .waiting s.clock }
  | (some batch, writer) => { s with writer, phase := .sending batch false }

/-- The flush after the loop. -/
def finalFlush (s : BatchedDrain σ T) : BatchedDrain σ T :=
  match s.writer.flush with
  | (none, writer) => { s with writer }.finish
  | (some batch, writer) => { s with writer, phase := .sending batch true }

/-- A panic ends the task: the one of `new`, which nothing catches, and the one
of `push`, which is caught and logged. -/
def panicked (s : BatchedDrain σ T) : BatchedDrain σ T := { s with writer := .empty }.finish

/-- The second task.  Its `select!` is biased: it looks at the timer only
when there is no item and more may come. -/
def write (itemSize : Nat) (config : BatchConfig) (s : BatchedDrain σ T) : BatchedDrain σ T :=
  match s.phase with
  | .starting =>
    match BatchWriter.new itemSize config with
    | some writer => { s with writer, phase := .waiting s.clock }
    | none => s.panicked
  | .waiting since =>
    match s.intercepted.recv with
    | some (item, intercepted) =>
      match s.writer.push config item s.clock with
      | (some sent, writer) => { s with intercepted }.wrote (sent, writer)
      | (none, _) => { s with intercepted }.panicked
    | none =>
      if s.intake.loop.done then s.finalFlush
      else if s.writer.buffer ≠ [] ∧ since + config.maxDelay ≤ s.clock then
        s.wrote (s.writer.checkDeadline s.clock)
      else s
  | .sending batch last =>
    match s.batches.trySend batch with
    | .ok batches =>
      if last then { s with batches }.finish
      else { s with batches, phase := .waiting s.clock }
    | .error .full => s
    | .error .closed => if last then s.finish else s.finalFlush
  | .done => s

/-- The third task drops its ends of both channels. -/
def hangUp (s : BatchedDrain σ T) : BatchedDrain σ T :=
  { s with current := [], batches := s.batches.close, hungUp := true }

/-- The third task. -/
def unbatch (s : BatchedDrain σ T) : BatchedDrain σ T :=
  if s.hungUp then s
  else
    match s.current with
    | item :: rest =>
      match s.items.trySend item with
      | .ok items => { s with items, current := rest }
      | .error .full => s
      | .error .closed => s.hangUp
    | [] =>
      match s.batches.recv with
      | some (batch, batches) => { s with batches, current := batch }
      | none =>
        match s.phase with
        | .done => s.hangUp
        | _ => s

def step (c : ReduceCall σ T) (config : BatchConfig) (s : BatchedDrain σ T) :
    BatchedOp → BatchedDrain σ T
  | .next => { s with intake := s.intake.next c feedItemBatched s.clock s.cancelled }
  | .forward =>
    let (intake, intercepted) := s.intake.forward s.clock s.intercepted
    { s with intake, intercepted }
  | .write => s.write c.itemSize config
  | .unbatch => s.unbatch
  | .recv =>
    match s.items.recv with
    | none => s
    | some (item, items) => { s with items, received := s.received ++ [item] }
  | .wait d => { s with clock := s.clock + d }
  | .cancel => { s with cancelled := true }
  | .close => { s with items := s.items.close }

/-- The second task does not panic in its next step, from each phase. -/
def FitsIn (c : ReduceCall σ T) (config : BatchConfig) (s : BatchedDrain σ T) :
    WriterPhase T → Prop
  | .starting => c.itemSize * config.maxItems ≤ isizeMax
  | .waiting _ => s.intercepted.queue = [] ∨ s.writer.DeadlineFits config s.clock
  | .sending _ _ | .done => True

instance (c : ReduceCall σ T) (config : BatchConfig) (s : BatchedDrain σ T) :
    (phase : WriterPhase T) → Decidable (s.FitsIn c config phase)
  | .starting => inferInstanceAs (Decidable (_ ≤ _))
  | .waiting _ => inferInstanceAs (Decidable (_ ∨ _))
  | .sending _ _ | .done => isTrue trivial

def WriterFits (c : ReduceCall σ T) (config : BatchConfig) (s : BatchedDrain σ T) : Prop :=
  s.FitsIn c config s.phase

/-- The actor keeps its channel open, nobody cancels, and the second task does
not panic. -/
def Undisturbed (c : ReduceCall σ T) (config : BatchConfig) (s : BatchedDrain σ T) :
    BatchedOp → Prop
  | .cancel | .close => False
  | .write => s.WriterFits c config
  | .next | .forward | .unbatch | .recv | .wait _ => True

instance (c : ReduceCall σ T) (config : BatchConfig) (s : BatchedDrain σ T) :
    (op : BatchedOp) → Decidable (s.Undisturbed c config op)
  | .cancel | .close => isFalse id
  | .write => inferInstanceAs (Decidable (s.FitsIn c config s.phase))
  | .next | .forward | .unbatch | .recv | .wait _ => isTrue trivial

/-- What has reached the actor's channel. -/
def delivered (s : BatchedDrain σ T) : List T := s.received ++ s.items.queue

/-- The actor's channel has no sender any more. -/
def closed (s : BatchedDrain σ T) : Bool := s.hungUp

/-- The steps of the tasks and of the actor, the input apart. -/
def tasks : List BatchedOp := [.forward, .write, .unbatch, .recv]

/-- However long one waits, no task can take a step before the input
yields. -/
def Idle (c : ReduceCall σ T) (config : BatchConfig) (s : BatchedDrain σ T) : Prop :=
  ∀ d, ∀ op ∈ tasks,
    (s.step c config (.wait d)).step c config op = s.step c config (.wait d)

/-! ### The invariant -/

/-- The items between the loop and the actor's channel, oldest first. -/
def onTheWay (s : BatchedDrain σ T) : List T :=
  s.current ++ s.batches.queue.flatten ++ s.phase.batch ++ s.writer.buffer ++
    s.intercepted.queue ++ s.intake.heldItems

/-- The writer task in each of its phases: before it begins it has nothing, what it buffers was pushed before
it began to wait, what it sends is not empty, and after the loop nothing is
left for it. -/
def WriterReady (config : BatchConfig) (loop : DrainLoop σ T) (intercepted : Channel T)
    (clock : Nat) (w : BatchWriter T) : WriterPhase T → Prop
  | .starting => intercepted.closed = false ∧ w.buffer = []
  | .waiting since => intercepted.closed = false ∧ since ≤ clock ∧
      ∃ timed, w.Buffers config timed ∧ ∀ x ∈ timed, x.2 ≤ since
  | .sending batch last => intercepted.closed = false ∧ batch ≠ [] ∧ w.Buffers config [] ∧
      (last = true → loop.done = true ∧ intercepted.queue = [])
  | .done => loop.done = true ∧ intercepted.queue = [] ∧ w.buffer = []

/-- An undisturbed drain. -/
structure Flowing (c : ReduceCall σ T) (config : BatchConfig) (istate : σ)
    (s : BatchedDrain σ T) : Prop where
  intake : s.intake.Faithful c feedItemBatched istate
  flow : s.delivered ++ s.onTheWay = s.intake.loop.forwarded
  ready : WriterReady config s.intake.loop s.intercepted s.clock s.writer s.phase
  batchesOpen : s.hungUp = false → s.batches.closed = false
  hungUp : s.hungUp = true → s.phase = .done ∧ s.batches.queue = [] ∧ s.current = []
  batchSize : ∀ batch ∈ s.batches.queue, batch ≠ []
  itemsOpen : s.items.closed = false
  notCancelled : s.cancelled = false
  room : ∃ n, s.intercepted.capacity = some (n + 1) ∧ s.batches.capacity = some (n + 1) ∧
    s.items.capacity = some (n + 1)

variable {c : ReduceCall σ T} {config : BatchConfig} {istate : σ} {s : BatchedDrain σ T}

theorem flowing_start (c : ReduceCall σ T) (config : BatchConfig) (istate : σ) (buffer : Nat) :
    (start buffer istate : BatchedDrain σ T).Flowing c config istate where
  intake := .start
  flow := rfl
  ready := ⟨rfl, rfl⟩
  batchesOpen := fun _ => rfl
  hungUp := fun h => by cases h
  batchSize := fun _ hb => absurd hb List.not_mem_nil
  itemsOpen := rfl
  notCancelled := rfl
  room := by
    have hpos : 0 < max buffer 1 := Nat.lt_of_lt_of_le Nat.one_pos (Nat.le_max_right buffer 1)
    obtain ⟨n, hn⟩ := Nat.exists_eq_add_one.mpr hpos
    exact ⟨n, congrArg some hn, congrArg some hn, congrArg some hn⟩

/-- The writer goes on as it is while the clock runs, as long as nothing comes
after the end of the loop. -/
theorem WriterReady.mono {loop loop' : DrainLoop σ T} {intercepted intercepted' : Channel T}
    {clock clock' : Nat} {w : BatchWriter T} {phase : WriterPhase T}
    (h : WriterReady config loop intercepted clock w phase) (hclock : clock ≤ clock')
    (hopen : intercepted'.closed = intercepted.closed)
    (hdone : loop.done = true →
      loop'.done = true ∧ intercepted'.queue = intercepted.queue) :
    WriterReady config loop' intercepted' clock' w phase := by
  cases phase with
  | starting =>
      obtain ⟨ho, hbuf⟩ := h
      exact ⟨hopen.trans ho, hbuf⟩
  | waiting since =>
      obtain ⟨ho, hsince, hbuf⟩ := h
      exact ⟨hopen.trans ho, hsince.trans hclock, hbuf⟩
  | sending batch last =>
      obtain ⟨ho, hne, hbuf, hlast⟩ := h
      refine ⟨hopen.trans ho, hne, hbuf, fun hl => ?_⟩
      obtain ⟨hd, hq⟩ := hlast hl
      exact ⟨(hdone hd).1, (hdone hd).2.trans hq⟩
  | done =>
      obtain ⟨hd, hq, hbuf⟩ := h
      exact ⟨(hdone hd).1, (hdone hd).2.trans hq, hbuf⟩

theorem Flowing.ready_at (h : s.Flowing c config istate) {phase : WriterPhase T}
    (hphase : s.phase = phase) :
    WriterReady config s.intake.loop s.intercepted s.clock s.writer phase := by
  rw [← hphase]
  exact h.ready

/-- What is left to do: how far each item still has to go, and the tasks that
have not ended. -/
def work (s : BatchedDrain σ T) : Nat :=
  7 * s.intake.heldItems.length + 6 * s.intercepted.queue.length + 5 * s.writer.buffer.length +
    4 * s.phase.batch.length + 3 * s.batches.queue.flatten.length + 2 * s.current.length +
    s.items.queue.length + s.phase.rank + if s.hungUp then 0 else 1

/-- A step of a task: nothing happens, or there is less left to do. -/
def Progress (c : ReduceCall σ T) (config : BatchConfig) (istate : σ)
    (s s' : BatchedDrain σ T) : Prop :=
  s' = s ∨ s'.Flowing c config istate ∧ s'.work < s.work

/-! ### The input and the first task -/

theorem Flowing.next (h : s.Flowing c config istate) :
    (s.step c config .next).Flowing c config istate := by
  obtain ⟨hfaithful, hflow⟩ := h.intake.next s.clock
  have hstep : s.step c config .next =
      { s with intake := s.intake.next c feedItemBatched s.clock false } := by
    rw [step, h.notCancelled]
  rw [hstep]
  have hdone : s.intake.loop.done = true →
      (s.intake.next c feedItemBatched s.clock false).loop.done = true := by
    intro hd
    rw [h.intake.next_of_done hd]
    exact hd
  refine ⟨hfaithful, ?_, ?_, h.batchesOpen, h.hungUp, h.batchSize, h.itemsOpen, h.notCancelled,
    h.room⟩
  · have hall := h.flow
    rw [onTheWay, ← List.append_assoc] at hall
    show s.delivered ++ (s.current ++ s.batches.queue.flatten ++ s.phase.batch ++
      s.writer.buffer ++ s.intercepted.queue ++ _) = _
    rw [← List.append_assoc]
    exact hflow _ hall
  · exact h.ready.mono (Nat.le_refl _) rfl fun hd => ⟨hdone hd, rfl⟩

/-- While the loop runs, the writer takes what comes. -/
theorem Flowing.interceptedOpen (h : s.Flowing c config istate)
    (hrun : s.intake.loop.done = false) : s.intercepted.closed = false := by
  cases hphase : s.phase with
  | starting => exact (h.ready_at hphase).1
  | waiting since => exact (h.ready_at hphase).1
  | sending batch last => exact (h.ready_at hphase).1
  | done =>
      rw [(h.ready_at hphase).1] at hrun
      cases hrun

/-- A held item means that the loop still runs. -/
theorem Flowing.running_of_held (h : s.Flowing c config istate) {x : T × Nat}
    (hheld : s.intake.held = some x) : s.intake.loop.done = false := by
  cases hd : s.intake.loop.done with
  | false => rfl
  | true =>
      rw [h.intake.held hd] at hheld
      cases hheld

theorem Flowing.forward (h : s.Flowing c config istate) :
    Progress c config istate s (s.step c config .forward) := by
  cases hheld : s.intake.held with
  | none =>
      have hforward : s.intake.forward s.clock s.intercepted = (s.intake, s.intercepted) := by
        rw [Intake.forward, hheld]
      refine .inl ?_
      simp only [step, hforward]
  | some x =>
      have hrun := h.running_of_held hheld
      have hopen := h.interceptedOpen hrun
      rcases s.intake.forward_cases s.clock hopen with heq | ⟨item, readyAt, hroom, hitem, heq⟩
      · refine .inl ?_
        simp only [step, heq]
      · have hheldItems : s.intake.heldItems = [item] := by
          rw [Intake.heldItems, hitem]
          rfl
        refine .inr ?_
        simp only [step, heq]
        refine ⟨⟨⟨h.intake.loop, fun _ => rfl⟩, ?_, ?_, h.batchesOpen, h.hungUp, h.batchSize,
          h.itemsOpen, h.notCancelled, h.room⟩, ?_⟩
        · rw [← h.flow, onTheWay, onTheWay, hheldItems]
          show s.delivered ++ (_ ++ (s.intercepted.queue ++ [item]) ++ []) = _
          simp only [List.append_assoc, List.append_nil]
        · refine h.ready.mono (Nat.le_refl _) rfl fun hd => ?_
          rw [hrun] at hd
          cases hd
        · rw [work, work, hheldItems]
          simp only [Intake.heldItems, Option.map_none, Option.toList_none, List.length_nil,
            Channel.enqueue_queue, List.length_append, List.length_singleton]
          omega

/-! ### The second task -/

/-- A task that has not ended keeps the third one going. -/
theorem Flowing.live (h : s.Flowing c config istate) (hrank : 0 < s.phase.rank) :
    s.hungUp = false := by
  cases hup : s.hungUp with
  | false => rfl
  | true =>
      rw [(h.hungUp hup).1] at hrank
      cases hrank

/-- The second task moves items towards the third and keeps their order. -/
theorem Flowing.writer_moves (h : s.Flowing c config istate) (hlive : s.hungUp = false)
    {intercepted : Channel T} {writer : BatchWriter T} {phase : WriterPhase T}
    {batches : Channel (List T)} (hcap : intercepted.capacity = s.intercepted.capacity)
    (hcap' : batches.capacity = s.batches.capacity) (hopen : batches.closed = false)
    (hready : WriterReady config s.intake.loop intercepted s.clock writer phase)
    (hsize : ∀ batch ∈ batches.queue, batch ≠ [])
    (hitems : batches.queue.flatten ++ phase.batch ++ writer.buffer ++ intercepted.queue =
      s.batches.queue.flatten ++ s.phase.batch ++ s.writer.buffer ++ s.intercepted.queue)
    (hwork : 6 * intercepted.queue.length + 5 * writer.buffer.length +
        4 * phase.batch.length + 3 * batches.queue.flatten.length + phase.rank <
      6 * s.intercepted.queue.length + 5 * s.writer.buffer.length +
        4 * s.phase.batch.length + 3 * s.batches.queue.flatten.length + s.phase.rank) :
    Progress c config istate s { s with intercepted, writer, phase, batches } := by
  refine .inr ⟨⟨h.intake, ?_, hready, fun _ => hopen, fun hup => ?_, hsize, h.itemsOpen,
    h.notCancelled, ?_⟩, ?_⟩
  · rw [← h.flow]
    show s.delivered ++ (s.current ++ batches.queue.flatten ++ phase.batch ++ writer.buffer ++
      intercepted.queue ++ s.intake.heldItems) = s.delivered ++ s.onTheWay
    have hway : ∀ xs ys zs us vs : List T, s.current ++ xs ++ ys ++ zs ++ us ++ vs =
        s.current ++ (xs ++ ys ++ zs ++ us) ++ vs := by
      intro xs ys zs us vs
      simp only [List.append_assoc]
    rw [onTheWay, hway, hway, hitems]
  · rw [hlive] at hup
    cases hup
  · rw [hcap, hcap']
    exact h.room
  · rw [work, work]
    dsimp only
    omega

/-- A call on the writer that has the items of `timed`, those of its buffer
and perhaps one more from the channel. -/
theorem Flowing.wrote (h : s.Flowing c config istate) {since : Nat}
    (hphase : s.phase = .waiting since) {intercepted : Channel T} {timed : List (T × Nat)}
    {r : Option (List T) × BatchWriter T} (hr : BatchWriter.Outcome config timed r)
    (hcap : intercepted.capacity = s.intercepted.capacity) (hopen : intercepted.closed = false)
    (htimes : ∀ x ∈ timed, x.2 ≤ s.clock)
    (hitems : timed.map Prod.fst ++ intercepted.queue =
      s.writer.buffer ++ s.intercepted.queue)
    (hmoved : intercepted.queue.length < s.intercepted.queue.length ∨
      intercepted.queue.length = s.intercepted.queue.length ∧ r.1.isSome) :
    Progress c config istate s ({ s with intercepted }.wrote r) := by
  have hlen : timed.length + intercepted.queue.length =
      s.writer.buffer.length + s.intercepted.queue.length := by
    have hl := congrArg List.length hitems
    rwa [List.length_append, List.length_append, List.length_map] at hl
  have hnil : s.phase.batch = [] := by rw [hphase]; rfl
  have hrank : s.phase.rank = 1 := by rw [hphase]; rfl
  have hlive : s.hungUp = false := h.live (by omega)
  obtain ⟨batch | batch, w⟩ := r
  · -- the items stay in the buffer
    have hbuf : w.Buffers config timed := hr
    refine h.writer_moves hlive hcap rfl (h.batchesOpen hlive)
      ⟨hopen, Nat.le_refl _, timed, hbuf, htimes⟩ h.batchSize ?_ ?_
    · rw [hnil, hbuf.items, List.append_assoc _ (timed.map Prod.fst), hitems]
      simp only [WriterPhase.batch, List.append_nil, List.append_assoc]
    · rw [hnil, hrank, hbuf.items, List.length_map]
      simp only [WriterPhase.batch, WriterPhase.rank, List.length_nil]
      rcases hmoved with hlt | ⟨-, hsome⟩
      · omega
      · cases hsome
  · -- they leave as one batch
    obtain ⟨hbatch, hne, -, hbuf⟩ := hr
    have hempty : w.buffer = [] := hbuf.items
    have hpos : 0 < timed.length := by
      rw [hbatch] at hne
      exact List.length_pos_of_ne_nil (mt List.map_eq_nil_iff.mpr hne)
    refine h.writer_moves hlive hcap rfl (h.batchesOpen hlive)
      ⟨hopen, hne, hbuf, fun hl => by cases hl⟩ h.batchSize ?_ ?_
    · rw [hnil, hempty, hbatch]
      simp only [WriterPhase.batch, List.append_nil, List.append_assoc, hitems]
    · rw [hnil, hrank, hempty, hbatch]
      simp only [WriterPhase.batch, WriterPhase.rank, List.length_nil, List.length_map]
      omega

/-- The writer sends its batch, or waits for room. -/
theorem Flowing.write_sending (h : s.Flowing c config istate) {batch : List T} {last : Bool}
    (hphase : s.phase = .sending batch last) : Progress c config istate s (s.write c.itemSize config) := by
  obtain ⟨hopen, hne, hbuf, hlast⟩ := h.ready_at hphase
  have hbatch : s.phase.batch = batch := by rw [hphase]; rfl
  have hrank : s.phase.rank = 1 := by rw [hphase]; rfl
  have hlive : s.hungUp = false := h.live (by omega)
  have hpos : 0 < batch.length := List.length_pos_of_ne_nil hne
  have hempty : s.writer.buffer = [] := hbuf.items
  by_cases hroom : s.batches.HasRoom
  · have hsize : ∀ b ∈ (s.batches.enqueue batch hroom).queue, b ≠ [] := by
      intro b hb
      rcases List.mem_append.mp hb with hold | hnew
      · exact h.batchSize b hold
      · rw [List.mem_singleton.mp hnew]
        exact hne
    have hflat : (s.batches.enqueue batch hroom).queue.flatten =
        s.batches.queue.flatten ++ batch := by
      rw [Channel.enqueue_queue, List.flatten_append, List.flatten_singleton]
    cases last with
    | true =>
        obtain ⟨hdone, hnone⟩ := hlast rfl
        have hwrite : s.write c.itemSize config = { s with
            intercepted := s.intercepted.close
            phase := .done
            batches := s.batches.enqueue batch hroom } := by
          rw [write, hphase]
          dsimp only
          rw [Channel.trySend_of_admits ⟨h.batchesOpen hlive, hroom⟩]
          rfl
        rw [hwrite]
        refine h.writer_moves hlive rfl rfl (h.batchesOpen hlive) ⟨hdone, rfl, hempty⟩ hsize ?_ ?_
        · rw [hflat, hbatch, hempty, hnone]
          simp only [WriterPhase.batch, Channel.close, List.append_nil]
        · rw [hflat, hbatch, hempty, hnone, hrank, List.length_append]
          simp only [WriterPhase.batch, WriterPhase.rank, Channel.close, List.length_nil]
          omega
    | false =>
        have hwrite : s.write c.itemSize config = { s with
            intercepted := s.intercepted
            phase := .waiting s.clock
            batches := s.batches.enqueue batch hroom } := by
          rw [write, hphase]
          dsimp only
          rw [Channel.trySend_of_admits ⟨h.batchesOpen hlive, hroom⟩]
          rfl
        rw [hwrite]
        refine h.writer_moves hlive rfl rfl (h.batchesOpen hlive)
          ⟨hopen, Nat.le_refl _, [], hbuf, fun _ hx => absurd hx List.not_mem_nil⟩ hsize ?_ ?_
        · rw [hflat, hbatch]
          simp only [WriterPhase.batch, List.append_nil]
        · rw [hflat, hbatch, hrank, List.length_append]
          simp only [WriterPhase.batch, WriterPhase.rank, List.length_nil]
          omega
  · refine .inl ?_
    rw [write, hphase]
    dsimp only
    rw [Channel.trySend_of_full (h.batchesOpen hlive) hroom]

/-- The loop of the writer is over: the rest of the buffer is the last
batch. -/
theorem Flowing.finalFlush (h : s.Flowing c config istate) {since : Nat}
    (hphase : s.phase = .waiting since) (hnone : s.intercepted.queue = [])
    (hdone : s.intake.loop.done = true) : Progress c config istate s s.finalFlush := by
  obtain ⟨hopen, -, timed, hbuf, -⟩ := h.ready_at hphase
  have hnil : s.phase.batch = [] := by rw [hphase]; rfl
  have hrank : s.phase.rank = 1 := by rw [hphase]; rfl
  have hlive : s.hungUp = false := h.live (by omega)
  rw [BatchedDrain.finalFlush]
  by_cases hempty : s.writer.buffer = []
  · rw [BatchWriter.flush, if_pos (List.isEmpty_iff.mpr hempty)]
    show Progress c config istate s { s with
      intercepted := s.intercepted.close
      phase := .done }
    refine h.writer_moves hlive rfl rfl (h.batchesOpen hlive) ⟨hdone, rfl, hempty⟩ h.batchSize ?_ ?_
    · rw [hnil, hnone]
      rfl
    · rw [hnil, hnone, hrank]
      simp only [WriterPhase.batch, WriterPhase.rank, Channel.close, List.length_nil]
      omega
  · have hpos : 0 < s.writer.buffer.length := List.length_pos_of_ne_nil hempty
    rw [BatchWriter.flush, if_neg (mt List.isEmpty_iff.mp hempty)]
    show Progress c config istate s { s with
      writer := ⟨[], none⟩
      phase := .sending s.writer.buffer true }
    refine h.writer_moves hlive rfl rfl (h.batchesOpen hlive)
      ⟨hopen, hempty, BatchWriter.buffers_empty, fun _ => ⟨hdone, hnone⟩⟩ h.batchSize ?_ ?_
    · rw [hnil]
      simp only [WriterPhase.batch, List.append_nil]
    · rw [hnil, hrank]
      simp only [WriterPhase.batch, WriterPhase.rank, List.length_nil]
      omega

/-- The writer is made. -/
theorem Flowing.write_starting (h : s.Flowing c config istate) (hphase : s.phase = .starting)
    (hfits : c.itemSize * config.maxItems ≤ isizeMax) :
    Progress c config istate s (s.write c.itemSize config) := by
  obtain ⟨hopen, hempty⟩ := h.ready_at hphase
  have hnil : s.phase.batch = [] := by rw [hphase]; rfl
  have hrank : s.phase.rank = 2 := by rw [hphase]; rfl
  have hlive : s.hungUp = false := h.live (by omega)
  have hwrite : s.write c.itemSize config = { s with
      intercepted := s.intercepted
      writer := .empty
      phase := .waiting s.clock
      batches := s.batches } := by
    rw [BatchedDrain.write, hphase]
    dsimp only
    rw [BatchWriter.new_eq, if_pos hfits]
  rw [hwrite]
  refine h.writer_moves hlive rfl rfl (h.batchesOpen hlive)
    ⟨hopen, Nat.le_refl _, [], BatchWriter.buffers_empty, fun _ hx => absurd hx List.not_mem_nil⟩
    h.batchSize ?_ ?_
  · rw [hnil, hempty]
    rfl
  · rw [hnil, hrank, hempty]
    simp only [WriterPhase.batch, WriterPhase.rank, BatchWriter.empty, List.length_nil]
    omega

theorem Flowing.write (h : s.Flowing c config istate) (hfits : s.WriterFits c config) :
    Progress c config istate s (s.write c.itemSize config) := by
  cases hphase : s.phase with
  | starting =>
      rw [WriterFits, hphase] at hfits
      exact h.write_starting hphase hfits
  | done =>
      refine .inl ?_
      rw [BatchedDrain.write, hphase]
  | sending batch last => exact h.write_sending hphase
  | waiting since =>
      obtain ⟨hopen, hsince, timed, hbuf, htimes⟩ := h.ready_at hphase
      have hclock : ∀ x ∈ timed, x.2 ≤ s.clock := fun x hx => (htimes x hx).trans hsince
      rw [WriterFits, hphase] at hfits
      rw [BatchedDrain.write, hphase]
      dsimp only
      cases hrecv : s.intercepted.recv with
      | some p =>
          obtain ⟨item, intercepted⟩ := p
          obtain ⟨hq, hcap, hclosed⟩ := Channel.recv_eq_some hrecv
          have hdeadline : s.writer.DeadlineFits config s.clock :=
            hfits.resolve_left (by rw [hq]; exact List.cons_ne_nil _ _)
          obtain ⟨r, hpush, hr⟩ := hbuf.push item hdeadline
          simp only [hpush]
          refine h.wrote hphase hr hcap (hclosed.trans hopen) ?_ ?_ ?_
          · intro x hx
            rcases List.mem_append.mp hx with hold | hnew
            · exact hclock x hold
            · rw [List.mem_singleton.mp hnew]
          · rw [hq, hbuf.items, List.map_append, List.append_assoc]
            rfl
          · rw [hq]
            exact .inl (Nat.lt_succ_self _)
      | none =>
          have hnone : s.intercepted.queue = [] := Channel.recv_eq_none.mp hrecv
          dsimp only
          split
          · next hdone => exact h.finalFlush hphase hnone hdone
          · split
            · next hdue =>
                have hsome := hbuf.checkDeadline_due htimes hdue.1 hdue.2
                refine h.wrote hphase (hbuf.checkDeadline s.clock) rfl hopen hclock ?_ ?_
                · rw [hbuf.items]
                · exact .inr ⟨rfl, hsome⟩
            · exact .inl rfl

/-! ### The third task and the actor -/

theorem Flowing.unbatch_item (h : s.Flowing c config istate) (hlive : s.hungUp = false)
    {item : T} {rest : List T} (hcurrent : s.current = item :: rest) :
    Progress c config istate s s.unbatch := by
  rw [BatchedDrain.unbatch, if_neg (by rw [hlive]; exact Bool.false_ne_true), hcurrent]
  dsimp only
  by_cases hroom : s.items.HasRoom
  · rw [Channel.trySend_of_admits ⟨h.itemsOpen, hroom⟩]
    refine .inr ⟨⟨h.intake, ?_, h.ready, h.batchesOpen, fun hup => ?_, h.batchSize, h.itemsOpen,
      h.notCancelled, h.room⟩, ?_⟩
    · rw [← h.flow]
      show s.received ++ (s.items.queue ++ [item]) ++ (rest ++ _ ++ _ ++ _ ++ _ ++ _) =
        s.received ++ s.items.queue ++ s.onTheWay
      rw [onTheWay, hcurrent]
      simp only [List.append_assoc, List.cons_append, List.nil_append]
    · rw [show s.hungUp = true from hup] at hlive
      cases hlive
    · rw [work, work, hcurrent]
      simp only [Channel.enqueue_queue, List.length_append, List.length_cons, List.length_nil]
      omega
  · rw [Channel.trySend_of_full h.itemsOpen hroom]
    exact .inl rfl

theorem Flowing.unbatch_batch (h : s.Flowing c config istate) (hlive : s.hungUp = false)
    (hcurrent : s.current = []) : Progress c config istate s s.unbatch := by
  rw [BatchedDrain.unbatch, if_neg (by rw [hlive]; exact Bool.false_ne_true), hcurrent]
  dsimp only
  cases hrecv : s.batches.recv with
  | some p =>
      obtain ⟨batch, batches⟩ := p
      obtain ⟨hq, hcap, hclosed⟩ := Channel.recv_eq_some hrecv
      have hpos : 0 < batch.length :=
        List.length_pos_of_ne_nil (h.batchSize batch (by rw [hq]; exact List.mem_cons_self))
      refine .inr ⟨⟨h.intake, ?_, h.ready, fun _ => ?_, fun hup => ?_, fun b hb => ?_,
        h.itemsOpen, h.notCancelled, ?_⟩, ?_⟩
      · rw [← h.flow]
        show s.delivered ++ (batch ++ batches.queue.flatten ++ _ ++ _ ++ _ ++ _) =
          s.delivered ++ s.onTheWay
        rw [onTheWay, hcurrent, hq, List.flatten_cons, List.nil_append]
      · exact hclosed.trans (h.batchesOpen hlive)
      · rw [show s.hungUp = true from hup] at hlive
        cases hlive
      · exact h.batchSize b (by rw [hq]; exact List.mem_cons_of_mem batch hb)
      · show ∃ n, _ ∧ batches.capacity = _ ∧ _
        rw [hcap]
        exact h.room
      · rw [work, work, hcurrent, hq]
        simp only [List.flatten_cons, List.length_append, List.length_nil]
        omega
  | none =>
      have hnone : s.batches.queue = [] := Channel.recv_eq_none.mp hrecv
      dsimp only
      split
      · next hphase =>
          refine .inr ⟨⟨h.intake, ?_, h.ready, fun hup => ?_, fun _ => ⟨hphase, rfl, rfl⟩,
            fun b hb => absurd hb List.not_mem_nil, h.itemsOpen, h.notCancelled, h.room⟩, ?_⟩
          · show s.delivered ++ ([] ++ [] ++ _ ++ _ ++ _ ++ _) = s.intake.loop.forwarded
            rw [← h.flow, onTheWay, hcurrent, hnone]
            rfl
          · cases hup
          · rw [work, work, hnone, hlive, if_neg Bool.false_ne_true]
            simp only [hangUp, Channel.close, List.flatten_nil, List.length_nil, if_true]
            omega
      · exact .inl rfl

theorem Flowing.unbatch (h : s.Flowing c config istate) :
    Progress c config istate s s.unbatch := by
  cases hup : s.hungUp with
  | true =>
      refine .inl ?_
      rw [BatchedDrain.unbatch, if_pos hup]
  | false =>
      cases hcurrent : s.current with
      | cons item rest => exact h.unbatch_item hup hcurrent
      | nil => exact h.unbatch_batch hup hcurrent

theorem Flowing.recv (h : s.Flowing c config istate) :
    Progress c config istate s (s.step c config .recv) := by
  rw [step]
  split
  · exact .inl rfl
  · next item items hrecv =>
      obtain ⟨hq, hcap, hclosed⟩ := Channel.recv_eq_some hrecv
      refine .inr ⟨⟨h.intake, ?_, h.ready, h.batchesOpen, h.hungUp, h.batchSize,
        hclosed.trans h.itemsOpen, h.notCancelled, ?_⟩, ?_⟩
      · rw [← h.flow]
        show (s.received ++ [item]) ++ items.queue ++ s.onTheWay =
          s.received ++ s.items.queue ++ s.onTheWay
        rw [hq, List.append_assoc s.received, List.singleton_append]
      · show ∃ n, _ ∧ _ ∧ items.capacity = _
        rw [hcap]
        exact h.room
      · rw [work, work, hq]
        simp only [List.length_cons]
        omega

/-! ### Whole runs -/

/-- Every step of a task gets on with the work. -/
theorem Flowing.progress (h : s.Flowing c config istate) {op : BatchedOp} (hop : op ∈ tasks)
    (hfits : op = .write → s.WriterFits c config) :
    Progress c config istate s (s.step c config op) := by
  rcases List.mem_cons.mp hop with rfl | hop
  · exact h.forward
  rcases List.mem_cons.mp hop with rfl | hop
  · exact h.write (hfits rfl)
  rcases List.mem_cons.mp hop with rfl | hop
  · exact h.unbatch
  · rw [List.mem_singleton.mp hop]
    exact h.recv

theorem Progress.flowing {s' : BatchedDrain σ T} (h : s.Flowing c config istate)
    (hp : Progress c config istate s s') : s'.Flowing c config istate := by
  rcases hp with rfl | ⟨hflow, -⟩
  · exact h
  · exact hflow

theorem Flowing.wait (h : s.Flowing c config istate) (d : Nat) :
    (s.step c config (.wait d)).Flowing c config istate := by
  refine ⟨h.intake, h.flow, ?_, h.batchesOpen, h.hungUp, h.batchSize, h.itemsOpen,
    h.notCancelled, h.room⟩
  exact h.ready.mono (Nat.le_add_right _ d) rfl fun hd => ⟨hd, rfl⟩

theorem flowing_step (s : BatchedDrain σ T) (op : BatchedOp) (hop : s.Undisturbed c config op)
    (h : s.Flowing c config istate) : (s.step c config op).Flowing c config istate := by
  cases op with
  | next => exact h.next
  | forward => exact h.forward.flowing h
  | write => exact (h.write hop).flowing h
  | unbatch => exact h.unbatch.flowing h
  | recv => exact h.recv.flowing h
  | wait d => exact h.wait d
  | cancel => exact hop.elim
  | close => exact hop.elim

end BatchedDrain

end Dactor
