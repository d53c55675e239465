/-
Dactor/Batching.lean

The batch writer and the batch reader, and a channel between them.

`push` buffers an item and flushes when the batch is full; `check_deadline`
flushes when the oldest item has waited long enough.  A flush hands the
batch to the channel, and the call waits there while the channel is full.
The reader takes batches apart again.

Nothing bounds the fields of a configuration from above: `new` panics when a
batch is larger than an allocation can be, and `push`, with the item already
in the buffer, when its deadline is no instant any more.

Main result: `batching_transparent`, for every configuration and capacity
and every interleaving of the two ends.
-/
import Dactor.Basic
import Dactor.Channels
import Dactor.Runs

namespace Dactor

open Runs Channels

variable {T : Type}

/-! ### The two ends -/

structure BatchConfig where
  maxItems : Nat
  maxDelay : Nat
  deriving DecidableEq, Repr

/-- `BatchConfig::new`.  The fields are public, so a configuration with
`max_items = 0` can still be built. -/
def BatchConfig.new (maxItems maxDelay : Nat) : BatchConfig := ⟨max maxItems 1, maxDelay⟩

/-- The state of a `BatchWriter`. -/
structure BatchWriter (T : Type) where
  buffer : List T
  flushDeadline : Option Nat
  deriving DecidableEq, Repr

namespace BatchWriter

def empty : BatchWriter T := ⟨[], none⟩

/-- `BatchWriter::new` for items of `itemSize` bytes; `none` stands for the
panic of its allocation. -/
def new (itemSize : Nat) (config : BatchConfig) : Option (BatchWriter T) :=
  (withCapacity itemSize config.maxItems).map fun buffer => ⟨buffer, none⟩

/-- `flush`: the batch it sends, and the writer it leaves.  The buffer is
allocated anew, with the capacity that `new` could allocate. -/
def flush (w : BatchWriter T) : Option (List T) × BatchWriter T :=
  if w.buffer.isEmpty then (none, w) else (some w.buffer, ⟨[], none⟩)

/-- The end of `push`: a full batch is flushed. -/
def fill (config : BatchConfig) (w : BatchWriter T) : Option (List T) × BatchWriter T :=
  if config.maxItems ≤ w.buffer.length then w.flush else (none, w)

/-- `push` at the instant `now`.  The first component is `none` when it panics,
which leaves the item in a buffer without a deadline. -/
def push (config : BatchConfig) (w : BatchWriter T) (item : T) (now : Nat) :
    Option (Option (List T)) × BatchWriter T :=
  let buffer := w.buffer ++ [item]
  let flushDeadline := match w.flushDeadline with
    | none => addInstant now config.maxDelay
    | some deadline => some deadline
  match flushDeadline with
  | none => (none, ⟨buffer, none⟩)
  | some deadline =>
    let (sent, w) := fill config ⟨buffer, some deadline⟩
    (some sent, w)

/-- `check_deadline` at the instant `now`. -/
def checkDeadline (w : BatchWriter T) (now : Nat) : Option (List T) × BatchWriter T :=
  match w.flushDeadline with
  | some deadline => if deadline ≤ now then w.flush else (none, w)
  | none => (none, w)

end BatchWriter

/-- The state of a `BatchReader`. -/
structure BatchReader (T : Type) where
  currentBatch : List T
  deriving DecidableEq, Repr

/-- One turn of the loop of `recv`: an item of the current batch, or the next
batch, or neither when it has to wait. -/
def BatchReader.turn (r : BatchReader T) (ch : Channel (List T)) :
    Option T × BatchReader T × Channel (List T) :=
  match r.currentBatch with
  | item :: rest => (some item, ⟨rest⟩, ch)
  | [] =>
    match ch.recv with
    | some (batch, ch') => (none, ⟨batch⟩, ch')
    | none => (none, r, ch)

/-! ### A writer and a reader on one channel -/

/-- `push` has a deadline, or one to set. -/
def BatchWriter.DeadlineFits (config : BatchConfig) (w : BatchWriter T) (now : Nat) : Prop :=
  w.flushDeadline.isSome ∨ config.maxDelay ≤ instantMax - now

instance (config : BatchConfig) (w : BatchWriter T) (now : Nat) :
    Decidable (w.DeadlineFits config now) :=
  inferInstanceAs (Decidable (_ ∨ _))

/-- Both ends and the channel.  `sending` is the batch of a call that waits
for room; `pushed` (with the push times) and `received` only observe. -/
structure Batching (T : Type) where
  writer : BatchWriter T
  sending : Option (List T)
  channel : Channel (List T)
  reader : BatchReader T
  clock : Nat
  pushed : List (T × Nat)
  received : List T

inductive BatchOp (T : Type)
  | push (item : T)
  | flush
  | checkDeadline
  | resume
  | recv
  | wait (d : Nat)

namespace Batching

def start (writer : BatchWriter T) (capacity : Nat) : Batching T where
  writer
  sending := none
  channel := .new (some capacity)
  reader := ⟨[]⟩
  clock := 0
  pushed := []
  received := []

/-- `sender.send(batch).await`: the batch goes into the channel, or waits. -/
def deliver (s : Batching T) (batch : List T) : Batching T :=
  if h : s.channel.HasRoom then
    { s with sending := none, channel := s.channel.enqueue batch h }
  else { s with sending := some batch }

/-- The end of a writer call that left `r`. -/
def wrote (s : Batching T) (r : Option (List T) × BatchWriter T) : Batching T :=
  match r with
  | (none, writer) => { s with writer }
  | (some batch, writer) => { s with writer }.deliver batch

/-- One step.  The writer takes no call while one waits for room; the reader
and the clock go on. -/
def step (config : BatchConfig) (s : Batching T) : BatchOp T → Batching T
  | .push item =>
    if s.sending.isNone then
      let s := { s with pushed := s.pushed ++ [(item, s.clock)] }
      match s.writer.push config item s.clock with
      | (some sent, writer) => s.wrote (sent, writer)
      | (none, writer) => { s with writer }
    else s
  | .flush => if s.sending.isNone then s.wrote s.writer.flush else s
  | .checkDeadline =>
    if s.sending.isNone then s.wrote (s.writer.checkDeadline s.clock) else s
  | .resume =>
    match s.sending with
    | none => s
    | some batch => s.deliver batch
  | .recv =>
    let (item, reader, channel) := s.reader.turn s.channel
    { s with reader, channel, received := s.received ++ item.toList }
  | .wait d => { s with clock := s.clock + d }

/-- The batches on their way, a waiting one included. -/
def batches (s : Batching T) : List (List T) := s.channel.queue ++ s.sending.toList

/-- The pushes of the items that are still buffered. -/
def buffered (s : Batching T) : List (T × Nat) :=
  s.pushed.drop (s.pushed.length - s.writer.buffer.length)

/-- Batching is invisible, batches and buffer are bounded, and the deadline
is that of the oldest buffered item. -/
structure Transparent (config : BatchConfig) (s : Batching T) : Prop where
  flow : s.received ++ s.reader.currentBatch ++ s.batches.flatten ++ s.writer.buffer =
    s.pushed.map Prod.fst
  batchSize : ∀ batch ∈ s.batches, batch ≠ [] ∧ batch.length ≤ max 1 config.maxItems
  bufferSize : s.writer.buffer.length < max 1 config.maxItems
  deadlineSet : s.writer.flushDeadline.isSome ↔ s.writer.buffer ≠ []
  deadline : s.writer.flushDeadline = s.buffered.head?.map fun x => x.2 + config.maxDelay

/-- No push panics. -/
def DeadlineFits (config : BatchConfig) (s : Batching T) : BatchOp T → Prop
  | .push _ => s.sending.isNone → s.writer.DeadlineFits config s.clock
  | _ => True

instance (config : BatchConfig) (s : Batching T) : (op : BatchOp T) →
    Decidable (s.DeadlineFits config op)
  | .push _ => inferInstanceAs (Decidable (_ → _))
  | .flush | .checkDeadline | .resume | .recv | .wait _ => isTrue trivial

end Batching

/-! ### The writer on its own -/

/-- The writer between calls, when it buffers the items of the pushes
`timed`. -/
structure BatchWriter.Buffers (config : BatchConfig) (timed : List (T × Nat))
    (w : BatchWriter T) : Prop where
  items : w.buffer = timed.map Prod.fst
  size : w.buffer.length < max 1 config.maxItems
  deadline : w.flushDeadline = timed.head?.map fun x => x.2 + config.maxDelay

/-- A call on the writer with the items of `timed`: it keeps them all, or
sends them all as one batch. -/
def BatchWriter.Outcome (config : BatchConfig) (timed : List (T × Nat))
    (r : Option (List T) × BatchWriter T) : Prop :=
  match r with
  | (none, w) => w.Buffers config timed
  | (some batch, w) => batch = timed.map Prod.fst ∧ batch ≠ [] ∧
      batch.length ≤ max 1 config.maxItems ∧ w.Buffers config []

section Writer

variable {config : BatchConfig} {timed : List (T × Nat)} {w : BatchWriter T}

theorem BatchWriter.buffers_empty : (empty : BatchWriter T).Buffers config [] :=
  ⟨rfl, Nat.lt_of_lt_of_le Nat.zero_lt_one (Nat.le_max_left 1 _), rfl⟩

/-- `new` panics, or makes an empty writer. -/
theorem BatchWriter.new_eq (itemSize : Nat) (config : BatchConfig) :
    (new itemSize config : Option (BatchWriter T)) =
      if itemSize * config.maxItems ≤ isizeMax then some empty else none := by
  rw [new, withCapacity]
  split <;> rfl

/-- A push that has its deadline. -/
theorem BatchWriter.push_of_fits {now : Nat} (h : w.DeadlineFits config now) (item : T) :
    ∃ deadline, deadline = w.flushDeadline.getD (now + config.maxDelay) ∧
      w.push config item now = (some (fill config ⟨w.buffer ++ [item], some deadline⟩).1,
        (fill config ⟨w.buffer ++ [item], some deadline⟩).2) := by
  refine ⟨_, rfl, ?_⟩
  rcases hdeadline : w.flushDeadline with - | deadline
  · have hroom : config.maxDelay ≤ instantMax - now :=
      h.resolve_left (by rw [hdeadline]; exact Bool.false_ne_true)
    simp only [push, hdeadline, addInstant, if_pos hroom, Option.getD_none]
  · simp only [push, hdeadline, Option.getD_some]

theorem BatchWriter.push_of_not_fits {item : T} {now : Nat} (h : ¬ w.DeadlineFits config now) :
    w.push config item now = (none, ⟨w.buffer ++ [item], none⟩) := by
  obtain ⟨hnone, hroom⟩ := not_or.mp h
  rw [Option.not_isSome_iff_eq_none] at hnone
  simp only [push, hnone, addInstant, if_neg hroom]

/-- A flush of a buffer that is not too long. -/
theorem BatchWriter.outcome_flush_of_le {deadline : Option Nat} (hne : timed ≠ [])
    (hle : timed.length ≤ max 1 config.maxItems) :
    Outcome config timed (flush ⟨timed.map Prod.fst, deadline⟩) := by
  have hbatch : timed.map Prod.fst ≠ [] := mt List.map_eq_nil_iff.mp hne
  have hflush : flush ⟨timed.map Prod.fst, deadline⟩ =
      (some (timed.map Prod.fst), (⟨[], none⟩ : BatchWriter T)) := by
    rw [flush, if_neg]
    rw [List.isEmpty_iff]
    exact hbatch
  rw [hflush]
  refine ⟨rfl, hbatch, ?_, buffers_empty⟩
  rw [List.length_map]
  exact hle

theorem BatchWriter.Buffers.flush (h : w.Buffers config timed) :
    Outcome config timed w.flush := by
  by_cases hnil : timed = []
  · have hempty : w.buffer = [] := by rw [h.items, hnil, List.map_nil]
    rw [BatchWriter.flush, if_pos (List.isEmpty_iff.mpr hempty)]
    exact h
  · have hw : w = ⟨timed.map Prod.fst, w.flushDeadline⟩ := by rw [← h.items]
    have hlen : timed.length ≤ max 1 config.maxItems := by
      have hsize := h.size
      rw [h.items, List.length_map] at hsize
      exact Nat.le_of_lt hsize
    rw [hw]
    exact outcome_flush_of_le hnil hlen

/-- The deadline after a push: the first push sets it, the others keep it. -/
theorem BatchWriter.Buffers.deadline_push (h : w.Buffers config timed) (item : T) (now : Nat) :
    some (w.flushDeadline.getD (now + config.maxDelay)) =
      (timed ++ [(item, now)]).head?.map fun x => x.2 + config.maxDelay := by
  rw [h.deadline]
  cases timed <;> rfl

theorem BatchWriter.Buffers.push (h : w.Buffers config timed) (item : T) {now : Nat}
    (hfits : w.DeadlineFits config now) :
    ∃ r, w.push config item now = (some r.1, r.2) ∧
      Outcome config (timed ++ [(item, now)]) r := by
  obtain ⟨deadline, hdeadline, hpush⟩ := push_of_fits hfits item
  refine ⟨_, hpush, ?_⟩
  have hitems : w.buffer ++ [item] = (timed ++ [(item, now)]).map Prod.fst := by
    rw [h.items, List.map_append]
    rfl
  have hlen : (timed ++ [(item, now)]).length = w.buffer.length + 1 := by
    rw [h.items, List.length_append, List.length_map, List.length_singleton]
  rw [hdeadline, fill]
  simp only [hitems, h.deadline_push item now]
  split
  · -- the batch is full
    apply outcome_flush_of_le
    · exact List.append_ne_nil_of_right_ne_nil _ (List.cons_ne_nil _ _)
    · rw [hlen]
      exact h.size
  · next hfull =>
      rw [List.length_map, hlen] at hfull
      refine ⟨rfl, ?_, rfl⟩
      show ((timed ++ [(item, now)]).map Prod.fst).length < max 1 config.maxItems
      rw [List.length_map, hlen]
      exact lt_of_lt_of_le (Nat.lt_of_not_le hfull) (Nat.le_max_right 1 _)

theorem BatchWriter.Buffers.checkDeadline (h : w.Buffers config timed) (now : Nat) :
    Outcome config timed (w.checkDeadline now) := by
  rw [BatchWriter.checkDeadline]
  split
  · split
    · exact h.flush
    · exact h
  · exact h

/-- When the buffered items were pushed up to `since` and that is
`max_delay` ago, the deadline has passed. -/
theorem BatchWriter.Buffers.checkDeadline_due (h : w.Buffers config timed) {since now : Nat}
    (htimes : ∀ x ∈ timed, x.2 ≤ since) (hne : w.buffer ≠ [])
    (hdue : since + config.maxDelay ≤ now) : (w.checkDeadline now).1.isSome := by
  cases timed with
  | nil => exact absurd h.items hne
  | cons x rest =>
      have hdeadline : w.flushDeadline = some (x.2 + config.maxDelay) := h.deadline
      have hpassed : x.2 + config.maxDelay ≤ now := by
        have hx := htimes x List.mem_cons_self
        omega
      rw [BatchWriter.checkDeadline, hdeadline]
      dsimp only
      rw [if_pos hpassed, BatchWriter.flush, if_neg (mt List.isEmpty_iff.mp hne)]
      rfl

end Writer

/-! ### The whole system -/

namespace Batching

variable {config : BatchConfig} {s : Batching T}

/-- The pushes split into those whose items have left the writer, which are
read or on their way, and those it buffers. -/
structure Split (config : BatchConfig) (sent timed : List (T × Nat)) (s : Batching T) : Prop where
  pushed : s.pushed = sent ++ timed
  flow : s.received ++ s.reader.currentBatch ++ s.batches.flatten = sent.map Prod.fst
  batchSize : ∀ batch ∈ s.batches, batch ≠ [] ∧ batch.length ≤ max 1 config.maxItems
  buffers : s.writer.Buffers config timed

theorem Split.transparent {sent timed : List (T × Nat)} (h : s.Split config sent timed) :
    s.Transparent config := by
  have hlen : s.writer.buffer.length = timed.length := by
    rw [h.buffers.items, List.length_map]
  have hbuffered : s.buffered = timed := by
    rw [buffered, h.pushed, hlen, List.length_append, Nat.add_sub_cancel, List.drop_left]
  refine ⟨?_, h.batchSize, h.buffers.size, ?_, ?_⟩
  · rw [h.flow, h.buffers.items, h.pushed, List.map_append]
  · rw [h.buffers.deadline, h.buffers.items]
    cases timed <;> simp
  · rw [hbuffered]
    exact h.buffers.deadline

/-- A batch handed to the channel is on its way, whether it waits or not. -/
theorem batches_deliver (hsending : s.sending = none) (batch : List T) :
    (s.deliver batch).batches = s.batches ++ [batch] := by
  rw [deliver]
  split
  · show s.channel.queue ++ [batch] ++ [] = s.channel.queue ++ s.sending.toList ++ [batch]
    rw [hsending, Option.toList_none, List.append_nil, List.append_nil]
  · show s.channel.queue ++ [batch] = s.channel.queue ++ s.sending.toList ++ [batch]
    rw [hsending, Option.toList_none, List.append_nil]

theorem batches_resume {batch : List T} (hsending : s.sending = some batch) :
    (s.deliver batch).batches = s.batches := by
  rw [deliver]
  split
  · show s.channel.queue ++ [batch] ++ [] = s.channel.queue ++ s.sending.toList
    rw [hsending, Option.toList_some, List.append_nil]
  · show s.channel.queue ++ [batch] = s.channel.queue ++ s.sending.toList
    rw [hsending, Option.toList_some]

/-- `deliver` touches neither end. -/
theorem deliver_ends (batch : List T) :
    (s.deliver batch).writer = s.writer ∧ (s.deliver batch).reader = s.reader ∧
      (s.deliver batch).received = s.received ∧ (s.deliver batch).pushed = s.pushed := by
  rw [deliver]
  split <;> exact ⟨rfl, rfl, rfl, rfl⟩

/-- A call on the writer keeps the split: the batch it sends moves from the
buffer to what has left. -/
theorem split_wrote {sent timed : List (T × Nat)} {r : Option (List T) × BatchWriter T}
    (hsending : s.sending = none) (hpushed : s.pushed = sent ++ timed)
    (hflow : s.received ++ s.reader.currentBatch ++ s.batches.flatten = sent.map Prod.fst)
    (hsize : ∀ batch ∈ s.batches, batch ≠ [] ∧ batch.length ≤ max 1 config.maxItems)
    (hr : BatchWriter.Outcome config timed r) :
    ∃ sent timed, (s.wrote r).Split config sent timed := by
  obtain ⟨batch | batch, w⟩ := r
  · exact ⟨sent, timed, hpushed, hflow, hsize, hr⟩
  · obtain ⟨hitems, hne, hle, hw⟩ := hr
    obtain ⟨hwriter, hreader, hreceived, hpushed'⟩ :=
      deliver_ends (s := { s with writer := w }) batch
    have hbatches : (s.wrote (some batch, w)).batches = s.batches ++ [batch] :=
      batches_deliver (s := { s with writer := w }) hsending batch
    refine ⟨sent ++ timed, [], ?_, ?_, ?_, ?_⟩
    · show (deliver _ batch).pushed = _
      rw [hpushed', List.append_nil]
      exact hpushed
    · rw [hbatches, List.flatten_append, List.map_append, ← hflow, ← hitems, List.flatten_singleton]
      show (deliver _ batch).received ++ (deliver _ batch).reader.currentBatch ++ _ = _
      rw [hreceived, hreader, List.append_assoc]
      simp only [List.append_assoc]
    · rw [hbatches]
      intro b hb
      rcases List.mem_append.mp hb with hold | hnew
      · exact hsize b hold
      · rw [List.mem_singleton.mp hnew]
        exact ⟨hne, hle⟩
    · show (deliver _ batch).writer.Buffers config []
      rw [hwriter]
      exact hw

theorem Split.recv {sent timed : List (T × Nat)} (h : s.Split config sent timed) :
    (s.step config .recv).Split config sent timed := by
  cases hcurrent : s.reader.currentBatch with
  | cons item rest =>
      have hturn : s.reader.turn s.channel = (some item, ⟨rest⟩, s.channel) := by
        rw [BatchReader.turn, hcurrent]
      simp only [step, hturn]
      refine ⟨h.pushed, ?_, h.batchSize, h.buffers⟩
      rw [← h.flow, hcurrent]
      show (s.received ++ [item]) ++ rest ++ s.batches.flatten = _
      rw [List.append_assoc s.received, List.singleton_append]
  | nil =>
      cases hrecv : s.channel.recv with
      | none =>
          have hturn : s.reader.turn s.channel = (none, s.reader, s.channel) := by
            rw [BatchReader.turn, hcurrent]
            simp only [hrecv]
          simp only [step, hturn]
          refine ⟨h.pushed, ?_, h.batchSize, h.buffers⟩
          rw [← h.flow]
          show (s.received ++ []) ++ s.reader.currentBatch ++ s.batches.flatten = _
          rw [List.append_nil]
      | some p =>
          obtain ⟨batch, ch⟩ := p
          obtain ⟨hq, -, -⟩ := Channel.recv_eq_some hrecv
          have hturn : s.reader.turn s.channel = (none, ⟨batch⟩, ch) := by
            rw [BatchReader.turn, hcurrent]
            simp only [hrecv]
          have hbatches : s.batches = batch :: (ch.queue ++ s.sending.toList) := by
            rw [batches, hq, List.cons_append]
          simp only [step, hturn]
          refine ⟨h.pushed, ?_, fun b hb => h.batchSize b ?_, h.buffers⟩
          · rw [← h.flow, hcurrent, hbatches, List.flatten_cons]
            show (s.received ++ []) ++ batch ++ (ch.queue ++ s.sending.toList).flatten = _
            rw [List.append_nil, List.append_assoc]
          · rw [hbatches]
            exact List.mem_cons_of_mem batch hb

/-- Every step without a panic keeps some split. -/
theorem split_step (config : BatchConfig) (s : Batching T) (op : BatchOp T)
    (hfits : s.DeadlineFits config op) (h : ∃ sent timed, s.Split config sent timed) :
    ∃ sent timed, (s.step config op).Split config sent timed := by
  obtain ⟨sent, timed, h⟩ := h
  cases op with
  | push item =>
      rw [step]
      split
      · next hsending =>
          obtain ⟨r, hr, houtcome⟩ := h.buffers.push item (hfits hsending)
          simp only [hr]
          refine split_wrote (Option.isNone_iff_eq_none.mp hsending) ?_ h.flow h.batchSize
            houtcome
          show s.pushed ++ [(item, s.clock)] = _
          rw [h.pushed, List.append_assoc]
      · exact ⟨sent, timed, h⟩
  | flush =>
      rw [step]
      split
      · next hsending =>
          exact split_wrote (Option.isNone_iff_eq_none.mp hsending) h.pushed h.flow h.batchSize
            h.buffers.flush
      · exact ⟨sent, timed, h⟩
  | checkDeadline =>
      rw [step]
      split
      · next hsending =>
          exact split_wrote (Option.isNone_iff_eq_none.mp hsending) h.pushed h.flow h.batchSize
            (h.buffers.checkDeadline s.clock)
      · exact ⟨sent, timed, h⟩
  | resume =>
      refine ⟨sent, timed, ?_⟩
      rw [step]
      split
      · exact h
      · next batch hsending =>
          obtain ⟨hwriter, hreader, hreceived, hpushed⟩ := deliver_ends (s := s) batch
          have hbatches := batches_resume hsending
          refine ⟨hpushed.trans h.pushed, ?_, ?_, ?_⟩
          · rw [hbatches, hreceived, hreader]
            exact h.flow
          · rw [hbatches]
            exact h.batchSize
          · rw [hwriter]
            exact h.buffers
  | recv => exact ⟨sent, timed, h.recv⟩
  | wait d => exact ⟨sent, timed, h.pushed, h.flow, h.batchSize, h.buffers⟩

theorem split_start (config : BatchConfig) (capacity : Nat) :
    (start .empty capacity : Batching T).Split config [] [] :=
  ⟨rfl, rfl, fun _ hb => absurd hb List.not_mem_nil, BatchWriter.buffers_empty⟩

/-- A push that panics leaves a buffer without a deadline. -/
theorem not_transparent_of_panic {op : BatchOp T} (h : ¬ s.DeadlineFits config op) :
    ¬ (s.step config op).Transparent config := by
  cases op with
  | push item =>
      obtain ⟨hsending, hfits⟩ := Classical.not_imp.mp h
      have hstep : s.step config (.push item) =
          { s with
            pushed := s.pushed ++ [(item, s.clock)]
            writer := ⟨s.writer.buffer ++ [item], none⟩ } := by
        simp only [step, if_pos hsending, BatchWriter.push_of_not_fits hfits]
      rw [hstep]
      intro htransparent
      have hset := htransparent.deadlineSet.mpr
        (List.append_ne_nil_of_right_ne_nil _ (List.cons_ne_nil _ _))
      cases hset
  | flush => exact absurd trivial h
  | checkDeadline => exact absurd trivial h
  | resume => exact absurd trivial h
  | recv => exact absurd trivial h
  | wait d => exact absurd trivial h

end Batching

/-- **Batching is transparent where nothing panics.**  The writer exists
exactly if its batches can be allocated.  Whatever the writer, the reader and
the clock do, the items received, those in the current batch, those on their
way and those in the buffer are the pushed ones in order; batches and buffer
keep their bounds, and the deadline belongs to the oldest buffered item: along
a run exactly if every push finds a deadline or can set one. -/
theorem batching_transparent (itemSize : Nat) (config : BatchConfig) (capacity : Nat) :
    ((BatchWriter.new itemSize config : Option (BatchWriter T)).isSome ↔
      itemSize * config.maxItems ≤ isizeMax) ∧
    ∀ writer ∈ (BatchWriter.new itemSize config : Option (BatchWriter T)),
      ∀ ops : List (BatchOp T),
        Always (Batching.step config) (Batching.Transparent config) (.start writer capacity) ops ↔
          Admissible (Batching.step config) (Batching.DeadlineFits config)
            (.start writer capacity) ops := by
  rw [BatchWriter.new_eq]
  constructor
  · split
    · next h => exact iff_of_true rfl h
    · next h => exact iff_of_false (fun hsome => by cases hsome) h
  · intro writer hwriter ops
    have hempty : BatchWriter.empty = writer := by
      split at hwriter
      · exact Option.some.inj hwriter
      · cases hwriter
    subst hempty
    have hstart : ∃ sent timed,
        (Batching.start BatchWriter.empty capacity : Batching T).Split config sent timed :=
      ⟨[], [], Batching.split_start config capacity⟩
    constructor
    · intro hall
      exact hall.admissible fun s op hop => by
        by_contra hpanic
        exact Batching.not_transparent_of_panic hpanic hop
    · intro hops
      apply (always_of_admissible (Batching.split_step config) hstart hops).mono
      rintro s ⟨sent, timed, h⟩
      exact h.transparent

/-- Three items in batches of two, and the reader. -/
def smallBatches : List (BatchOp Nat) :=
  [.push 1, .wait 3, .push 2, .recv, .recv, .push 3, .recv]

theorem batching_transparent_small :
    (BatchWriter.new 8 ⟨2, 5000000⟩ : Option (BatchWriter Nat)).isSome ∧
      Always (Batching.step ⟨2, 5000000⟩) (Batching.Transparent ⟨2, 5000000⟩)
        (.start .empty 1) smallBatches := by
  obtain ⟨hnew, hall⟩ := batching_transparent (T := Nat) 8 ⟨2, 5000000⟩ 1
  exact ⟨hnew.mpr (by decide), (hall .empty rfl smallBatches).mpr (by decide)⟩

/-- Batches of `usize::MAX` items cannot be allocated, and the deadline of
`Duration::MAX` is none: the item is in the buffer when `push` panics. -/
theorem batching_extremes :
    (BatchWriter.new 8 ⟨2 ^ 64 - 1, 5000000⟩ : Option (BatchWriter Nat)) = none ∧
    (BatchWriter.empty.push ⟨2, durationMax⟩ 7 0 : _ × BatchWriter Nat) = (none, ⟨[7], none⟩) ∧
    ¬ Always (Batching.step ⟨2, durationMax⟩) (Batching.Transparent ⟨2, durationMax⟩)
      (.start .empty 1) [.push 7] := by
  have hpanic : ¬ (Batching.start BatchWriter.empty 1).DeadlineFits ⟨2, durationMax⟩
      (.push 7) := by decide
  exact ⟨by decide, by decide, fun hall => Batching.not_transparent_of_panic hpanic hall.last⟩

end Dactor
