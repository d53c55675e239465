/-
Dactor/BatchOrder.lean

Concurrent calls on one batched sender.

The buffers are only touched under the mutex, so a run is a sequence of
locked sections.  The batches a section takes are sent after the lock is
released, each in a step of its own, while other calls go on: `send` drops
the guard before it awaits `send_batch`.

Main result: `batched_order`; `batched_order_fails` is an interleaving of two
sends that turns their batches around.
-/
import Dactor.BatchedTransport
import Dactor.Handover

namespace Dactor

open Runs Handover

/-! ### The calls and their steps -/

/-- A batch that left its buffer, with the call that is to send it. -/
structure TakenBatch where
  call : Nat
  batch : NodeBatch
  deriving DecidableEq

/-- The buffers, the number of calls so far, and the batches taken, in the
order of the sections that took them. -/
structure ConcurrentSender where
  buffers : NodeBuffers
  calls : Nat
  taken : Backlog TakenBatch

/-- The locked section of a call, or the hand-over of the `i`-th batch that
waits for it. -/
inductive ConcurrentOp
  | send (e : WireEnvelope)
  | flushNode (n : NodeId)
  | flushAll (order : DrainOrder)
  | hand (i : Nat)

namespace ConcurrentSender

def new : ConcurrentSender := ⟨∅, 0, .empty⟩

/-- A locked section of the next call, whose batches to send are those it
took. -/
def locked (s : ConcurrentSender) (taking : Taking) : ConcurrentSender where
  buffers := taking.2
  calls := s.calls + 1
  taken := s.taken.issueAll (taking.1.map (TakenBatch.mk s.calls))

/-- A call sends its batches one after another, so a batch goes to the
transport only when the earlier ones of its call did.  A call that panics
changes nothing. -/
def step (size : Nat) (config : BatchConfig) (s : ConcurrentSender) :
    ConcurrentOp → ConcurrentSender
  | .send e =>
    if e.sendMode ≠ .tell then s
    else
      match pushEnvelope size config s.buffers e with
      | none => s
      | some taking => s.locked taking
  | .flushNode n => s.locked (removeNode s.buffers n)
  | .flushAll order => s.locked (drainAll order s.buffers)
  | .hand i =>
    if s.taken.Oldest TakenBatch.call i then { s with taken := s.taken.hand i } else s

/-- The envelope that a section accepts: the `Tell` of a `send` that does not
panic. -/
def accepts (size : Nat) (config : BatchConfig) (s : ConcurrentSender) :
    ConcurrentOp → List WireEnvelope
  | .send e =>
    if e.sendMode = .tell ∧ (pushEnvelope size config s.buffers e).isSome then [e] else []
  | .flushNode _ | .flushAll _ | .hand _ => []

/-- What the sections have accepted, in order. -/
def accepted (size : Nat) (config : BatchConfig) : List ConcurrentOp → List WireEnvelope :=
  outputs (step size config) (accepts size config) .new

/-- The hand-over finds no earlier batch of its node waiting. -/
def HandsOldest (s : ConcurrentSender) : ConcurrentOp → Prop
  | .hand i => s.taken.Oldest (fun t => t.batch.node) i
  | _ => True

/-- What the batches hold for a node, in order. -/
def envelopesIn (n : NodeId) (taken : List TakenBatch) : List WireEnvelope :=
  envelopesFor n (taken.map TakenBatch.batch)

/-! ### The sections keep the order -/

variable {size : Nat} {config : BatchConfig} {s : ConcurrentSender}
variable {accepted : List WireEnvelope}

/-- For each node, the batches in the order they were taken, followed by the
buffer, are what was accepted for it. -/
def TakenInOrder (accepted : List WireEnvelope) (s : ConcurrentSender) : Prop :=
  ∀ n, envelopesIn n s.taken.issued ++ s.buffers.of n = addressedTo n accepted

theorem envelopesIn_append (n : NodeId) (xs ys : List TakenBatch) :
    envelopesIn n (xs ++ ys) = envelopesIn n xs ++ envelopesIn n ys := by
  rw [envelopesIn, List.map_append, envelopesFor, List.filter_append, List.flatMap_append]
  rfl

theorem envelopesIn_mk (n : NodeId) (call : Nat) (batches : List NodeBatch) :
    envelopesIn n (batches.map (TakenBatch.mk call)) = envelopesFor n batches := by
  have hid : TakenBatch.batch ∘ TakenBatch.mk call = id := rfl
  rw [envelopesIn, List.map_map, hid, List.map_id]

/-- Only the batches of a node count for it. -/
theorem envelopesIn_filter (n : NodeId) (taken : List TakenBatch) :
    envelopesIn n taken =
      (taken.filter fun t => t.batch.node = n).flatMap fun t => t.batch.envelopes := by
  rw [envelopesIn, envelopesFor, List.filter_map, List.flatMap_map]
  rfl

theorem TakenInOrder.locked (h : s.TakenInOrder accepted) {more : List WireEnvelope}
    {taking : Taking} (hlock : LockSection config s.buffers more taking.1 taking.2) :
    (s.locked taking).TakenInOrder (accepted ++ more) := by
  intro n
  have hissued : (s.locked taking).taken.issued =
      s.taken.issued ++ taking.1.map (TakenBatch.mk s.calls) := Backlog.issueAll_issued _ _
  calc envelopesIn n (s.locked taking).taken.issued ++ taking.2.of n
      = envelopesIn n s.taken.issued ++ (envelopesFor n taking.1 ++ taking.2.of n) := by
        rw [hissued, envelopesIn_append, envelopesIn_mk, List.append_assoc]
    _ = addressedTo n accepted ++ addressedTo n more := by
        rw [hlock.flow n, ← List.append_assoc, h n]
    _ = addressedTo n (accepted ++ more) := (List.filter_append _ _).symm

/-- What a section or a hand-over does to the backlog of batches. -/
theorem taken_step {P : Backlog TakenBatch → Prop} {op : ConcurrentOp} (h : P s.taken)
    (hissue : ∀ l x, P l → P (l.issue x)) (hhand : ∀ i, op = .hand i → P (s.taken.hand i)) :
    P (s.step size config op).taken := by
  have hlocked : ∀ taking, P (s.locked taking).taken :=
    fun _ => Backlog.issueAll_induction hissue h _
  cases op with
  | send e =>
      simp only [step]
      split
      · exact h
      · split
        · exact h
        · exact hlocked _
  | flushNode n => exact hlocked _
  | flushAll order => exact hlocked _
  | hand i =>
      simp only [step]
      split
      · exact hhand i rfl
      · exact h

theorem takenInOrder_step (size : Nat) (config : BatchConfig) (accepted : List WireEnvelope)
    (s : ConcurrentSender) (op : ConcurrentOp) (h : s.TakenInOrder accepted) :
    (s.step size config op).TakenInOrder (accepted ++ s.accepts size config op) := by
  cases op with
  | send e =>
      by_cases hmode : e.sendMode = .tell
      · simp only [step, accepts, if_neg (not_not.mpr hmode)]
        rcases pushEnvelope_cases size config s.buffers e with ⟨hpush, -⟩ | hpush
        · simp only [hpush, Option.isSome_none, Bool.false_eq_true, and_false, if_false,
            List.append_nil]
          exact h
        · simp only [hpush, Option.isSome_some, hmode, and_self, if_true]
          exact h.locked (lockSection_fill config s.buffers e)
      · simp only [step, accepts, if_pos hmode, if_neg fun ha : e.sendMode = .tell ∧ _ =>
          hmode ha.1, List.append_nil]
        exact h
  | flushNode n => exact h.locked (lockSection_remove config s.buffers n)
  | flushAll order => exact h.locked (lockSection_drain config s.buffers order)
  | hand i =>
      simp only [step, accepts, List.append_nil]
      split
      · -- a hand-over takes nothing from a buffer
        have hissued : (s.taken.hand i).issued = s.taken.issued := by
          rw [Backlog.hand]
          split <;> rfl
        intro n
        show envelopesIn n (s.taken.hand i).issued ++ s.buffers.of n = _
        rw [hissued]
        exact h n
      · exact h

theorem conserved_step (size : Nat) (config : BatchConfig) (s : ConcurrentSender)
    (op : ConcurrentOp) (h : s.taken.Conserved) : (s.step size config op).taken.Conserved :=
  taken_step h (fun _ x hl => hl.issue x) fun i _ => h.hand i

theorem inOrder_step (size : Nat) (config : BatchConfig) (s : ConcurrentSender)
    (op : ConcurrentOp) (hop : s.HandsOldest op) (h : s.taken.InOrder fun t => t.batch.node) :
    (s.step size config op).taken.InOrder fun t => t.batch.node := by
  refine taken_step h (fun _ x hl => hl.issue x) ?_
  rintro i rfl
  exact h.hand hop

end ConcurrentSender

/-! ### Main result -/

/-- **What order concurrent calls keep.**  On every interleaving the batches
are taken in acceptance order and each is handed over once or still waits.
They reach the transport in that order too when no hand-over overtakes an
earlier batch of its node. -/
theorem batched_order (size : Nat) (config : BatchConfig) (ops : List ConcurrentOp) (n : NodeId) :
    let s := run (ConcurrentSender.step size config) .new ops
    let accepted := ConcurrentSender.accepted size config ops
    ConcurrentSender.envelopesIn n s.taken.issued ++ s.buffers.of n = addressedTo n accepted ∧
      (s.taken.handed ++ s.taken.waiting).Perm s.taken.issued ∧
      (Admissible (ConcurrentSender.step size config) ConcurrentSender.HandsOldest .new ops →
        ConcurrentSender.envelopesIn n s.taken.handed <+: addressedTo n accepted) := by
  have htaken : (run (ConcurrentSender.step size config) .new ops).TakenInOrder
      (ConcurrentSender.accepted size config ops) :=
    outputs_induction (ConcurrentSender.takenInOrder_step size config) (fun _ => rfl) ops
  have hconserved : (run (ConcurrentSender.step size config) .new ops).taken.Conserved :=
    run_induction (ConcurrentSender.conserved_step size config) ops Backlog.Conserved.empty
  refine ⟨htaken n, hconserved, fun hops => ?_⟩
  have horder := always_of_admissible (ConcurrentSender.inOrder_step size config)
    Backlog.InOrder.empty hops
  have hissued : ConcurrentSender.envelopesIn n
        (run (ConcurrentSender.step size config) .new ops).taken.handed <+:
      ConcurrentSender.envelopesIn n
        (run (ConcurrentSender.step size config) .new ops).taken.issued := by
    rw [ConcurrentSender.envelopesIn_filter, ConcurrentSender.envelopesIn_filter]
    exact (horder.last.handed_prefix n).flatMap _
  refine hissued.trans ?_
  rw [← htaken n]
  exact List.prefix_append _ _

/-- Two tells of one node, each a batch of its own. -/
def twoBatches : List ConcurrentOp :=
  [.send testEnvelope, .send { testEnvelope with body := [2] }]

theorem batched_order_fails :
    ¬ ∀ (size : Nat) (config : BatchConfig) (ops : List ConcurrentOp) (n : NodeId),
      let s := run (ConcurrentSender.step size config) .new ops
      List.Sublist (ConcurrentSender.envelopesIn n s.taken.handed)
        (addressedTo n (ConcurrentSender.accepted size config ops)) := by
  intro h
  have hsub := h 184 ⟨1, 5000000⟩ (twoBatches ++ [.hand 1, .hand 0]) ⟨"n1"⟩
  exact absurd hsub (by decide)

theorem batched_order_oldestFirst :
    Admissible (ConcurrentSender.step 184 ⟨1, 5000000⟩) ConcurrentSender.HandsOldest .new
        (twoBatches ++ [.hand 0, .hand 0]) ∧
      ConcurrentSender.envelopesIn ⟨"n1"⟩ (run (ConcurrentSender.step 184 ⟨1, 5000000⟩) .new
          (twoBatches ++ [.hand 0, .hand 0])).taken.handed <+:
        addressedTo ⟨"n1"⟩ (ConcurrentSender.accepted 184 ⟨1, 5000000⟩
          (twoBatches ++ [.hand 0, .hand 0])) := by
  have hfirst : ∀ s : ConcurrentSender, s.HandsOldest (.hand 0) :=
    fun s x _ y hy => absurd hy List.not_mem_nil
  have hops : Admissible (ConcurrentSender.step 184 ⟨1, 5000000⟩) ConcurrentSender.HandsOldest
      .new (twoBatches ++ [.hand 0, .hand 0]) :=
    ⟨trivial, trivial, hfirst _, hfirst _, trivial⟩
  exact ⟨hops, (batched_order _ _ _ _).2.2 hops⟩

end Dactor
