/-
Dactor/BatchedTransport.lean

The batched transport sender: one buffer per node, flushed by size or by
hand.

Every call has a section under the mutex, in which an envelope may enter a
buffer and batches may leave, and then hands the batches that left to the
transport.  `LockSection` says what all three sections have in common.  The
JSON codec of a batch is a parameter.

Main result: `batched_conserves`, for calls made one after another and any
pattern of transport errors.
-/
import Mathlib.Data.List.AList
import Mathlib.Data.Countable.Basic
import Mathlib.Data.Fintype.EquivFin
import Mathlib.Logic.Equiv.List
import Dactor.Batching
import Dactor.Codecs

namespace Dactor

open Runs

/-! ### Buffers -/

structure TransportError where
  message : String
  deriving DecidableEq, Repr

/-- `HashMap<NodeId, Vec<WireEnvelope>>`. -/
abbrev NodeBuffers := AList fun _ : NodeId => List WireEnvelope

/-- What is buffered for a node. -/
def NodeBuffers.of (b : NodeBuffers) (n : NodeId) : List WireEnvelope := (b.lookup n).getD []

/-- A batch and the node it is for. -/
structure NodeBatch where
  node : NodeId
  envelopes : List WireEnvelope
  deriving DecidableEq

/-- The envelopes of the batches for a node, in order. -/
def envelopesFor (n : NodeId) (batches : List NodeBatch) : List WireEnvelope :=
  (batches.filter fun batch => batch.node = n).flatMap NodeBatch.envelopes

/-- The envelopes addressed to a node. -/
def addressedTo (n : NodeId) (envelopes : List WireEnvelope) : List WireEnvelope :=
  envelopes.filter fun e => e.target.node = n

/-! ### The sections under the mutex -/

/-- `entry(node).or_insert_with(..)`: the buffer of the node, or a new one for
`max_items` envelopes of `size` bytes; `none` stands for the panic of its
allocation. -/
def entryBuffer (size : Nat) (config : BatchConfig) (b : NodeBuffers) (node : NodeId) :
    Option (List WireEnvelope) :=
  match b.lookup node with
  | some buffer => some buffer
  | none => withCapacity size config.maxItems

/-- The batches that a section takes, and the buffers it leaves. -/
abbrev Taking := List NodeBatch × NodeBuffers

/-- A buffer with one more envelope is taken when it is full.  A taken buffer
stays in the map as an empty one. -/
def fillBuffer (config : BatchConfig) (b : NodeBuffers) (e : WireEnvelope)
    (buffer : List WireEnvelope) : Taking :=
  let node := e.target.node
  if config.maxItems ≤ buffer.length then ([⟨node, buffer⟩], b.insert node [])
  else ([], b.insert node buffer)

/-- In `send`: push the envelope into the buffer of its node. -/
def pushEnvelope (size : Nat) (config : BatchConfig) (b : NodeBuffers) (e : WireEnvelope) :
    Option Taking :=
  (entryBuffer size config b e.target.node).map fun buffer =>
    fillBuffer config b e (buffer ++ [e])

/-- In `flush_node`: remove the buffer; an empty batch is not sent. -/
def removeNode (b : NodeBuffers) (n : NodeId) : Taking :=
  (if (b.of n).isEmpty then [] else [⟨n, b.of n⟩], b.erase n)

/-- The iteration order of a hash map. -/
abbrev DrainOrder :=
  { order : List (Sigma fun _ : NodeId => List WireEnvelope) →
      List (Sigma fun _ : NodeId => List WireEnvelope) // ∀ l, (order l).Perm l }

/-- The batches of a drained map; empty ones are skipped. -/
def drained (entries : List (Sigma fun _ : NodeId => List WireEnvelope)) : List NodeBatch :=
  (entries.map fun entry => (⟨entry.1, entry.2⟩ : NodeBatch)).filter
    fun batch => !batch.envelopes.isEmpty

/-- In `flush_all`: drain the map in its iteration order. -/
def drainAll (order : DrainOrder) (b : NodeBuffers) : Taking :=
  (drained (order.1 b.entries), ∅)

/-- A section that accepts `accepted` and takes `taken`: for each node, what
is taken and what stays is what was there and what came; and batches and
buffers keep their bounds. -/
structure LockSection (config : BatchConfig) (b : NodeBuffers) (accepted : List WireEnvelope)
    (taken : List NodeBatch) (b' : NodeBuffers) : Prop where
  flow : ∀ n, envelopesFor n taken ++ b'.of n = b.of n ++ addressedTo n accepted
  bufferSize : (∀ n, (b.of n).length < max 1 config.maxItems) →
    ∀ n, (b'.of n).length < max 1 config.maxItems
  batchSize : (∀ n, (b.of n).length < max 1 config.maxItems) →
    ∀ batch ∈ taken, batch.envelopes ≠ [] ∧ batch.envelopes.length ≤ max 1 config.maxItems

theorem NodeBuffers.of_insert (b : NodeBuffers) (node n : NodeId) (v : List WireEnvelope) :
    NodeBuffers.of (b.insert node v) n = if n = node then v else b.of n := by
  rw [NodeBuffers.of]
  split
  · next h => rw [h, AList.lookup_insert]; rfl
  · next h => rw [AList.lookup_insert_ne h]; rfl

theorem NodeBuffers.of_erase (b : NodeBuffers) (node n : NodeId) :
    NodeBuffers.of (b.erase node) n = if n = node then [] else b.of n := by
  rw [NodeBuffers.of]
  split
  · next h => rw [h, AList.lookup_erase]; rfl
  · next h => rw [AList.lookup_erase_ne h]; rfl

theorem envelopesFor_singleton (n : NodeId) (batch : NodeBatch) :
    envelopesFor n [batch] = if n = batch.node then batch.envelopes else [] := by
  by_cases h : batch.node = n
  · simp [envelopesFor, h]
  · simp [envelopesFor, h, Ne.symm h]

theorem addressedTo_singleton (n : NodeId) (e : WireEnvelope) :
    addressedTo n [e] = if n = e.target.node then [e] else [] := by
  by_cases h : e.target.node = n
  · simp [addressedTo, h]
  · simp [addressedTo, h, Ne.symm h]

/-- A node with a buffer keeps it, and a new one is empty. -/
theorem entryBuffer_eq_some {size : Nat} {config : BatchConfig} {b : NodeBuffers} {node : NodeId}
    {buffer : List WireEnvelope} (h : entryBuffer size config b node = some buffer) :
    buffer = b.of node := by
  rw [entryBuffer] at h
  rw [NodeBuffers.of]
  split at h
  · next hlookup => rw [hlookup, ← Option.some.inj h, Option.getD_some]
  · next hlookup =>
    rw [withCapacity] at h
    split at h
    · rw [hlookup, ← Option.some.inj h, Option.getD_none]
    · cases h

/-- A push panics, or adds the envelope to the buffer of its node. -/
theorem pushEnvelope_cases (size : Nat) (config : BatchConfig) (b : NodeBuffers)
    (e : WireEnvelope) :
    pushEnvelope size config b e = none ∧ b.lookup e.target.node = none ∧
        isizeMax < size * config.maxItems ∨
      pushEnvelope size config b e =
        some (fillBuffer config b e (b.of e.target.node ++ [e])) := by
  rcases hbuffer : entryBuffer size config b e.target.node with - | buffer
  · left
    refine ⟨by rw [pushEnvelope, hbuffer, Option.map_none], ?_⟩
    rw [entryBuffer] at hbuffer
    split at hbuffer
    · cases hbuffer
    · next hlookup =>
      rw [withCapacity] at hbuffer
      split at hbuffer
      · cases hbuffer
      · next hsize => exact ⟨hlookup, Nat.lt_of_not_le hsize⟩
  · right
    rw [pushEnvelope, hbuffer, Option.map_some, entryBuffer_eq_some hbuffer]

theorem lockSection_fill (config : BatchConfig) (b : NodeBuffers) (e : WireEnvelope) :
    let taking := fillBuffer config b e (b.of e.target.node ++ [e])
    LockSection config b [e] taking.1 taking.2 := by
  have hlen : (b.of e.target.node ++ [e]).length = (b.of e.target.node).length + 1 :=
    List.length_append
  rw [fillBuffer]
  split
  · refine ⟨fun n => ?_, fun hsize n => ?_, fun hsize batch hbatch => ?_⟩
    · rw [envelopesFor_singleton, addressedTo_singleton, NodeBuffers.of_insert]
      split
      · next h => rw [List.append_nil, h]
      · rw [List.nil_append, List.append_nil]
    · rw [NodeBuffers.of_insert]
      split
      · exact lt_of_lt_of_le Nat.zero_lt_one (Nat.le_max_left 1 _)
      · exact hsize n
    · rw [List.mem_singleton.mp hbatch]
      refine ⟨List.append_ne_nil_of_right_ne_nil _ (List.cons_ne_nil _ _), ?_⟩
      rw [hlen]
      exact hsize e.target.node
  · next hroom =>
      refine ⟨fun n => ?_, fun hsize n => ?_, fun _ batch hbatch => absurd hbatch List.not_mem_nil⟩
      · rw [addressedTo_singleton, NodeBuffers.of_insert]
        split
        · next h => rw [h]; rfl
        · rw [List.append_nil]; rfl
      · rw [NodeBuffers.of_insert]
        split
        · exact lt_of_lt_of_le (Nat.lt_of_not_le hroom) (Nat.le_max_right 1 _)
        · exact hsize n

theorem lockSection_remove (config : BatchConfig) (b : NodeBuffers) (node : NodeId) :
    LockSection config b [] (removeNode b node).1 (removeNode b node).2 := by
  have hfor : ∀ n, envelopesFor n (removeNode b node).1 = if n = node then b.of n else [] := by
    intro n
    rw [removeNode]
    dsimp only
    split
    · next hempty =>
        split
        · next h => rw [h, List.isEmpty_iff.mp hempty]; rfl
        · rfl
    · rw [envelopesFor_singleton]
      split
      · next h => rw [h]
      · rfl
  refine ⟨fun n => ?_, fun hsize n => ?_, fun hsize batch hbatch => ?_⟩
  · rw [hfor, show (removeNode b node).2 = b.erase node from rfl, NodeBuffers.of_erase]
    split
    · rfl
    · exact (List.append_nil _).symm
  · rw [show (removeNode b node).2 = b.erase node from rfl, NodeBuffers.of_erase]
    split
    · exact lt_of_lt_of_le Nat.zero_lt_one (Nat.le_max_left 1 _)
    · exact hsize n
  · rw [removeNode] at hbatch
    dsimp only at hbatch
    split at hbatch
    · exact absurd hbatch List.not_mem_nil
    · next hne =>
        rw [List.mem_singleton.mp hbatch]
        exact ⟨fun h => hne (List.isEmpty_iff.mpr h), Nat.le_of_lt (hsize node)⟩

/-- One more entry puts its batch in front, unless it is empty. -/
theorem drained_cons (node : NodeId) (v : List WireEnvelope)
    (rest : List (Sigma fun _ : NodeId => List WireEnvelope)) :
    drained (⟨node, v⟩ :: rest) =
      (if v = [] then [] else [⟨node, v⟩]) ++ drained rest := by
  by_cases hv : v = []
  · simp [drained, hv]
  · rw [if_neg hv, drained, List.map_cons, List.filter_cons_of_pos (by simpa using hv)]
    rfl

/-- Among entries with distinct keys there is one batch for a node, with what
is stored under it, or none if that is nothing. -/
theorem drained_filter {entries : List (Sigma fun _ : NodeId => List WireEnvelope)}
    (hnodup : entries.NodupKeys) (n : NodeId) :
    (drained entries).filter (fun batch => batch.node = n) =
      if (entries.dlookup n).getD [] = [] then [] else [⟨n, (entries.dlookup n).getD []⟩] := by
  induction entries with
  | nil => rfl
  | cons entry rest ih =>
      obtain ⟨node, v⟩ := entry
      obtain ⟨hnew, hrest⟩ := List.nodupKeys_cons.mp hnodup
      rw [drained_cons, List.filter_append, ih hrest]
      by_cases h : node = n
      · -- the key does not occur again
        subst h
        rw [List.dlookup_cons_eq, List.dlookup_eq_none.mpr hnew]
        by_cases hv : v = [] <;> simp [hv]
      · rw [List.dlookup_cons_ne _ _ (Ne.symm h)]
        by_cases hv : v = [] <;> simp [hv, h]

theorem envelopesFor_drained {entries : List (Sigma fun _ : NodeId => List WireEnvelope)}
    (hnodup : entries.NodupKeys) (n : NodeId) :
    envelopesFor n (drained entries) = (entries.dlookup n).getD [] := by
  rw [envelopesFor, drained_filter hnodup]
  split
  · next h => rw [h]; rfl
  · exact List.append_nil _

theorem lockSection_drain (config : BatchConfig) (b : NodeBuffers) (order : DrainOrder) :
    LockSection config b [] (drainAll order b).1 (drainAll order b).2 := by
  have hperm : (order.1 b.entries).Perm b.entries := order.2 b.entries
  have hnodup : (order.1 b.entries).NodupKeys := (List.perm_nodupKeys hperm).mpr b.nodupKeys
  refine ⟨fun n => ?_, fun _ n => ?_, fun hsize batch hbatch => ?_⟩
  · show envelopesFor n (drained (order.1 b.entries)) ++ [] = b.of n ++ []
    rw [envelopesFor_drained hnodup, List.perm_dlookup n hnodup hperm]
    rfl
  · exact lt_of_lt_of_le Nat.zero_lt_one (Nat.le_max_left 1 _)
  · obtain ⟨hmem, hne⟩ := List.mem_filter.mp hbatch
    obtain ⟨⟨node, v⟩, hentry, rfl⟩ := List.mem_map.mp hmem
    -- the entry is what the map holds for its node
    have hv : b.of node = v := by
      have hlookup : v ∈ b.lookup node := AList.mem_lookup_iff.mpr (hperm.mem_iff.mp hentry)
      rw [NodeBuffers.of, hlookup]
      rfl
    refine ⟨fun h => ?_, ?_⟩
    · rw [show v = [] from h] at hne
      cases hne
    · show v.length ≤ _
      rw [← hv]
      exact Nat.le_of_lt (hsize node)

/-! ### Handing a batch to the transport -/

structure WireEnvelopeBatch where
  envelopes : List WireEnvelope
  deriving DecidableEq

/-- `serde_json::to_vec` and `serde_json::from_slice` for a batch; an error
is its text. -/
structure BatchCodec where
  toVec : WireEnvelopeBatch → Except String Bytes
  fromSlice : Bytes → Except String WireEnvelopeBatch

/-- Every batch is encoded, and decoding gives it back. -/
def BatchCodec.RoundTrips (codec : BatchCodec) : Prop :=
  ∀ batch, ∃ body, codec.toVec batch = .ok body ∧ codec.fromSlice body = .ok batch

def batchMessageType : String := "dactor::system::Batch"

/-- The envelope a batch travels in. -/
def batchWrapper (n : NodeId) (body : Bytes) : WireEnvelope where
  target := ⟨n, 0⟩
  targetName := ""
  messageType := batchMessageType
  sendMode := .tell
  headers := ⟨∅⟩
  body
  requestId := none
  version := none

/-- `send_batch` with the calls of `transport.send` it makes, when the
transport answers `outcome`. -/
def sendBatch (codec : BatchCodec) (batch : NodeBatch) (outcome : Except TransportError Unit) :
    Except TransportError Unit × List (NodeId × WireEnvelope) :=
  match codec.toVec ⟨batch.envelopes⟩ with
  | .error e => (.error ⟨"batch serialization failed: " ++ e⟩, [])
  | .ok body => (outcome, [(batch.node, batchWrapper batch.node body)])

def unpackBatch (codec : BatchCodec) (body : Bytes) : Except TransportError WireEnvelopeBatch :=
  match codec.fromSlice body with
  | .ok batch => .ok batch
  | .error e => .error ⟨"batch deserialization failed: " ++ e⟩

/-! ### The sender, one call after another -/

/-- The buffers, with the calls of `transport.send`. -/
structure BatchedSender where
  buffers : NodeBuffers
  handed : List (NodeId × WireEnvelope)

def SendMode.debug : SendMode → String
  | .tell => "Tell"
  | .ask => "Ask"
  | .expand => "Expand"
  | .reduce => "Reduce"
  | .transform => "Transform"

namespace BatchedSender

def new : BatchedSender := ⟨∅, []⟩

/-- `send_batch` for a batch that left a buffer. -/
def handOver (codec : BatchCodec) (s : BatchedSender) (batch : NodeBatch)
    (outcome : Except TransportError Unit) : Except TransportError Unit × BatchedSender :=
  let sent := sendBatch codec batch outcome
  (sent.1, { s with handed := s.handed ++ sent.2 })

/-- The end of `send` and `flush_node`: the batch that was taken, if any, is
sent. -/
def sendTaken (codec : BatchCodec) (s : BatchedSender) (taking : Taking)
    (outcome : Except TransportError Unit) : Except TransportError Unit × BatchedSender :=
  let (batches, buffers) := taking
  let s := { s with buffers }
  match batches with
  | [] => (.ok (), s)
  | batch :: _ => s.handOver codec batch outcome

/-- What `send` returns, `none` when it panics.  The mutex is tokio's, which a
panic does not poison. -/
def send (codec : BatchCodec) (size : Nat) (config : BatchConfig) (s : BatchedSender)
    (e : WireEnvelope) (outcome : Except TransportError Unit) :
    Option (Except TransportError Unit) × BatchedSender :=
  if e.sendMode ≠ .tell then
    let error := "BatchedTransportSender only accepts Tell envelopes, got " ++ e.sendMode.debug
    (some (.error ⟨error⟩), s)
  else
    match pushEnvelope size config s.buffers e with
    | none => (none, s)
    | some taking =>
      let (result, s) := s.sendTaken codec taking outcome
      (some result, s)

def flushNode (codec : BatchCodec) (s : BatchedSender) (n : NodeId)
    (outcome : Except TransportError Unit) : Except TransportError Unit × BatchedSender :=
  s.sendTaken codec (removeNode s.buffers n) outcome

/-- The loop of `flush_all`: a failure is remembered, if it is the first, and
the next batch is sent. -/
def flushLoop (codec : BatchCodec) (outcome : NodeId → Except TransportError Unit) :
    List NodeBatch → Option TransportError → BatchedSender →
      Option TransportError × BatchedSender
  | [], firstError, s => (firstError, s)
  | batch :: rest, firstError, s =>
    let r := s.handOver codec batch (outcome batch.node)
    match r.1, firstError with
    | .error e, none => flushLoop codec outcome rest (some e) r.2
    | _, _ => flushLoop codec outcome rest firstError r.2

def flushAll (codec : BatchCodec) (s : BatchedSender) (order : DrainOrder)
    (outcome : NodeId → Except TransportError Unit) :
    Except TransportError Unit × BatchedSender :=
  let (batches, buffers) := drainAll order s.buffers
  let (firstError, s) := flushLoop codec outcome batches none { s with buffers }
  match firstError with
  | some e => (.error e, s)
  | none => (.ok (), s)

end BatchedSender

/-- A call, with the answers the transport gives during it. -/
inductive SenderOp
  | send (e : WireEnvelope) (outcome : Except TransportError Unit)
  | flushNode (n : NodeId) (outcome : Except TransportError Unit)
  | flushAll (order : DrainOrder) (outcome : NodeId → Except TransportError Unit)

def BatchedSender.step (codec : BatchCodec) (size : Nat) (config : BatchConfig)
    (s : BatchedSender) : SenderOp → BatchedSender
  | .send e outcome => (s.send codec size config e outcome).2
  | .flushNode n outcome => (s.flushNode codec n outcome).2
  | .flushAll order outcome => (s.flushAll codec order outcome).2

namespace BatchedSender

/-- The envelope that a call accepts: the `Tell` of a `send` that returned. -/
def accepts (codec : BatchCodec) (size : Nat) (config : BatchConfig) (s : BatchedSender) :
    SenderOp → List WireEnvelope
  | .send e outcome =>
    if e.sendMode = .tell ∧ (s.send codec size config e outcome).1.isSome then [e] else []
  | .flushNode _ _ | .flushAll _ _ => []

/-- What the calls have accepted, in order. -/
def accepted (codec : BatchCodec) (size : Nat) (config : BatchConfig) :
    List SenderOp → List WireEnvelope :=
  outputs (step codec size config) (accepts codec size config) .new

/-- The batches the transport was given for a node, unpacked. -/
def handedTo (codec : BatchCodec) (s : BatchedSender) (n : NodeId) : List (List WireEnvelope) :=
  (s.handed.filter fun h => h.1 = n).filterMap fun h =>
    match unpackBatch codec h.2.body with
    | .ok batch => some batch.envelopes
    | .error _ => none

/-- The first error of a list of answers. -/
def firstError : List (Except TransportError Unit) → Except TransportError Unit
  | [] => .ok ()
  | .ok () :: rest => firstError rest
  | .error e :: _ => .error e

/-- Nothing of what was accepted is lost, doubled or misrouted, and the bounds
hold. -/
structure Conserves (codec : BatchCodec) (config : BatchConfig) (accepted : List WireEnvelope)
    (s : BatchedSender) : Prop where
  flow : ∀ n, (s.handedTo codec n).flatten ++ s.buffers.of n = addressedTo n accepted
  bufferSize : ∀ n, (s.buffers.of n).length < max 1 config.maxItems
  batchSize : ∀ h ∈ s.handed, ∃ batch, unpackBatch codec h.2.body = .ok batch ∧
    batch.envelopes ≠ [] ∧ batch.envelopes.length ≤ max 1 config.maxItems

/-- `flush_all` hands over every non-empty buffer, whatever the transport
answers, and returns the first error. -/
def FlushesAll (codec : BatchCodec) (s : BatchedSender) : Prop :=
  ∀ (order : DrainOrder) (outcome : NodeId → Except TransportError Unit),
    let r := s.flushAll codec order outcome
    (∀ n, r.2.buffers.of n = []) ∧
      (∀ n, r.2.handedTo codec n = s.handedTo codec n ++
        if s.buffers.of n = [] then [] else [s.buffers.of n]) ∧
      r.1 = firstError ((r.2.handed.drop s.handed.length).map fun h => outcome h.1)

/-- An envelope that is no `Tell` is refused, and nothing changes. -/
def RefusesOthers (codec : BatchCodec) (size : Nat) (config : BatchConfig) (s : BatchedSender) :
    Prop :=
  ∀ e outcome, e.sendMode ≠ .tell →
    s.send codec size config e outcome = (some (.error
      ⟨"BatchedTransportSender only accepts Tell envelopes, got " ++ e.sendMode.debug⟩), s)

/-- A `Tell` is accepted, unless its node has no buffer and none can be
allocated: then the call panics, and nothing changes. -/
def TakesTells (codec : BatchCodec) (size : Nat) (config : BatchConfig) (s : BatchedSender) :
    Prop :=
  ∀ e outcome, e.sendMode = .tell →
    s.accepts codec size config (.send e outcome) = [e] ∨
      s.send codec size config e outcome = (none, s) ∧
        s.buffers.lookup e.target.node = none ∧ isizeMax < size * config.maxItems

end BatchedSender

/-! ### A codec that round-trips -/

section Codec

variable {codec : BatchCodec}

/-- What the transport is given for a batch. -/
def Wraps (codec : BatchCodec) (batch : NodeBatch) (h : NodeId × WireEnvelope) : Prop :=
  h.1 = batch.node ∧ unpackBatch codec h.2.body = .ok ⟨batch.envelopes⟩

/-- A batch is handed over as one envelope that unpacks to it. -/
theorem BatchCodec.RoundTrips.sendBatch (hcodec : codec.RoundTrips) (batch : NodeBatch)
    (outcome : Except TransportError Unit) :
    ∃ h, Wraps codec batch h ∧ Dactor.sendBatch codec batch outcome = (outcome, [h]) := by
  obtain ⟨body, hto, hfrom⟩ := hcodec ⟨batch.envelopes⟩
  refine ⟨(batch.node, batchWrapper batch.node body), ⟨rfl, ?_⟩, ?_⟩
  · show unpackBatch codec body = _
    rw [unpackBatch, hfrom]
  · rw [Dactor.sendBatch, hto]

theorem Wraps.filterMap {batches : List NodeBatch} {handed : List (NodeId × WireEnvelope)}
    (h : List.Forall₂ (Wraps codec) batches handed) (n : NodeId) :
    ((handed.filter fun h => h.1 = n).filterMap fun h =>
      match unpackBatch codec h.2.body with
      | .ok batch => some batch.envelopes
      | .error _ => none) =
      (batches.filter fun batch => batch.node = n).map NodeBatch.envelopes := by
  induction h with
  | nil => rfl
  | cons hwrap _ ih =>
      obtain ⟨hnode, hunpack⟩ := hwrap
      rw [List.filter_cons, List.filter_cons, hnode]
      split
      · rw [List.filterMap_cons, hunpack, ih]
        rfl
      · exact ih

theorem Wraps.exists_of_mem {batches : List NodeBatch} {handed : List (NodeId × WireEnvelope)}
    (h : List.Forall₂ (Wraps codec) batches handed) {x : NodeId × WireEnvelope}
    (hx : x ∈ handed) : ∃ batch ∈ batches, Wraps codec batch x := by
  induction h with
  | nil => exact absurd hx List.not_mem_nil
  | cons hwrap _ ih =>
      rcases List.mem_cons.mp hx with rfl | hrest
      · exact ⟨_, List.mem_cons_self, hwrap⟩
      · obtain ⟨batch, hmem, hw⟩ := ih hrest
        exact ⟨batch, List.mem_cons_of_mem _ hmem, hw⟩

/-- The nodes the transport was called for. -/
theorem Wraps.map_outcome {batches : List NodeBatch} {handed : List (NodeId × WireEnvelope)}
    (h : List.Forall₂ (Wraps codec) batches handed)
    (outcome : NodeId → Except TransportError Unit) :
    handed.map (fun h => outcome h.1) = batches.map fun batch => outcome batch.node := by
  induction h with
  | nil => rfl
  | cons hwrap _ ih => rw [List.map_cons, List.map_cons, ih, hwrap.1]

end Codec

/-! ### The invariant -/

namespace BatchedSender

variable {codec : BatchCodec} {size : Nat} {config : BatchConfig} {s : BatchedSender}
variable {accepted : List WireEnvelope}

/-- The batches behind the calls of the transport, and how they and the
buffers account for what was accepted. -/
structure Books (codec : BatchCodec) (config : BatchConfig) (accepted : List WireEnvelope)
    (batches : List NodeBatch) (s : BatchedSender) : Prop where
  wraps : List.Forall₂ (Wraps codec) batches s.handed
  flow : ∀ n, envelopesFor n batches ++ s.buffers.of n = addressedTo n accepted
  bufferSize : ∀ n, (s.buffers.of n).length < max 1 config.maxItems
  batchSize : ∀ batch ∈ batches,
    batch.envelopes ≠ [] ∧ batch.envelopes.length ≤ max 1 config.maxItems

theorem Books.handedTo_eq {batches : List NodeBatch} (h : s.Books codec config accepted batches)
    (n : NodeId) :
    s.handedTo codec n = (batches.filter fun batch => batch.node = n).map NodeBatch.envelopes :=
  Wraps.filterMap h.wraps n

theorem Books.conserves {batches : List NodeBatch} (h : s.Books codec config accepted batches) :
    s.Conserves codec config accepted := by
  refine ⟨fun n => ?_, h.bufferSize, fun x hx => ?_⟩
  · rw [h.handedTo_eq, ← h.flow n, envelopesFor, List.flatMap_def]
  · obtain ⟨batch, hmem, -, hunpack⟩ := Wraps.exists_of_mem h.wraps hx
    exact ⟨⟨batch.envelopes⟩, hunpack, h.batchSize batch hmem⟩

/-- A section under the mutex and the hand-over of what it took. -/
theorem Books.call {batches taken : List NodeBatch} {more : List WireEnvelope}
    {buffers : NodeBuffers} {new : List (NodeId × WireEnvelope)}
    (h : s.Books codec config accepted batches)
    (hlock : LockSection config s.buffers more taken buffers)
    (hnew : List.Forall₂ (Wraps codec) taken new) :
    Books codec config (accepted ++ more) (batches ++ taken) ⟨buffers, s.handed ++ new⟩ := by
  refine ⟨List.rel_append h.wraps hnew, fun n => ?_, hlock.bufferSize h.bufferSize, ?_⟩
  · show envelopesFor n (batches ++ taken) ++ buffers.of n = addressedTo n (accepted ++ more)
    rw [addressedTo, List.filter_append, envelopesFor, List.filter_append, List.flatMap_append,
      List.append_assoc]
    show envelopesFor n batches ++ (envelopesFor n taken ++ buffers.of n) =
      addressedTo n accepted ++ addressedTo n more
    rw [hlock.flow n, ← List.append_assoc, h.flow n]
  · intro batch hbatch
    rcases List.mem_append.mp hbatch with hold | htaken
    · exact h.batchSize batch hold
    · exact hlock.batchSize h.bufferSize batch htaken

theorem handOver_snd (hcodec : codec.RoundTrips) (s : BatchedSender) (batch : NodeBatch)
    (outcome : Except TransportError Unit) :
    ∃ h, Wraps codec batch h ∧
      s.handOver codec batch outcome = (outcome, { s with handed := s.handed ++ [h] }) := by
  obtain ⟨h, hwraps, hsend⟩ := hcodec.sendBatch batch outcome
  refine ⟨h, hwraps, ?_⟩
  rw [handOver, hsend]

/-- What the end of `send` and `flush_node` does with the at most one batch
taken. -/
theorem sendTaken_snd (hcodec : codec.RoundTrips) (s : BatchedSender) {taking : Taking}
    (hone : taking.1.length ≤ 1) (outcome : Except TransportError Unit) :
    ∃ new, List.Forall₂ (Wraps codec) taking.1 new ∧
      (s.sendTaken codec taking outcome).2 = ⟨taking.2, s.handed ++ new⟩ := by
  obtain ⟨taken, buffers⟩ := taking
  match taken, hone with
  | [], _ => exact ⟨[], .nil, by rw [List.append_nil]; rfl⟩
  | [batch], _ =>
      obtain ⟨h, hwraps, hover⟩ := handOver_snd hcodec { s with buffers } batch outcome
      refine ⟨[h], .cons hwraps .nil, ?_⟩
      show (handOver codec { s with buffers } batch outcome).2 = _
      rw [hover]

theorem fillBuffer_length (config : BatchConfig) (b : NodeBuffers) (e : WireEnvelope)
    (buffer : List WireEnvelope) : (fillBuffer config b e buffer).1.length ≤ 1 := by
  rw [fillBuffer]
  split
  · exact Nat.le_refl 1
  · exact Nat.zero_le 1

theorem removeNode_length (b : NodeBuffers) (n : NodeId) : (removeNode b n).1.length ≤ 1 := by
  show (if (b.of n).isEmpty then [] else [(⟨n, b.of n⟩ : NodeBatch)]).length ≤ 1
  split
  · exact Nat.zero_le 1
  · exact Nat.le_refl 1

/-- What `send` does: it refuses the envelope, panics, or accepts it. -/
theorem send_cases (codec : BatchCodec) (size : Nat) (config : BatchConfig) (s : BatchedSender)
    (e : WireEnvelope) (outcome : Except TransportError Unit) :
    (e.sendMode ≠ .tell ∧ (s.send codec size config e outcome).2 = s) ∨
    (e.sendMode = .tell ∧ s.send codec size config e outcome = (none, s) ∧
      s.buffers.lookup e.target.node = none ∧ isizeMax < size * config.maxItems) ∨
    (e.sendMode = .tell ∧ (s.send codec size config e outcome).1.isSome ∧
      (s.send codec size config e outcome).2 = (s.sendTaken codec
        (fillBuffer config s.buffers e (s.buffers.of e.target.node ++ [e])) outcome).2) := by
  by_cases hmode : e.sendMode = .tell
  · right
    rw [BatchedSender.send, if_neg (not_not.mpr hmode)]
    rcases pushEnvelope_cases size config s.buffers e with ⟨hpush, hlookup, hsize⟩ | hpush
    · rw [hpush]
      exact .inl ⟨hmode, rfl, hlookup, hsize⟩
    · rw [hpush]
      exact .inr ⟨hmode, rfl, rfl⟩
  · rw [BatchedSender.send, if_pos hmode]
    exact .inl ⟨hmode, rfl⟩

/-- A new buffer that cannot be allocated. -/
theorem send_none_of_full {e : WireEnvelope} {outcome : Except TransportError Unit}
    (hmode : e.sendMode = .tell) (hlookup : s.buffers.lookup e.target.node = none)
    (hsize : isizeMax < size * config.maxItems) :
    (s.send codec size config e outcome).1 = none := by
  have hbuffer : entryBuffer size config s.buffers e.target.node = none := by
    rw [entryBuffer, hlookup]
    exact if_neg (Nat.not_le_of_lt hsize)
  rw [BatchedSender.send, if_neg (not_not.mpr hmode), pushEnvelope, hbuffer]
  rfl

theorem Books.send {batches : List NodeBatch} (hcodec : codec.RoundTrips)
    (h : s.Books codec config accepted batches) (e : WireEnvelope)
    (outcome : Except TransportError Unit) :
    ∃ batches, (s.send codec size config e outcome).2.Books codec config
      (accepted ++ s.accepts codec size config (.send e outcome)) batches := by
  rcases s.send_cases codec size config e outcome with
    ⟨hmode, hsame⟩ | ⟨-, hpanic, -⟩ | ⟨hmode, hsome, hsent⟩
  · rw [hsame, accepts, if_neg fun ha => hmode ha.1, List.append_nil]
    exact ⟨batches, h⟩
  · rw [accepts, hpanic, if_neg fun ha => (by cases ha.2), List.append_nil]
    exact ⟨batches, h⟩
  · obtain ⟨new, hnew, hsnd⟩ := s.sendTaken_snd hcodec (fillBuffer_length config s.buffers e _)
      outcome
    rw [hsent, hsnd, accepts, if_pos ⟨hmode, hsome⟩]
    exact ⟨_, h.call (lockSection_fill config s.buffers e) hnew⟩

theorem Books.flushNode {batches : List NodeBatch} (hcodec : codec.RoundTrips)
    (h : s.Books codec config accepted batches) (n : NodeId)
    (outcome : Except TransportError Unit) :
    ∃ batches, (s.flushNode codec n outcome).2.Books codec config accepted batches := by
  obtain ⟨new, hnew, hsnd⟩ := s.sendTaken_snd hcodec (removeNode_length s.buffers n) outcome
  refine ⟨batches ++ (removeNode s.buffers n).1, ?_⟩
  rw [BatchedSender.flushNode, hsnd]
  have hcall := h.call (lockSection_remove config s.buffers n) hnew
  rwa [List.append_nil] at hcall

/-- What the loop remembers after one more answer. -/
def remember (fe : Option TransportError) (answer : Except TransportError Unit) :
    Option TransportError :=
  match answer, fe with
  | .error e, none => some e
  | _, _ => fe

theorem flushLoop_cons (hcodec : codec.RoundTrips)
    (outcome : NodeId → Except TransportError Unit) (batch : NodeBatch) (rest : List NodeBatch)
    (fe : Option TransportError) (s : BatchedSender) :
    ∃ h, Wraps codec batch h ∧ flushLoop codec outcome (batch :: rest) fe s =
      flushLoop codec outcome rest (remember fe (outcome batch.node))
        { s with handed := s.handed ++ [h] } := by
  obtain ⟨h, hwraps, hover⟩ := handOver_snd hcodec s batch (outcome batch.node)
  refine ⟨h, hwraps, ?_⟩
  conv_lhs => unfold flushLoop
  rw [hover]
  cases outcome batch.node <;> cases fe <;> rfl

/-- The loop hands over all its batches, in order. -/
theorem flushLoop_snd (hcodec : codec.RoundTrips)
    (outcome : NodeId → Except TransportError Unit) (taken : List NodeBatch)
    (fe : Option TransportError) (s : BatchedSender) :
    ∃ new, List.Forall₂ (Wraps codec) taken new ∧
      (flushLoop codec outcome taken fe s).2 = { s with handed := s.handed ++ new } := by
  induction taken generalizing fe s with
  | nil => exact ⟨[], .nil, by rw [flushLoop, List.append_nil]⟩
  | cons batch rest ih =>
      obtain ⟨h, hwraps, hcons⟩ := flushLoop_cons hcodec outcome batch rest fe s
      obtain ⟨new, hnew, hrest⟩ :=
        ih (remember fe (outcome batch.node)) { s with handed := s.handed ++ [h] }
      refine ⟨h :: new, .cons hwraps hnew, ?_⟩
      rw [hcons, hrest]
      simp only [List.append_assoc, List.singleton_append]

/-- What a call returns for an error it remembers. -/
def reported : Option TransportError → Except TransportError Unit
  | some e => .error e
  | none => .ok ()

/-- And returns the first error, of those before it and its own. -/
theorem flushLoop_fst (hcodec : codec.RoundTrips)
    (outcome : NodeId → Except TransportError Unit) (taken : List NodeBatch)
    (fe : Option TransportError) (s : BatchedSender) :
    reported (flushLoop codec outcome taken fe s).1 =
      firstError (reported fe :: taken.map fun batch => outcome batch.node) := by
  induction taken generalizing fe s with
  | nil => cases fe <;> rfl
  | cons batch rest ih =>
      obtain ⟨h, -, hcons⟩ := flushLoop_cons hcodec outcome batch rest fe s
      rw [hcons, ih, List.map_cons]
      cases outcome batch.node <;> cases fe <;> rfl

theorem flushAll_snd (hcodec : codec.RoundTrips) (s : BatchedSender) (order : DrainOrder)
    (outcome : NodeId → Except TransportError Unit) :
    ∃ new, List.Forall₂ (Wraps codec) (drainAll order s.buffers).1 new ∧
      (s.flushAll codec order outcome).2 = ⟨∅, s.handed ++ new⟩ := by
  obtain ⟨new, hnew, hloop⟩ := flushLoop_snd hcodec outcome (drainAll order s.buffers).1 none
    { s with buffers := (drainAll order s.buffers).2 }
  refine ⟨new, hnew, ?_⟩
  have hsnd : (s.flushAll codec order outcome).2 =
      (flushLoop codec outcome (drainAll order s.buffers).1 none
        { s with buffers := (drainAll order s.buffers).2 }).2 := by
    rw [BatchedSender.flushAll]
    dsimp only
    split <;> rfl
  rw [hsnd, hloop]
  rfl

theorem Books.flushAll {batches : List NodeBatch} (hcodec : codec.RoundTrips)
    (h : s.Books codec config accepted batches) (order : DrainOrder)
    (outcome : NodeId → Except TransportError Unit) :
    (s.flushAll codec order outcome).2.Books codec config accepted
      (batches ++ (drainAll order s.buffers).1) := by
  obtain ⟨new, hnew, hsnd⟩ := flushAll_snd hcodec s order outcome
  rw [hsnd]
  have hcall := h.call (lockSection_drain config s.buffers order) hnew
  rwa [List.append_nil] at hcall

theorem books_step (hcodec : codec.RoundTrips) (size : Nat) (config : BatchConfig)
    (accepted : List WireEnvelope) (s : BatchedSender) (op : SenderOp)
    (h : ∃ batches, s.Books codec config accepted batches) :
    ∃ batches, (s.step codec size config op).Books codec config
      (accepted ++ s.accepts codec size config op) batches := by
  obtain ⟨batches, h⟩ := h
  cases op with
  | send e outcome => exact h.send hcodec e outcome
  | flushNode n outcome =>
      rw [accepts, List.append_nil]
      exact h.flushNode hcodec n outcome
  | flushAll order outcome =>
      rw [accepts, List.append_nil]
      exact ⟨_, h.flushAll hcodec order outcome⟩

theorem books_new (codec : BatchCodec) (config : BatchConfig) : new.Books codec config [] [] := by
  refine ⟨.nil, fun _ => rfl, fun _ => ?_, fun _ hb => absurd hb List.not_mem_nil⟩
  exact lt_of_lt_of_le Nat.zero_lt_one (Nat.le_max_left 1 _)

theorem flushAll_fst (codec : BatchCodec) (s : BatchedSender) (order : DrainOrder)
    (outcome : NodeId → Except TransportError Unit) :
    (s.flushAll codec order outcome).1 =
      reported (flushLoop codec outcome (drainAll order s.buffers).1 none
        { s with buffers := (drainAll order s.buffers).2 }).1 := by
  rw [BatchedSender.flushAll]
  dsimp only
  split
  · next he => rw [he]; rfl
  · next he => rw [he]; rfl

/-- A node has at most one batch in a drain. -/
theorem drainAll_filter (order : DrainOrder) (b : NodeBuffers) (n : NodeId) :
    (drainAll order b).1.filter (fun batch => batch.node = n) =
      if b.of n = [] then [] else [⟨n, b.of n⟩] := by
  have hperm : (order.1 b.entries).Perm b.entries := order.2 b.entries
  have hnodup : (order.1 b.entries).NodupKeys := (List.perm_nodupKeys hperm).mpr b.nodupKeys
  rw [drainAll, drained_filter hnodup, List.perm_dlookup n hnodup hperm]
  rfl

theorem Books.flushesAll {batches : List NodeBatch} (hcodec : codec.RoundTrips)
    (h : s.Books codec config accepted batches) : s.FlushesAll codec := by
  intro order outcome
  obtain ⟨new, hnew, hsnd⟩ := flushAll_snd hcodec s order outcome
  refine ⟨fun n => ?_, fun n => ?_, ?_⟩
  · rw [hsnd]
    rfl
  · rw [(h.flushAll hcodec order outcome).handedTo_eq, h.handedTo_eq, List.filter_append,
      List.map_append, drainAll_filter]
    split <;> rfl
  · rw [flushAll_fst, flushLoop_fst hcodec, hsnd]
    show _ = firstError (((s.handed ++ new).drop s.handed.length).map fun h => outcome h.1)
    rw [List.drop_left, Wraps.map_outcome hnew]
    rfl

theorem refusesOthers (codec : BatchCodec) (size : Nat) (config : BatchConfig)
    (s : BatchedSender) : s.RefusesOthers codec size config := by
  intro e outcome hmode
  rw [BatchedSender.send, if_pos hmode]

theorem takesTells (codec : BatchCodec) (size : Nat) (config : BatchConfig) (s : BatchedSender) :
    s.TakesTells codec size config := by
  intro e outcome htell
  rcases s.send_cases codec size config e outcome with
    ⟨hmode, -⟩ | ⟨-, hpanic⟩ | ⟨-, hsome, -⟩
  · exact absurd htell hmode
  · exact .inr hpanic
  · exact .inl (if_pos ⟨htell, hsome⟩)

end BatchedSender

/-! ### Main result -/

/-- **Nothing is lost, doubled or misrouted by the batched sender**, after
any calls and whatever the transport answered: for each node the batches
handed over, unpacked, and the buffer are the `Tell` envelopes for it of the
calls of `send` that returned, in order; buffers and batches keep their bounds;
`flush_all` leaves nothing behind; what is no `Tell` is refused; and a `Tell`
is accepted unless there is no room for a buffer. -/
theorem batched_conserves (codec : BatchCodec) (hcodec : codec.RoundTrips) (size : Nat)
    (config : BatchConfig) (ops : List SenderOp) :
    let s := run (BatchedSender.step codec size config) .new ops
    s.Conserves codec config (BatchedSender.accepted codec size config ops) ∧
      s.FlushesAll codec ∧ s.RefusesOthers codec size config ∧ s.TakesTells codec size config := by
  intro s
  obtain ⟨batches, h⟩ := outputs_induction (BatchedSender.books_step hcodec size config)
    ⟨[], BatchedSender.books_new codec config⟩ ops
  exact ⟨h.conserves, h.flushesAll hcodec, s.refusesOthers codec size config,
    s.takesTells codec size config⟩

/-! ### One tell, flushed -/

section Flushed

instance wireEnvelope_countable : Countable WireEnvelope := by
  refine Function.Injective.countable (f := fun e : WireEnvelope =>
    (e.target.node.id, e.target.local, e.targetName, e.messageType, e.sendMode.debug,
      e.headers.entries, e.body, e.requestId, e.version)) ?_
  rintro ⟨⟨⟨_⟩, _⟩, _, _, mode, ⟨_⟩, _, _, _⟩ ⟨⟨⟨_⟩, _⟩, _, _, mode', ⟨_⟩, _, _, _⟩ h
  have hmode : mode = mode' := by
    have hdebug : mode.debug = mode'.debug := congrArg (fun x => x.2.2.2.2.1) h
    revert hdebug
    cases mode <;> cases mode' <;> decide
  simp only [Prod.mk.injEq] at h
  simp only [h, hmode]

/-- A tell for the actor `1` of node `n1`. -/
def testEnvelope : WireEnvelope where
  target := ⟨⟨"n1"⟩, 1⟩
  targetName := "test"
  messageType := "test::Msg"
  sendMode := .tell
  headers := ⟨∅⟩
  body := [1]
  requestId := none
  version := none

/-- The JSON form of the batch with this one envelope. -/
def testJson : Bytes :=
  ("\x7b\"envelopes\":[\x7b\"target\":\x7b\"node\":\"n1\",\"local\":1\x7d," ++
    "\"target_name\":\"test\",\"message_type\":\"test::Msg\",\"send_mode\":\"Tell\"," ++
    "\"headers\":\x7b\"entries\":\x7b\x7d\x7d,\"body\":[1]," ++
    "\"request_id\":null,\"version\":null\x7d]\x7d").toUTF8.toList

theorem bytes_infinite : Infinite Bytes := inferInstance

/-- Some code of batches, with `testJson` for the batch of `testEnvelope`. -/
noncomputable def testCode (batch : WireEnvelopeBatch) : Bytes :=
  have := bytes_infinite
  let code : List WireEnvelope → Bytes :=
    Infinite.natEmbedding Bytes ∘ (exists_injective_nat (List WireEnvelope)).choose
  Equiv.swap (code [testEnvelope]) testJson (code batch.envelopes)

noncomputable def testCodec : BatchCodec where
  toVec batch := .ok (testCode batch)
  fromSlice body :=
    match Function.partialInv testCode body with
    | some batch => .ok batch
    | none => .error "expected value"

theorem testCodec_roundTrips : testCodec.RoundTrips := by
  have hinj : Function.Injective testCode := by
    rintro ⟨xs⟩ ⟨ys⟩ h
    have hnat := (Infinite.natEmbedding Bytes).injective (Equiv.injective _ h)
    have hxs : xs = ys := (exists_injective_nat (List WireEnvelope)).choose_spec hnat
    rw [hxs]
  intro batch
  refine ⟨testCode batch, rfl, ?_⟩
  show (match Function.partialInv testCode (testCode batch) with
    | some batch => Except.ok batch
    | none => .error "expected value") = _
  rw [Function.partialInv_left hinj]

theorem testCodec_toVec : testCodec.toVec ⟨[testEnvelope]⟩ = .ok testJson :=
  congrArg Except.ok (Equiv.swap_apply_left _ _)

/-- A tell is accepted and buffered, and its node is flushed: the transport is
given the one batch with it. -/
theorem batched_conserves_flushed :
    testCodec.RoundTrips ∧ testCodec.toVec ⟨[testEnvelope]⟩ = .ok testJson ∧
      let ops := [.send testEnvelope (.ok ()), .flushNode ⟨"n1"⟩ (.ok ())]
      let s := run (BatchedSender.step testCodec 184 ⟨2, 5000000⟩) .new ops
      BatchedSender.accepted testCodec 184 ⟨2, 5000000⟩ ops = [testEnvelope] ∧
        s.buffers.of ⟨"n1"⟩ = [] ∧ (s.handedTo testCodec ⟨"n1"⟩).flatten = [testEnvelope] := by
  refine ⟨testCodec_roundTrips, testCodec_toVec, ?_⟩
  intro ops s
  have hflow := (batched_conserves testCodec testCodec_roundTrips 184 ⟨2, 5000000⟩ ops).1.flow
    ⟨"n1"⟩
  have haccepted : BatchedSender.accepted testCodec 184 ⟨2, 5000000⟩ ops = [testEnvelope] := rfl
  have hbuffer : s.buffers.of ⟨"n1"⟩ = [] := rfl
  rw [haccepted] at hflow
  change (s.handedTo testCodec ⟨"n1"⟩).flatten ++ s.buffers.of ⟨"n1"⟩ = [testEnvelope] at hflow
  rw [hbuffer, List.append_nil] at hflow
  exact ⟨haccepted, hbuffer, hflow⟩

end Flushed

end Dactor
