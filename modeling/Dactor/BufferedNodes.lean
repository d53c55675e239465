/-
Dactor/BufferedNodes.lean

The two gauges of the batched transport sender.

`buffered_nodes` is the size of the map of buffers.  It is the number of nodes
with something buffered as long as the map holds no empty buffer.  `flush_node`
removes the entry of its node and `flush_all` drains the map, but a send that
fills a buffer takes its contents and leaves the entry behind.

Main result: `buffered_nodes_iff`.
-/
import Mathlib.Data.Set.Card
import Dactor.BatchedTransport

namespace Dactor

open Runs

namespace BatchedSender

/-! ### The gauges -/

/-- Number of buffered envelopes across all nodes. -/
def bufferedCount (s : BatchedSender) : ℕ :=
  (s.buffers.entries.map fun entry => entry.2.length).sum

/-- `buffers.len()`. -/
def bufferedNodes (s : BatchedSender) : ℕ := s.buffers.entries.length

/-- The nodes with at least one buffered envelope. -/
def waiting (s : BatchedSender) : Set NodeId := {n | s.buffers.of n ≠ []}

/-- The gauge counts these nodes, and agrees with the other one on whether
there are any. -/
structure CountsNodes (s : BatchedSender) : Prop where
  nodes : s.bufferedNodes = s.waiting.ncard
  none_iff : s.bufferedNodes = 0 ↔ s.bufferedCount = 0

/-- The call does not fill a buffer: either it is no send of a `Tell`, or the
buffer has room for one more after it, or there is no buffer and none can be
allocated. -/
def LeavesRoom (size : Nat) (config : BatchConfig) (s : BatchedSender) : SenderOp → Prop
  | .send e _ => e.sendMode = .tell →
      (s.buffers.of e.target.node).length + 1 < config.maxItems ∨
        s.buffers.lookup e.target.node = none ∧ isizeMax < size * config.maxItems
  | .flushNode _ _ => True
  | .flushAll _ _ => True

/-! ### Entries -/

/-- No node has an empty buffer in the map. -/
def NoLeftover (b : NodeBuffers) : Prop := ∀ n, b.lookup n ≠ some []

theorem noLeftover_empty : NoLeftover ∅ := by
  intro n h
  cases h

theorem noLeftover_insert {b : NodeBuffers} {node : NodeId} {v : List WireEnvelope}
    (h : NoLeftover b) : NoLeftover (b.insert node v) ↔ v ≠ [] := by
  constructor
  · rintro hnew rfl
    exact hnew node (AList.lookup_insert b)
  · intro hv n
    by_cases hn : n = node
    · rw [hn, AList.lookup_insert]
      exact fun heq => hv (Option.some.inj heq)
    · rw [AList.lookup_insert_ne hn]
      exact h n

theorem NoLeftover.erase {b : NodeBuffers} (h : NoLeftover b) (node : NodeId) :
    NoLeftover (b.erase node) := by
  intro n
  by_cases hn : n = node
  · rw [hn, AList.lookup_erase]
    exact fun heq => by cases heq
  · rw [AList.lookup_erase_ne hn]
    exact h n

variable {s : BatchedSender}

theorem mem_waiting {n : NodeId} :
    n ∈ s.waiting ↔ ∃ v, s.buffers.lookup n = some v ∧ v ≠ [] := by
  show (s.buffers.lookup n).getD [] ≠ [] ↔ _
  cases h : s.buffers.lookup n with
  | none => simp
  | some v => simp

/-- The gauge counts the keys of the map. -/
theorem bufferedNodes_eq_ncard :
    s.bufferedNodes = (s.buffers.keys.toFinset : Set NodeId).ncard := by
  rw [Set.ncard_coe_finset, List.toFinset_card_of_nodup s.buffers.keys_nodup]
  exact (List.length_map _).symm

theorem waiting_subset : s.waiting ⊆ (s.buffers.keys.toFinset : Set NodeId) := by
  intro n hn
  obtain ⟨v, hv, -⟩ := mem_waiting.mp hn
  have hmem : n ∈ s.buffers := AList.lookup_isSome.mp (by rw [hv]; rfl)
  exact List.mem_toFinset.mpr (AList.mem_keys.mp hmem)

theorem bufferedCount_eq_zero_iff :
    s.bufferedCount = 0 ↔ ∀ n v, s.buffers.lookup n = some v → v = [] := by
  rw [bufferedCount, List.sum_eq_zero_iff_forall_eq_nat, List.forall_mem_map]
  constructor
  · intro h n v hv
    exact List.length_eq_zero_iff.mp (h ⟨n, v⟩ (AList.mem_lookup_iff.mp hv))
  · rintro h ⟨n, v⟩ hmem
    exact List.length_eq_zero_iff.mpr (h n v (AList.mem_lookup_iff.mpr hmem))

/-- The gauge is right exactly in the states without an empty buffer. -/
theorem countsNodes_iff : s.CountsNodes ↔ NoLeftover s.buffers := by
  constructor
  · intro h n hleft
    -- the node of an empty buffer is counted and waits for nothing
    have hkey : n ∈ (s.buffers.keys.toFinset : Set NodeId) := by
      have hmem : n ∈ s.buffers := AList.lookup_isSome.mp (by rw [hleft]; rfl)
      exact List.mem_toFinset.mpr (AList.mem_keys.mp hmem)
    have hnot : n ∉ s.waiting := by
      rw [mem_waiting]
      rintro ⟨v, hv, hne⟩
      rw [hleft] at hv
      exact hne (Option.some.inj hv).symm
    have hlt : s.waiting.ncard < s.bufferedNodes := by
      rw [bufferedNodes_eq_ncard]
      apply Set.ncard_lt_ncard
      · exact waiting_subset.ssubset_of_mem_notMem hkey hnot
      · exact Finset.finite_toSet _
    rw [h.nodes] at hlt
    exact absurd hlt (lt_irrefl _)
  · intro h
    have hkeys : s.waiting = (s.buffers.keys.toFinset : Set NodeId) := by
      apply waiting_subset.antisymm
      intro n hn
      have hmem : n ∈ s.buffers := AList.mem_keys.mpr (List.mem_toFinset.mp hn)
      obtain ⟨v, hv⟩ := Option.isSome_iff_exists.mp (AList.lookup_isSome.mpr hmem)
      exact mem_waiting.mpr ⟨v, hv, fun hnil => h n (hnil ▸ hv)⟩
    refine ⟨by rw [hkeys, bufferedNodes_eq_ncard], ?_⟩
    rw [bufferedCount_eq_zero_iff, bufferedNodes, List.length_eq_zero_iff]
    constructor
    · rintro hnil n v hv
      have hmem := AList.mem_lookup_iff.mp hv
      rw [hnil] at hmem
      cases hmem
    · intro hall
      apply List.eq_nil_iff_forall_not_mem.mpr
      rintro ⟨n, v⟩ hmem
      have hv := AList.mem_lookup_iff.mpr hmem
      exact h n (hall n v hv ▸ hv)

/-! ### What the calls do to the map -/

variable {codec : BatchCodec} {size : Nat} {config : BatchConfig}

theorem sendTaken_buffers (taking : Taking) (outcome : Except TransportError Unit) :
    (s.sendTaken codec taking outcome).2.buffers = taking.2 := by
  obtain ⟨batches, buffers⟩ := taking
  cases batches <;> rfl

theorem flushNode_buffers (n : NodeId) (outcome : Except TransportError Unit) :
    (s.flushNode codec n outcome).2.buffers = s.buffers.erase n :=
  sendTaken_buffers _ outcome

theorem flushLoop_buffers (codec : BatchCodec) (outcome : NodeId → Except TransportError Unit)
    (batches : List NodeBatch) (fe : Option TransportError) (s : BatchedSender) :
    (flushLoop codec outcome batches fe s).2.buffers = s.buffers := by
  induction batches generalizing fe s with
  | nil => rfl
  | cons batch rest ih =>
      unfold flushLoop
      dsimp only
      split
      · rw [ih]; rfl
      · rw [ih]; rfl

theorem flushAll_buffers (order : DrainOrder) (outcome : NodeId → Except TransportError Unit) :
    (s.flushAll codec order outcome).2.buffers = ∅ := by
  have hloop := flushLoop_buffers codec outcome (drainAll order s.buffers).1 none
    { s with buffers := ∅ }
  rw [flushAll]
  dsimp only
  split
  · exact hloop
  · exact hloop

/-- A send leaves an empty buffer behind exactly if it fills one. -/
theorem noLeftover_fill {b : NodeBuffers} (h : NoLeftover b) (e : WireEnvelope) :
    NoLeftover (fillBuffer config b e (b.of e.target.node ++ [e])).2 ↔
      (b.of e.target.node).length + 1 < config.maxItems := by
  have hlen : (b.of e.target.node ++ [e]).length = (b.of e.target.node).length + 1 :=
    List.length_append
  rw [fillBuffer]
  split
  · next hfull =>
      rw [noLeftover_insert h]
      refine iff_of_false (fun hne => hne rfl) ?_
      rw [hlen] at hfull
      exact Nat.not_lt_of_le hfull
  · next hroom =>
      rw [noLeftover_insert h]
      refine iff_of_true (List.append_ne_nil_of_right_ne_nil _ (List.cons_ne_nil _ _)) ?_
      rw [hlen] at hroom
      exact Nat.lt_of_not_le hroom

theorem noLeftover_step (h : NoLeftover s.buffers) (op : SenderOp) :
    NoLeftover (s.step codec size config op).buffers ↔ LeavesRoom size config s op := by
  cases op with
  | send e outcome =>
      show NoLeftover (s.send codec size config e outcome).2.buffers ↔ (e.sendMode = .tell → _)
      rcases s.send_cases codec size config e outcome with
        ⟨hmode, hsame⟩ | ⟨-, hpanic, hlookup, hsize⟩ | ⟨hmode, hsome, hsent⟩
      · rw [hsame]
        exact iff_of_true h fun htell => absurd htell hmode
      · rw [hpanic]
        exact iff_of_true h fun _ => .inr ⟨hlookup, hsize⟩
      · rw [hsent, sendTaken_buffers, noLeftover_fill h]
        refine ⟨fun hroom _ => .inl hroom, fun hroom => (hroom hmode).resolve_right ?_⟩
        rintro ⟨hlookup, hsize⟩
        rw [send_none_of_full hmode hlookup hsize] at hsome
        cases hsome
  | flushNode n outcome =>
      show NoLeftover (s.flushNode codec n outcome).2.buffers ↔ True
      rw [flushNode_buffers]
      exact iff_of_true (h.erase n) trivial
  | flushAll order outcome =>
      show NoLeftover (s.flushAll codec order outcome).2.buffers ↔ True
      rw [flushAll_buffers]
      exact iff_of_true noLeftover_empty trivial

end BatchedSender

open BatchedSender

/-! ### Main result -/

/-- **`buffered_nodes` counts the nodes with buffered envelopes exactly as
long as no send fills a buffer.**  A run of calls keeps the gauge right in
every state it visits, whatever the transport answers, if and only if each
`Tell` sent leaves room in the buffer of its node, or panics. -/
theorem buffered_nodes_iff (codec : BatchCodec) (size : Nat) (config : BatchConfig)
    (ops : List SenderOp) :
    Always (BatchedSender.step codec size config) CountsNodes .new ops ↔
      Admissible (BatchedSender.step codec size config) (LeavesRoom size config) .new ops := by
  refine always_iff_admissible ?_ (countsNodes_iff.mpr noLeftover_empty)
  intro s op h
  rw [countsNodes_iff]
  exact noLeftover_step (countsNodes_iff.mp h) op

/-- One tell fills a buffer of one: nothing is buffered, and one node is
counted. -/
theorem buffered_nodes_after_full :
    let s := run (BatchedSender.step testCodec 184 ⟨1, 5000000⟩) .new
      [.send testEnvelope (.ok ())]
    s.bufferedNodes = 1 ∧ s.bufferedCount = 0 ∧ s.waiting = ∅ ∧
      ¬ Always (BatchedSender.step testCodec 184 ⟨1, 5000000⟩) CountsNodes .new
        [.send testEnvelope (.ok ())] := by
  intro s
  have hbuffers : s.buffers = AList.singleton (⟨"n1"⟩ : NodeId) [] := by
    show (sendTaken testCodec .new (fillBuffer ⟨1, 5000000⟩ ∅ testEnvelope [testEnvelope])
      (.ok ())).2.buffers = _
    rw [sendTaken_buffers]
    rfl
  have hnodes : s.bufferedNodes = 1 := by rw [bufferedNodes, hbuffers]; rfl
  have hcount : s.bufferedCount = 0 := by rw [bufferedCount, hbuffers]; rfl
  refine ⟨hnodes, hcount, ?_, ?_⟩
  · apply Set.eq_empty_of_forall_notMem
    intro n hn
    obtain ⟨v, hv, hne⟩ := mem_waiting.mp hn
    exact hne (bufferedCount_eq_zero_iff.mp hcount n v hv)
  · intro h
    have hzero := h.last.none_iff.mpr hcount
    rw [hnodes] at hzero
    cases hzero

end Dactor
