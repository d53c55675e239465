/-
Dactor/Recovery.lean

Crash recovery of an event-sourced actor over the in-memory storage.

The store of a live actor `a` is `Recoverable`: replaying the journal after
the latest snapshot, starting from what that snapshot restores (from the
initial state when there is none), leads to the state and the sequence id
of `a`.  Every operation keeps this: a persisted event extends the journal
and the live state alike, a snapshot makes the replay empty, truncation
removes only entries the replay does not read, and a restart moves to an
actor with the same state and sequence id.

Main result: `recover_exact`, over every run of `persist`, `persist_batch`,
`snapshot`, truncations below the latest snapshot and restarts, with other
persistence ids used arbitrarily in between.

What "the state" of an actor is, is left to the caller: a projection
`state : A → S` that `apply` acts on deterministically and the recovery
hooks do not touch (`EventSourced.Lawful`).  An actor may hold more, such
as a flag set by `post_recovery`.
-/
import Dactor.Persistence
import Dactor.Runs

namespace Dactor

open Runs

variable {A E S : Type}

namespace EventSourced

/-! ### What an event-sourced actor promises -/

/-- The accessors of the sequence id are a getter and a setter, and the
recovery hooks leave it alone. -/
structure KeepsSequence (I : EventSourced A E) : Prop where
  lastSequenceId_set : ∀ a s, I.lastSequenceId (I.setLastSequenceId a s) = s
  lastSequenceId_pre : ∀ a, I.lastSequenceId (I.preRecovery a) = I.lastSequenceId a
  lastSequenceId_post : ∀ a, I.lastSequenceId (I.postRecovery a) = I.lastSequenceId a

/-- `state` is derived entirely from the events: `apply` acts on it
deterministically, the sequence id and the recovery hooks are no part of
it, and both codecs round-trip. -/
structure Lawful (I : EventSourced A E) (state : A → S) : Prop
    extends KeepsSequence I where
  state_set : ∀ a s, state (I.setLastSequenceId a s) = state a
  state_pre : ∀ a, state (I.preRecovery a) = state a
  state_post : ∀ a, state (I.postRecovery a) = state a
  apply_congr : ∀ a b e, state a = state b →
    state (I.apply a e) = state (I.apply b e)
  deserialize_serialize : ∀ a b e p, I.serializeEvent a e = .ok p →
    I.deserializeEvent b p = .ok e
  restore_payload : ∀ a b p, I.snapshotPayload a = .ok p →
    ∃ b', I.restoreSnapshot b p = (.ok (), b') ∧ state b' = state a

variable {I : EventSourced A E} {state : A → S}

/-! ### Replay -/

theorem replay_append (I : EventSourced A E) (a : A)
    (l₁ l₂ : List (Int × E)) :
    I.replay a (l₁ ++ l₂) = I.replay (I.replay a l₁) l₂ :=
  List.foldl_append

/-- Replay depends on the starting actor only through its state and its
sequence id. -/
theorem Lawful.replay_congr (law : I.Lawful state)
    (evs : List (Int × E)) {a b : A} (hs : state a = state b)
    (hl : I.lastSequenceId a = I.lastSequenceId b) :
    state (I.replay a evs) = state (I.replay b evs) ∧
      I.lastSequenceId (I.replay a evs) = I.lastSequenceId (I.replay b evs) := by
  induction evs generalizing a b with
  | nil => exact ⟨hs, hl⟩
  | cons se evs ih =>
      apply ih
      · simp only [law.state_set]
        exact law.apply_congr a b se.2 hs
      · simp only [law.lastSequenceId_set]

theorem deserializeAll_append (I : EventSourced A E) (a : A)
    {l₁ l₂ : List JournalEntry} {e₁ e₂ : List (Int × E)}
    (h₁ : I.deserializeAll a l₁ = .ok e₁) (h₂ : I.deserializeAll a l₂ = .ok e₂) :
    I.deserializeAll a (l₁ ++ l₂) = .ok (e₁ ++ e₂) := by
  induction l₁ generalizing e₁ with
  | nil =>
      simp only [deserializeAll, Except.ok.injEq] at h₁
      subst h₁
      exact h₂
  | cons entry l₁ ih =>
      simp only [deserializeAll] at h₁
      rcases hd : I.deserializeEvent a entry.payload with e | ev
      · simp [hd] at h₁
      · rcases hr : I.deserializeAll a l₁ with e | rest
        · simp [hd, hr] at h₁
        · simp only [hd, hr, Except.ok.injEq] at h₁
          subst h₁
          simp [deserializeAll, hd, ih hr]

/-! ### Numbered events -/

/-- The events with the consecutive sequence ids after `seq`. -/
def numbered (seq : Int) : List E → List (Int × E)
  | [] => []
  | e :: es => (SequenceId.next seq, e) :: numbered (SequenceId.next seq) es

/-- Replaying numbered events ends in the last of their sequence ids and in
the state that applying them directly gives. -/
theorem Lawful.replay_numbered (law : I.Lawful state) (es : List E)
    (seq : Int) (hroom : seq + es.length ≤ i64Max) {a b : A} (hs : state a = state b)
    (hl : I.lastSequenceId a = seq) :
    state (I.replay a (numbered seq es)) = state (es.foldl I.apply b) ∧
      I.lastSequenceId (I.replay a (numbered seq es)) = seq + es.length := by
  induction es generalizing a b seq with
  | nil => exact ⟨hs, by simpa [numbered, replay] using hl⟩
  | cons e es ih =>
      have hs' : state (I.setLastSequenceId (I.apply a e) (SequenceId.next seq))
          = state (I.apply b e) := by
        rw [law.state_set]
        exact law.apply_congr a b e hs
      rw [List.length_cons] at hroom ⊢
      have hnext : SequenceId.next seq = seq + 1 := SequenceId.next_of_lt (by omega)
      obtain ⟨h₁, h₂⟩ := ih (SequenceId.next seq) (by omega) hs' (law.lastSequenceId_set _ _)
      exact ⟨h₁, h₂.trans (by omega)⟩

theorem serializeBatch_nil_eq_ok {I : EventSourced A E} {a : A} {seq last : Int}
    {batch : List (Int × String × Bytes)} (h : I.serializeBatch a seq [] = .ok (batch, last)) :
    batch = [] ∧ last = seq := by
  simp only [serializeBatch, Except.ok.injEq, Prod.mk.injEq] at h
  exact ⟨h.1.symm, h.2.symm⟩

/-- A batch that is serialized begins with the entry of its first event, and
goes on with that of the others under the next id. -/
theorem serializeBatch_cons_eq_ok {I : EventSourced A E} {a : A} {e : E} {es : List E}
    {seq last : Int} {batch : List (Int × String × Bytes)}
    (h : I.serializeBatch a seq (e :: es) = .ok (batch, last)) :
    ∃ payload rest, I.serializeEvent a e = .ok payload ∧
      I.serializeBatch a (SequenceId.next seq) es = .ok (rest, last) ∧
      batch = (SequenceId.next seq, I.eventType, payload) :: rest := by
  rw [serializeBatch] at h
  rcases hp : I.serializeEvent a e with err | p
  · simp [hp] at h
  · rcases hr : I.serializeBatch a (SequenceId.next seq) es with err | ⟨rest, last'⟩
    · simp [hp, hr] at h
    · simp only [hp, hr, Except.ok.injEq, Prod.mk.injEq] at h
      obtain ⟨rfl, rfl⟩ := h
      exact ⟨p, rest, rfl, rfl, rfl⟩

/-- The entries `persist_batch` writes carry increasing ids above `seq`, up
to the returned `last`. -/
theorem serializeBatch_ids (I : EventSourced A E) {a : A} {es : List E}
    {seq last : Int} {batch : List (Int × String × Bytes)}
    (h : I.serializeBatch a seq es = .ok (batch, last)) (hroom : seq + es.length ≤ i64Max) :
    last = seq + es.length ∧
      ((batch.map InMemoryStorage.batchEntry).Pairwise fun x y => x.sequenceId < y.sequenceId) ∧
      ∀ x ∈ batch.map InMemoryStorage.batchEntry, seq < x.sequenceId ∧ x.sequenceId ≤ last := by
  induction es generalizing seq batch last with
  | nil =>
      obtain ⟨rfl, rfl⟩ := serializeBatch_nil_eq_ok h
      exact ⟨by simp, by simp, by simp⟩
  | cons e es ih =>
      obtain ⟨p, rest, -, hr, rfl⟩ := serializeBatch_cons_eq_ok h
      rw [List.length_cons] at hroom
      have hnext : SequenceId.next seq = seq + 1 := SequenceId.next_of_lt (by omega)
      rw [hnext] at hr ⊢
      obtain ⟨hlast, hinc, hids⟩ := ih hr (by omega)
      refine ⟨?_, ?_, ?_⟩
      · rw [hlast, List.length_cons]
        omega
      · rw [List.map_cons, List.pairwise_cons]
        exact ⟨fun x hx => (hids x hx).1, hinc⟩
      · intro x hx
        simp only [List.map_cons, List.mem_cons] at hx
        rcases hx with rfl | hx
        · simp only [InMemoryStorage.batchEntry]
          omega
        · have := hids x hx
          omega

/-- The entries `persist_batch` writes decode to the numbered events. -/
theorem Lawful.deserializeAll_batch (law : I.Lawful state) {a : A}
    {es : List E} {seq last : Int} {batch : List (Int × String × Bytes)}
    (h : I.serializeBatch a seq es = .ok (batch, last)) (b : A) :
    I.deserializeAll b (batch.map InMemoryStorage.batchEntry) = .ok (numbered seq es) := by
  induction es generalizing seq batch last with
  | nil =>
      obtain ⟨rfl, rfl⟩ := serializeBatch_nil_eq_ok h
      rfl
  | cons e es ih =>
      obtain ⟨p, rest, hp, hr, rfl⟩ := serializeBatch_cons_eq_ok h
      have hb : I.deserializeEvent b p = .ok e := law.deserialize_serialize a b e p hp
      simp [deserializeAll, InMemoryStorage.batchEntry, numbered, hb, ih hr]

end EventSourced

/-! ### Recoverable stores -/

open EventSourced

/-- Starting with state `s₀` at sequence id `k`, the entries of `journal`
after `k` decode and replay to the state and sequence id of `a`; the reader's
own `next` does not wrap. -/
def ReplaysTo (I : EventSourced A E) (state : A → S)
    (journal : List JournalEntry) (s₀ : S) (k : Int) (a : A) : Prop :=
  k ≤ I.lastSequenceId a ∧ k < i64Max ∧
  ∀ b, state b = s₀ → I.lastSequenceId b = k →
    ∃ evs, I.deserializeAll b (journal.filter fun e => SequenceId.next k ≤ e.sequenceId) = .ok evs ∧
      state (I.replay b evs) = state a ∧
      I.lastSequenceId (I.replay b evs) = I.lastSequenceId a

/-- The stored journal and snapshots lead back to the live actor `a`. -/
structure Recoverable (I : EventSourced A E) (state : A → S) (s₀ : S)
    (journal : List JournalEntry) (snaps : List SnapshotEntry) (a : A) : Prop where
  ids_le : ∀ e ∈ journal, e.sequenceId ≤ I.lastSequenceId a
  fits : I.lastSequenceId a < i64Max
  fresh : snaps.getLast? = none → ReplaysTo I state journal s₀ 0 a
  restored : ∀ snap, snaps.getLast? = some snap →
    ∃ s, (∀ b, ∃ b', I.restoreSnapshot b snap.payload = (.ok (), b') ∧ state b' = s) ∧
      ReplaysTo I state journal s snap.sequenceId a

variable {I : EventSourced A E} {state : A → S} {s₀ : S}
variable {journal : List JournalEntry} {snaps : List SnapshotEntry} {a : A}

/-- Only the entries after `k`, and only the state and the sequence id of
the live actor, matter for a replay. -/
theorem ReplaysTo.congr {s : S} {k : Int} {journal' : List JournalEntry}
    {a' : A} (h : ReplaysTo I state journal s k a)
    (hj : (journal'.filter fun e => SequenceId.next k ≤ e.sequenceId)
      = journal.filter fun e => SequenceId.next k ≤ e.sequenceId)
    (hs : state a' = state a) (hl : I.lastSequenceId a' = I.lastSequenceId a) :
    ReplaysTo I state journal' s k a' := by
  obtain ⟨hk, hfit, hrep⟩ := h
  refine ⟨hl ▸ hk, hfit, fun b hb hbk => ?_⟩
  obtain ⟨evs, hdec, h₁, h₂⟩ := hrep b hb hbk
  exact ⟨evs, hj ▸ hdec, h₁.trans hs.symm, h₂.trans hl.symm⟩

/-- Recoverability depends on the live actor only through its state and its
sequence id. -/
theorem Recoverable.congr (h : Recoverable I state s₀ journal snaps a) {a' : A}
    (hs : state a' = state a) (hl : I.lastSequenceId a' = I.lastSequenceId a) :
    Recoverable I state s₀ journal snaps a' where
  ids_le e he := hl ▸ h.ids_le e he
  fits := hl ▸ h.fits
  fresh hn := (h.fresh hn).congr rfl hs hl
  restored snap hsnap := by
    obtain ⟨s, hres, hrep⟩ := h.restored snap hsnap
    exact ⟨s, hres, hrep.congr rfl hs hl⟩

/-- Appending entries above the live sequence id extends every replay by
the events they decode to. -/
theorem ReplaysTo.append (law : I.Lawful state) {s : S} {k : Int}
    (h : ReplaysTo I state journal s k a) {es : List JournalEntry}
    {evs : List (Int × E)} {a' : A}
    (hdec : ∀ b, I.deserializeAll b es = .ok evs)
    (habove : ∀ e ∈ es, I.lastSequenceId a < e.sequenceId)
    (hs : state (I.replay a evs) = state a')
    (hl : I.lastSequenceId (I.replay a evs) = I.lastSequenceId a')
    (hle : I.lastSequenceId a ≤ I.lastSequenceId a') :
    ReplaysTo I state (journal ++ es) s k a' := by
  obtain ⟨hk, hfit, hrep⟩ := h
  refine ⟨Int.le_trans hk hle, hfit, fun b hb hbk => ?_⟩
  obtain ⟨old, hold, h₁, h₂⟩ := hrep b hb hbk
  -- the new entries lie above the live id, so above `k`
  have hkeep : (es.filter fun e => SequenceId.next k ≤ e.sequenceId) = es := by
    apply List.filter_eq_self.mpr
    intro e he
    have := habove e he
    rw [decide_eq_true_eq, SequenceId.next_of_lt hfit]
    omega
  refine ⟨old ++ evs, ?_, ?_, ?_⟩
  · rw [List.filter_append, hkeep]
    exact deserializeAll_append I b hold (hdec b)
  · rw [replay_append, (law.replay_congr evs h₁ h₂).1, hs]
  · rw [replay_append, (law.replay_congr evs h₁ h₂).2, hl]

theorem Recoverable.append (law : I.Lawful state)
    (h : Recoverable I state s₀ journal snaps a) {es : List JournalEntry}
    (evs : List (Int × E)) {a' : A}
    (hdec : ∀ b, I.deserializeAll b es = .ok evs)
    (hids : ∀ e ∈ es, I.lastSequenceId a < e.sequenceId ∧
      e.sequenceId ≤ I.lastSequenceId a')
    (hs : state (I.replay a evs) = state a')
    (hl : I.lastSequenceId (I.replay a evs) = I.lastSequenceId a')
    (hle : I.lastSequenceId a ≤ I.lastSequenceId a') (hfits : I.lastSequenceId a' < i64Max) :
    Recoverable I state s₀ (journal ++ es) snaps a' where
  fits := hfits
  ids_le e he := by
    rcases List.mem_append.mp he with he | he
    · exact Int.le_trans (h.ids_le e he) hle
    · exact (hids e he).2
  fresh hn := (h.fresh hn).append law hdec (fun e he => (hids e he).1) hs hl hle
  restored snap hsnap := by
    obtain ⟨s, hres, hrep⟩ := h.restored snap hsnap
    exact ⟨s, hres, hrep.append law hdec (fun e he => (hids e he).1) hs hl hle⟩

/-- From the live actor itself there is nothing to replay. -/
theorem ReplaysTo.self (hids : ∀ e ∈ journal, e.sequenceId ≤ I.lastSequenceId a)
    (hfits : I.lastSequenceId a < i64Max) :
    ReplaysTo I state journal (state a) (I.lastSequenceId a) a := by
  refine ⟨Int.le_refl _, hfits, fun b hb hbk => ⟨[], ?_, hb, hbk⟩⟩
  have hnone : (journal.filter fun e =>
      SequenceId.next (I.lastSequenceId a) ≤ e.sequenceId) = [] := by
    apply List.filter_eq_nil_iff.mpr
    intro e he
    have := hids e he
    rw [decide_eq_true_eq, SequenceId.next_of_lt hfits]
    omega
  simp only [hnone, deserializeAll]

/-- A snapshot of the live actor restores the live state. -/
theorem Recoverable.snapshot (law : I.Lawful state)
    (h : Recoverable I state s₀ journal snaps a) {p : Bytes}
    (hp : I.snapshotPayload a = .ok p) :
    Recoverable I state s₀ journal (snaps ++ [⟨I.lastSequenceId a, p⟩]) a where
  ids_le := h.ids_le
  fits := h.fits
  fresh hn := by simp at hn
  restored snap hsnap := by
    obtain rfl : (⟨I.lastSequenceId a, p⟩ : SnapshotEntry) = snap := by
      simpa using hsnap
    exact ⟨state a, fun b => law.restore_payload a b p hp, .self h.ids_le h.fits⟩

/-- Truncating the journal up to the latest snapshot removes only entries
that are not replayed. -/
theorem Recoverable.deleteEventsTo (h : Recoverable I state s₀ journal snaps a)
    {snap : SnapshotEntry} (hsnap : snaps.getLast? = some snap)
    {k : Int} (hk : k ≤ snap.sequenceId) :
    Recoverable I state s₀ (journal.filter fun e => k < e.sequenceId) snaps a where
  ids_le e he := h.ids_le e (List.mem_of_mem_filter he)
  fits := h.fits
  fresh hn := by simp [hsnap] at hn
  restored snap' hsnap' := by
    obtain rfl : snap = snap' := by simpa [hsnap] using hsnap'
    obtain ⟨s, hres, hrep⟩ := h.restored snap hsnap
    refine ⟨s, hres, hrep.congr ?_ rfl rfl⟩
    -- an entry after the snapshot is after `k`, so the second filter is idle
    rw [List.filter_filter]
    apply List.filter_congr
    intro e _
    rw [SequenceId.next_of_lt hrep.2.1]
    simp only [Bool.and_eq_left_iff_imp, decide_eq_true_eq]
    intro hafter
    omega

/-- Dropping snapshots below the latest one keeps the latest one. -/
theorem Recoverable.deleteSnapshotsBefore
    (h : Recoverable I state s₀ journal snaps a) {snap : SnapshotEntry}
    (hsnap : snaps.getLast? = some snap) {k : Int}
    (hk : k ≤ snap.sequenceId) :
    Recoverable I state s₀ journal (snaps.filter fun e => k ≤ e.sequenceId) a := by
  have hlast : (snaps.filter fun e => k ≤ e.sequenceId).getLast? = some snap := by
    obtain ⟨init, rfl⟩ := List.getLast?_eq_some_iff.mp hsnap
    simp [List.filter_append, hk]
  exact
    { ids_le := h.ids_le
      fits := h.fits
      fresh := fun hn => by simp [hlast] at hn
      restored := fun snap' hsnap' => by
        obtain rfl : snap = snap' := by simpa [hlast] using hsnap'
        exact h.restored snap hsnap }

/-! ### Recovery succeeds and is exact -/

theorem ReplaysTo.replayJournal (law : I.Lawful state) {st : InMemoryStorage}
    {pid : PersistenceId} {b : A}
    (h : ReplaysTo I state (st.journal pid) (state b) (I.lastSequenceId b) a) :
    ∃ b', I.replayJournal InMemoryStorage.journalStorage pid b st = (.ok (), b', st) ∧
      state b' = state a ∧ I.lastSequenceId b' = I.lastSequenceId a := by
  obtain ⟨evs, hdec, hs, hl⟩ := h.2.2 b rfl rfl
  refine ⟨I.postRecovery (I.replay b evs), ?_, ?_, ?_⟩
  · simp only [EventSourced.replayJournal, InMemoryStorage.journalStorage, hdec]
  · rw [law.state_post, hs]
  · rw [law.lastSequenceId_post, hl]

/-- Recovery over a recoverable store returns `Ok` at the first attempt with
the state and the sequence id of the live actor.  Where no snapshot is
stored, the recovering actor's own state is the base of the replay. -/
theorem Recoverable.recover (law : I.Lawful state) {st : InMemoryStorage}
    {pid : PersistenceId} (hpid : ∀ b, I.persistenceId b = pid)
    (h : Recoverable I state s₀ (st.journal pid) (st.snapshotList pid) a) {b : A}
    (hbase : (st.snapshotList pid).getLast? = none →
      ReplaysTo I state (st.journal pid) (state b) (I.lastSequenceId b) a) :
    ∃ b', I.recoverEventSourced InMemoryStorage.journalStorage
        InMemoryStorage.snapshotStorage b st = (.ok (), b', st, []) ∧
      state b' = state a ∧ I.lastSequenceId b' = I.lastSequenceId a := by
  have hinner : ∃ b', I.recoverEventSourcedInner InMemoryStorage.journalStorage
        InMemoryStorage.snapshotStorage b st = (.ok (), b', st) ∧
      state b' = state a ∧ I.lastSequenceId b' = I.lastSequenceId a := by
    simp only [EventSourced.recoverEventSourcedInner, hpid,
      InMemoryStorage.snapshotStorage]
    rcases hsnap : (st.snapshotList pid).getLast? with - | snap
    · apply ReplaysTo.replayJournal law
      rw [law.state_pre, law.lastSequenceId_pre]
      exact hbase hsnap
    · obtain ⟨s, hres, hrep⟩ := h.restored snap hsnap
      -- the snapshot decides the state, whatever actor it is restored into
      obtain ⟨b', hb', hs⟩ := hres (I.preRecovery b)
      simp only [hb']
      apply ReplaysTo.replayJournal law
      rw [law.state_set, law.lastSequenceId_set, hs]
      exact hrep
  obtain ⟨b', hrec, hs, hl⟩ := hinner
  exact ⟨b', by simp only [EventSourced.recoverEventSourced, hrec], hs, hl⟩

/-! ### Runs of one actor over a shared storage -/

/-- A storage call made under another persistence id. -/
inductive StoreOp
  | writeEvent (seq : Int) (eventType : String) (payload : Bytes)
  | writeEventBatch (batch : List (Int × String × Bytes))
  | deleteEventsTo (k : Int)
  | saveSnapshot (seq : Int) (payload : Bytes)
  | deleteSnapshotsBefore (k : Int)
  | saveState (payload : Bytes)
  | deleteState

def StoreOp.run (pid : PersistenceId) (st : InMemoryStorage) :
    StoreOp → InMemoryStorage
  | .writeEvent seq ty p => (InMemoryStorage.journalStorage.writeEvent pid seq ty p st).2
  | .writeEventBatch b => (InMemoryStorage.journalStorage.writeEventBatch pid b st).2
  | .deleteEventsTo k => (InMemoryStorage.journalStorage.deleteEventsTo pid k st).2
  | .saveSnapshot seq p => (InMemoryStorage.snapshotStorage.saveSnapshot pid seq p st).2
  | .deleteSnapshotsBefore k =>
      (InMemoryStorage.snapshotStorage.deleteSnapshotsBefore pid k st).2
  | .saveState p => (InMemoryStorage.stateStorage.saveState pid p st).2
  | .deleteState => (InMemoryStorage.stateStorage.deleteState pid st).2

/-- Calls under another persistence id leave the journal and the snapshots
of `pid` alone. -/
theorem StoreOp.run_of_ne {pid pid' : PersistenceId} (h : pid ≠ pid')
    (op : StoreOp) (st : InMemoryStorage) :
    (op.run pid' st).journal pid = st.journal pid ∧
      (op.run pid' st).snapshotList pid = st.snapshotList pid := by
  cases op with
  | writeEvent seq ty p =>
      exact ⟨InMemoryStorage.journal_appendEvents_of_ne st pid' pid _ h, rfl⟩
  | writeEventBatch b =>
      exact ⟨InMemoryStorage.journal_appendEvents_of_ne st pid' pid _ h, rfl⟩
  | deleteEventsTo k =>
      exact ⟨InMemoryStorage.journal_retainEvents_of_ne st pid' pid _ h, rfl⟩
  | saveSnapshot seq p =>
      exact ⟨rfl, InMemoryStorage.snapshotList_appendSnapshot_of_ne st pid' pid _ h⟩
  | deleteSnapshotsBefore k =>
      exact ⟨rfl, InMemoryStorage.snapshotList_retainSnapshots_of_ne st pid' pid _ h⟩
  | saveState p => exact ⟨rfl, rfl⟩
  | deleteState => exact ⟨rfl, rfl⟩

/-- The live actor and the storage it shares with others. -/
structure World (A : Type) where
  actor : A
  store : InMemoryStorage

inductive ActorOp (E : Type)
  | persist (event : E)
  | persistBatch (events : List E)
  | snapshot
  | deleteEventsTo (k : Int)
  | deleteSnapshotsBefore (k : Int)
  | restart
  | elsewhere (pid : PersistenceId) (op : StoreOp)

/-- One operation of the run.  A restart loses the actor and recovers from
its initial value `init`. -/
def World.step (I : EventSourced A E) (init : A) (w : World A) :
    ActorOp E → World A
  | .persist event =>
      let r := I.persist InMemoryStorage.journalStorage event w.actor w.store
      ⟨r.2.1, r.2.2⟩
  | .persistBatch events =>
      let r := I.persistBatch InMemoryStorage.journalStorage events w.actor w.store
      ⟨r.2.1, r.2.2⟩
  | .snapshot => ⟨w.actor, (I.snapshot InMemoryStorage.snapshotStorage w.actor w.store).2⟩
  | .deleteEventsTo k =>
      ⟨w.actor, (InMemoryStorage.journalStorage.deleteEventsTo
        (I.persistenceId w.actor) k w.store).2⟩
  | .deleteSnapshotsBefore k =>
      ⟨w.actor, (InMemoryStorage.snapshotStorage.deleteSnapshotsBefore
        (I.persistenceId w.actor) k w.store).2⟩
  | .restart =>
      let r := I.recoverEventSourced InMemoryStorage.journalStorage
        InMemoryStorage.snapshotStorage init w.store
      ⟨r.2.1, r.2.2.1⟩
  | .elsewhere pid op => ⟨w.actor, op.run pid w.store⟩

/-- Truncations stay at or below the latest saved snapshot, calls elsewhere
use another persistence id, and no sequence id overflows: the id after each
one given out is an `i64` as well, so that a recovery can ask for it. -/
def World.Allowed (I : EventSourced A E) (pid : PersistenceId) (w : World A) : ActorOp E → Prop
  | .persist _ => I.lastSequenceId w.actor + 1 < i64Max
  | .persistBatch events => I.lastSequenceId w.actor + events.length < i64Max
  | .deleteEventsTo k | .deleteSnapshotsBefore k =>
      ∃ snap ∈ (w.store.snapshotList pid).getLast?, k ≤ snap.sequenceId
  | .elsewhere pid' _ => pid ≠ pid'
  | .snapshot | .restart => True

instance (I : EventSourced A E) (pid : PersistenceId) (w : World A) :
    (op : ActorOp E) → Decidable (w.Allowed I pid op)
  | .persist _ => inferInstanceAs (Decidable (_ < i64Max))
  | .persistBatch _ => inferInstanceAs (Decidable (_ < i64Max))
  | .deleteEventsTo _ | .deleteSnapshotsBefore _ =>
      inferInstanceAs (Decidable (∃ snap ∈ (w.store.snapshotList pid).getLast?, _))
  | .elsewhere pid' _ => inferInstanceAs (Decidable (pid ≠ pid'))
  | .snapshot | .restart => isTrue trivial

/-- Recoverability of the world's store, as seen by its actor. -/
def World.Good (I : EventSourced A E) (state : A → S) (s₀ : S)
    (pid : PersistenceId) (w : World A) : Prop :=
  Recoverable I state s₀ (w.store.journal pid) (w.store.snapshotList pid) w.actor

variable {pid : PersistenceId} {init : A} {w : World A}

theorem World.Good.persist (law : I.Lawful state)
    (hpid : ∀ b, I.persistenceId b = pid) (h : w.Good I state s₀ pid) (event : E)
    (hfits : I.lastSequenceId w.actor + 1 < i64Max) :
    (w.step I init (.persist event)).Good I state s₀ pid := by
  rcases hp : I.serializeEvent w.actor event with err | p
  · simpa only [World.step, EventSourced.persist, hp] using h
  · have hnext := SequenceId.next_of_lt h.fits
    simp only [World.step, EventSourced.persist, hp, hpid,
      InMemoryStorage.journalStorage]
    show Recoverable _ _ _ _ _ _
    rw [InMemoryStorage.journal_appendEvents, InMemoryStorage.snapshotList_appendEvents]
    refine Recoverable.append law h
      [(SequenceId.next (I.lastSequenceId w.actor), event)] ?_ ?_ rfl rfl ?_ ?_
    · intro b
      simp [deserializeAll, law.deserialize_serialize w.actor b event p hp]
    · intro e he
      obtain rfl := List.mem_singleton.mp he
      simp only [law.lastSequenceId_set, hnext]
      omega
    · simp only [law.lastSequenceId_set, hnext]
      omega
    · rwa [law.lastSequenceId_set, hnext]

theorem World.Good.persistBatch (law : I.Lawful state)
    (hpid : ∀ b, I.persistenceId b = pid) (h : w.Good I state s₀ pid)
    (events : List E) (hfits : I.lastSequenceId w.actor + events.length < i64Max) :
    (w.step I init (.persistBatch events)).Good I state s₀ pid := by
  by_cases hempty : events.isEmpty
  · simpa only [World.step, EventSourced.persistBatch, hempty, if_true] using h
  · rcases hb : I.serializeBatch w.actor (I.lastSequenceId w.actor) events
      with err | ⟨batch, last⟩
    · simpa [World.step, EventSourced.persistBatch, hempty, hb] using h
    · obtain ⟨hlast, -, hids⟩ := serializeBatch_ids I hb (Int.le_of_lt hfits)
      -- `persist_batch` sets the id once, at the end; replay sets it with each event
      obtain ⟨hs, hl⟩ := law.replay_numbered events (I.lastSequenceId w.actor)
        (Int.le_of_lt hfits) (a := w.actor) rfl rfl
      simp only [World.step, EventSourced.persistBatch, hempty, hb, hpid,
        InMemoryStorage.journalStorage]
      show Recoverable _ _ _ _ _ _
      rw [if_neg (by simp), InMemoryStorage.journal_appendEvents,
        InMemoryStorage.snapshotList_appendEvents]
      refine Recoverable.append law h _ (law.deserializeAll_batch hb) ?_ ?_ ?_ ?_ ?_
      · simpa only [law.lastSequenceId_set] using hids
      · rw [law.state_set, hs]
      · rw [law.lastSequenceId_set, hl, hlast]
      · rw [law.lastSequenceId_set, hlast]
        omega
      · rwa [law.lastSequenceId_set, hlast]

theorem World.Good.snapshot (law : I.Lawful state)
    (hpid : ∀ b, I.persistenceId b = pid) (h : w.Good I state s₀ pid) :
    (w.step I init .snapshot).Good I state s₀ pid := by
  rcases hp : I.snapshotPayload w.actor with err | p
  · simpa only [World.step, EventSourced.snapshot, hp] using h
  · simp only [World.step, EventSourced.snapshot, hp, hpid,
      InMemoryStorage.snapshotStorage]
    show Recoverable _ _ _ _ _ _
    rw [InMemoryStorage.snapshotList_appendSnapshot, InMemoryStorage.journal_appendSnapshot]
    exact Recoverable.snapshot law h hp

/-- Every allowed operation keeps the store recoverable. -/
theorem World.Good.step (law : I.Lawful state)
    (hpid : ∀ b, I.persistenceId b = pid) (h0 : I.lastSequenceId init = 0)
    (h : w.Good I state (state init) pid) (op : ActorOp E)
    (hop : w.Allowed I pid op) :
    (w.step I init op).Good I state (state init) pid := by
  cases op with
  | persist event => exact h.persist law hpid event hop
  | persistBatch events => exact h.persistBatch law hpid events hop
  | snapshot => exact h.snapshot law hpid
  | deleteEventsTo k =>
      obtain ⟨snap, hsnap, hk⟩ := hop
      simp only [World.step, hpid, InMemoryStorage.journalStorage]
      show Recoverable _ _ _ _ _ _
      rw [InMemoryStorage.journal_retainEvents]
      exact Recoverable.deleteEventsTo h (Option.mem_def.mp hsnap) hk
  | deleteSnapshotsBefore k =>
      obtain ⟨snap, hsnap, hk⟩ := hop
      simp only [World.step, hpid, InMemoryStorage.snapshotStorage]
      show Recoverable _ _ _ _ _ _
      rw [InMemoryStorage.snapshotList_retainSnapshots]
      exact Recoverable.deleteSnapshotsBefore h (Option.mem_def.mp hsnap) hk
  | restart =>
      -- the recovered actor differs from the lost one outside its state at most
      obtain ⟨b, hrec, hs, hl⟩ :=
        Recoverable.recover law hpid h (b := init) fun hn => by
          rw [h0]
          exact h.fresh hn
      simp only [World.step, hrec]
      exact Recoverable.congr h hs hl
  | elsewhere pid' sop =>
      obtain ⟨hj, hsn⟩ := sop.run_of_ne hop w.store
      show Recoverable _ _ _ _ _ _
      simp only [World.step, hj, hsn]
      exact h

/-- The empty storage is recoverable for the initial actor. -/
theorem World.Good.start (h0 : I.lastSequenceId init = 0) :
    (⟨init, InMemoryStorage.new⟩ : World A).Good I state (state init) pid where
  ids_le e he := by simp at he
  fits := by
    rw [h0]
    decide
  fresh _ := h0 ▸ ReplaysTo.self (fun e he => by simp at he) (by rw [h0]; decide)
  restored snap hsnap := by simp at hsnap

/-- **Event-sourced crash recovery is exact.**  After every allowed run on
an initially empty storage, `recover_event_sourced` on any fresh actor
returns `Ok` with the state and the sequence id of the live actor, and
recovering the live actor again changes neither. -/
theorem recover_exact (I : EventSourced A E) (state : A → S) (law : I.Lawful state)
    (pid : PersistenceId) (hpid : ∀ a, I.persistenceId a = pid)
    (init : A) (h0 : I.lastSequenceId init = 0) (ops : List (ActorOp E))
    (hops : Admissible (World.step I init) (World.Allowed I pid)
      ⟨init, InMemoryStorage.new⟩ ops) :
    let w := run (World.step I init) ⟨init, InMemoryStorage.new⟩ ops
    (∀ fresh, state fresh = state init → I.lastSequenceId fresh = 0 →
      ∃ a, I.recoverEventSourced InMemoryStorage.journalStorage
          InMemoryStorage.snapshotStorage fresh w.store = (.ok (), a, w.store, []) ∧
        state a = state w.actor ∧ I.lastSequenceId a = I.lastSequenceId w.actor) ∧
    (∃ a, I.recoverEventSourced InMemoryStorage.journalStorage
          InMemoryStorage.snapshotStorage w.actor w.store = (.ok (), a, w.store, []) ∧
        state a = state w.actor ∧ I.lastSequenceId a = I.lastSequenceId w.actor) := by
  intro w
  have hall : Always (World.step I init) (World.Good I state (state init) pid)
      ⟨init, InMemoryStorage.new⟩ ops :=
    always_of_admissible (fun w op hop h => h.step law hpid h0 op hop)
      (World.Good.start h0) hops
  have hgood : w.Good I state (state init) pid := hall.last
  constructor
  · intro fresh hs hl
    apply Recoverable.recover law hpid hgood
    intro hn
    rw [hs, hl]
    exact hgood.fresh hn
  · apply Recoverable.recover law hpid hgood
    intro _
    exact ReplaysTo.self hgood.ids_le hgood.fits

/-! ### The counter actor -/

/-- The counter of the source's tests, with values and deltas of one byte;
`post_recovery` sets a flag outside the event-sourced state. -/
structure CounterActor where
  value : UInt8
  lastSeq : Int
  recovered : Bool
  deriving DecidableEq, Repr

def CounterActor.new : CounterActor := ⟨0, 0, false⟩

def counterActor (policy : RecoveryFailurePolicy) : EventSourced CounterActor UInt8 where
  persistenceId _ := ⟨"Counter:1"⟩
  preRecovery a := a
  postRecovery a := { a with recovered := true }
  recoveryFailurePolicy _ := policy
  apply a delta := { a with value := a.value + delta }
  deserializeEvent _ payload :=
    match payload with
    | [b] => .ok b
    | _ => .error (.serializationFailed "bad length")
  serializeEvent _ delta := .ok [delta]
  restoreSnapshot a payload :=
    match payload with
    | [b] => (.ok (), { a with value := b })
    | _ => (.error (.serializationFailed "bad snapshot"), a)
  snapshotPayload a := .ok [a.value]
  lastSequenceId a := a.lastSeq
  setLastSequenceId a seq := { a with lastSeq := seq }
  eventType := "CounterEvent"

theorem counterActor_lawful (policy : RecoveryFailurePolicy) :
    (counterActor policy).Lawful CounterActor.value where
  lastSequenceId_set _ _ := rfl
  lastSequenceId_pre _ := rfl
  lastSequenceId_post _ := rfl
  state_set _ _ := rfl
  state_pre _ := rfl
  state_post _ := rfl
  apply_congr a b e h := by
    show a.value + e = b.value + e
    rw [h]
  deserialize_serialize a b e p h := by
    obtain rfl : [e] = p := by simpa [counterActor] using h
    rfl
  restore_payload a b p h := by
    obtain rfl : [a.value] = p := by simpa [counterActor] using h
    exact ⟨{ b with value := a.value }, rfl, rfl⟩

/-- A run of the counter with a batch, a snapshot, both truncations, a
restart, and a write by a neighbour. -/
def counterRun : List (ActorOp UInt8) :=
  [.persist 5, .snapshot, .persistBatch [1, 2], .deleteEventsTo 1, .snapshot,
    .elsewhere ⟨"Counter:2"⟩ (.writeEvent 9 "CounterEvent" [7]),
    .deleteSnapshotsBefore 3, .persist 4, .restart, .persist 6]

theorem recover_exact_counterRun :
    let w := run (World.step (counterActor .stop) CounterActor.new)
      ⟨CounterActor.new, InMemoryStorage.new⟩ counterRun
    w.actor.value = 18 ∧ w.actor.lastSeq = 5 ∧
    ∃ a, (counterActor .stop).recoverEventSourced InMemoryStorage.journalStorage
        InMemoryStorage.snapshotStorage CounterActor.new w.store
          = (.ok (), a, w.store, []) ∧
      a.value = w.actor.value ∧ a.lastSeq = w.actor.lastSeq := by
  intro w
  have h := recover_exact (counterActor .stop) CounterActor.value
    (counterActor_lawful .stop) ⟨"Counter:1"⟩ (fun _ => rfl) CounterActor.new rfl
    counterRun (by decide)
  exact ⟨by decide, by decide, h.1 CounterActor.new rfl rfl⟩

end Dactor
