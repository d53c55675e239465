/-
Dactor/SequenceIds.lean

Sequence ids of a journal whose store may fail any call.

`persist` and `persist_batch` number events after the sequence id held by
the actor, never after the journal.  The journal therefore stays strictly
increasing as long as the live actor `Covers` it (no stored id lies above
the actor's own) and the new ids fit an `i64`.  A recovery that succeeds, at
any attempt, covers the journal; a recovery that fails leaves no live actor,
except under `SkipAndStart`, which starts the actor at the id the failed
attempt had reached.  `increasing_of_safe` is the resulting law over runs, and
`increasing_fails` a run outside it, in which two events share an id.
-/
import Dactor.Recovery

namespace Dactor

open Runs EventSourced

variable {A E : Type}

/-! ### The store -/

def faultyJournal : JournalStorage (Faulty InMemoryStorage) :=
  Faulty.journalStorage InMemoryStorage.journalStorage

def faultySnapshots : SnapshotStorage (Faulty InMemoryStorage) :=
  Faulty.snapshotStorage InMemoryStorage.snapshotStorage

/-- The stored sequence ids are strictly increasing. -/
def Increasing (journal : List JournalEntry) : Prop :=
  journal.Pairwise fun x y => x.sequenceId < y.sequenceId

instance (journal : List JournalEntry) : Decidable (Increasing journal) :=
  inferInstanceAs (Decidable (List.Pairwise _ _))

/-- No stored sequence id lies above `k`. -/
def Covers (journal : List JournalEntry) (k : Int) : Prop :=
  ∀ e ∈ journal, e.sequenceId ≤ k

instance (journal : List JournalEntry) (k : Int) : Decidable (Covers journal k) :=
  inferInstanceAs (Decidable (∀ e ∈ journal, e.sequenceId ≤ k))

/-- Entries numbered above everything stored extend the journal. -/
theorem Increasing.append {journal es : List JournalEntry} {k : Int}
    (h : Increasing journal) (hk : Covers journal k) (hes : Increasing es)
    (habove : ∀ e ∈ es, k < e.sequenceId) : Increasing (journal ++ es) := by
  refine List.pairwise_append.mpr ⟨h, hes, ?_⟩
  intro x hx y hy
  exact Int.lt_of_le_of_lt (hk x hx) (habove y hy)

/-! ### What a recovery leaves in the actor -/

namespace EventSourced

variable {I : EventSourced A E} {pid : PersistenceId}

theorem deserializeAll_cons_eq_ok {a : A} {x : JournalEntry} {entries : List JournalEntry}
    {evs : List (Int × E)} (h : I.deserializeAll a (x :: entries) = .ok evs) :
    ∃ ev rest, I.deserializeEvent a x.payload = .ok ev ∧
      I.deserializeAll a entries = .ok rest ∧ evs = (x.sequenceId, ev) :: rest := by
  rw [deserializeAll] at h
  rcases hd : I.deserializeEvent a x.payload with err | ev
  · simp [hd] at h
  · rcases hr : I.deserializeAll a entries with err | rest
    · simp [hd, hr] at h
    · simp only [hd, hr, Except.ok.injEq] at h
      exact ⟨ev, rest, rfl, rfl, h.symm⟩

/-- Replaying an increasing list of entries ends at or above each of them. -/
theorem KeepsSequence.replay_covers (hI : I.KeepsSequence) {a b : A}
    {entries : List JournalEntry} {evs : List (Int × E)}
    (hinc : Increasing entries)
    (habove : ∀ x ∈ entries, I.lastSequenceId b < x.sequenceId)
    (hdec : I.deserializeAll a entries = .ok evs) :
    I.lastSequenceId b ≤ I.lastSequenceId (I.replay b evs) ∧
      Covers entries (I.lastSequenceId (I.replay b evs)) := by
  induction entries generalizing b evs with
  | nil =>
      obtain rfl : [] = evs := by simpa [deserializeAll] using hdec
      exact ⟨Int.le_refl _, fun e he => by simp at he⟩
  | cons x entries ih =>
      obtain ⟨hx, hinc⟩ := List.pairwise_cons.mp hinc
      obtain ⟨ev, rest, -, hr, rfl⟩ := deserializeAll_cons_eq_ok hdec
      -- the first event moves the actor to the id of its entry
      have hset : I.lastSequenceId
          (I.setLastSequenceId (I.apply b ev) x.sequenceId) = x.sequenceId :=
        hI.lastSequenceId_set _ _
      obtain ⟨hle, hcov⟩ :=
        ih (b := I.setLastSequenceId (I.apply b ev) x.sequenceId) hinc
          (fun y hy => by rw [hset]; exact hx y hy) hr
      rw [hset] at hle
      have hb : I.lastSequenceId b < x.sequenceId := habove x (List.mem_cons_self ..)
      refine ⟨Int.le_trans (Int.le_of_lt hb) hle, ?_⟩
      intro e he
      rcases List.mem_cons.mp he with rfl | he
      · exact hle
      · exact hcov e he

/-- Wherever the replay of an increasing list of entries began, even at a
start that wrapped around, it ends at or above each of them. -/
theorem KeepsSequence.replay_covers_all (hI : I.KeepsSequence) {a b : A}
    {entries : List JournalEntry} {evs : List (Int × E)} (hinc : Increasing entries)
    (hdec : I.deserializeAll a entries = .ok evs) :
    Covers entries (I.lastSequenceId (I.replay b evs)) ∧
      (entries = [] → I.replay b evs = b) := by
  cases entries with
  | nil =>
      obtain rfl : [] = evs := by simpa [deserializeAll] using hdec
      exact ⟨fun e he => by simp at he, fun _ => rfl⟩
  | cons x entries =>
      refine ⟨?_, fun h => by cases h⟩
      obtain ⟨ev, rest, -, hr, rfl⟩ := deserializeAll_cons_eq_ok hdec
      obtain ⟨hx, hinc⟩ := List.pairwise_cons.mp hinc
      have hset : I.lastSequenceId
          (I.setLastSequenceId (I.apply b ev) x.sequenceId) = x.sequenceId :=
        hI.lastSequenceId_set _ _
      obtain ⟨hle, hcov⟩ :=
        hI.replay_covers (b := I.setLastSequenceId (I.apply b ev) x.sequenceId) hinc
          (fun y hy => by rw [hset]; exact hx y hy) hr
      intro e he
      rcases List.mem_cons.mp he with rfl | he
      · exact hset.symm.trans_le hle
      · exact hcov e he

/-- Where reading or decoding the journal after `a` fails, the sequence id
`a` is left with; `fault` is what the read is scheduled to return. -/
def replayStopsAt (I : EventSourced A E) (pid : PersistenceId) (a : A)
    (fault : Option PersistError) (st : InMemoryStorage) : Option Int :=
  match fault, I.deserializeAll a ((st.journal pid).filter fun e =>
      SequenceId.next (I.lastSequenceId a) ≤ e.sequenceId) with
  | some _, _ => some (I.lastSequenceId a)
  | none, .error _ => some (I.lastSequenceId a)
  | none, .ok _ => none

/-- Where an attempt to recover `a` fails, the sequence id it has reached by
then: that of `a` when the snapshot cannot be loaded, what a failing
`restore_snapshot` leaves when it cannot be restored, and that of the
snapshot (of `a`, without one) when the journal cannot be read or decoded. -/
def recoveryStopsAt (I : EventSourced A E) (pid : PersistenceId) (a : A)
    (faults : List (Option PersistError)) (st : InMemoryStorage) : Option Int :=
  match faults.head?.join, (st.snapshotList pid).getLast? with
  | some _, _ => some (I.lastSequenceId (I.preRecovery a))
  | none, none => I.replayStopsAt pid (I.preRecovery a) faults.tail.head?.join st
  | none, some snap =>
    match I.restoreSnapshot (I.preRecovery a) snap.payload with
    | (.error _, a') => some (I.lastSequenceId a')
    | (.ok (), a') =>
      I.replayStopsAt pid (I.setLastSequenceId a' snap.sequenceId)
        faults.tail.head?.join st

/-- What an attempt does to the store and to the actor: the store is only
read, a success covers the journal, a failure stops where
`recoveryStopsAt` says. -/
structure AttemptSpec (I : EventSourced A E) (journal : List JournalEntry)
    (st : InMemoryStorage) (stopsAt : Option Int)
    (r : Except PersistError Unit × A × Faulty InMemoryStorage) : Prop where
  store_eq : r.2.2.store = st
  succeeds : r.1 = .ok () → stopsAt = none
  covers : r.1 = .ok () → Increasing journal → Covers journal (I.lastSequenceId r.2.1)
  stops : ∀ e, r.1 = .error e → stopsAt = some (I.lastSequenceId r.2.1)

theorem KeepsSequence.replayJournal_spec (hI : I.KeepsSequence) (a : A)
    (s : Faulty InMemoryStorage) :
    AttemptSpec I (s.store.journal pid) s.store
      (I.replayStopsAt pid a s.faults.head?.join s.store)
      (I.replayJournal faultyJournal pid a s) := by
  rcases hf : s.faults.head?.join with - | err
  · rcases hd : I.deserializeAll a ((s.store.journal pid).filter fun e =>
        SequenceId.next (I.lastSequenceId a) ≤ e.sequenceId) with err | evs
    · simp only [replayJournal, faultyJournal, Faulty.journalStorage,
        InMemoryStorage.journalStorage, Faulty.call_of_none _ hf, hd, replayStopsAt]
      exact ⟨rfl, fun h => by simp at h, fun h => by simp at h, fun e _ => rfl⟩
    · simp only [replayJournal, faultyJournal, Faulty.journalStorage,
        InMemoryStorage.journalStorage, Faulty.call_of_none _ hf, hd, replayStopsAt]
      refine ⟨rfl, fun _ => rfl, fun _ hinc => ?_, fun e h => by simp at h⟩
      obtain ⟨hcov, hnil⟩ := hI.replay_covers_all (b := a) (hinc.filter _) hd
      intro e he
      rw [hI.lastSequenceId_post]
      -- an entry was replayed, or lies below where the replay began
      by_cases hafter : SequenceId.next (I.lastSequenceId a) ≤ e.sequenceId
      · exact hcov e (List.mem_filter.mpr ⟨he, by simpa using hafter⟩)
      · rcases hents : (s.store.journal pid).filter fun e =>
            SequenceId.next (I.lastSequenceId a) ≤ e.sequenceId with - | ⟨x, xs⟩
        · rw [hnil hents]
          have := SequenceId.next_le_succ (I.lastSequenceId a)
          omega
        · have hx := hents ▸ List.mem_cons_self (a := x) (l := xs)
          have hstart : SequenceId.next (I.lastSequenceId a) ≤ x.sequenceId := by
            simpa using (List.mem_filter.mp hx).2
          have := hcov x hx
          omega
  · simp only [replayJournal, faultyJournal, Faulty.journalStorage,
      Faulty.call_of_fault _ hf, replayStopsAt]
    exact ⟨rfl, fun h => by simp at h, fun h => by simp at h, fun e _ => rfl⟩

theorem KeepsSequence.inner_spec (hI : I.KeepsSequence)
    (hpid : ∀ a, I.persistenceId a = pid) (a : A) (s : Faulty InMemoryStorage) :
    AttemptSpec I (s.store.journal pid) s.store
      (I.recoveryStopsAt pid a s.faults s.store)
      (I.recoverEventSourcedInner faultyJournal faultySnapshots a s) := by
  rcases hf : s.faults.head?.join with - | err
  · simp only [recoverEventSourcedInner, hpid, faultySnapshots, Faulty.snapshotStorage,
      InMemoryStorage.snapshotStorage, Faulty.call_of_none _ hf, recoveryStopsAt, hf]
    rcases hsnap : (s.store.snapshotList pid).getLast? with - | snap
    · exact hI.replayJournal_spec _ ⟨s.store, s.faults.tail⟩
    · rcases hres : I.restoreSnapshot (I.preRecovery a) snap.payload with ⟨err | ⟨⟩, a'⟩
      · simp only [hres]
        exact ⟨rfl, fun h => by simp at h, fun h => by simp at h, fun e _ => rfl⟩
      · simp only [hres]
        exact hI.replayJournal_spec _ ⟨s.store, s.faults.tail⟩
  · simp only [recoverEventSourcedInner, hpid, faultySnapshots, Faulty.snapshotStorage,
      Faulty.call_of_fault _ hf, recoveryStopsAt, hf]
    exact ⟨rfl, fun h => by simp at h, fun h => by simp at h, fun e _ => rfl⟩

/-- The retry loop only reads the store, and covers the journal when it
ends in a success. -/
theorem KeepsSequence.retryRecovery_spec (hI : I.KeepsSequence)
    (hpid : ∀ a, I.persistenceId a = pid) (e : PersistError) (n delay : Nat)
    (a : A) (s : Faulty InMemoryStorage) :
    let r := I.retryRecovery faultyJournal faultySnapshots e n delay a s
    r.2.2.1.store = s.store ∧
      (r.1 = .ok () → Increasing (s.store.journal pid) →
        Covers (s.store.journal pid) (I.lastSequenceId r.2.1)) := by
  induction n generalizing delay a s with
  | zero => exact ⟨rfl, fun h => by simp [retryRecovery] at h⟩
  | succ n ih =>
      have hspec := hI.inner_spec hpid a s
      rcases hr : I.recoverEventSourcedInner faultyJournal faultySnapshots a s
        with ⟨err | ⟨⟩, a', s'⟩
      · -- the next attempt starts from the actor this one left
        rw [hr] at hspec
        have hstore : s'.store = s.store := hspec.store_eq
        obtain ⟨hst, hcov⟩ := ih (nextDelay delay) a' s'
        rw [hstore] at hst hcov
        simp only [retryRecovery, hr]
        exact ⟨hst, hcov⟩
      · rw [hr] at hspec
        simp only [retryRecovery, hr]
        exact ⟨hspec.store_eq, fun _ => hspec.covers rfl⟩

/-- A recovery that returns `Ok` covers the journal, unless it skipped a
failed attempt that had not. -/
theorem KeepsSequence.recover_spec (hI : I.KeepsSequence)
    (hpid : ∀ a, I.persistenceId a = pid) (a : A) (s : Faulty InMemoryStorage)
    (hskip : I.recoveryFailurePolicy a = .skipAndStart →
      ∀ k ∈ I.recoveryStopsAt pid a s.faults s.store, Covers (s.store.journal pid) k) :
    let r := I.recoverEventSourced faultyJournal faultySnapshots a s
    r.2.2.1.store = s.store ∧
      (r.1 = .ok () → Increasing (s.store.journal pid) →
        Covers (s.store.journal pid) (I.lastSequenceId r.2.1)) := by
  have hspec := hI.inner_spec hpid a s
  rcases hr : I.recoverEventSourcedInner faultyJournal faultySnapshots a s
    with ⟨err | ⟨⟩, a', s'⟩
  · rw [hr] at hspec
    have hstore : s'.store = s.store := hspec.store_eq
    rcases hpol : I.recoveryFailurePolicy a with - | ⟨maxAttempts, initialDelay⟩ | -
    · -- `Stop` returns the error
      simp only [recoverEventSourced, hr, hpol]
      exact ⟨hstore, fun h => by simp at h⟩
    · have hretry := hI.retryRecovery_spec hpid err
        ((maxAttempts.getD 3).toNat - 1) initialDelay a' s'
      rw [hstore] at hretry
      simp only [recoverEventSourced, hr, hpol]
      exact hretry
    · -- `SkipAndStart` starts from wherever the failed attempt was left
      simp only [recoverEventSourced, hr, hpol]
      refine ⟨hstore, fun _ _ => ?_⟩
      rw [hI.lastSequenceId_post]
      exact hskip hpol _ (hspec.stops err rfl)
  · rw [hr] at hspec
    simp only [recoverEventSourced, hr]
    exact ⟨hspec.store_eq, fun _ => hspec.covers rfl⟩

end EventSourced

/-! ### Runs over a failing store -/

/-- The running actor, absent after a recovery that returned an error, and
the stored data. -/
structure Node (A : Type) where
  actor : Option A
  store : InMemoryStorage

/-- An operation and the faults scheduled for the storage calls it makes. -/
inductive NodeOp (A E : Type)
  | persist (event : E) (faults : List (Option PersistError))
  | persistBatch (events : List E) (faults : List (Option PersistError))
  | snapshot (faults : List (Option PersistError))
  | restart (fresh : A) (faults : List (Option PersistError))

/-- One operation.  A restart recovers the given new actor; the actor runs
only if that returns `Ok`. -/
def Node.step (I : EventSourced A E) (n : Node A) : NodeOp A E → Node A
  | .persist event faults =>
    match n.actor with
    | none => n
    | some a =>
      let r := I.persist faultyJournal event a ⟨n.store, faults⟩
      ⟨some r.2.1, r.2.2.store⟩
  | .persistBatch events faults =>
    match n.actor with
    | none => n
    | some a =>
      let r := I.persistBatch faultyJournal events a ⟨n.store, faults⟩
      ⟨some r.2.1, r.2.2.store⟩
  | .snapshot faults =>
    match n.actor with
    | none => n
    | some a => ⟨some a, (I.snapshot faultySnapshots a ⟨n.store, faults⟩).2.store⟩
  | .restart fresh faults =>
    let r := I.recoverEventSourced faultyJournal faultySnapshots fresh ⟨n.store, faults⟩
    match r.1 with
    | .ok () => ⟨some r.2.1, r.2.2.1.store⟩
    | .error _ => ⟨none, r.2.2.1.store⟩

/-- A restart under `SkipAndStart` recovers, or stops at an id that no
stored id exceeds. -/
def Node.SafeSkip (I : EventSourced A E) (pid : PersistenceId) (n : Node A) :
    NodeOp A E → Prop
  | .restart fresh faults =>
    I.recoveryFailurePolicy fresh = .skipAndStart →
      ∀ k ∈ I.recoveryStopsAt pid fresh faults n.store, Covers (n.store.journal pid) k
  | _ => True

instance (I : EventSourced A E) (pid : PersistenceId) (n : Node A) :
    (op : NodeOp A E) → Decidable (n.SafeSkip I pid op)
  | .restart fresh faults => inferInstanceAs (Decidable
      (I.recoveryFailurePolicy fresh = .skipAndStart →
        ∀ k ∈ I.recoveryStopsAt pid fresh faults n.store, Covers (n.store.journal pid) k))
  | .persist _ _ | .persistBatch _ _ | .snapshot _ => isTrue trivial

/-- The ids that the operation may give out fit an `i64`. -/
def Node.Fits (I : EventSourced A E) (n : Node A) : NodeOp A E → Prop
  | .persist _ _ => ∀ a ∈ n.actor, I.lastSequenceId a < i64Max
  | .persistBatch events _ => ∀ a ∈ n.actor, I.lastSequenceId a + events.length ≤ i64Max
  | .snapshot _ | .restart _ _ => True

instance (I : EventSourced A E) (n : Node A) : (op : NodeOp A E) → Decidable (n.Fits I op)
  | .persist _ _ => inferInstanceAs (Decidable (∀ a ∈ n.actor, _))
  | .persistBatch _ _ => inferInstanceAs (Decidable (∀ a ∈ n.actor, _))
  | .snapshot _ | .restart _ _ => isTrue trivial

/-- The condition under which a step keeps the journal increasing. -/
def Node.Safe (I : EventSourced A E) (pid : PersistenceId) (n : Node A) (op : NodeOp A E) :
    Prop :=
  n.Fits I op ∧ n.SafeSkip I pid op

instance (I : EventSourced A E) (pid : PersistenceId) (n : Node A) (op : NodeOp A E) :
    Decidable (n.Safe I pid op) :=
  inferInstanceAs (Decidable (_ ∧ _))

/-- The invariant: the journal is increasing and covered by the actor. -/
structure Node.Ordered (I : EventSourced A E) (pid : PersistenceId) (n : Node A) :
    Prop where
  increasing : Increasing (n.store.journal pid)
  covered : ∀ a ∈ n.actor, Covers (n.store.journal pid) (I.lastSequenceId a)

variable {I : EventSourced A E} {pid : PersistenceId} {n : Node A}

/-- Writing entries numbered after the actor keeps the invariant when the
actor moves to the last of them. -/
theorem Node.Ordered.write (h : n.Ordered I pid) {a a' : A} (ha : n.actor = some a)
    {es : List JournalEntry} (hinc : Increasing es)
    (hids : ∀ x ∈ es, I.lastSequenceId a < x.sequenceId ∧ x.sequenceId ≤ I.lastSequenceId a')
    (hle : I.lastSequenceId a ≤ I.lastSequenceId a') :
    Node.Ordered I pid ⟨some a', n.store.appendEvents pid es⟩ where
  increasing := by
    rw [InMemoryStorage.journal_appendEvents]
    exact h.increasing.append (h.covered a ha) hinc fun e he => (hids e he).1
  covered b hb := by
    obtain rfl : a' = b := by simpa using hb
    rw [InMemoryStorage.journal_appendEvents]
    intro e he
    rcases List.mem_append.mp he with he | he
    · exact Int.le_trans (h.covered a ha e he) hle
    · exact (hids e he).2

theorem Node.Ordered.persist (hI : I.KeepsSequence) (hpid : ∀ a, I.persistenceId a = pid)
    (h : n.Ordered I pid) (event : E) (faults : List (Option PersistError))
    (hfits : n.Fits I (.persist event faults)) :
    (n.step I (.persist event faults)).Ordered I pid := by
  obtain ⟨actor, st⟩ := n
  cases actor with
  | none => exact h
  | some a =>
      have hnext := SequenceId.next_of_lt (hfits a rfl)
      simp only [Node.step, EventSourced.persist, hpid]
      rcases hp : I.serializeEvent a event with err | p
      · exact h
      · rcases hf : faults.head?.join with - | err
        · simp only [faultyJournal, Faulty.journalStorage, InMemoryStorage.journalStorage,
            Faulty.call_of_none _ (s := ⟨st, faults⟩) hf]
          have hlast : I.lastSequenceId (I.setLastSequenceId (I.apply a event)
              (SequenceId.next (I.lastSequenceId a))) = I.lastSequenceId a + 1 :=
            (hI.lastSequenceId_set _ _).trans hnext
          refine h.write rfl (List.pairwise_singleton _ _) ?_ ?_
          · intro x hx
            obtain rfl := List.mem_singleton.mp hx
            rw [hlast]
            simp only [hnext]
            omega
          · rw [hlast]
            omega
        · simp only [faultyJournal, Faulty.journalStorage, InMemoryStorage.journalStorage,
            Faulty.call_of_fault _ (s := ⟨st, faults⟩) hf]
          exact h

theorem Node.Ordered.persistBatch (hI : I.KeepsSequence)
    (hpid : ∀ a, I.persistenceId a = pid) (h : n.Ordered I pid) (events : List E)
    (faults : List (Option PersistError))
    (hfits : n.Fits I (.persistBatch events faults)) :
    (n.step I (.persistBatch events faults)).Ordered I pid := by
  obtain ⟨actor, st⟩ := n
  cases actor with
  | none => exact h
  | some a =>
      simp only [Node.step, EventSourced.persistBatch, hpid]
      by_cases hempty : events.isEmpty
      · rw [if_pos hempty]
        exact h
      · rw [if_neg hempty]
        rcases hb : I.serializeBatch a (I.lastSequenceId a) events with err | ⟨batch, last⟩
        · exact h
        · obtain ⟨hlast, hinc, hids⟩ := serializeBatch_ids I hb (hfits a rfl)
          rcases hf : faults.head?.join with - | err
          · simp only [faultyJournal, Faulty.journalStorage, InMemoryStorage.journalStorage,
              Faulty.call_of_none _ (s := ⟨st, faults⟩) hf]
            refine h.write rfl hinc ?_ ?_
            · intro x hx
              rw [hI.lastSequenceId_set]
              exact hids x hx
            · rw [hI.lastSequenceId_set, hlast]
              omega
          · simp only [faultyJournal, Faulty.journalStorage, InMemoryStorage.journalStorage,
              Faulty.call_of_fault _ (s := ⟨st, faults⟩) hf]
            exact h

theorem Node.Ordered.snapshot (h : n.Ordered I pid)
    (faults : List (Option PersistError)) :
    (n.step I (.snapshot faults)).Ordered I pid := by
  obtain ⟨actor, st⟩ := n
  cases actor with
  | none => exact h
  | some a =>
      simp only [Node.step, EventSourced.snapshot]
      rcases hp : I.snapshotPayload a with err | p
      · exact h
      · rcases hf : faults.head?.join with - | err
        · simp only [faultySnapshots, Faulty.snapshotStorage, InMemoryStorage.snapshotStorage,
            Faulty.call_of_none _ (s := ⟨st, faults⟩) hf]
          exact ⟨h.increasing, h.covered⟩
        · simp only [faultySnapshots, Faulty.snapshotStorage, InMemoryStorage.snapshotStorage,
            Faulty.call_of_fault _ (s := ⟨st, faults⟩) hf]
          exact h

theorem Node.Ordered.restart (hI : I.KeepsSequence)
    (hpid : ∀ a, I.persistenceId a = pid) (h : n.Ordered I pid) (fresh : A)
    (faults : List (Option PersistError))
    (hskip : n.SafeSkip I pid (.restart fresh faults)) :
    (n.step I (.restart fresh faults)).Ordered I pid := by
  obtain ⟨hstore, hcov⟩ := hI.recover_spec hpid fresh ⟨n.store, faults⟩ hskip
  simp only [Node.step]
  rcases hr : (I.recoverEventSourced faultyJournal faultySnapshots fresh
      ⟨n.store, faults⟩).1 with err | ⟨⟩
  · -- no live actor, so nothing to cover
    refine ⟨?_, fun a ha => by simp at ha⟩
    simp only [hstore]
    exact h.increasing
  · refine ⟨?_, ?_⟩
    · simp only [hstore]
      exact h.increasing
    · rintro a ⟨⟩
      simp only [hstore]
      exact hcov hr h.increasing

theorem Node.Ordered.step (hI : I.KeepsSequence) (hpid : ∀ a, I.persistenceId a = pid)
    (op : NodeOp A E) (hop : n.Safe I pid op) (h : n.Ordered I pid) :
    (n.step I op).Ordered I pid := by
  cases op with
  | persist event faults => exact h.persist hI hpid event faults hop.1
  | persistBatch events faults => exact h.persistBatch hI hpid events faults hop.1
  | snapshot faults => exact h.snapshot faults
  | restart fresh faults => exact h.restart hI hpid fresh faults hop.2

/-- **Sequence ids stay unique and increasing** in every state of every run
over a failing store in which no restart under `SkipAndStart` gives up
below the end of the journal and no id given out is beyond an `i64`. -/
theorem increasing_of_safe (I : EventSourced A E) (hI : I.KeepsSequence)
    (pid : PersistenceId) (hpid : ∀ a, I.persistenceId a = pid)
    (actor : Option A) (ops : List (NodeOp A E))
    (hops : Admissible (Node.step I) (Node.Safe I pid)
      ⟨actor, InMemoryStorage.new⟩ ops) :
    Always (Node.step I) (fun n => Increasing (n.store.journal pid))
      ⟨actor, InMemoryStorage.new⟩ ops := by
  have hstart : Node.Ordered I pid ⟨actor, InMemoryStorage.new⟩ :=
    ⟨List.Pairwise.nil, fun a _ e he => by simp at he⟩
  have hall : Always (Node.step I) (Node.Ordered I pid)
      ⟨actor, InMemoryStorage.new⟩ ops :=
    always_of_admissible (fun n op hop h => h.step hI hpid op hop) hstart hops
  exact hall.mono fun n h => h.increasing

/-- Both parts of the condition are needed: after a restart that gives up
below the end of the journal, the next event that is stored repeats or
undercuts a stored sequence id. -/
theorem not_increasing_of_unsafe (hI : I.KeepsSequence)
    (hpid : ∀ a, I.persistenceId a = pid) {fresh : A}
    {faults : List (Option PersistError)}
    (h : ¬ n.SafeSkip I pid (.restart fresh faults)) {event : E}
    (hser : ∀ a, ∃ p, I.serializeEvent a event = .ok p) :
    ¬ Increasing (((n.step I (.restart fresh faults)).step I
      (.persist event [])).store.journal pid) := by
  simp only [Node.SafeSkip, Covers, Option.mem_def, not_forall] at h
  obtain ⟨hpol, k, hk, e, he, hlt⟩ := h
  have hspec := hI.inner_spec hpid fresh ⟨n.store, faults⟩
  rcases hr : I.recoverEventSourcedInner faultyJournal faultySnapshots fresh
    ⟨n.store, faults⟩ with ⟨err | ⟨⟩, a, s⟩
  · rw [hr] at hspec
    have hstore : s.store = n.store := hspec.store_eq
    have hlast : I.lastSequenceId (I.postRecovery a) = k := by
      have hstop := hspec.stops err rfl
      rw [hk, Option.some.injEq] at hstop
      rw [hI.lastSequenceId_post, hstop]
    have hrestart : n.step I (.restart fresh faults) = ⟨some (I.postRecovery a), n.store⟩ := by
      simp only [Node.step, recoverEventSourced, hr, hpol, hstore]
    obtain ⟨p, hp⟩ := hser (I.postRecovery a)
    rw [hrestart]
    simp only [Node.step, EventSourced.persist, hp, hpid, faultyJournal,
      Faulty.journalStorage, InMemoryStorage.journalStorage,
      Faulty.call_of_none _ (s := ⟨n.store, []⟩) rfl, hlast,
      InMemoryStorage.journal_appendEvents]
    intro hinc
    -- the new entry, numbered at most `k + 1`, stands after `e`
    have hlast_lt := (List.pairwise_append.mp hinc).2.2 e he _ (List.mem_singleton_self _)
    have hnext := SequenceId.next_le_succ k
    simp only at hlast_lt
    omega
  · rw [hr] at hspec
    rw [hspec.succeeds rfl] at hk
    cases hk

/-- And an event stored after the largest `i64` is numbered with the smallest. -/
theorem not_increasing_of_overflow (hpid : ∀ a, I.persistenceId a = pid) {a : A}
    {st : InMemoryStorage} (hmax : I.lastSequenceId a = i64Max) {e : JournalEntry}
    (he : e ∈ st.journal pid) (hmin : i64Min ≤ e.sequenceId) {event : E} {p : Bytes}
    (hp : I.serializeEvent a event = .ok p) :
    ¬ Increasing ((Node.step I ⟨some a, st⟩ (.persist event [])).store.journal pid) := by
  have hnext : SequenceId.next i64Max = i64Min := if_pos rfl
  simp only [Node.step, EventSourced.persist, hp, hpid, faultyJournal,
    Faulty.journalStorage, InMemoryStorage.journalStorage,
    Faulty.call_of_none _ (s := ⟨st, []⟩) rfl, hmax, hnext,
    InMemoryStorage.journal_appendEvents]
  intro hinc
  have hlt := (List.pairwise_append.mp hinc).2.2 e he _ (List.mem_singleton_self _)
  exact absurd hmin (Int.not_le.mpr hlt)

/-- Writes, snapshots and restarts with faults in all of them: under
`SkipAndStart` a failed journal read is survived because the snapshot
reaches the end of the journal. -/
def safeRun : List (NodeOp CounterActor UInt8) :=
  [.restart CounterActor.new [none, some (.storageUnavailable "read")],
    .persist 5 [], .persist 6 [some (.storageUnavailable "write")],
    .persistBatch [1, 2] [], .snapshot [],
    .restart CounterActor.new [none, some (.storageUnavailable "read")],
    .persist 4 []]

theorem increasing_of_safe_safeRun :
    (run (Node.step (counterActor .skipAndStart)) ⟨none, InMemoryStorage.new⟩
      safeRun).store.journal ⟨"Counter:1"⟩ ≠ [] ∧
    Always (Node.step (counterActor .skipAndStart))
      (fun n => Increasing (n.store.journal ⟨"Counter:1"⟩))
      ⟨none, InMemoryStorage.new⟩ safeRun :=
  ⟨by decide, increasing_of_safe (counterActor .skipAndStart)
    (counterActor_lawful .skipAndStart).toKeepsSequence ⟨"Counter:1"⟩ (fun _ => rfl)
    none safeRun (by decide)⟩

/-- One event, a restart whose journal read fails under `SkipAndStart`, and
one more event. -/
def skippedRun : List (NodeOp CounterActor UInt8) :=
  [.persist 5 [], .restart CounterActor.new [none, some (.storageUnavailable "read")],
    .persist 6 []]

/-- The counter stores two events under the sequence id 1. -/
theorem increasing_fails :
    ¬ ∀ (I : EventSourced CounterActor UInt8), I.KeepsSequence →
      ∀ pid, (∀ a, I.persistenceId a = pid) →
      ∀ actor ops, Always (Node.step I) (fun n => Increasing (n.store.journal pid))
        ⟨actor, InMemoryStorage.new⟩ ops := by
  intro h
  have hall := h (counterActor .skipAndStart)
    (counterActor_lawful .skipAndStart).toKeepsSequence ⟨"Counter:1"⟩ (fun _ => rfl)
    (some CounterActor.new) skippedRun
  exact absurd hall.last (by decide)

end Dactor
