/-
Dactor/Persistence.lean

Event-sourced persistence: storage traits, the in-memory storage, the
`EventSourced` operations `persist`, `persist_batch` and `snapshot`, and
`recover_event_sourced`.

A storage trait object is a record of functions on a store type `σ`; every
call, a read included, returns the next store, so that a store which fails
according to a schedule is an instance like any other (`Faulty`).  A method
taking `&mut self` and returning a `Result` returns the actor it leaves
behind on both exits.

A `SequenceId` wraps an `i64`, an `Int` here whose successor wraps around at
the largest `i64`.
-/
import Mathlib.Logic.Function.Basic
import Dactor.Basic

namespace Dactor

/-! ### Identities, entries and errors -/

/-- Identifies an actor's journal and snapshots in storage. -/
structure PersistenceId where
  id : String
  deriving DecidableEq, Repr

/-- `PersistenceId::new`: entity type and entity id, joined by `:`. -/
def PersistenceId.new (entityType entityId : String) : PersistenceId :=
  ⟨entityType ++ ":" ++ entityId⟩

/-- `i64::MAX`. -/
def i64Max : Int := 2 ^ 63 - 1

/-- `i64::MIN`. -/
def i64Min : Int := -2 ^ 63

/-- `SequenceId::next`, an unchecked `self.0 + 1` on an `i64`: at the largest
value a release build wraps around.  A build with overflow checks panics there
instead, and no caller has written or changed anything by then. -/
def SequenceId.next (s : Int) : Int := if s = i64Max then i64Min else s + 1

theorem SequenceId.next_of_lt {s : Int} (h : s < i64Max) : SequenceId.next s = s + 1 :=
  if_neg (Int.ne_of_lt h)

/-- The wrap is the only way in which an id is not the one after the last. -/
theorem SequenceId.next_le_succ (s : Int) : SequenceId.next s ≤ s + 1 := by
  unfold SequenceId.next
  split
  · next h =>
    rw [h]
    decide
  · exact Int.le_refl _

structure JournalEntry where
  sequenceId : Int
  eventType : String
  payload : Bytes
  deriving DecidableEq, Repr

structure SnapshotEntry where
  sequenceId : Int
  payload : Bytes
  deriving DecidableEq, Repr

inductive PersistError
  | storageUnavailable (msg : String)
  | serializationFailed (msg : String)
  | corruptEntry (sequenceId : Int) (detail : String)
  | notConfigured
  deriving DecidableEq, Repr

inductive RecoveryFailurePolicy
  | stop
  | retry (maxAttempts : Option UInt32) (initialDelay : Nat)
  | skipAndStart
  deriving DecidableEq, Repr

/-! ### Storage traits -/

structure JournalStorage (σ : Type) where
  writeEvent : PersistenceId → Int → String → Bytes → σ →
    Except PersistError Unit × σ
  writeEventBatch : PersistenceId → List (Int × String × Bytes) → σ →
    Except PersistError Unit × σ
  readEvents : PersistenceId → Int → σ →
    Except PersistError (List JournalEntry) × σ
  readHighestSequence : PersistenceId → σ →
    Except PersistError (Option Int) × σ
  deleteEventsTo : PersistenceId → Int → σ →
    Except PersistError Unit × σ

structure SnapshotStorage (σ : Type) where
  saveSnapshot : PersistenceId → Int → Bytes → σ →
    Except PersistError Unit × σ
  loadLatestSnapshot : PersistenceId → σ →
    Except PersistError (Option SnapshotEntry) × σ
  deleteSnapshotsBefore : PersistenceId → Int → σ →
    Except PersistError Unit × σ

structure StateStorage (σ : Type) where
  saveState : PersistenceId → Bytes → σ → Except PersistError Unit × σ
  loadState : PersistenceId → σ → Except PersistError (Option Bytes) × σ
  deleteState : PersistenceId → σ → Except PersistError Unit × σ

/-! ### The in-memory storage -/

/-- Three maps keyed by persistence id. -/
structure InMemoryStorage where
  journals : PersistenceId → Option (List JournalEntry)
  snapshots : PersistenceId → Option (List SnapshotEntry)
  states : PersistenceId → Option Bytes

namespace InMemoryStorage

def new : InMemoryStorage := ⟨fun _ => none, fun _ => none, fun _ => none⟩

/-- The journal of `pid`; an absent entry reads as an empty one. -/
def journal (st : InMemoryStorage) (pid : PersistenceId) : List JournalEntry :=
  (st.journals pid).getD []

/-- The snapshots of `pid`, oldest first. -/
def snapshotList (st : InMemoryStorage) (pid : PersistenceId) :
    List SnapshotEntry :=
  (st.snapshots pid).getD []

/-- `entry(pid).or_default()` followed by pushes. -/
def appendEvents (st : InMemoryStorage) (pid : PersistenceId)
    (es : List JournalEntry) : InMemoryStorage :=
  { st with journals :=
      Function.update st.journals pid (some (st.journal pid ++ es)) }

def appendSnapshot (st : InMemoryStorage) (pid : PersistenceId)
    (s : SnapshotEntry) : InMemoryStorage :=
  { st with snapshots :=
      Function.update st.snapshots pid (some (st.snapshotList pid ++ [s])) }

/-- The entry `write_event_batch` stores for an element of the batch. -/
def batchEntry (b : Int × String × Bytes) : JournalEntry :=
  ⟨b.1, b.2.1, b.2.2⟩

/-- `if let Some(entries) = get_mut(pid)  entries.retain(keep)`. -/
def retainEvents (st : InMemoryStorage) (pid : PersistenceId)
    (keep : JournalEntry → Bool) : InMemoryStorage :=
  { st with journals :=
      Function.update st.journals pid ((st.journals pid).map (·.filter keep)) }

def retainSnapshots (st : InMemoryStorage) (pid : PersistenceId)
    (keep : SnapshotEntry → Bool) : InMemoryStorage :=
  { st with snapshots :=
      Function.update st.snapshots pid ((st.snapshots pid).map (·.filter keep)) }

def journalStorage : JournalStorage InMemoryStorage where
  writeEvent pid seq eventType payload st :=
    (.ok (), st.appendEvents pid [⟨seq, eventType, payload⟩])
  writeEventBatch pid batch st :=
    (.ok (), st.appendEvents pid (batch.map batchEntry))
  readEvents pid fromSequence st :=
    (.ok ((st.journal pid).filter fun e => fromSequence ≤ e.sequenceId), st)
  readHighestSequence pid st :=
    (.ok ((st.journal pid).getLast?.map (·.sequenceId)), st)
  deleteEventsTo pid toSequence st :=
    (.ok (), st.retainEvents pid fun e => toSequence < e.sequenceId)

def snapshotStorage : SnapshotStorage InMemoryStorage where
  saveSnapshot pid seq payload st :=
    (.ok (), st.appendSnapshot pid ⟨seq, payload⟩)
  loadLatestSnapshot pid st := (.ok (st.snapshotList pid).getLast?, st)
  deleteSnapshotsBefore pid seq st :=
    (.ok (), st.retainSnapshots pid fun e => seq ≤ e.sequenceId)

def stateStorage : StateStorage InMemoryStorage where
  saveState pid payload st :=
    (.ok (), { st with states := Function.update st.states pid (some payload) })
  loadState pid st := (.ok (st.states pid), st)
  deleteState pid st :=
    (.ok (), { st with states := Function.update st.states pid none })

/-! #### What each map holds after an update -/

variable (st : InMemoryStorage) (pid pid' : PersistenceId)

@[simp] theorem journal_new : new.journal pid = [] := rfl

@[simp] theorem snapshotList_new : new.snapshotList pid = [] := rfl

@[simp] theorem journal_appendEvents (es : List JournalEntry) :
    (st.appendEvents pid es).journal pid = st.journal pid ++ es := by
  simp [appendEvents, journal]

theorem journal_appendEvents_of_ne (es : List JournalEntry) (h : pid' ≠ pid) :
    (st.appendEvents pid es).journal pid' = st.journal pid' := by
  simp [appendEvents, journal, Function.update_of_ne h]

@[simp] theorem snapshotList_appendEvents (es : List JournalEntry) :
    (st.appendEvents pid es).snapshotList pid' = st.snapshotList pid' := rfl

@[simp] theorem snapshotList_appendSnapshot (s : SnapshotEntry) :
    (st.appendSnapshot pid s).snapshotList pid = st.snapshotList pid ++ [s] := by
  simp [appendSnapshot, snapshotList]

theorem snapshotList_appendSnapshot_of_ne (s : SnapshotEntry)
    (h : pid' ≠ pid) :
    (st.appendSnapshot pid s).snapshotList pid' = st.snapshotList pid' := by
  simp [appendSnapshot, snapshotList, Function.update_of_ne h]

@[simp] theorem journal_appendSnapshot (s : SnapshotEntry) :
    (st.appendSnapshot pid s).journal pid' = st.journal pid' := rfl

@[simp] theorem journal_retainEvents (keep : JournalEntry → Bool) :
    (st.retainEvents pid keep).journal pid = (st.journal pid).filter keep := by
  rcases h : st.journals pid with - | es <;> simp [retainEvents, journal, h]

theorem journal_retainEvents_of_ne (keep : JournalEntry → Bool)
    (h : pid' ≠ pid) :
    (st.retainEvents pid keep).journal pid' = st.journal pid' := by
  simp [retainEvents, journal, Function.update_of_ne h]

@[simp] theorem snapshotList_retainSnapshots (keep : SnapshotEntry → Bool) :
    (st.retainSnapshots pid keep).snapshotList pid
      = (st.snapshotList pid).filter keep := by
  rcases h : st.snapshots pid with - | es <;>
    simp [retainSnapshots, snapshotList, h]

theorem snapshotList_retainSnapshots_of_ne (keep : SnapshotEntry → Bool)
    (h : pid' ≠ pid) :
    (st.retainSnapshots pid keep).snapshotList pid' = st.snapshotList pid' := by
  simp [retainSnapshots, snapshotList, Function.update_of_ne h]

end InMemoryStorage

/-! ### Stores that fail -/

/-- A store with the faults scheduled for its next calls, one entry per
call: `some e` makes the call return `e` and leaves the store alone, calls
past the end of the schedule go through. -/
structure Faulty (σ : Type) where
  store : σ
  faults : List (Option PersistError)

namespace Faulty

variable {σ α : Type}

def call (f : σ → Except PersistError α × σ) (s : Faulty σ) :
    Except PersistError α × Faulty σ :=
  match s.faults.head?.join with
  | some e => (.error e, ⟨s.store, s.faults.tail⟩)
  | none => ((f s.store).1, ⟨(f s.store).2, s.faults.tail⟩)

theorem call_of_fault (f : σ → Except PersistError α × σ) {s : Faulty σ}
    {e : PersistError} (h : s.faults.head?.join = some e) :
    call f s = (.error e, ⟨s.store, s.faults.tail⟩) := by
  simp only [call, h]

theorem call_of_none (f : σ → Except PersistError α × σ) {s : Faulty σ}
    (h : s.faults.head?.join = none) :
    call f s = ((f s.store).1, ⟨(f s.store).2, s.faults.tail⟩) := by
  simp only [call, h]

def journalStorage (J : JournalStorage σ) : JournalStorage (Faulty σ) where
  writeEvent pid seq eventType payload := call (J.writeEvent pid seq eventType payload)
  writeEventBatch pid batch := call (J.writeEventBatch pid batch)
  readEvents pid fromSequence := call (J.readEvents pid fromSequence)
  readHighestSequence pid := call (J.readHighestSequence pid)
  deleteEventsTo pid toSequence := call (J.deleteEventsTo pid toSequence)

def snapshotStorage (Sn : SnapshotStorage σ) : SnapshotStorage (Faulty σ) where
  saveSnapshot pid seq payload := call (Sn.saveSnapshot pid seq payload)
  loadLatestSnapshot pid := call (Sn.loadLatestSnapshot pid)
  deleteSnapshotsBefore pid seq := call (Sn.deleteSnapshotsBefore pid seq)

end Faulty

/-! ### The event-sourced actor -/

/-- The `PersistentActor` and `EventSourced` methods of an actor type `A`
with event type `E`, and the type name its events are stored under. -/
structure EventSourced (A E : Type) where
  persistenceId : A → PersistenceId
  preRecovery : A → A
  postRecovery : A → A
  recoveryFailurePolicy : A → RecoveryFailurePolicy
  apply : A → E → A
  deserializeEvent : A → Bytes → Except PersistError E
  serializeEvent : A → E → Except PersistError Bytes
  restoreSnapshot : A → Bytes → Except PersistError Unit × A
  snapshotPayload : A → Except PersistError Bytes
  lastSequenceId : A → Int
  setLastSequenceId : A → Int → A
  eventType : String

namespace EventSourced

variable {A E σ : Type} (I : EventSourced A E)
variable (J : JournalStorage σ) (Sn : SnapshotStorage σ)

/-- Write the event, then apply it. -/
def persist (event : E) (a : A) (st : σ) :
    Except PersistError Int × A × σ :=
  let nextSeq := SequenceId.next (I.lastSequenceId a)
  match I.serializeEvent a event with
  | .error e => (.error e, a, st)
  | .ok payload =>
    match J.writeEvent (I.persistenceId a) nextSeq I.eventType payload st with
    | (.error e, st') => (.error e, a, st')
    | (.ok (), st') =>
      (.ok nextSeq, I.setLastSequenceId (I.apply a event) nextSeq, st')

/-- The serialization loop of `persist_batch`: the entries to write and the
last sequence id given out. -/
def serializeBatch (a : A) (seq : Int) :
    List E → Except PersistError (List (Int × String × Bytes) × Int)
  | [] => .ok ([], seq)
  | event :: events =>
    match I.serializeEvent a event with
    | .error e => .error e
    | .ok payload =>
      match serializeBatch a (SequenceId.next seq) events with
      | .error e => .error e
      | .ok (batch, last) => .ok ((SequenceId.next seq, I.eventType, payload) :: batch, last)

/-- Write all events, then apply them in order. -/
def persistBatch (events : List E) (a : A) (st : σ) :
    Except PersistError Int × A × σ :=
  if events.isEmpty then (.ok (I.lastSequenceId a), a, st)
  else
    match I.serializeBatch a (I.lastSequenceId a) events with
    | .error e => (.error e, a, st)
    | .ok (batch, seq) =>
      match J.writeEventBatch (I.persistenceId a) batch st with
      | (.error e, st') => (.error e, a, st')
      | (.ok (), st') =>
        (.ok seq, I.setLastSequenceId (events.foldl I.apply a) seq, st')

def snapshot (a : A) (st : σ) : Except PersistError Unit × σ :=
  match I.snapshotPayload a with
  | .error e => (.error e, st)
  | .ok payload =>
    Sn.saveSnapshot (I.persistenceId a) (I.lastSequenceId a) payload st

/-! ### Recovery -/

/-- All entries are deserialized before any is applied. -/
def deserializeAll (a : A) :
    List JournalEntry → Except PersistError (List (Int × E))
  | [] => .ok []
  | entry :: entries =>
    match I.deserializeEvent a entry.payload with
    | .error e => .error e
    | .ok event =>
      match deserializeAll a entries with
      | .error e => .error e
      | .ok rest => .ok ((entry.sequenceId, event) :: rest)

/-- Apply the deserialized events, advancing the sequence id with each. -/
def replay (a : A) (events : List (Int × E)) : A :=
  events.foldl (fun a se => I.setLastSequenceId (I.apply a se.2) se.1) a

/-- The second half of `recover_event_sourced_inner`: read the journal after
the actor's sequence id and replay it. -/
def replayJournal (pid : PersistenceId) (a : A) (st : σ) :
    Except PersistError Unit × A × σ :=
  match J.readEvents pid (SequenceId.next (I.lastSequenceId a)) st with
  | (.error e, st') => (.error e, a, st')
  | (.ok entries, st') =>
    match I.deserializeAll a entries with
    | .error e => (.error e, a, st')
    | .ok events => (.ok (), I.postRecovery (I.replay a events), st')

def recoverEventSourcedInner (a : A) (st : σ) :
    Except PersistError Unit × A × σ :=
  let a := I.preRecovery a
  let pid := I.persistenceId a
  match Sn.loadLatestSnapshot pid st with
  | (.error e, st') => (.error e, a, st')
  | (.ok none, st') => I.replayJournal J pid a st'
  | (.ok (some snap), st') =>
    match I.restoreSnapshot a snap.payload with
    | (.error e, a') => (.error e, a', st')
    | (.ok (), a') =>
      I.replayJournal J pid (I.setLastSequenceId a' snap.sequenceId) st'

/-- `Duration::from_millis((delay.as_millis() as u64).saturating_mul(2).min(30_000))`. -/
def nextDelay (delay : Nat) : Nat :=
  min (min (delay / 1000000 % 2 ^ 64 * 2) (2 ^ 64 - 1)) 30000 * 1000000

/-- The retry loop: `n` further attempts, each after a sleep.  Returns the
first attempt's error `e` when all of them fail, and the delays slept. -/
def retryRecovery (e : PersistError) :
    Nat → Nat → A → σ → Except PersistError Unit × A × σ × List Nat
  | 0, _, a, st => (.error e, a, st, [])
  | n + 1, delay, a, st =>
    match I.recoverEventSourcedInner J Sn a st with
    | (.ok (), a', st') => (.ok (), a', st', [delay])
    | (.error _, a', st') =>
      let r := retryRecovery e n (nextDelay delay) a' st'
      (r.1, r.2.1, r.2.2.1, delay :: r.2.2.2)

/-- Load the latest snapshot, replay the journal after it, and consult the
actor's policy when that fails.  The last component lists the delays slept
between attempts. -/
def recoverEventSourced (a : A) (st : σ) :
    Except PersistError Unit × A × σ × List Nat :=
  let policy := I.recoveryFailurePolicy a
  match I.recoverEventSourcedInner J Sn a st with
  | (.ok (), a', st') => (.ok (), a', st', [])
  | (.error e, a', st') =>
    match policy with
    | .stop => (.error e, a', st', [])
    | .retry maxAttempts initialDelay =>
      -- `for _ in 1..attempts`
      I.retryRecovery J Sn e ((maxAttempts.getD 3).toNat - 1) initialDelay a' st'
    | .skipAndStart => (.ok (), I.postRecovery a', st', [])

end EventSourced

end Dactor
