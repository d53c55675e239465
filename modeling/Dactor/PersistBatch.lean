/-
Dactor/PersistBatch.lean

`persist` and `persist_batch` are all or nothing, and the batch does what the
single calls do one after the other.

Nothing is assumed of a storage but that its writes are all or nothing
(`JournalStorage.Atomic`): it may refuse any of them, by any rule.  The
in-memory storage is such a storage, and so is one that fails by schedule.

Both operations serialize first, write second and change the actor last, so a
failure of either kind finds the actor untouched.  `persistBatch_spec` says
once what a batch does; the comparison is an induction over the events with
the numbering carried along (`persistEach_spec`).
-/
import Dactor.Recovery

namespace Dactor

variable {A E S σ τ : Type}

/-! ### Journals -/

/-- The journals of a store, by persistence id. -/
abbrev Journals := PersistenceId → List JournalEntry

/-- The journals with entries appended to one of them. -/
def Journals.append (journals : Journals) (pid : PersistenceId) (entries : List JournalEntry) :
    Journals :=
  Function.update journals pid (journals pid ++ entries)

theorem Journals.append_nil (journals : Journals) (pid : PersistenceId) :
    journals.append pid [] = journals := by
  rw [Journals.append, List.append_nil, Function.update_eq_self]

theorem Journals.append_append (journals : Journals) (pid : PersistenceId)
    (entries more : List JournalEntry) :
    (journals.append pid entries).append pid more = journals.append pid (entries ++ more) := by
  rw [Journals.append, Journals.append, Journals.append, Function.update_self,
    Function.update_idem, List.append_assoc]

/-- A write that fails leaves the journals as they were, and one that succeeds
appends its entries. -/
def AllOrNothing (journals : σ → Journals) (write : σ → Except PersistError Unit × σ)
    (pid : PersistenceId) (entries : List JournalEntry) : Prop :=
  ∀ st, (∀ e, (write st).1 = .error e → journals (write st).2 = journals st) ∧
    ((write st).1 = .ok () → journals (write st).2 = (journals st).append pid entries)

/-- **Atomic writes**, of one event and of a batch. -/
structure JournalStorage.Atomic (J : JournalStorage σ) (journals : σ → Journals) : Prop where
  event : ∀ pid seq eventType payload, AllOrNothing journals
    (J.writeEvent pid seq eventType payload) pid [⟨seq, eventType, payload⟩]
  batch : ∀ pid batch, AllOrNothing journals (J.writeEventBatch pid batch) pid
    (batch.map InMemoryStorage.batchEntry)

/-- A storage that takes every single event. -/
def JournalStorage.Accepting (J : JournalStorage σ) : Prop :=
  ∀ pid seq eventType payload st, (J.writeEvent pid seq eventType payload st).1 = .ok ()

theorem InMemoryStorage.journal_append (st : InMemoryStorage) (pid : PersistenceId)
    (entries : List JournalEntry) :
    (st.appendEvents pid entries).journal = Journals.append st.journal pid entries := by
  funext pid'
  by_cases h : pid' = pid
  · subst h
    rw [journal_appendEvents, Journals.append, Function.update_self]
  · rw [journal_appendEvents_of_ne st pid pid' entries h, Journals.append, Function.update_of_ne h]

theorem InMemoryStorage.journalStorage_atomic :
    InMemoryStorage.journalStorage.Atomic InMemoryStorage.journal where
  event pid _ _ _ st := ⟨fun _ h => (by cases h), fun _ => journal_append st pid _⟩
  batch pid _ st := ⟨fun _ h => (by cases h), fun _ => journal_append st pid _⟩

theorem Faulty.call_allOrNothing {journals : σ → Journals}
    {write : σ → Except PersistError Unit × σ} {pid : PersistenceId}
    {entries : List JournalEntry} (h : AllOrNothing journals write pid entries) :
    AllOrNothing (fun s : Faulty σ => journals s.store) (Faulty.call write) pid entries := by
  intro st
  rcases hf : st.faults.head?.join with - | e
  · rw [call_of_none _ hf]
    exact h st.store
  · rw [call_of_fault _ hf]
    exact ⟨fun _ _ => rfl, fun hok => by cases hok⟩

/-- A store that fails by schedule is as atomic as the store behind it. -/
theorem Faulty.journalStorage_atomic {J : JournalStorage σ} {journals : σ → Journals}
    (h : J.Atomic journals) :
    (Faulty.journalStorage J).Atomic fun s => journals s.store where
  event pid seq eventType payload := call_allOrNothing (h.event pid seq eventType payload)
  batch pid batch := call_allOrNothing (h.batch pid batch)

namespace EventSourced

/-! ### One by one -/

/-- `persist` called on each event in turn, until a call fails. -/
def persistEach (I : EventSourced A E) (J : JournalStorage σ) :
    List E → A → σ → Except PersistError Int × A × σ
  | [], a, st => (.ok (I.lastSequenceId a), a, st)
  | event :: events, a, st =>
    match I.persist J event a st with
    | (.error e, a', st') => (.error e, a', st')
    | (.ok _, a', st') => persistEach I J events a' st'

/-- `entries` are the events, in order, as `a` serializes them, with the
consecutive ids after `seq`. -/
def Records (I : EventSourced A E) (a : A) : Int → List E → List JournalEntry → Prop
  | _, [], [] => True
  | seq, event :: events, entry :: entries =>
    entry.sequenceId = seq + 1 ∧ entry.eventType = I.eventType ∧
      I.serializeEvent a event = .ok entry.payload ∧ Records I a (seq + 1) events entries
  | _, _, _ => False

/-- What the comparison takes from an actor: its state is derived from its
events alone, the sequence id is kept beside it, and neither changes the
identity under which its journal is kept. -/
structure Derived (I : EventSourced A E) (state : A → S) : Prop where
  lastSequenceId_set : ∀ a s, I.lastSequenceId (I.setLastSequenceId a s) = s
  state_set : ∀ a s, state (I.setLastSequenceId a s) = state a
  apply_congr : ∀ a b e, state a = state b → state (I.apply a e) = state (I.apply b e)
  persistenceId_apply : ∀ a e, I.persistenceId (I.apply a e) = I.persistenceId a
  persistenceId_set : ∀ a s, I.persistenceId (I.setLastSequenceId a s) = I.persistenceId a

/-- The next `n` ids of the actor fit an `i64`. -/
def HasRoom (I : EventSourced A E) (a : A) (n : ℕ) : Prop := I.lastSequenceId a + n ≤ i64Max

variable {I : EventSourced A E} {J : JournalStorage σ} {state : A → S}
variable {journals : σ → Journals}

theorem HasRoom.next {a : A} {n : ℕ} (h : I.HasRoom a (n + 1)) :
    SequenceId.next (I.lastSequenceId a) = I.lastSequenceId a + 1 := by
  unfold HasRoom at h
  exact SequenceId.next_of_lt (by omega)

/-! ### What the two operations do -/

/-- The serialization loop yields the events as they are recorded. -/
theorem serializeBatch_records {a : A} {events : List E} {seq last : Int}
    {batch : List (Int × String × Bytes)}
    (h : I.serializeBatch a seq events = .ok (batch, last))
    (hroom : seq + events.length ≤ i64Max) :
    last = seq + events.length ∧
      I.Records a seq events (batch.map InMemoryStorage.batchEntry) := by
  induction events generalizing seq batch last with
  | nil =>
      obtain ⟨rfl, rfl⟩ := serializeBatch_nil_eq_ok h
      exact ⟨by simp, trivial⟩
  | cons event events ih =>
      obtain ⟨payload, rest, hp, hb, rfl⟩ := serializeBatch_cons_eq_ok h
      rw [List.length_cons] at hroom ⊢
      have hnext : SequenceId.next seq = seq + 1 := SequenceId.next_of_lt (by omega)
      rw [hnext] at hb ⊢
      obtain ⟨hlast, hrest⟩ := ih hb (by omega)
      refine ⟨?_, rfl, rfl, hp, hrest⟩
      omega

theorem records_nil_iff {a : A} {seq : Int} {entries : List JournalEntry} :
    I.Records a seq [] entries ↔ entries = [] := by
  cases entries with
  | nil => exact ⟨fun _ => rfl, fun _ => trivial⟩
  | cons x xs => exact ⟨fun h => h.elim, fun h => (by cases h)⟩

/-- The record of a first event is its entry, followed by the record of the
rest under the next id. -/
theorem records_cons_iff {a : A} {seq : Int} {event : E} {events : List E}
    {entries : List JournalEntry} :
    I.Records a seq (event :: events) entries ↔
      ∃ payload rest, entries = ⟨seq + 1, I.eventType, payload⟩ :: rest ∧
        I.serializeEvent a event = .ok payload ∧ I.Records a (seq + 1) events rest := by
  constructor
  · intro h
    cases entries with
    | nil => exact h.elim
    | cons x xs =>
        obtain ⟨sequenceId, eventType, payload⟩ := x
        obtain ⟨rfl, rfl, hpay, hrest⟩ := h
        exact ⟨payload, xs, rfl, hpay, hrest⟩
  · rintro ⟨payload, rest, rfl, hpay, hrest⟩
    exact ⟨rfl, rfl, hpay, hrest⟩

/-- What is recorded determines the entries. -/
theorem Records.unique {a : A} {seq : Int} {events : List E}
    {entries entries' : List JournalEntry} (h : I.Records a seq events entries)
    (h' : I.Records a seq events entries') : entries = entries' := by
  induction events generalizing seq entries entries' with
  | nil => rw [records_nil_iff.mp h, records_nil_iff.mp h']
  | cons event events ih =>
      obtain ⟨payload, rest, rfl, hpay, hrest⟩ := records_cons_iff.mp h
      obtain ⟨payload', rest', rfl, hpay', hrest'⟩ := records_cons_iff.mp h'
      rw [Except.ok.inj (hpay.symm.trans hpay'), ih hrest hrest']

/-- What `persist` does, on either exit. -/
theorem persist_spec (hJ : J.Atomic journals) (event : E) (a : A) (st : σ) :
    (∃ e st', I.persist J event a st = (.error e, a, st') ∧ journals st' = journals st) ∨
    (∃ payload st', I.serializeEvent a event = .ok payload ∧
      I.persist J event a st = (.ok (SequenceId.next (I.lastSequenceId a)),
        I.setLastSequenceId (I.apply a event) (SequenceId.next (I.lastSequenceId a)), st') ∧
      journals st' = (journals st).append (I.persistenceId a)
        [⟨SequenceId.next (I.lastSequenceId a), I.eventType, payload⟩]) := by
  rcases hp : I.serializeEvent a event with e | payload
  · refine .inl ⟨e, st, ?_, rfl⟩
    simp only [persist, hp]
  · obtain ⟨herr, hok⟩ := hJ.event (I.persistenceId a) (SequenceId.next (I.lastSequenceId a))
      I.eventType payload st
    rcases hw : J.writeEvent (I.persistenceId a) (SequenceId.next (I.lastSequenceId a))
        I.eventType payload st with ⟨e | ⟨⟩, st'⟩
    · rw [hw] at herr
      refine .inl ⟨e, st', ?_, herr e rfl⟩
      simp only [persist, hp, hw]
    · rw [hw] at hok
      refine .inr ⟨payload, st', rfl, ?_, hok rfl⟩
      simp only [persist, hp, hw]

/-- The actor `persist_batch` leaves behind when it succeeds with the id
`last`; an empty batch does not even set the sequence id. -/
def afterBatch (I : EventSourced A E) (events : List E) (last : Int) (a : A) : A :=
  if events = [] then a else I.setLastSequenceId (events.foldl I.apply a) last

/-- What `persist_batch` does, on either exit. -/
theorem persistBatch_spec (hJ : J.Atomic journals) (events : List E) (a : A) (st : σ) :
    (∃ e st', I.persistBatch J events a st = (.error e, a, st') ∧
      journals st' = journals st) ∨
    (∃ last entries st', I.persistBatch J events a st =
        (.ok last, I.afterBatch events last a, st') ∧
      (events = [] → last = I.lastSequenceId a) ∧
      (I.HasRoom a events.length → last = I.lastSequenceId a + events.length ∧
        I.Records a (I.lastSequenceId a) events entries) ∧
      journals st' = (journals st).append (I.persistenceId a) entries) := by
  by_cases hempty : events = []
  · -- the early return writes nothing, not even an empty batch
    subst hempty
    refine .inr ⟨I.lastSequenceId a, [], st, ?_, fun _ => rfl, fun _ => ⟨by simp, trivial⟩,
      (Journals.append_nil _ _).symm⟩
    simp [persistBatch, afterBatch]
  · rcases hb : I.serializeBatch a (I.lastSequenceId a) events with e | ⟨batch, last⟩
    · refine .inl ⟨e, st, ?_, rfl⟩
      simp [persistBatch, hempty, hb]
    · obtain ⟨herr, hok⟩ := hJ.batch (I.persistenceId a) batch st
      rcases hw : J.writeEventBatch (I.persistenceId a) batch st with ⟨e | ⟨⟩, st'⟩
      · rw [hw] at herr
        refine .inl ⟨e, st', ?_, herr e rfl⟩
        simp [persistBatch, hempty, hb, hw]
      · rw [hw] at hok
        refine .inr ⟨last, _, st', ?_, fun h => absurd h hempty, serializeBatch_records hb,
          hok rfl⟩
        simp [persistBatch, afterBatch, hempty, hb, hw]

/-! ### The batch against the single calls -/

/-- Serialization does not depend on the actor's state. -/
def Stateless (I : EventSourced A E) : Prop :=
  ∀ a b event, I.serializeEvent a event = I.serializeEvent b event

theorem Records.congr (hser : I.Stateless) {a b : A} {seq : Int} {events : List E}
    {entries : List JournalEntry} (h : I.Records a seq events entries) :
    I.Records b seq events entries := by
  induction events generalizing seq entries with
  | nil => exact records_nil_iff.mpr (records_nil_iff.mp h)
  | cons event events ih =>
      obtain ⟨payload, rest, rfl, hpay, hrest⟩ := records_cons_iff.mp h
      apply records_cons_iff.mpr
      exact ⟨payload, rest, rfl, (hser b a event).trans hpay, ih hrest⟩

theorem Derived.foldl_congr (law : I.Derived state) (events : List E) {a b : A}
    (h : state a = state b) :
    state (events.foldl I.apply a) = state (events.foldl I.apply b) := by
  induction events generalizing a b with
  | nil => exact h
  | cons event events ih => exact ih (law.apply_congr a b event h)

/-- What the single calls do when all of them succeed. -/
theorem persistEach_spec (law : I.Derived state) (hser : I.Stateless) (hJ : J.Atomic journals)
    {events : List E} {a a' : A} {st st' : σ} {last : Int}
    (h : I.persistEach J events a st = (.ok last, a', st')) (hroom : I.HasRoom a events.length) :
    last = I.lastSequenceId a + events.length ∧ I.lastSequenceId a' = last ∧
      state a' = state (events.foldl I.apply a) ∧
      ∃ entries, I.Records a (I.lastSequenceId a) events entries ∧
        journals st' = (journals st).append (I.persistenceId a) entries := by
  induction events generalizing a st with
  | nil =>
      simp only [persistEach, Prod.mk.injEq, Except.ok.injEq] at h
      obtain ⟨rfl, rfl, rfl⟩ := h
      exact ⟨by simp, rfl, rfl, [], trivial, (Journals.append_nil _ _).symm⟩
  | cons event events ih =>
      rw [persistEach] at h
      rcases persist_spec (I := I) hJ event a st with ⟨e, st₁, hp, -⟩ | ⟨payload, st₁, hs, hp, hj⟩
      · rw [hp] at h
        cases h
      · rw [hp] at h
        -- the rest is persisted by the actor after the first event
        rw [List.length_cons] at hroom ⊢
        have hnext := hroom.next
        have hrest : I.HasRoom (I.setLastSequenceId (I.apply a event)
            (SequenceId.next (I.lastSequenceId a))) events.length := by
          unfold HasRoom at hroom ⊢
          rw [law.lastSequenceId_set]
          omega
        obtain ⟨hlast, hid, hstate, entries, hrec, hj'⟩ := ih h hrest
        rw [law.lastSequenceId_set, hnext] at hlast hrec
        rw [hnext] at hj
        rw [law.persistenceId_set, law.persistenceId_apply] at hj'
        refine ⟨?_, hid, ?_, ⟨I.lastSequenceId a + 1, I.eventType, payload⟩ :: entries, ?_, ?_⟩
        · omega
        · exact hstate.trans (law.foldl_congr events (law.state_set _ _))
        · exact ⟨rfl, rfl, hs, hrec.congr hser⟩
        · rw [hj', hj, Journals.append_append]
          rfl

/-- On a storage that takes every event, the single calls succeed as soon as
every event can be serialized. -/
theorem persistEach_of_records (hser : I.Stateless) (hacc : J.Accepting) {events : List E}
    {a b : A} {seq : Int} {entries : List JournalEntry} (h : I.Records b seq events entries)
    (st : σ) : ∃ last a' st', I.persistEach J events a st = (.ok last, a', st') := by
  induction events generalizing a seq entries st with
  | nil => exact ⟨_, _, _, rfl⟩
  | cons event events ih =>
      obtain ⟨payload, rest, -, hpay, hrest⟩ := records_cons_iff.mp h
      have hs : I.serializeEvent a event = .ok payload := (hser a b event).trans hpay
      have hw := hacc (I.persistenceId a) (SequenceId.next (I.lastSequenceId a)) I.eventType
        payload st
      rcases hst : J.writeEvent (I.persistenceId a) (SequenceId.next (I.lastSequenceId a))
          I.eventType payload st with ⟨r, st₁⟩
      rw [hst] at hw
      subst hw
      have hp : I.persist J event a st = (.ok (SequenceId.next (I.lastSequenceId a)),
          I.setLastSequenceId (I.apply a event) (SequenceId.next (I.lastSequenceId a)),
          st₁) := by
        simp only [persist, hs, hst]
      rw [persistEach, hp]
      exact ih hrest st₁

/-- The actor after a batch: its sequence id and its state. -/
theorem Derived.afterBatch (law : I.Derived state) {events : List E} {last : Int} {a : A}
    (hlast : events = [] → last = I.lastSequenceId a) :
    I.lastSequenceId (I.afterBatch events last a) = last ∧
      state (I.afterBatch events last a) = state (events.foldl I.apply a) := by
  unfold EventSourced.afterBatch
  split
  · next h =>
    exact ⟨(hlast h).symm, by rw [h]; rfl⟩
  · exact ⟨law.lastSequenceId_set _ _, law.state_set _ _⟩

/-- A call that failed left the actor and the journals as they were. -/
def LeavesAlone (journals : σ → Journals) (a : A) (st : σ)
    (r : Except PersistError Int × A × σ) : Prop :=
  ∀ e, r.1 = .error e → r.2.1 = a ∧ journals r.2.2 = journals st

/-- A call that succeeded appended exactly the events, in order, under the
ids after the actor's, and returned the last of these. -/
def Appends (I : EventSourced A E) (journals : σ → Journals) (events : List E) (a : A) (st : σ)
    (r : Except PersistError Int × A × σ) : Prop :=
  ∀ last, r.1 = .ok last → last = I.lastSequenceId a + events.length ∧
    ∃ entries, I.Records a (I.lastSequenceId a) events entries ∧
      journals r.2.2 = (journals st).append (I.persistenceId a) entries

/-- Two calls, possibly on different storages, that succeeded returned the
same id and left the same state, sequence id and journals. -/
def Agree (I : EventSourced A E) (state : A → S) (journals : σ → Journals)
    (journals' : τ → Journals) (r : Except PersistError Int × A × σ)
    (r' : Except PersistError Int × A × τ) : Prop :=
  ∀ last last', r.1 = .ok last → r'.1 = .ok last' → last' = last ∧
    I.lastSequenceId r'.2.1 = I.lastSequenceId r.2.1 ∧ state r'.2.1 = state r.2.1 ∧
    journals' r'.2.2 = journals r.2.2

theorem persistBatch_agrees (law : I.Derived state) (hser : I.Stateless) (hJ : J.Atomic journals)
    {J' : JournalStorage τ} {journals' : τ → Journals} (hJ' : J'.Atomic journals')
    (events : List E) (a : A) {st : σ} {st' : τ} (hst : journals' st' = journals st)
    (hroom : I.HasRoom a events.length) :
    I.Agree state journals journals' (I.persistBatch J events a st)
      (I.persistEach J' events a st') := by
  rintro last last' hlast hlast'
  rcases persistBatch_spec (I := I) hJ events a st with
    ⟨e, st₁, hb, -⟩ | ⟨_, entries, st₁, hb, hnil, hfit, hj⟩
  · rw [hb] at hlast
    cases hlast
  · rw [hb] at hlast ⊢
    cases hlast
    obtain ⟨hlast₀, hrec⟩ := hfit hroom
    rcases heach : I.persistEach J' events a st' with ⟨r, a', st₁'⟩
    rw [heach] at hlast'
    subst hlast'
    obtain ⟨hid, hseq, hstate, entries', hrec', hj'⟩ := persistEach_spec law hser hJ' heach hroom
    obtain ⟨hseq₀, hstate₀⟩ := law.afterBatch hnil
    have hsame := hid.trans hlast₀.symm
    refine ⟨hsame, hseq.trans (hsame.trans hseq₀.symm), hstate.trans hstate₀.symm, ?_⟩
    show journals' st₁' = journals st₁
    rw [hj', hj, hst, hrec'.unique hrec]

/-- **`persist` and `persist_batch` are all or nothing, and the batch is its
single calls.**  Whatever fails to serialize and whatever write the storage
refuses: a call that fails leaves the actor and the journals alone, a call
that succeeds records exactly its events, and a batch that succeeds leaves
what the single calls leave when they all succeed, as they do on a storage
that takes every event.  The ids given out are to fit an `i64`, and the actor's
state to be derived from its events: a batch does not set the sequence id
between two of them. -/
theorem persist_atomic (I : EventSourced A E) (J : JournalStorage σ) (journals : σ → Journals)
    (hJ : J.Atomic journals) (a : A) (st : σ) :
    (∀ event, LeavesAlone journals a st (I.persist J event a st) ∧
      (I.HasRoom a 1 → I.Appends journals [event] a st (I.persist J event a st))) ∧
    (∀ events, LeavesAlone journals a st (I.persistBatch J events a st) ∧
      (I.HasRoom a events.length →
        I.Appends journals events a st (I.persistBatch J events a st))) ∧
    (∀ (S : Type) (state : A → S), I.Derived state →
      (∀ event seq, (I.persist J event a st).1 = .ok seq →
        I.lastSequenceId (I.persist J event a st).2.1 = seq ∧
          state (I.persist J event a st).2.1 = state (I.apply a event)) ∧
      (∀ events last, (I.persistBatch J events a st).1 = .ok last →
        I.lastSequenceId (I.persistBatch J events a st).2.1 = last ∧
          state (I.persistBatch J events a st).2.1 = state (events.foldl I.apply a)) ∧
      (I.Stateless → ∀ (τ : Type) (J' : JournalStorage τ) (journals' : τ → Journals) (st' : τ),
        J'.Atomic journals' → journals' st' = journals st → ∀ events,
          I.HasRoom a events.length →
            I.Agree state journals journals' (I.persistBatch J events a st)
              (I.persistEach J' events a st') ∧
            (J'.Accepting → ∀ last, (I.persistBatch J events a st).1 = .ok last →
              ∃ last', (I.persistEach J' events a st').1 = .ok last'))) := by
  refine ⟨?_, ?_, ?_⟩
  · intro event
    rcases persist_spec (I := I) hJ event a st with ⟨e, st', hp, hj⟩ | ⟨payload, st', hs, hp, hj⟩
    · rw [hp]
      exact ⟨fun _ _ => ⟨rfl, hj⟩, fun _ _ h => (by cases h)⟩
    · rw [hp]
      refine ⟨fun _ h => (by cases h), ?_⟩
      rintro hroom last ⟨⟩
      rw [HasRoom.next hroom] at hj ⊢
      exact ⟨rfl, [⟨I.lastSequenceId a + 1, I.eventType, payload⟩], ⟨rfl, rfl, hs, trivial⟩, hj⟩
  · intro events
    rcases persistBatch_spec (I := I) hJ events a st with
      ⟨e, st', hb, hj⟩ | ⟨_, entries, st', hb, -, hfit, hj⟩
    · rw [hb]
      exact ⟨fun _ _ => ⟨rfl, hj⟩, fun _ _ h => (by cases h)⟩
    · rw [hb]
      refine ⟨fun _ h => (by cases h), ?_⟩
      rintro hroom last ⟨⟩
      obtain ⟨hlast, hrec⟩ := hfit hroom
      exact ⟨hlast, entries, hrec, hj⟩
  · intro S state law
    refine ⟨?_, ?_, ?_⟩
    -- the actor after a single call, after a batch, and the two compared
    · intro event seq hseq
      rcases persist_spec (I := I) hJ event a st with ⟨e, st', hp, -⟩ | ⟨payload, st', -, hp, -⟩
      · rw [hp] at hseq
        cases hseq
      · rw [hp] at hseq ⊢
        cases hseq
        exact ⟨law.lastSequenceId_set _ _, law.state_set _ _⟩
    · intro events last hlast
      rcases persistBatch_spec (I := I) hJ events a st with
        ⟨e, st', hb, -⟩ | ⟨_, _, st', hb, hnil, -⟩
      · rw [hb] at hlast
        cases hlast
      · rw [hb] at hlast ⊢
        cases hlast
        exact law.afterBatch hnil
    · intro hser τ J' journals' st' hJ' hst events hroom
      refine ⟨persistBatch_agrees law hser hJ hJ' events a hst hroom, ?_⟩
      intro hacc last hlast
      rcases persistBatch_spec (I := I) hJ events a st with
        ⟨e, _, hb, -⟩ | ⟨_, _, _, -, -, hfit, -⟩
      · rw [hb] at hlast
        cases hlast
      · obtain ⟨last', a', st₁, heach⟩ :=
          persistEach_of_records hser hacc (a := a) (hfit hroom).2 st'
        exact ⟨last', by rw [heach]⟩

theorem counterActor_derived (policy : RecoveryFailurePolicy) :
    (counterActor policy).Derived CounterActor.value where
  lastSequenceId_set _ _ := rfl
  state_set _ _ := rfl
  apply_congr a b e h := (counterActor_lawful policy).apply_congr a b e h
  persistenceId_apply _ _ := rfl
  persistenceId_set _ _ := rfl

/-- A batch of two on a store whose next write fails, and on one that takes
it. -/
theorem persist_atomic_counter :
    let I := counterActor .stop
    let J := Faulty.journalStorage InMemoryStorage.journalStorage
    let down := I.persistBatch J [3, 4] CounterActor.new
      ⟨InMemoryStorage.new, [some .notConfigured]⟩
    let batch := I.persistBatch J [3, 4] CounterActor.new ⟨InMemoryStorage.new, []⟩
    let each := I.persistEach InMemoryStorage.journalStorage [3, 4] CounterActor.new
      InMemoryStorage.new
    down.1 = .error .notConfigured ∧ down.2.1 = CounterActor.new ∧ batch.1 = .ok 2 ∧
      each.1 = .ok 2 ∧ each.2.2.journal = batch.2.2.store.journal := by
  intro I J down batch each
  have hJ : J.Atomic fun s => s.store.journal :=
    Faulty.journalStorage_atomic InMemoryStorage.journalStorage_atomic
  obtain ⟨-, hdown, -⟩ := persist_atomic I J _ hJ CounterActor.new
    ⟨InMemoryStorage.new, [some .notConfigured]⟩
  obtain ⟨-, -, hbatch⟩ := persist_atomic I J _ hJ CounterActor.new ⟨InMemoryStorage.new, []⟩
  obtain ⟨-, -, hagree⟩ := hbatch _ CounterActor.value (counterActor_derived .stop)
  obtain ⟨hsame, -⟩ := hagree (fun _ _ _ => rfl) _ _ _ InMemoryStorage.new
    InMemoryStorage.journalStorage_atomic rfl [3, 4]
    (by unfold HasRoom; decide)
  exact ⟨rfl, ((hdown [3, 4]).1 _ rfl).1, rfl, rfl, (hsame 2 2 rfl rfl).2.2.2⟩

/-- An actor that keeps the sequence id it had when its last event was
applied: `apply` reads what `persist_batch` sets only at the end. -/
def stampedActor : EventSourced CounterActor UInt8 :=
  { counterActor .stop with
    apply := fun a _ => { a with value := UInt8.ofNat a.lastSeq.toNat } }

/-- The batch and the single calls store the same entries and leave different
states. -/
theorem persistBatch_differs :
    let J := InMemoryStorage.journalStorage
    let batch := stampedActor.persistBatch J [3, 4] CounterActor.new InMemoryStorage.new
    let each := stampedActor.persistEach J [3, 4] CounterActor.new InMemoryStorage.new
    stampedActor.Stateless ∧ batch.1 = .ok 2 ∧ each.1 = .ok 2 ∧
      batch.2.2.journal ⟨"Counter:1"⟩ = each.2.2.journal ⟨"Counter:1"⟩ ∧
      batch.2.1.value = 0 ∧ each.2.1.value = 1 :=
  ⟨fun _ _ _ => rfl, rfl, rfl, rfl, rfl, rfl⟩

end EventSourced

end Dactor
