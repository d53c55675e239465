/-
Dactor/FailedRecovery.lean

What a failed recovery leaves behind.  `recover_event_sourced` decodes every
journal entry before it applies one, so no event of a failed attempt reaches
the actor.  The snapshot does: `restore_snapshot` and `set_last_sequence_id`
run before the journal is read, and nothing takes them back when the read or
a decoding fails.

An attempt is cut in two: the snapshot half (`restored`, `snapshotUsable`)
and the journal half (`journalAnswer`, `decodes`).  A failed attempt leaves the actor as its
snapshot half made it, and the next attempt of a `Retry` policy starts from
there.  So the actor comes out of a failed recovery untouched exactly when
the last snapshot that an attempt restored is the state the actor was in.
-/
import Dactor.Recovery

namespace Dactor

namespace EventSourced

variable {A E σ : Type} (I : EventSourced A E)
variable (J : JournalStorage σ) (Sn : SnapshotStorage σ)

/-! ### The two halves of an attempt -/

/-- The actor made from the snapshot the store holds for it, when the store
hands one out and the actor accepts it. -/
def restored (a : A) (st : σ) : Option A :=
  match (Sn.loadLatestSnapshot (I.persistenceId a) st).1 with
  | .ok (some snap) =>
    match I.restoreSnapshot a snap.payload with
    | (.ok (), a') => some (I.setLastSequenceId a' snap.sequenceId)
    | (.error _, _) => none
  | _ => none

/-- The store says that there is no snapshot, or the actor accepts the one
it hands out. -/
def snapshotUsable (a : A) (st : σ) : Bool :=
  match (Sn.loadLatestSnapshot (I.persistenceId a) st).1 with
  | .ok none => true
  | _ => (I.restored Sn a st).isSome

/-- The journal read of an attempt on `a`, and the store after it: the
entries that follow the sequence id the actor has once the snapshot is
restored. -/
def journalAnswer (a : A) (st : σ) : Except PersistError (List JournalEntry) × σ :=
  J.readEvents (I.persistenceId a)
    (SequenceId.next (I.lastSequenceId ((I.restored Sn a st).getD a)))
    (Sn.loadLatestSnapshot (I.persistenceId a) st).2

/-- The entries were read and each of them decodes. -/
def decodes (a : A) : Except PersistError (List JournalEntry) → Bool
  | .ok entries => entries.all fun entry => (I.deserializeEvent a entry.payload).isOk
  | .error _ => false

/-- Nothing in the stores stands in the way of an attempt: the snapshot is
usable, the journal after it is read, and every entry of it decodes. -/
def sound (a : A) (st : σ) : Bool :=
  I.snapshotUsable Sn a st &&
    I.decodes ((I.restored Sn a st).getD a) (I.journalAnswer J Sn a st).1

/-- The store after an attempt that is not sound: an unusable snapshot keeps
it from the journal. -/
def storeAfter (a : A) (st : σ) : σ :=
  if I.snapshotUsable Sn a st then (I.journalAnswer J Sn a st).2
  else (Sn.loadLatestSnapshot (I.persistenceId a) st).2

/-! ### The attempts of a policy -/

/-- How many attempts a policy allows: `Retry` makes the first one and those
of `for _ in 1..attempts`. -/
def attemptsAllowed : RecoveryFailurePolicy → Nat
  | .stop => 1
  | .retry maxAttempts _ => (maxAttempts.getD 3).toNat - 1 + 1
  | .skipAndStart => 1

/-- The actor and the store before each of `n` attempts, as long as no
earlier one was sound: each attempt is made on the actor with the snapshot of
the one before restored. -/
def attemptsFrom : Nat → A → σ → List (A × σ)
  | 0, _, _ => []
  | n + 1, a, st =>
    (a, st) :: attemptsFrom n ((I.restored Sn a st).getD a) (I.storeAfter J Sn a st)

/-- The attempts `recover_event_sourced` may make. -/
def recoveryAttempts (a : A) (st : σ) : List (A × σ) :=
  I.attemptsFrom J Sn (attemptsAllowed (I.recoveryFailurePolicy a)) a st

/-- The last snapshot that one of the attempts restores, as the actor it
makes. -/
def lastRestored (attempts : List (A × σ)) : Option A :=
  (attempts.filterMap fun s => I.restored Sn s.1 s.2).getLast?

/-- One of the attempts finds both stores in order, or the last snapshot that
an attempt restores is the state the actor is in already. -/
def LeavesNoTrace (a : A) (st : σ) : Prop :=
  (∃ s ∈ I.recoveryAttempts J Sn a st, I.sound J Sn s.1 s.2 = true) ∨
    ∀ a' ∈ I.lastRestored Sn (I.recoveryAttempts J Sn a st), a' = a

/-- **Failed recovery.**  `recover_event_sourced` returns an error, or the
`SkipAndStart` policy turns the error of its attempt into a start. -/
def RecoveryFails (a : A) (st : σ) : Prop :=
  (∃ e, (I.recoverEventSourced J Sn a st).1 = .error e) ∨
    I.recoveryFailurePolicy a = .skipAndStart ∧
      ∃ e, (I.recoverEventSourcedInner J Sn a st).1 = .error e

/-- **No-op hooks.**  `pre_recovery` and `post_recovery` are the trait's
defaults, and a `restore_snapshot` that fails leaves the actor as it was. -/
structure PlainRecovery : Prop where
  pre : ∀ a, I.preRecovery a = a
  post : ∀ a, I.postRecovery a = a
  restore : ∀ a payload e a', I.restoreSnapshot a payload = (.error e, a') → a' = a

/-! ### One attempt -/

theorem deserializeAll_isOk (a : A) (entries : List JournalEntry) :
    (I.deserializeAll a entries).isOk = I.decodes a (.ok entries) := by
  induction entries with
  | nil => rfl
  | cons entry entries ih =>
    simp only [decodes, List.all_cons] at ih ⊢
    rw [← ih]
    rcases h : I.deserializeEvent a entry.payload with e | event
    · simp [deserializeAll, h, Except.isOk, Except.toBool]
    · rcases h' : I.deserializeAll a entries with e | rest <;>
        simp [deserializeAll, h, h', Except.isOk, Except.toBool]

variable {I J Sn}

/-- The journal half succeeds when the entries decode. -/
theorem replayJournal_of_decodes {pid : PersistenceId} {a : A} {st : σ}
    (h : I.decodes a (J.readEvents pid (SequenceId.next (I.lastSequenceId a)) st).1 = true) :
    (I.replayJournal J pid a st).1 = .ok () := by
  rcases hr : J.readEvents pid (SequenceId.next (I.lastSequenceId a)) st with ⟨e | entries, st'⟩
  · simp [hr, decodes] at h
  · rw [hr, ← deserializeAll_isOk] at h
    rcases hd : I.deserializeAll a entries with e | events
    · simp [hd, Except.isOk, Except.toBool] at h
    · simp [replayJournal, hr, hd]

/-- The journal half that fails has read the journal and nothing else. -/
theorem replayJournal_of_not_decodes {pid : PersistenceId} {a : A} {st : σ}
    (h : I.decodes a (J.readEvents pid (SequenceId.next (I.lastSequenceId a)) st).1 = false) :
    ∃ e, I.replayJournal J pid a st
      = (.error e, a, (J.readEvents pid (SequenceId.next (I.lastSequenceId a)) st).2) := by
  rcases hr : J.readEvents pid (SequenceId.next (I.lastSequenceId a)) st with ⟨e | entries, st'⟩
  · exact ⟨e, by simp [replayJournal, hr]⟩
  · rw [hr, ← deserializeAll_isOk] at h
    rcases hd : I.deserializeAll a entries with e | events
    · exact ⟨e, by simp [replayJournal, hr, hd]⟩
    · simp [hd, Except.isOk, Except.toBool] at h

/-- A usable snapshot hands the attempt over to the journal half. -/
theorem inner_of_usable (hp : I.PlainRecovery) {a : A} {st : σ}
    (h : I.snapshotUsable Sn a st = true) :
    I.recoverEventSourcedInner J Sn a st
      = I.replayJournal J (I.persistenceId a) ((I.restored Sn a st).getD a)
          (Sn.loadLatestSnapshot (I.persistenceId a) st).2 := by
  rcases hl : Sn.loadLatestSnapshot (I.persistenceId a) st with ⟨e | - | snap, st'⟩
  · simp [snapshotUsable, restored, hl] at h
  · simp [recoverEventSourcedInner, restored, hp.pre, hl]
  · rcases hr : I.restoreSnapshot a snap.payload with ⟨e | ⟨⟩, a'⟩
    · simp [snapshotUsable, restored, hl, hr] at h
    · simp [recoverEventSourcedInner, restored, hp.pre, hl, hr]

/-- An unusable snapshot ends the attempt before anything has changed. -/
theorem inner_of_not_usable (hp : I.PlainRecovery) {a : A} {st : σ}
    (h : I.snapshotUsable Sn a st = false) :
    ∃ e, I.recoverEventSourcedInner J Sn a st
      = (.error e, (I.restored Sn a st).getD a,
          (Sn.loadLatestSnapshot (I.persistenceId a) st).2) := by
  rcases hl : Sn.loadLatestSnapshot (I.persistenceId a) st with ⟨e | - | snap, st'⟩
  · exact ⟨e, by simp [recoverEventSourcedInner, restored, hp.pre, hl]⟩
  · simp [snapshotUsable, hl] at h
  · rcases hr : I.restoreSnapshot a snap.payload with ⟨e | ⟨⟩, a'⟩
    · obtain rfl := hp.restore _ _ _ _ hr
      exact ⟨e, by simp [recoverEventSourcedInner, restored, hp.pre, hl, hr]⟩
    · simp [snapshotUsable, restored, hl, hr] at h

theorem inner_of_sound (hp : I.PlainRecovery) {a : A} {st : σ}
    (h : I.sound J Sn a st = true) :
    (I.recoverEventSourcedInner J Sn a st).1 = .ok () := by
  obtain ⟨hu, hd⟩ := Bool.and_eq_true_iff.mp h
  rw [inner_of_usable hp hu]
  exact replayJournal_of_decodes hd

/-- **A failed attempt** leaves the actor as the snapshot made it. -/
theorem inner_of_not_sound (hp : I.PlainRecovery) {a : A} {st : σ}
    (h : I.sound J Sn a st = false) :
    ∃ e, I.recoverEventSourcedInner J Sn a st
      = (.error e, (I.restored Sn a st).getD a, I.storeAfter J Sn a st) := by
  rcases hu : I.snapshotUsable Sn a st with - | -
  · obtain ⟨e, he⟩ := inner_of_not_usable (J := J) hp hu
    exact ⟨e, by simp [he, storeAfter, hu]⟩
  · have hd : I.decodes ((I.restored Sn a st).getD a) (I.journalAnswer J Sn a st).1 = false := by
      simpa [sound, hu] using h
    obtain ⟨e, he⟩ := replayJournal_of_not_decodes hd
    refine ⟨e, ?_⟩
    rw [inner_of_usable hp hu, he, storeAfter, if_pos hu]
    rfl

/-! ### A run of attempts -/

variable (I J Sn)

theorem lastRestored_cons (s : A × σ) (attempts : List (A × σ)) (a : A) :
    (I.lastRestored Sn (s :: attempts)).getD a
      = (I.lastRestored Sn attempts).getD ((I.restored Sn s.1 s.2).getD a) := by
  rcases hr : I.restored Sn s.1 s.2 with - | a'
  · simp [lastRestored, hr]
  · simp [lastRestored, hr, List.getLast?_cons]

variable {I J Sn}

/-- The retry loop succeeds when one of its attempts is sound. -/
theorem retryRecovery_of_sound (hp : I.PlainRecovery) (e : PersistError) (delay : Nat) {n : Nat}
    {a : A} {st : σ} (h : ∃ s ∈ I.attemptsFrom J Sn n a st, I.sound J Sn s.1 s.2 = true) :
    (I.retryRecovery J Sn e n delay a st).1 = .ok () := by
  induction n generalizing delay a st with
  | zero => simp [attemptsFrom] at h
  | succ n ih =>
    rcases hs : I.sound J Sn a st with - | -
    · obtain ⟨e', he⟩ := inner_of_not_sound hp hs
      simp only [retryRecovery, he]
      apply ih
      simpa [attemptsFrom, hs] using h
    · have hok := inner_of_sound hp hs
      rcases hi : I.recoverEventSourcedInner J Sn a st with ⟨r, a', st'⟩
      rw [hi] at hok
      subst hok
      simp [retryRecovery, hi]

/-- When no attempt is sound the retry loop fails, and the actor is the one
made from the last snapshot restored. -/
theorem retryRecovery_of_not_sound (hp : I.PlainRecovery) (e : PersistError) (delay : Nat)
    {n : Nat} {a : A} {st : σ}
    (h : ∀ s ∈ I.attemptsFrom J Sn n a st, I.sound J Sn s.1 s.2 = false) :
    (I.retryRecovery J Sn e n delay a st).1 = .error e ∧
      (I.retryRecovery J Sn e n delay a st).2.1
        = (I.lastRestored Sn (I.attemptsFrom J Sn n a st)).getD a := by
  induction n generalizing delay a st with
  | zero => exact ⟨rfl, rfl⟩
  | succ n ih =>
    obtain ⟨hs, hrest⟩ := List.forall_mem_cons.mp h
    obtain ⟨e', he⟩ := inner_of_not_sound hp hs
    obtain ⟨h1, h2⟩ := ih (nextDelay delay) hrest
    simp only [retryRecovery, he]
    refine ⟨h1, ?_⟩
    rw [h2, attemptsFrom, lastRestored_cons]

/-! ### A whole recovery -/

/-- A sound attempt ends the recovery well. -/
theorem not_recoveryFails (hp : I.PlainRecovery) {a : A} {st : σ}
    (h : ∃ s ∈ I.recoveryAttempts J Sn a st, I.sound J Sn s.1 s.2 = true) :
    ¬ I.RecoveryFails J Sn a st := by
  rcases hs : I.sound J Sn a st with - | -
  · -- the first attempt fails, so a later one of a `Retry` policy is sound
    obtain ⟨e, he⟩ := inner_of_not_sound hp hs
    rcases hpol : I.recoveryFailurePolicy a with - | ⟨m, d⟩ | -
    · simp [recoveryAttempts, attemptsAllowed, attemptsFrom, hpol, hs] at h
    · have hr : (I.recoverEventSourced J Sn a st).1 = .ok () := by
        simp only [recoverEventSourced, he, hpol]
        apply retryRecovery_of_sound hp
        simpa [recoveryAttempts, attemptsAllowed, attemptsFrom, hpol, hs] using h
      simp [RecoveryFails, hr, hpol]
    · simp [recoveryAttempts, attemptsAllowed, attemptsFrom, hpol, hs] at h
  · have hok := inner_of_sound hp hs
    have hr : (I.recoverEventSourced J Sn a st).1 = .ok () := by
      rcases hi : I.recoverEventSourcedInner J Sn a st with ⟨r, a', st'⟩
      rw [hi] at hok
      subst hok
      simp [recoverEventSourced, hi]
    simp [RecoveryFails, hr, hok]

/-- Without a sound attempt the recovery fails, under every policy, and the
actor is the one made from the last snapshot restored. -/
theorem recoveryFails_of_not_sound (hp : I.PlainRecovery) {a : A} {st : σ}
    (h : ∀ s ∈ I.recoveryAttempts J Sn a st, I.sound J Sn s.1 s.2 = false) :
    I.RecoveryFails J Sn a st ∧
      (I.recoverEventSourced J Sn a st).2.1
        = (I.lastRestored Sn (I.recoveryAttempts J Sn a st)).getD a := by
  rcases hpol : I.recoveryFailurePolicy a with - | ⟨m, d⟩ | - <;>
    rw [recoveryAttempts, hpol, attemptsAllowed] at h ⊢ <;>
    obtain ⟨hs, hrest⟩ := List.forall_mem_cons.mp h <;>
    obtain ⟨e, he⟩ := inner_of_not_sound hp hs <;>
    rw [attemptsFrom, lastRestored_cons]
  · refine ⟨.inl ⟨e, ?_⟩, ?_⟩ <;> simp [recoverEventSourced, he, hpol, attemptsFrom, lastRestored]
  · obtain ⟨h1, h2⟩ := retryRecovery_of_not_sound hp e d hrest
    refine ⟨.inl ⟨e, ?_⟩, ?_⟩ <;> simp only [recoverEventSourced, he, hpol]
    · exact h1
    · exact h2
  · refine ⟨.inr ⟨hpol, e, by rw [he]⟩, ?_⟩
    simp [recoverEventSourced, he, hpol, hp.post, attemptsFrom, lastRestored]

/-- **A failed recovery leaves the actor untouched**, its state and its
sequence id, exactly when some attempt was bound to succeed or the last
snapshot restored made the actor what it was: the failing attempts never
apply an event, but they do not take a snapshot back. -/
theorem failed_recovery_untouched_iff (hp : I.PlainRecovery) (a : A) (st : σ) :
    (I.RecoveryFails J Sn a st → (I.recoverEventSourced J Sn a st).2.1 = a) ↔
      I.LeavesNoTrace J Sn a st := by
  by_cases hs : ∃ s ∈ I.recoveryAttempts J Sn a st, I.sound J Sn s.1 s.2 = true
  · constructor
    · intro _
      exact .inl hs
    · intro _ hf
      exact absurd hf (not_recoveryFails hp hs)
  · have hnone : ∀ s ∈ I.recoveryAttempts J Sn a st, I.sound J Sn s.1 s.2 = false := by
      intro s hmem
      exact Bool.eq_false_iff.mpr fun ht => hs ⟨s, hmem, ht⟩
    obtain ⟨hf, hactor⟩ := recoveryFails_of_not_sound hp hnone
    rw [LeavesNoTrace, hactor]
    -- without a snapshot restored the actor is `a` itself
    rcases I.lastRestored Sn (I.recoveryAttempts J Sn a st) with - | a' <;> simp [hs, hf]

/-! ### The counter without hooks -/

/-- The counter of the source's tests, with the default `post_recovery`. -/
def plainCounter (policy : RecoveryFailurePolicy) : EventSourced CounterActor UInt8 :=
  { counterActor policy with postRecovery := id }

theorem plainCounter_plain (policy : RecoveryFailurePolicy) :
    (plainCounter policy).PlainRecovery where
  pre _ := rfl
  post _ := rfl
  restore a payload e a' h := by
    simp only [plainCounter, counterActor] at h
    split at h <;> simp_all

/-- A store with the given snapshots and one journal entry that does not
decode. -/
def corruptStore (snapshots : List SnapshotEntry) : InMemoryStorage :=
  { journals := fun _ => some [⟨2, "CounterEvent", []⟩]
    snapshots := fun _ => some snapshots
    states := fun _ => none }

/-- Without a snapshot the three attempts of a `Retry` policy fail on the
corrupt entry and the counter stays what it was. -/
theorem failed_recovery_untouched_counter :
    (plainCounter (.retry none 0)).RecoveryFails InMemoryStorage.journalStorage
        InMemoryStorage.snapshotStorage CounterActor.new (corruptStore []) ∧
      ((plainCounter (.retry none 0)).recoverEventSourced InMemoryStorage.journalStorage
        InMemoryStorage.snapshotStorage CounterActor.new (corruptStore [])).2.1
          = CounterActor.new := by
  have hf : (plainCounter (.retry none 0)).RecoveryFails InMemoryStorage.journalStorage
      InMemoryStorage.snapshotStorage CounterActor.new (corruptStore []) :=
    .inl ⟨_, rfl⟩
  refine ⟨hf, (failed_recovery_untouched_iff (plainCounter_plain _) _ _).mpr (.inr ?_) hf⟩
  decide

/-- With a snapshot of value 5 at sequence id 1, `SkipAndStart` starts the
counter at 5 instead of fresh. -/
theorem failed_recovery_keeps_snapshot :
    ¬ ∀ I : EventSourced CounterActor UInt8, I.PlainRecovery →
      ∀ (J : JournalStorage InMemoryStorage) (Sn : SnapshotStorage InMemoryStorage)
        (a : CounterActor) (st : InMemoryStorage), I.RecoveryFails J Sn a st →
        (I.recoverEventSourced J Sn a st).2.1 = a := by
  intro h
  have hbad := h (plainCounter .skipAndStart) (plainCounter_plain _)
    InMemoryStorage.journalStorage InMemoryStorage.snapshotStorage CounterActor.new
    (corruptStore [⟨1, [5]⟩]) (.inr ⟨rfl, _, rfl⟩)
  exact absurd hbad (by decide)

end EventSourced

end Dactor
