/-
Dactor/DurableRuns.lean

Durable-state actors over time: they handle messages, save their state, crash,
and recover what was saved, under any persistence ids, with a store whose calls
fail as it pleases.

Main result: `durable_state_exact`.
-/
import Dactor.FailedRecovery
import Dactor.RetryPolicy
import Dactor.Runs

namespace Dactor

open Runs Retries

variable {A M S : Type}

/-! ### Saving -/

/-- The methods of a durable actor type, with what its messages do to it. -/
structure SavingActor (A M : Type) extends DurableState A where
  serializeState : A → Except PersistError Bytes
  handle : A → M → A

/-- `DurableState::save_state`. -/
def SavingActor.saveState {σ : Type} (D : SavingActor A M) (storage : StateStorage σ) (a : A)
    (st : σ) : Except PersistError Unit × σ :=
  match D.serializeState a with
  | .error e => (.error e, st)
  | .ok payload => storage.saveState (D.persistenceId a) payload st

/-- The in-memory store behind calls that may fail. -/
def faultyStates : StateStorage (Faulty InMemoryStorage) :=
  Faulty.stateStorage InMemoryStorage.stateStorage

/-! ### Actors and their store -/

/-- The actors that are running, the store, and the state that was saved last
under every persistence id. -/
structure Fleet (A S : Type) where
  actors : ℕ → Option A
  store : Faulty InMemoryStorage
  saved : PersistenceId → Option S

inductive FleetOp (A M : Type)
  | handle (i : ℕ) (msg : M)
  | save (i : ℕ)
  | crash (i : ℕ)
  /-- An actor is made and recovered; if that fails, it is not started. -/
  | start (i : ℕ) (fresh : A)
  | delete (pid : PersistenceId)
  /-- What the next calls of the store will be met with. -/
  | weather (faults : List (Option PersistError))

namespace Fleet

def start : Fleet A S := ⟨fun _ => none, ⟨.new, []⟩, fun _ => none⟩

def step (D : SavingActor A M) (state : A → S) (s : Fleet A S) : FleetOp A M → Fleet A S
  | .handle i msg =>
    { s with actors := Function.update s.actors i ((s.actors i).map (D.handle · msg)) }
  | .save i =>
    match s.actors i with
    | none => s
    | some a =>
      match D.saveState faultyStates a s.store with
      | (.ok (), store) =>
        { s with store, saved := Function.update s.saved (D.persistenceId a) (some (state a)) }
      | (.error _, store) => { s with store }
  | .crash i => { s with actors := Function.update s.actors i none }
  | .start i fresh =>
    match s.actors i with
    | some _ => s
    | none =>
      match D.recoverDurableState faultyStates fresh s.store with
      | (.ok (), (a, store), _) => { s with actors := Function.update s.actors i (some a), store }
      | (.error _, (_, store), _) => { s with store }
  | .delete pid =>
    match faultyStates.deleteState pid s.store with
    | (.ok (), store) => { s with store, saved := Function.update s.saved pid none }
    | (.error _, store) => { s with store }
  | .weather faults => { s with store := { s.store with faults } }

end Fleet

/-- What the results need of an actor type: a state comes back from what it was
written as, and the hooks of a recovery leave it alone. -/
structure SavingActor.Lawful (D : SavingActor A M) (state : A → S) : Prop where
  preRecovery : ∀ a, state (D.preRecovery a) = state a
  persistenceId : ∀ a, D.persistenceId (D.preRecovery a) = D.persistenceId a
  postRecovery : ∀ a, state (D.postRecovery a) = state a
  restore : ∀ a payload, D.serializeState a = .ok payload →
    ∀ b, ∃ c, D.restoreState b payload = (.ok (), c) ∧ state c = state a

/-! ### One recovery -/

/-- The `k`-th of the next calls of the store goes through. -/
def Clear (faults : List (Option PersistError)) (k : ℕ) : Prop := faults[k]?.join = none

theorem clear_zero {faults : List (Option PersistError)} :
    Clear faults 0 ↔ faults.head?.join = none := by
  rw [Clear, List.head?_eq_getElem?]

theorem clear_succ {faults : List (Option PersistError)} {k : ℕ} :
    Clear faults (k + 1) ↔ Clear faults.tail k := by
  rw [Clear, Clear, List.getElem?_tail]

/-- The store holds what was saved. -/
def Kept (D : SavingActor A M) (state : A → S) (saved : PersistenceId → Option S)
    (st : InMemoryStorage) : Prop :=
  ∀ pid, Option.Rel (fun x payload => ∃ a, D.serializeState a = .ok payload ∧ state a = x)
    (saved pid) (st.states pid)

section Recovery

variable {D : SavingActor A M} {state : A → S} {saved : PersistenceId → Option S}
  {st : InMemoryStorage} {faults : List (Option PersistError)}

theorem attempt_of_fault {e : PersistError} (h : faults.head?.join = some e) (a : A) :
    D.recoverDurableStateInner faultyStates a ⟨st, faults⟩
      = (.error e, D.preRecovery a, ⟨st, faults.tail⟩) := by
  have hload : faultyStates.loadState (D.persistenceId (D.preRecovery a)) ⟨st, faults⟩
      = (.error e, ⟨st, faults.tail⟩) := Faulty.call_of_fault _ h
  rw [DurableState.recoverDurableStateInner]
  rw [hload]

theorem attempt_of_clear (law : D.Lawful state) (hkept : Kept D state saved st)
    (h : Clear faults 0) (a : A) :
    ∃ b, D.recoverDurableStateInner faultyStates a ⟨st, faults⟩ = (.ok (), b, ⟨st, faults.tail⟩) ∧
      state b = (saved (D.persistenceId a)).getD (state a) := by
  have hload : faultyStates.loadState (D.persistenceId (D.preRecovery a)) ⟨st, faults⟩
      = (.ok (st.states (D.persistenceId a)), ⟨st, faults.tail⟩) := by
    rw [law.persistenceId]
    exact Faulty.call_of_none _ (clear_zero.mp h)
  have hrel := hkept (D.persistenceId a)
  rw [DurableState.recoverDurableStateInner]
  rw [hload]
  rcases hsaved : saved (D.persistenceId a) with - | x
  · -- nothing was saved: the actor starts as it is
    rw [hsaved] at hrel
    cases hstates : st.states (D.persistenceId a) with
    | none => exact ⟨_, rfl, by rw [law.postRecovery, law.preRecovery]; rfl⟩
    | some payload =>
        rw [hstates] at hrel
        cases hrel
  · rw [hsaved] at hrel
    cases hstates : st.states (D.persistenceId a) with
    | none =>
        rw [hstates] at hrel
        cases hrel
    | some payload =>
        rw [hstates] at hrel
        cases hrel with
        | some hrel =>
            obtain ⟨a', hser, rfl⟩ := hrel
            obtain ⟨c, hrestore, hstate⟩ := law.restore a' payload hser (D.preRecovery a)
            dsimp only
            rw [hrestore]
            exact ⟨_, rfl, by rw [law.postRecovery, hstate]; rfl⟩

/-- What a recovery comes to, when `n` attempts are allowed. -/
structure Recovered (D : SavingActor A M) (state : A → S) (saved : PersistenceId → Option S)
    (a : A) (st : Faulty InMemoryStorage) (n : ℕ) (skips : Prop)
    (r : Except PersistError Unit × (A × Faulty InMemoryStorage) × List Nat) : Prop where
  /-- It succeeds if one of the attempts gets through, or is skipped. -/
  ok : r.1 = .ok () ↔ (∃ k < n, Clear st.faults k) ∨ skips
  /-- An attempt that gets through finds what was saved last. -/
  found : (∃ k < n, Clear st.faults k) → state r.2.1.1 = (saved (D.persistenceId a)).getD (state a)
  /-- Otherwise the actor starts as it was made. -/
  skipped : ¬ (∃ k < n, Clear st.faults k) → skips → state r.2.1.1 = state a
  store : r.2.1.2.store = st.store

theorem exists_clear_succ {n : ℕ} (h : ¬ Clear faults 0) :
    (∃ k < n + 1, Clear faults k) ↔ ∃ k < n, Clear faults.tail k := by
  constructor
  · rintro ⟨k, hk, hclear⟩
    cases k with
    | zero => exact absurd hclear h
    | succ k => exact ⟨k, Nat.lt_of_succ_lt_succ hk, clear_succ.mp hclear⟩
  · rintro ⟨k, hk, hclear⟩
    exact ⟨k + 1, Nat.succ_lt_succ hk, clear_succ.mpr hclear⟩

/-- The loop of `Retry`. -/
theorem recovered_retry (law : D.Lawful state) (hkept : Kept D state saved st) (e : PersistError)
    (n : ℕ) (faults : List (Option PersistError)) (delay : ℕ) (a : A) :
    Recovered D state saved a ⟨st, faults⟩ n False
      (retry (fun x => D.recoverDurableStateInner faultyStates x.1 x.2) EventSourced.nextDelay e n
        delay (a, ⟨st, faults⟩)) := by
  induction n generalizing faults delay a with
  | zero =>
      have hnone : ¬ ∃ k < 0, Clear faults k := fun ⟨_, h, _⟩ => absurd h (Nat.not_lt_zero _)
      exact ⟨iff_of_false (fun h => by cases h) (by simp), fun h => absurd h hnone,
        fun _ h => h.elim, rfl⟩
  | succ n ih =>
      rcases hhead : faults.head?.join with - | e'
      · -- this attempt gets through
        have hclear := clear_zero.mpr hhead
        obtain ⟨b, hattempt, hstate⟩ := attempt_of_clear law hkept hclear a
        have hreached : ∃ k < n + 1, Clear faults k := ⟨0, Nat.succ_pos n, hclear⟩
        simp only [retry, hattempt]
        exact ⟨iff_of_true rfl (.inl hreached), fun _ => hstate, fun h => absurd hreached h, rfl⟩
      · have hfault : ¬ Clear faults 0 := fun h => by
          rw [clear_zero.mp h] at hhead
          cases hhead
        have hnext := ih faults.tail (EventSourced.nextDelay delay) (D.preRecovery a)
        simp only [retry, attempt_of_fault hhead]
        refine ⟨?_, ?_, fun _ h => h.elim, hnext.store⟩
        · rw [exists_clear_succ hfault]
          exact hnext.ok
        · rw [exists_clear_succ hfault]
          intro hreached
          rw [hnext.found hreached, law.persistenceId, law.preRecovery]

theorem attemptsAllowed_pos (policy : RecoveryFailurePolicy) :
    0 < EventSourced.attemptsAllowed policy := by
  cases policy with
  | stop => exact Nat.one_pos
  | retry maxAttempts initialDelay => exact Nat.succ_pos _
  | skipAndStart => exact Nat.one_pos

theorem recovered (law : D.Lawful state) (hkept : Kept D state saved st) (a : A) :
    Recovered D state saved a ⟨st, faults⟩
      (EventSourced.attemptsAllowed (D.recoveryFailurePolicy a))
      (D.recoveryFailurePolicy a = .skipAndStart)
      (D.recoverDurableState faultyStates a ⟨st, faults⟩) := by
  rw [DurableState.recoverDurableState]
  rcases hhead : faults.head?.join with - | e
  · -- the first attempt gets through, and the policy is not asked
    have hclear := clear_zero.mpr hhead
    obtain ⟨b, hattempt, hstate⟩ := attempt_of_clear law hkept hclear a
    have hreached : ∃ k < EventSourced.attemptsAllowed (D.recoveryFailurePolicy a),
        Clear faults k := ⟨0, attemptsAllowed_pos _, hclear⟩
    simp only [recoverWith, hattempt]
    exact ⟨iff_of_true rfl (.inl hreached), fun _ => hstate, fun h => absurd hreached h, rfl⟩
  · have hfault : ¬ Clear faults 0 := fun h => by
      rw [clear_zero.mp h] at hhead
      cases hhead
    have hone : ¬ ∃ k < 0 + 1, Clear faults k := by
      rw [exists_clear_succ hfault]
      rintro ⟨k, hk, -⟩
      exact absurd hk (Nat.not_lt_zero k)
    simp only [recoverWith, attempt_of_fault hhead]
    rcases D.recoveryFailurePolicy a with - | ⟨maxAttempts, initialDelay⟩ | -
    · refine ⟨iff_of_false (fun h => (by cases h)) ?_, fun h => absurd h hone,
        fun _ h => (by cases h), rfl⟩
      rintro (h | h)
      · exact hone h
      · cases h
    · have hloop := recovered_retry law hkept e ((maxAttempts.getD 3).toNat - 1) faults.tail
        initialDelay (D.preRecovery a)
      refine ⟨?_, ?_, fun _ h => (by cases h), hloop.store⟩
      · rw [EventSourced.attemptsAllowed, exists_clear_succ hfault, hloop.ok]
        simp
      · rw [EventSourced.attemptsAllowed, exists_clear_succ hfault]
        intro hreached
        rw [hloop.found hreached, law.persistenceId, law.preRecovery]
    · refine ⟨iff_of_true rfl (.inr rfl), fun h => absurd h hone, fun _ _ => ?_, rfl⟩
      show state (D.postRecovery (D.preRecovery a)) = state a
      rw [law.postRecovery, law.preRecovery]

/-! ### One save, one deletion -/

/-- A save that succeeds leaves the state under the id of its actor; one that
fails leaves the store as it is. -/
theorem saveState_cases (D : SavingActor A M) (a : A) (x : Faulty InMemoryStorage) :
    (∃ payload, D.serializeState a = .ok payload ∧ Clear x.faults 0 ∧
      D.saveState faultyStates a x = (.ok (),
        ⟨{ x.store with
            states := Function.update x.store.states (D.persistenceId a) (some payload) },
          x.faults.tail⟩)) ∨
    ((¬ ∃ payload, D.serializeState a = .ok payload ∧ Clear x.faults 0) ∧
      ∃ e faults', D.saveState faultyStates a x = (.error e, ⟨x.store, faults'⟩)) := by
  rw [SavingActor.saveState]
  rcases D.serializeState a with e | payload
  · exact .inr ⟨fun ⟨_, h, _⟩ => (by cases h), e, x.faults, rfl⟩
  · rcases hhead : x.faults.head?.join with - | e
    · exact .inl ⟨payload, rfl, clear_zero.mpr hhead, Faulty.call_of_none _ hhead⟩
    · refine .inr ⟨fun ⟨_, _, h⟩ => ?_, e, x.faults.tail, Faulty.call_of_fault _ hhead⟩
      rw [clear_zero.mp h] at hhead
      cases hhead

theorem deleteState_cases (pid : PersistenceId) (x : Faulty InMemoryStorage) :
    faultyStates.deleteState pid x = (.ok (),
      ⟨{ x.store with states := Function.update x.store.states pid none }, x.faults.tail⟩) ∨
    ∃ e, faultyStates.deleteState pid x = (.error e, ⟨x.store, x.faults.tail⟩) := by
  rcases hhead : x.faults.head?.join with - | e
  · exact .inl (Faulty.call_of_none _ hhead)
  · exact .inr ⟨e, Faulty.call_of_fault _ hhead⟩

end Recovery

/-! ### Runs -/

section Runs

variable {D : SavingActor A M} {state : A → S}

/-- A write under one id leaves the others as they were. -/
theorem Kept.update {saved : PersistenceId → Option S} {st : InMemoryStorage}
    (hkept : Kept D state saved st) {pid : PersistenceId} {x : Option S} {payload : Option Bytes}
    (h : Option.Rel (fun x payload => ∃ a, D.serializeState a = .ok payload ∧ state a = x) x
      payload) :
    Kept D state (Function.update saved pid x)
      { st with states := Function.update st.states pid payload } := by
  intro pid'
  by_cases hpid : pid' = pid
  · subst hpid
    show Option.Rel _ (Function.update saved pid' x pid')
      (Function.update st.states pid' payload pid')
    rw [Function.update_self, Function.update_self]
    exact h
  · show Option.Rel _ (Function.update saved pid x pid')
      (Function.update st.states pid payload pid')
    rw [Function.update_of_ne hpid, Function.update_of_ne hpid]
    exact hkept pid'

/-- The store holds what was saved, in a fleet. -/
def Fleet.Sound (D : SavingActor A M) (state : A → S) (s : Fleet A S) : Prop :=
  Kept D state s.saved s.store.store

theorem Fleet.Sound.step (law : D.Lawful state) (s : Fleet A S) (op : FleetOp A M)
    (h : s.Sound D state) : (s.step D state op).Sound D state := by
  cases op with
  | handle i msg => exact h
  | crash i => exact h
  | weather faults => exact h
  | save i =>
      rw [Fleet.step]
      rcases s.actors i with - | a
      · exact h
      · rcases saveState_cases D a s.store with ⟨payload, hser, -, hsave⟩ | ⟨-, e, faults', hsave⟩
        · simp only [hsave]
          exact h.update (.some ⟨a, hser, rfl⟩)
        · simp only [hsave]
          exact h
  | start i fresh =>
      rw [Fleet.step]
      rcases s.actors i with - | a
      · have hstore : (D.recoverDurableState faultyStates fresh s.store).2.1.2.store
            = s.store.store := (recovered law h fresh).store
        rcases hrecovered : D.recoverDurableState faultyStates fresh s.store
          with ⟨e | ⟨⟩, ⟨a, store⟩, slept⟩ <;>
          rw [hrecovered] at hstore <;>
          exact (congrArg (Kept D state s.saved) hstore).mpr h
      · exact h
  | delete pid =>
      rw [Fleet.step]
      rcases deleteState_cases pid s.store with hdelete | ⟨e, hdelete⟩
      · simp only [hdelete]
        exact h.update .none
      · simp only [hdelete]
        exact h

/-- **The state of a durable actor is the one saved last**, after any run of
any number of actors, saves, crashes, deletions and failures of the store.  A
recovery succeeds exactly when one of the attempts its policy allows gets
through to the store, or the policy lets it skip; the first finds the state
that was saved last under the actor's id, and if there is none, as after a
recovery that was skipped, the actor is left as it was made.  A save succeeds
exactly when the state can be written and the store answers. -/
theorem durable_state_exact (law : D.Lawful state) (ops : List (FleetOp A M)) (fresh : A) :
    Recovered D state (run (Fleet.step D state) .start ops).saved fresh
      (run (Fleet.step D state) .start ops).store
      (EventSourced.attemptsAllowed (D.recoveryFailurePolicy fresh))
      (D.recoveryFailurePolicy fresh = .skipAndStart)
      (D.recoverDurableState faultyStates fresh (run (Fleet.step D state) .start ops).store) ∧
    ((D.saveState faultyStates fresh (run (Fleet.step D state) .start ops).store).1 = .ok () ↔
      ∃ payload, D.serializeState fresh = .ok payload ∧
        Clear (run (Fleet.step D state) .start ops).store.faults 0) := by
  constructor
  · have hsound : (run (Fleet.step D state) .start ops).Sound D state :=
      run_induction (Fleet.Sound.step law) ops fun _ => .none
    exact recovered law hsound fresh
  · rcases saveState_cases D fresh (run (Fleet.step D state) .start ops).store
      with ⟨payload, hser, hclear, hsave⟩ | ⟨hnot, e, faults', hsave⟩
    · exact iff_of_true (by rw [hsave]) ⟨payload, hser, hclear⟩
    · refine iff_of_false (fun h => ?_) hnot
      rw [hsave] at h
      cases h

/-- A durable byte to which messages are added. -/
def savingByte : SavingActor UInt8 UInt8 where
  toDurableState := durableByte (.retry (some 2) 5)
  serializeState a := .ok [a]
  handle a msg := a + msg

theorem savingByte_lawful : savingByte.Lawful id where
  preRecovery _ := rfl
  persistenceId _ := rfl
  postRecovery _ := rfl
  restore a payload h b := by
    obtain rfl : [a] = payload := Except.ok.inj h
    exact ⟨a, rfl, rfl⟩

/-- What is added after the save is lost with the crash, and the second
attempt of the recovery finds the rest. -/
theorem durable_state_exact_byte :
    (savingByte.recoverDurableState faultyStates 0 (run (Fleet.step savingByte id) .start
      [.start 0 0, .handle 0 5, .save 0, .handle 0 9, .crash 0,
        .weather [some (.storageUnavailable "down")]]).store).2.1.1 = 5 :=
  (durable_state_exact savingByte_lawful
    [.start 0 0, .handle 0 5, .save 0, .handle 0 9, .crash 0,
      .weather [some (.storageUnavailable "down")]] 0).1.found ⟨1, by decide, rfl⟩

end Runs

end Dactor
