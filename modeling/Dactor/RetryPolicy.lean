/-
Dactor/RetryPolicy.lean

`RecoveryFailurePolicy::Retry`, in `recover_event_sourced` and in
`recover_durable_state`.  The two functions are the same text around two
different attempts; `recoverWith` is that text, and its loop is the `retry`
of the library with the waits of `nextDelay`.

Main results:

* `retry_budget_iff` — a recovery keeps to its budget exactly when it has a
  limit, or needs none: without one it gives up after three attempts;
* `backoff_iff` — the waits grow exactly when at most one is made, or the
  first is zero or between one millisecond and thirty seconds: below, the
  doubled wait is truncated to zero, above, it is cut to the maximum.
-/
import Dactor.Recovery
import Dactor.Retries

namespace Dactor

open Retries

variable {A E σ X : Type}

/-! ### Durable state -/

/-- The `PersistentActor` and `DurableState` methods of an actor type. -/
structure DurableState (A : Type) where
  persistenceId : A → PersistenceId
  preRecovery : A → A
  postRecovery : A → A
  recoveryFailurePolicy : A → RecoveryFailurePolicy
  restoreState : A → Bytes → Except PersistError Unit × A

/-- `recover_durable_state_inner`. -/
def DurableState.recoverDurableStateInner (D : DurableState A) (storage : StateStorage σ)
    (a : A) (st : σ) : Except PersistError Unit × A × σ :=
  let a := D.preRecovery a
  match storage.loadState (D.persistenceId a) st with
  | (.error e, st') => (.error e, a, st')
  | (.ok none, st') => (.ok (), D.postRecovery a, st')
  | (.ok (some payload), st') =>
    match D.restoreState a payload with
    | (.error e, a') => (.error e, a', st')
    | (.ok (), a') => (.ok (), D.postRecovery a', st')

/-! ### Recovery under a policy -/

/-- The text that the two recoveries share: an attempt, and the policy when it
fails.  The last component lists the delays slept. -/
def recoverWith (attempt : X → Except PersistError Unit × X) (postRecovery : X → X)
    (policy : RecoveryFailurePolicy) (x : X) : Except PersistError Unit × X × List Nat :=
  match attempt x with
  | (.ok (), x') => (.ok (), x', [])
  | (.error e, x') =>
    match policy with
    | .stop => (.error e, x', [])
    | .retry maxAttempts initialDelay =>
      -- `for _ in 1..attempts`
      retry attempt EventSourced.nextDelay e ((maxAttempts.getD 3).toNat - 1) initialDelay x'
    | .skipAndStart => (.ok (), postRecovery x', [])

/-- `recover_durable_state`. -/
def DurableState.recoverDurableState (D : DurableState A) (storage : StateStorage σ) (a : A)
    (st : σ) : Except PersistError Unit × (A × σ) × List Nat :=
  recoverWith (fun x => D.recoverDurableStateInner storage x.1 x.2)
    (fun x => (D.postRecovery x.1, x.2)) (D.recoveryFailurePolicy a) (a, st)

namespace EventSourced

variable (I : EventSourced A E) (J : JournalStorage σ) (Sn : SnapshotStorage σ)

/-- An attempt of `recover_event_sourced`. -/
def attempt (x : A × σ) : Except PersistError Unit × A × σ :=
  I.recoverEventSourcedInner J Sn x.1 x.2

theorem retryRecovery_eq (e : PersistError) (n delay : Nat) (a : A) (st : σ) :
    I.retryRecovery J Sn e n delay a st =
      ((retry (I.attempt J Sn) nextDelay e n delay (a, st)).1,
        (retry (I.attempt J Sn) nextDelay e n delay (a, st)).2.1.1,
        (retry (I.attempt J Sn) nextDelay e n delay (a, st)).2.1.2,
        (retry (I.attempt J Sn) nextDelay e n delay (a, st)).2.2) := by
  induction n generalizing delay a st with
  | zero => rfl
  | succ n ih =>
      rcases h : I.recoverEventSourcedInner J Sn a st with ⟨e' | ⟨⟩, a', st'⟩
      · have hatt : I.attempt J Sn (a, st) = (.error e', a', st') := h
        simp only [retryRecovery, retry, h, hatt]
        rw [ih]
      · have hatt : I.attempt J Sn (a, st) = (.ok (), a', st') := h
        simp only [retryRecovery, retry, h, hatt]

/-- `recover_event_sourced`, with the actor and the store as one state. -/
def recovery (a : A) (st : σ) : Except PersistError Unit × (A × σ) × List Nat :=
  let r := I.recoverEventSourced J Sn a st
  (r.1, (r.2.1, r.2.2.1), r.2.2.2)

/-- It is the shared text around its own attempt. -/
theorem recovery_eq (a : A) (st : σ) :
    I.recovery J Sn a st = recoverWith (I.attempt J Sn) (fun x => (I.postRecovery x.1, x.2))
      (I.recoveryFailurePolicy a) (a, st) := by
  rcases h : I.recoverEventSourcedInner J Sn a st with ⟨e | ⟨⟩, a', st'⟩
  · have hatt : I.attempt J Sn (a, st) = (.error e, a', st') := h
    simp only [recovery, recoverEventSourced, recoverWith, h, hatt]
    rcases I.recoveryFailurePolicy a with - | ⟨m, d⟩ | -
    · rfl
    · simp only [I.retryRecovery_eq J Sn]
    · rfl
  · have hatt : I.attempt J Sn (a, st) = (.ok (), a', st') := h
    simp only [recovery, recoverEventSourced, recoverWith, h, hatt]

end EventSourced

/-! ### A recovery under `Retry` -/

section Retry

variable {attempt : X → Except PersistError Unit × X}

/-- How many attempts `Retry` allows: the first, and `for _ in 1..attempts`. -/
def retryBudget (maxAttempts : Option UInt32) : Nat := (maxAttempts.getD 3).toNat - 1 + 1

/-- A recovery under `Retry`, in terms of the outcomes of its attempts. -/
structure RetrySpec (attempt : X → Except PersistError Unit × X) (maxAttempts : Option UInt32)
    (initialDelay : Nat) (x : X) (r : Except PersistError Unit × X × List Nat) : Prop where
  ok_iff : r.1 = .ok () ↔ ∃ k < retryBudget maxAttempts, outcome attempt x k = .ok ()
  error : r.1 ≠ .ok () → r.1 = outcome attempt x 0
  left : r.2.1 = before attempt x (tries attempt (retryBudget maxAttempts) x)
  slept : r.2.2 = List.iterate EventSourced.nextDelay initialDelay
    (tries attempt (retryBudget maxAttempts) x - 1)

theorem recoverWith_retry (postRecovery : X → X) (maxAttempts : Option UInt32)
    (initialDelay : Nat) (x : X) :
    RetrySpec attempt maxAttempts initialDelay x
      (recoverWith attempt postRecovery (.retry maxAttempts initialDelay) x) := by
  have hzero := outcome_zero attempt x
  rcases h : attempt x with ⟨e | ⟨⟩, x'⟩
  · rw [h] at hzero
    have hloop : recoverWith attempt postRecovery (.retry maxAttempts initialDelay) x =
        retry attempt EventSourced.nextDelay e ((maxAttempts.getD 3).toNat - 1) initialDelay
          x' := by
      simp only [recoverWith, h]
    have hleft : (retry attempt EventSourced.nextDelay e ((maxAttempts.getD 3).toNat - 1)
        initialDelay x').2 = (before attempt x' _, List.iterate EventSourced.nextDelay _ _) :=
      retry_left _ _ _
    have htries : tries attempt (retryBudget maxAttempts) x =
        tries attempt ((maxAttempts.getD 3).toNat - 1) x' + 1 := by
      simp only [retryBudget, tries, h]
    rw [hloop]
    refine ⟨?_, ?_, ?_, ?_⟩
    · rw [retry_ok_iff]
      exact (exists_ok_succ h _).symm
    · intro hne
      rw [hzero]
      exact (retry_result _ _ _).resolve_left hne
    · rw [htries, before_succ, h, hleft]
    · rw [htries, hleft]
      rfl
  · rw [h] at hzero
    have hdone : recoverWith attempt postRecovery (.retry maxAttempts initialDelay) x =
        (.ok (), x', []) := by
      simp only [recoverWith, h]
    have htries : tries attempt (retryBudget maxAttempts) x = 1 := by
      simp only [retryBudget, tries, h]
    rw [hdone]
    refine ⟨?_, ?_, ?_, ?_⟩
    · exact iff_of_true rfl ⟨0, Nat.succ_pos _, hzero⟩
    · intro hne
      exact absurd rfl hne
    · rw [htries, before_succ, h]
      rfl
    · rw [htries]
      rfl

/-! ### The budget -/

/-- **The budget of `Retry`.**  With a limit `n` the recovery succeeds when one
of the first `max 1 n` attempts does, and otherwise returns the error of the
first after exactly that many, each but the first after a sleep.  Without a
limit it succeeds when any attempt does. -/
def KeepsBudget (attempt : X → Except PersistError Unit × X) (maxAttempts : Option UInt32) (x : X)
    (r : Except PersistError Unit × X × List Nat) : Prop :=
  match maxAttempts with
  | some n =>
    (r.1 = .ok () ↔ ∃ k < max 1 n.toNat, outcome attempt x k = .ok ()) ∧
      ((∀ k < max 1 n.toNat, outcome attempt x k ≠ .ok ()) →
        r.1 = outcome attempt x 0 ∧ r.2.1 = before attempt x (max 1 n.toNat) ∧
          r.2.2.length + 1 = max 1 n.toNat)
  | none => (∃ k, outcome attempt x k = .ok ()) → r.1 = .ok ()

/-- There is a limit, or one of the first three attempts succeeds, or none
ever does. -/
def WithinThree (attempt : X → Except PersistError Unit × X) (maxAttempts : Option UInt32)
    (x : X) : Prop :=
  maxAttempts = none →
    (∃ k < 3, outcome attempt x k = .ok ()) ∨ ∀ k, outcome attempt x k ≠ .ok ()

theorem retryBudget_some (n : UInt32) : retryBudget (some n) = max 1 n.toNat := by
  simp only [retryBudget, Option.getD_some]
  omega

theorem RetrySpec.keepsBudget_iff {maxAttempts : Option UInt32} {initialDelay : Nat} {x : X}
    {r : Except PersistError Unit × X × List Nat}
    (h : RetrySpec attempt maxAttempts initialDelay x r) :
    KeepsBudget attempt maxAttempts x r ↔ WithinThree attempt maxAttempts x := by
  cases maxAttempts with
  | some n =>
      refine iff_of_true ?_ (fun hnone => by cases hnone)
      have hok := h.ok_iff
      have hleft := h.left
      have hslept := h.slept
      rw [retryBudget_some] at hok hleft hslept
      refine ⟨hok, fun hall => ?_⟩
      have hne : r.1 ≠ .ok () := by
        intro heq
        obtain ⟨k, hk, hk'⟩ := hok.mp heq
        exact hall k hk hk'
      rw [tries_of_failing hall] at hleft hslept
      refine ⟨h.error hne, hleft, ?_⟩
      rw [hslept, List.length_iterate]
      omega
  | none =>
      -- the default of `unwrap_or`
      have hok : r.1 = .ok () ↔ ∃ k < 3, outcome attempt x k = .ok () := h.ok_iff
      show ((∃ k, _) → r.1 = .ok ()) ↔ (none = none → _)
      rw [hok]
      constructor
      · intro himp _
        by_cases hany : ∃ k, outcome attempt x k = .ok ()
        · exact .inl (himp hany)
        · exact .inr (not_exists.mp hany)
      · rintro hwithin ⟨k, hk⟩
        rcases hwithin rfl with hthree | hnever
        · exact hthree
        · exact absurd hk (hnever k)

/-! ### The waits -/

/-- **Backing off.**  The waits start with the initial delay, never decrease,
and are not zero unless the initial delay is. -/
def BacksOff (initialDelay : Nat) (slept : List Nat) : Prop :=
  (∀ d ∈ slept.head?, d = initialDelay) ∧ slept.Pairwise (· ≤ ·) ∧
    (initialDelay ≠ 0 → ∀ d ∈ slept, d ≠ 0)

/-- Between one millisecond and the maximum of thirty seconds, in nanoseconds. -/
def InRange (delay : Nat) : Prop := 10 ^ 6 ≤ delay ∧ delay ≤ 30 * 10 ^ 9

/-- The policy allows no third attempt, or one of the first two succeeds. -/
def AtMostTwo (attempt : X → Except PersistError Unit × X) (maxAttempts : Option UInt32)
    (x : X) : Prop :=
  (maxAttempts.getD 3).toNat ≤ 2 ∨ ∃ k < 2, outcome attempt x k = .ok ()

theorem le_nextDelay {d : Nat} (h : InRange d) :
    d ≤ EventSourced.nextDelay d ∧ InRange (EventSourced.nextDelay d) := by
  unfold InRange at h ⊢
  unfold EventSourced.nextDelay
  omega

/-- Out of range the second wait is zero, or shorter than the first. -/
theorem inRange_of_le_nextDelay {d : Nat} (hle : d ≤ EventSourced.nextDelay d)
    (hne : EventSourced.nextDelay d ≠ 0) : InRange d := by
  unfold InRange
  unfold EventSourced.nextDelay at hle hne
  omega

/-- The waits of a loop back off when they stay in range, or are all zero, or
there is at most one. -/
theorem backsOff_iterate_iff (initialDelay n : Nat) :
    BacksOff initialDelay (List.iterate EventSourced.nextDelay initialDelay n) ↔
      n ≤ 1 ∨ initialDelay = 0 ∨ InRange initialDelay := by
  constructor
  · rintro ⟨-, hsorted, hzero⟩
    by_contra hcon
    rw [not_or, not_or] at hcon
    obtain ⟨hn, hne, hrange⟩ := hcon
    obtain ⟨m, rfl⟩ : ∃ m, n = m + 2 := ⟨n - 2, by omega⟩
    -- the first two waits are enough to tell
    have hmem : EventSourced.nextDelay initialDelay ∈
        List.iterate EventSourced.nextDelay (EventSourced.nextDelay initialDelay) (m + 1) :=
      List.mem_cons_self
    exact hrange (inRange_of_le_nextDelay ((List.pairwise_cons.mp hsorted).1 _ hmem)
      (hzero hne _ (List.mem_cons_of_mem _ hmem)))
  · have hhead : ∀ d ∈ (List.iterate EventSourced.nextDelay initialDelay n).head?,
        d = initialDelay := by
      intro d hd
      cases n with
      | zero => cases hd
      | succ n => exact (Option.mem_some_iff.mp hd).symm
    rintro (hn | rfl | hrange)
    · rcases Nat.le_one_iff_eq_zero_or_eq_one.mp hn with rfl | rfl
      · exact ⟨hhead, List.Pairwise.nil, fun _ d hd => by cases hd⟩
      · refine ⟨hhead, List.pairwise_singleton _ _, fun hne d hd => ?_⟩
        rw [List.mem_singleton.mp hd]
        exact hne
    · have hgrow := iterate_increasing EventSourced.nextDelay (P := (· = 0))
        (fun d hd => by subst hd; exact ⟨le_rfl, rfl⟩) n rfl
      exact ⟨hhead, hgrow.1, fun hne => absurd rfl hne⟩
    · have hgrow := iterate_increasing _ (fun _ => le_nextDelay) n hrange
      refine ⟨hhead, hgrow.1, fun _ d hd => ?_⟩
      have := (hgrow.2 d hd).2.1
      omega

theorem RetrySpec.backsOff_iff {maxAttempts : Option UInt32} {initialDelay : Nat} {x : X}
    {r : Except PersistError Unit × X × List Nat}
    (h : RetrySpec attempt maxAttempts initialDelay x r) :
    BacksOff initialDelay r.2.2 ↔
      AtMostTwo attempt maxAttempts x ∨ initialDelay = 0 ∨ InRange initialDelay := by
  rw [h.slept, backsOff_iterate_iff]
  refine or_congr_left ?_
  -- a second wait comes before a third attempt
  have hthird := lt_tries_iff attempt 2 (retryBudget maxAttempts) x
  have hbudget : 2 < retryBudget maxAttempts ↔ ¬ (maxAttempts.getD 3).toNat ≤ 2 := by
    rw [retryBudget]
    omega
  constructor
  · intro hle
    by_contra hcon
    rw [AtMostTwo, not_or, not_exists] at hcon
    have : 2 < tries attempt (retryBudget maxAttempts) x :=
      hthird.mpr ⟨hbudget.mpr hcon.1, fun k hk hok => hcon.2 k ⟨hk, hok⟩⟩
    omega
  · intro htwo
    by_contra hcon
    obtain ⟨hlt, hfail⟩ := hthird.mp (by omega)
    rcases htwo with hmax | ⟨k, hk, hok⟩
    · exact hbudget.mp hlt hmax
    · exact hfail k hk hok

end Retry

/-! ### The two recoveries -/

/-- An attempt of `recover_durable_state`. -/
def DurableState.attempt (D : DurableState A) (storage : StateStorage σ) (x : A × σ) :
    Except PersistError Unit × A × σ :=
  D.recoverDurableStateInner storage x.1 x.2

theorem EventSourced.recovery_retry (I : EventSourced A E) (J : JournalStorage σ)
    (Sn : SnapshotStorage σ) {a : A} {maxAttempts : Option UInt32} {initialDelay : Nat}
    (h : I.recoveryFailurePolicy a = .retry maxAttempts initialDelay) (st : σ) :
    RetrySpec (I.attempt J Sn) maxAttempts initialDelay (a, st) (I.recovery J Sn a st) := by
  rw [I.recovery_eq J Sn, h]
  exact recoverWith_retry _ maxAttempts initialDelay (a, st)

theorem DurableState.recover_retry (D : DurableState A) (storage : StateStorage σ) {a : A}
    {maxAttempts : Option UInt32} {initialDelay : Nat}
    (h : D.recoveryFailurePolicy a = .retry maxAttempts initialDelay) (st : σ) :
    RetrySpec (D.attempt storage) maxAttempts initialDelay (a, st)
      (D.recoverDurableState storage a st) := by
  rw [DurableState.recoverDurableState, h]
  exact recoverWith_retry _ maxAttempts initialDelay (a, st)

/-! ### Two actors -/

def Faulty.stateStorage (S : StateStorage σ) : StateStorage (Faulty σ) where
  saveState pid payload := call (S.saveState pid payload)
  loadState pid := call (S.loadState pid)
  deleteState pid := call (S.deleteState pid)

/-- A durable actor whose state is one byte. -/
def durableByte (policy : RecoveryFailurePolicy) : DurableState UInt8 where
  persistenceId _ := ⟨"Config:1"⟩
  preRecovery a := a
  postRecovery a := a
  recoveryFailurePolicy _ := policy
  restoreState a payload :=
    match payload with
    | [b] => (.ok (), b)
    | _ => (.error (.serializationFailed "bad length"), a)

/-- An empty store whose next `n` calls fail. -/
def downFor (n : Nat) : Faulty InMemoryStorage :=
  ⟨.new, List.replicate n (some (.storageUnavailable "down"))⟩

/-- **`Retry` keeps to its budget** in either recovery, whatever the outcomes
of the attempts, exactly when there is a limit, or one of the first three
attempts succeeds, or none ever would. -/
theorem retry_budget_iff :
    (∀ (I : EventSourced A E) (J : JournalStorage σ) (Sn : SnapshotStorage σ) (a : A) (st : σ)
      (maxAttempts : Option UInt32) (initialDelay : Nat),
      I.recoveryFailurePolicy a = .retry maxAttempts initialDelay →
        (KeepsBudget (I.attempt J Sn) maxAttempts (a, st) (I.recovery J Sn a st) ↔
          WithinThree (I.attempt J Sn) maxAttempts (a, st))) ∧
    (∀ (D : DurableState A) (storage : StateStorage σ) (a : A) (st : σ)
      (maxAttempts : Option UInt32) (initialDelay : Nat),
      D.recoveryFailurePolicy a = .retry maxAttempts initialDelay →
        (KeepsBudget (D.attempt storage) maxAttempts (a, st)
            (D.recoverDurableState storage a st) ↔
          WithinThree (D.attempt storage) maxAttempts (a, st))) := by
  constructor
  · intro I J Sn a st maxAttempts initialDelay h
    exact (I.recovery_retry J Sn h st).keepsBudget_iff
  · intro D storage a st maxAttempts initialDelay h
    exact (D.recover_retry storage h st).keepsBudget_iff

/-- Two attempts allowed, the first one fails. -/
theorem retry_budget_twice :
    KeepsBudget ((counterActor (.retry (some 2) 5)).attempt
        (Faulty.journalStorage InMemoryStorage.journalStorage)
        (Faulty.snapshotStorage InMemoryStorage.snapshotStorage)) (some 2)
      (CounterActor.new, downFor 1)
      ((counterActor (.retry (some 2) 5)).recovery
        (Faulty.journalStorage InMemoryStorage.journalStorage)
        (Faulty.snapshotStorage InMemoryStorage.snapshotStorage) CounterActor.new (downFor 1)) ∧
    KeepsBudget ((durableByte (.retry (some 2) 5)).attempt
        (Faulty.stateStorage InMemoryStorage.stateStorage)) (some 2) (7, downFor 1)
      ((durableByte (.retry (some 2) 5)).recoverDurableState
        (Faulty.stateStorage InMemoryStorage.stateStorage) 7 (downFor 1)) := by
  constructor
  · apply (retry_budget_iff.1 _ _ _ _ _ (some 2) 5 rfl).mpr
    intro h
    cases h
  · apply ((retry_budget_iff (E := Unit)).2 _ _ _ _ (some 2) 5 rfl).mpr
    intro h
    cases h

/-- Without a limit, and a store that is back for the fourth attempt. -/
theorem retry_gives_up :
    ¬ KeepsBudget ((counterActor (.retry none 5)).attempt
        (Faulty.journalStorage InMemoryStorage.journalStorage)
        (Faulty.snapshotStorage InMemoryStorage.snapshotStorage)) none
      (CounterActor.new, downFor 3)
      ((counterActor (.retry none 5)).recovery
        (Faulty.journalStorage InMemoryStorage.journalStorage)
        (Faulty.snapshotStorage InMemoryStorage.snapshotStorage) CounterActor.new (downFor 3)) ∧
    ¬ KeepsBudget ((durableByte (.retry none 5)).attempt
        (Faulty.stateStorage InMemoryStorage.stateStorage)) none (7, downFor 3)
      ((durableByte (.retry none 5)).recoverDurableState
        (Faulty.stateStorage InMemoryStorage.stateStorage) 7 (downFor 3)) := by
  constructor
  · intro h
    cases h ⟨3, rfl⟩
  · intro h
    cases h ⟨3, rfl⟩

/-- **The waits of `Retry` back off** in either recovery, whatever the initial
delay and the outcomes of the attempts, exactly when no third attempt is made,
or the initial delay is zero, or it lies between one millisecond and thirty
seconds. -/
theorem backoff_iff :
    (∀ (I : EventSourced A E) (J : JournalStorage σ) (Sn : SnapshotStorage σ) (a : A) (st : σ)
      (maxAttempts : Option UInt32) (initialDelay : Nat),
      I.recoveryFailurePolicy a = .retry maxAttempts initialDelay →
        (BacksOff initialDelay (I.recoverEventSourced J Sn a st).2.2.2 ↔
          AtMostTwo (I.attempt J Sn) maxAttempts (a, st) ∨ initialDelay = 0 ∨
            InRange initialDelay)) ∧
    (∀ (D : DurableState A) (storage : StateStorage σ) (a : A) (st : σ)
      (maxAttempts : Option UInt32) (initialDelay : Nat),
      D.recoveryFailurePolicy a = .retry maxAttempts initialDelay →
        (BacksOff initialDelay (D.recoverDurableState storage a st).2.2 ↔
          AtMostTwo (D.attempt storage) maxAttempts (a, st) ∨ initialDelay = 0 ∨
            InRange initialDelay)) := by
  constructor
  · intro I J Sn a st maxAttempts initialDelay h
    exact (I.recovery_retry J Sn h st).backsOff_iff
  · intro D storage a st maxAttempts initialDelay h
    exact (D.recover_retry storage h st).backsOff_iff

/-- Twenty milliseconds, and a store that is down for five attempts. -/
theorem backoff_twentyMillis :
    BacksOff (20 * 10 ^ 6) ((counterActor (.retry (some 5) (20 * 10 ^ 6))).recoverEventSourced
        (Faulty.journalStorage InMemoryStorage.journalStorage)
        (Faulty.snapshotStorage InMemoryStorage.snapshotStorage) CounterActor.new
        (downFor 5)).2.2.2 ∧
    BacksOff (20 * 10 ^ 6) ((durableByte (.retry (some 5) (20 * 10 ^ 6))).recoverDurableState
        (Faulty.stateStorage InMemoryStorage.stateStorage) 7 (downFor 5)).2.2 := by
  constructor
  · apply (backoff_iff.1 _ _ _ _ _ (some 5) _ rfl).mpr
    exact .inr (.inr ⟨by decide, by decide⟩)
  · apply ((backoff_iff (E := Unit)).2 _ _ _ _ (some 5) _ rfl).mpr
    exact .inr (.inr ⟨by decide, by decide⟩)

/-- Half a millisecond is followed by nothing, a minute by half a minute. -/
theorem backoff_fails :
    ¬ BacksOff 500000 ((counterActor (.retry (some 3) 500000)).recoverEventSourced
        (Faulty.journalStorage InMemoryStorage.journalStorage)
        (Faulty.snapshotStorage InMemoryStorage.snapshotStorage) CounterActor.new
        (downFor 3)).2.2.2 ∧
    ¬ BacksOff (60 * 10 ^ 9) ((durableByte (.retry (some 3) (60 * 10 ^ 9))).recoverDurableState
        (Faulty.stateStorage InMemoryStorage.stateStorage) 7 (downFor 3)).2.2 := by
  constructor
  · have hslept : ((counterActor (.retry (some 3) 500000)).recoverEventSourced
        (Faulty.journalStorage InMemoryStorage.journalStorage)
        (Faulty.snapshotStorage InMemoryStorage.snapshotStorage) CounterActor.new
        (downFor 3)).2.2.2 = [500000, 0] := by decide
    rw [hslept]
    rintro ⟨-, hsorted, -⟩
    revert hsorted
    decide
  · have hslept : ((durableByte (.retry (some 3) (60 * 10 ^ 9))).recoverDurableState
        (Faulty.stateStorage InMemoryStorage.stateStorage) 7 (downFor 3)).2.2 =
          [60 * 10 ^ 9, 30 * 10 ^ 9] := by decide
    rw [hslept]
    rintro ⟨-, hsorted, -⟩
    revert hsorted
    decide

end Dactor
