/-
Dactor/SharedBreaker.lean

A circuit breaker shared between concurrent deliveries.

The interceptor's map is behind a mutex, so each `on_receive` and each
`on_complete` is one step; between the two of one message any number of
calls for other messages may come.  A completion carries no identity: the
interceptor sees an actor id and an outcome.  The model keeps, beside the
map, which admitted messages are in flight and which of them were admitted
as the probe of which half-open period.

Main result: `probe_decides_iff`.  Only its probe ends a half-open period,
and no two probes of an actor are in flight, along a run exactly if no
message that was admitted while the circuit was closed completes while it is
half-open.
-/
import Dactor.CircuitBreaker

namespace Dactor

open Runs CircuitBreakerInterceptor

variable {R : Type}

/-! ### The shared interceptor -/

/-- An admitted message: the half-open period it was admitted as the probe
of, or `none` if the circuit was closed. -/
structure Admitted where
  ctx : InboundContext
  probeOf : Option Nat
  deriving DecidableEq

/-- The half-open period of the actor that the message is the probe of. -/
def Admitted.probeFor (id : ActorId) (m : Admitted) : Option Nat :=
  if m.ctx.actorId = id then m.probeOf else none

/-- The interceptor's map, the number of half-open periods each circuit has
had, and the admitted messages that have not completed yet. -/
structure SharedBreaker where
  states : CircuitStates
  periods : ActorId → Nat
  inFlight : List Admitted

/-- A call of the interceptor; a completion is that of the `i`-th message in
flight. -/
inductive BreakerCall (R : Type)
  | onReceive (ctx : InboundContext) (now : Nat)
  | onComplete (i : Nat) (outcome : Outcome R) (now : Nat)

namespace SharedBreaker

def start : SharedBreaker := ⟨fun _ => none, fun _ => 0, []⟩

/-- The half-open periods after a call that leads to `states`. -/
def countPeriod (s : SharedBreaker) (id : ActorId) (states : CircuitStates) : ActorId → Nat :=
  if stateFor s.states id ≠ .halfOpen ∧ stateFor states id = .halfOpen then
    Function.update s.periods id (s.periods id + 1)
  else s.periods

def step (cb : CircuitBreakerInterceptor) (s : SharedBreaker) : BreakerCall R → SharedBreaker
  | .onReceive ctx now =>
    let r := cb.onReceive ctx now s.states
    let periods := s.countPeriod ctx.actorId r.2
    match r.1 with
    | .continued =>
      let probeOf :=
        if stateFor r.2 ctx.actorId = .halfOpen then some (periods ctx.actorId) else none
      ⟨r.2, periods, s.inFlight ++ [⟨ctx, probeOf⟩]⟩
    | _ => ⟨r.2, periods, s.inFlight⟩
  | .onComplete i outcome now =>
    match s.inFlight[i]? with
    | none => s
    | some m =>
      { s with states := cb.onComplete m.ctx outcome now s.states
               inFlight := s.inFlight.eraseIdx i }

/-- The half-open periods of the actor whose probe is in flight. -/
def probesOf (s : SharedBreaker) (id : ActorId) : List Nat :=
  s.inFlight.filterMap (Admitted.probeFor id)

/-- A circuit leaves the half-open state only at the completion of the
message that was admitted as the probe of that period. -/
def ProbeDecides (cb : CircuitBreakerInterceptor) (s : SharedBreaker) (call : BreakerCall R) :
    Prop :=
  ∀ id, stateFor s.states id = .halfOpen → stateFor (s.step cb call).states id ≠ .halfOpen →
    ∃ i outcome now m, call = .onComplete i outcome now ∧ s.inFlight[i]? = some m ∧
      m.ctx.actorId = id ∧ m.probeOf = some (s.periods id)

/-- At most one probe of each actor is in flight. -/
def OneProbe (s : SharedBreaker) : Prop := ∀ id, (s.probesOf id).length ≤ 1

/-- A message that was admitted while the circuit was closed does not
complete while it is half-open. -/
def NoLateCompletion (s : SharedBreaker) : BreakerCall R → Prop
  | .onReceive .. => True
  | .onComplete i _ _ =>
    ∀ m, s.inFlight[i]? = some m → m.probeOf = none →
      stateFor s.states m.ctx.actorId ≠ .halfOpen

/-! ### One call -/

/-- What `on_receive` does to an entry. -/
theorem receive_cases (cb : CircuitBreakerInterceptor) (name : String) (now : Nat)
    (entry : CircuitBreakerState) :
    (entry.state = .closed ∧ cb.receive name now entry = (.continued, entry)) ∨
    (entry.state = .opened ∧ cb.receive name now entry
      = (.continued, { entry with state := .halfOpen, probeInFlight := true })) ∨
    (entry.state = .halfOpen ∧ entry.probeInFlight = false ∧ cb.receive name now entry
      = (.continued, { entry with probeInFlight := true })) ∨
    cb.receive name now entry = (rejection name, entry) := by
  rcases hs : entry.state with - | - | -
  · exact .inl ⟨rfl, by simp [receive, hs]⟩
  · rcases ht : entry.openedAt with - | t₀
    · right; right; right
      simp [receive, hs, ht]
    · by_cases hcool : cb.cooldown ≤ durationSince now t₀
      · right; left
        exact ⟨rfl, by simp [receive, hs, ht, hcool]⟩
      · right; right; right
        simp [receive, hs, ht, hcool]
  · rcases hp : entry.probeInFlight with - | -
    · right; right; left
      exact ⟨rfl, rfl, by simp [receive, hs, hp]⟩
    · right; right; right
      simp [receive, hs, hp]

/-- Whatever the outcome, a completion leaves no circuit half-open. -/
theorem complete_state_ne (cb : CircuitBreakerInterceptor) (isError : Bool) (now : Nat)
    (entry : CircuitBreakerState) : (cb.complete isError now entry).state ≠ .halfOpen := by
  rcases hs : entry.state with - | - | -
  · cases isError with
    | false => simp [complete, hs]
    | true =>
        rw [complete_closed_error hs]
        split
        · simp
        · simp [hs]
  · cases isError <;> simp [complete, hs, CircuitBreakerState.recordError,
      CircuitBreakerState.pruneErrors]
  · cases isError <;> simp [complete, hs, CircuitBreakerState.recordError,
      CircuitBreakerState.pruneErrors]

/-- A call that changes nothing for the actor. -/
structure SameFor (id : ActorId) (s s' : SharedBreaker) : Prop where
  entry : s'.states.entry id = s.states.entry id
  period : s'.periods id = s.periods id
  probes : s'.probesOf id = s.probesOf id

/-- A call that starts a half-open period of the actor with its probe. -/
structure Probes (id : ActorId) (s s' : SharedBreaker) : Prop where
  opened : (s.states.entry id).state = .opened
  state : (s'.states.entry id).state = .halfOpen
  marked : (s'.states.entry id).probeInFlight = true
  probes : s'.probesOf id = s.probesOf id ++ [s'.periods id]

/-- A half-open circuit waits for the one probe of its period; no other
probe is in flight. -/
structure Orderly (s : SharedBreaker) : Prop where
  marked : ∀ id, (s.states.entry id).state = .halfOpen →
    (s.states.entry id).probeInFlight = true
  probes : ∀ id, s.probesOf id
    = if (s.states.entry id).state = .halfOpen then [s.periods id] else []

theorem filterMap_concat (id : ActorId) (l : List Admitted) (m : Admitted) :
    (l ++ [m]).filterMap (Admitted.probeFor id)
      = l.filterMap (Admitted.probeFor id) ++ (m.probeFor id).toList := by
  rw [List.filterMap_append]
  rcases h : m.probeFor id with - | p <;> simp [h]

theorem probeFor_of_ne {id : ActorId} {m : Admitted} (h : id ≠ m.ctx.actorId) :
    m.probeFor id = none :=
  if_neg (Ne.symm h)

theorem probeFor_self (m : Admitted) : m.probeFor m.ctx.actorId = m.probeOf := if_pos rfl

theorem entry_update_self (states : CircuitStates) (id id' : ActorId) :
    CircuitStates.entry (Function.update states id (some (states.entry id))) id'
      = states.entry id' := by
  by_cases h : id' = id
  · subst h
    exact CircuitStates.entry_update ..
  · exact CircuitStates.entry_update_of_ne _ _ h

/-- `on_receive` that leaves the entry as it is, whether the message is
admitted by a closed circuit or turned away. -/
theorem step_onReceive_same (cb : CircuitBreakerInterceptor) {s : SharedBreaker}
    {ctx : InboundContext} {now : Nat} {d : Disposition}
    (hr : cb.receive ctx.actorName now (s.states.entry ctx.actorId)
      = (d, s.states.entry ctx.actorId))
    (hd : d = .continued → (s.states.entry ctx.actorId).state ≠ .halfOpen) (id : ActorId) :
    SameFor id s (s.step cb (.onReceive (R := R) ctx now)) := by
  have hrecv : cb.onReceive ctx now s.states = (d, Function.update s.states ctx.actorId
      (some (s.states.entry ctx.actorId))) := by rw [onReceive, hr]
  have hstate : ∀ id', stateFor (Function.update s.states ctx.actorId
      (some (s.states.entry ctx.actorId))) id' = stateFor s.states id' := by
    intro id'
    rw [stateFor_eq, stateFor_eq, entry_update_self]
  have hperiod : s.countPeriod ctx.actorId (Function.update s.states ctx.actorId
      (some (s.states.entry ctx.actorId))) = s.periods := by
    rw [countPeriod, hstate]
    exact if_neg fun hboth => hboth.1 hboth.2
  have hsame : ∀ more : List Admitted, (∀ m ∈ more, m.probeFor id = none) →
      SameFor id s ⟨Function.update s.states ctx.actorId (some (s.states.entry ctx.actorId)),
        s.periods, s.inFlight ++ more⟩ := by
    intro more hmore
    refine ⟨entry_update_self .., rfl, ?_⟩
    show (s.inFlight ++ more).filterMap _ = s.inFlight.filterMap _
    rw [List.filterMap_append, List.filterMap_eq_nil_iff.mpr hmore, List.append_nil]
  simp only [step, hrecv, hperiod]
  split
  · -- a message admitted by a circuit that is not half-open is no probe
    have hclosed : stateFor s.states ctx.actorId ≠ .halfOpen := by
      rw [stateFor_eq]
      exact hd rfl
    apply hsame
    intro m hm
    rw [List.mem_singleton.mp hm, hstate, if_neg hclosed]
    simp [Admitted.probeFor]
  · have := hsame [] (by simp)
    rwa [List.append_nil] at this

/-- `on_receive` on an open circuit whose cooldown is over. -/
theorem step_onReceive_probe (cb : CircuitBreakerInterceptor) {s : SharedBreaker}
    {ctx : InboundContext} {now : Nat} (hs : (s.states.entry ctx.actorId).state = .opened)
    (hr : cb.receive ctx.actorName now (s.states.entry ctx.actorId)
      = (.continued, { s.states.entry ctx.actorId with state := .halfOpen, probeInFlight := true }))
    (id : ActorId) :
    SameFor id s (s.step cb (.onReceive (R := R) ctx now)) ∨
      Probes id s (s.step cb (.onReceive (R := R) ctx now)) := by
  generalize hnew : { s.states.entry ctx.actorId with
    state := CircuitState.halfOpen, probeInFlight := true } = entry at hr
  have hhalf : entry.state = .halfOpen := by rw [← hnew]
  have hrecv : cb.onReceive ctx now s.states
      = (.continued, Function.update s.states ctx.actorId (some entry)) := by
    rw [onReceive, hr]
  have hstate : stateFor (Function.update s.states ctx.actorId (some entry)) ctx.actorId
      = .halfOpen := by rw [stateFor_eq, CircuitStates.entry_update, hhalf]
  have hperiod : s.countPeriod ctx.actorId (Function.update s.states ctx.actorId (some entry))
      = Function.update s.periods ctx.actorId (s.periods ctx.actorId + 1) := by
    rw [countPeriod, hstate, stateFor_eq, hs]
    rfl
  simp only [step, hrecv, hperiod, hstate, if_true]
  by_cases hid : id = ctx.actorId
  · subst hid
    right
    refine ⟨hs, ?_, ?_, ?_⟩
    · rw [CircuitStates.entry_update, hhalf]
    · rw [CircuitStates.entry_update, ← hnew]
    · show (s.inFlight ++ [_]).filterMap _ = _
      rw [filterMap_concat, Admitted.probeFor, if_pos rfl]
      rfl
  · left
    refine ⟨CircuitStates.entry_update_of_ne _ _ hid, Function.update_of_ne hid .., ?_⟩
    show (s.inFlight ++ [_]).filterMap _ = s.inFlight.filterMap _
    rw [filterMap_concat, probeFor_of_ne hid]
    exact List.append_nil _

/-- `on_receive` while every half-open circuit waits for its probe: nothing
changes for any actor, but for one whose cooldown is over. -/
theorem Orderly.step_onReceive (cb : CircuitBreakerInterceptor) {s : SharedBreaker}
    (h : s.Orderly) (ctx : InboundContext) (now : Nat) (id : ActorId) :
    SameFor id s (s.step cb (.onReceive (R := R) ctx now)) ∨
      Probes id s (s.step cb (.onReceive (R := R) ctx now)) := by
  rcases receive_cases cb ctx.actorName now (s.states.entry ctx.actorId) with
    ⟨hs, hr⟩ | ⟨hs, hr⟩ | ⟨hs, hp, -⟩ | hr
  · exact .inl (step_onReceive_same cb hr (fun _ => by simp [hs]) id)
  · exact step_onReceive_probe cb hs hr id
  · -- a half-open circuit without a probe
    have hmarked := h.marked ctx.actorId hs
    rw [hp] at hmarked
    cases hmarked
  · exact .inl (step_onReceive_same cb hr (fun hd => by cases hd) id)

theorem exists_split {l : List Admitted} {i : Nat} {m : Admitted} (h : l[i]? = some m) :
    ∃ pre post, l = pre ++ m :: post ∧ l.eraseIdx i = pre ++ post := by
  obtain ⟨hi, rfl⟩ := List.getElem?_eq_some_iff.mp h
  refine ⟨l.take i, l.drop (i + 1), ?_, List.eraseIdx_eq_take_drop_succ l i⟩
  rw [List.cons_getElem_drop_succ, List.take_append_drop]

/-- `on_complete` of a message in flight: for its own actor the circuit is
not half-open afterwards and the message is gone; nothing changes for the
others. -/
theorem step_onComplete (cb : CircuitBreakerInterceptor) {s : SharedBreaker} {i : Nat}
    {m : Admitted} (hm : s.inFlight[i]? = some m) (outcome : Outcome R) (now : Nat) :
    (∀ id, id ≠ m.ctx.actorId → SameFor id s (s.step cb (.onComplete i outcome now))) ∧
      ((s.step cb (.onComplete i outcome now)).states.entry m.ctx.actorId).state ≠ .halfOpen ∧
      ∃ pre post, s.probesOf m.ctx.actorId = pre ++ m.probeOf.toList ++ post ∧
        (s.step cb (.onComplete i outcome now)).probesOf m.ctx.actorId = pre ++ post := by
  obtain ⟨pre, post, hsplit, herase⟩ := exists_split hm
  simp only [step, hm]
  have hprobes : ∀ id, s.probesOf id = pre.filterMap (Admitted.probeFor id)
      ++ (m.probeFor id).toList ++ post.filterMap (Admitted.probeFor id) := by
    intro id
    rw [probesOf, hsplit, List.append_cons, List.filterMap_append, filterMap_concat]
  refine ⟨fun id hid => ⟨?_, rfl, ?_⟩, ?_, pre.filterMap (Admitted.probeFor m.ctx.actorId),
    post.filterMap (Admitted.probeFor m.ctx.actorId), ?_, ?_⟩
  · rw [onComplete, CircuitStates.entry_update_of_ne _ _ hid]
  · rw [hprobes, probeFor_of_ne hid]
    show (s.inFlight.eraseIdx i).filterMap _ = _
    rw [herase, List.filterMap_append]
    simp
  · rw [onComplete, CircuitStates.entry_update]
    exact complete_state_ne cb _ _ _
  · rw [hprobes, probeFor_self]
  · show (s.inFlight.eraseIdx i).filterMap _ = _
    rw [herase, List.filterMap_append]

/-! ### Runs -/

theorem Orderly.start : SharedBreaker.start.Orderly :=
  ⟨fun _ h => (by cases h), fun _ => rfl⟩

theorem SameFor.orderly {id : ActorId} {s s' : SharedBreaker} (h : SameFor id s s')
    (hs : s.Orderly) :
    ((s'.states.entry id).state = .halfOpen → (s'.states.entry id).probeInFlight = true) ∧
      s'.probesOf id = if (s'.states.entry id).state = .halfOpen then [s'.periods id] else [] := by
  rw [h.entry, h.period, h.probes]
  exact ⟨hs.marked id, hs.probes id⟩

theorem Orderly.probes_nil {s : SharedBreaker} (h : s.Orderly) {id : ActorId}
    (hs : (s.states.entry id).state ≠ .halfOpen) : s.probesOf id = [] := by
  rw [h.probes id, if_neg hs]

/-- The completion of a message takes its probe, if there is one, out of
flight. -/
theorem Orderly.probes_nil_of_complete {s : SharedBreaker} (h : s.Orderly) {m : Admitted}
    {pre post : List Nat} (hprobes : s.probesOf m.ctx.actorId = pre ++ m.probeOf.toList ++ post)
    (hlate : m.probeOf = none → (s.states.entry m.ctx.actorId).state ≠ .halfOpen) :
    pre ++ post = [] := by
  by_cases hs : (s.states.entry m.ctx.actorId).state = .halfOpen
  · -- the message is the only probe
    obtain ⟨p, hp⟩ := Option.ne_none_iff_exists'.mp fun hnone => hlate hnone hs
    have hlen := congrArg List.length hprobes
    rw [h.probes, if_pos hs, hp] at hlen
    simp only [List.length_append, Option.toList_some, List.length_singleton] at hlen
    rw [← List.length_eq_zero_iff, List.length_append]
    omega
  · rw [h.probes_nil hs, eq_comm, List.append_assoc, List.append_eq_nil_iff,
      List.append_eq_nil_iff] at hprobes
    rw [hprobes.1, hprobes.2.2]
    rfl

theorem Orderly.step (cb : CircuitBreakerInterceptor) {s : SharedBreaker} (call : BreakerCall R)
    (hcall : s.NoLateCompletion call) (h : s.Orderly) : (s.step cb call).Orderly := by
  have hall : ∀ id, (((s.step cb call).states.entry id).state = .halfOpen →
      ((s.step cb call).states.entry id).probeInFlight = true) ∧
      (s.step cb call).probesOf id = if ((s.step cb call).states.entry id).state = .halfOpen
        then [(s.step cb call).periods id] else [] := by
    intro id
    cases call with
    | onReceive ctx now =>
        rcases h.step_onReceive cb ctx now id with hsame | hprobe
        · exact hsame.orderly h
        · refine ⟨fun _ => hprobe.marked, ?_⟩
          have hnone : s.probesOf id = [] := h.probes_nil (by simp [hprobe.opened])
          rw [if_pos hprobe.state, hprobe.probes, hnone, List.nil_append]
    | onComplete i outcome now =>
        rcases hm : s.inFlight[i]? with - | m
        · simp only [SharedBreaker.step, hm]
          exact ⟨h.marked id, h.probes id⟩
        · obtain ⟨hother, hstate, pre, post, hbefore, hafter⟩ := step_onComplete cb hm outcome now
          by_cases hid : id = m.ctx.actorId
          · subst hid
            refine ⟨fun hhalf => absurd hhalf hstate, ?_⟩
            rw [if_neg hstate, hafter]
            refine h.probes_nil_of_complete hbefore fun hnone => ?_
            rw [← stateFor_eq]
            exact hcall m hm hnone
          · exact (hother id hid).orderly h
  exact ⟨fun id => (hall id).1, fun id => (hall id).2⟩

theorem Orderly.oneProbe {s : SharedBreaker} (h : s.Orderly) : s.OneProbe := by
  intro id
  rw [h.probes id]
  split
  · exact Nat.le_refl 1
  · exact Nat.zero_le 1

/-- In an orderly state, a call ends a half-open period only with its probe
exactly if it is no late completion. -/
theorem Orderly.probeDecides_iff (cb : CircuitBreakerInterceptor) {s : SharedBreaker}
    (call : BreakerCall R) (h : s.Orderly) : s.ProbeDecides cb call ↔ s.NoLateCompletion call := by
  cases call with
  | onReceive ctx now =>
      refine iff_of_true ?_ trivial
      intro id hhalf hleft
      rw [stateFor_eq] at hhalf hleft
      rcases h.step_onReceive (R := R) cb ctx now id with hsame | hprobe
      · rw [hsame.entry] at hleft
        exact absurd hhalf hleft
      · exact absurd hprobe.state hleft
  | onComplete i outcome now =>
      constructor
      · intro hdecides m hm hnone hhalf
        -- any completion ends the half-open period of its circuit
        have hleft : stateFor (s.step cb (.onComplete i outcome now)).states m.ctx.actorId
            ≠ .halfOpen := by
          rw [stateFor_eq]
          exact (step_onComplete cb hm outcome now).2.1
        obtain ⟨i', _, _, m', hcall, hm', -, hprobe⟩ := hdecides _ hhalf hleft
        cases hcall
        rw [hm, Option.some.injEq] at hm'
        subst hm'
        rw [hnone] at hprobe
        cases hprobe
      · intro hlate id hhalf hleft
        rcases hm : s.inFlight[i]? with - | m
        · simp only [SharedBreaker.step, hm] at hleft
          exact absurd hhalf hleft
        · obtain ⟨hother, -, pre, post, hbefore, -⟩ := step_onComplete cb hm outcome now
          by_cases hid : id = m.ctx.actorId
          · subst hid
            refine ⟨i, outcome, now, m, rfl, hm, rfl, ?_⟩
            obtain ⟨p, hp⟩ := Option.ne_none_iff_exists'.mp fun hnone => hlate m hm hnone hhalf
            -- the one probe in flight is that of the current period
            rw [stateFor_eq] at hhalf
            have hmem : p ∈ s.probesOf m.ctx.actorId := by
              rw [hbefore, hp]
              simp
            rw [h.probes, if_pos hhalf, List.mem_singleton] at hmem
            rw [hp, hmem]
          · rw [stateFor_eq, (hother id hid).entry, ← stateFor_eq] at hleft
            exact absurd hhalf hleft

end SharedBreaker

open SharedBreaker

/-- **Only the probe decides a half-open circuit**, and at most one probe of
an actor is in flight, all along a run of any calls, exactly if no message
that was admitted while the circuit was closed completes while it is
half-open. -/
theorem probe_decides_iff (cb : CircuitBreakerInterceptor) (calls : List (BreakerCall R)) :
    Admissible (SharedBreaker.step cb) (ProbeDecides cb) .start calls ∧
        Always (SharedBreaker.step cb) OneProbe .start calls ↔
      Admissible (SharedBreaker.step cb) NoLateCompletion .start calls := by
  have hcongr : Admissible (SharedBreaker.step cb) (ProbeDecides cb) .start calls ↔
      Admissible (SharedBreaker.step cb) NoLateCompletion .start calls :=
    admissible_congr_of_inv (fun s call hcall h => h.step cb call hcall)
      (fun s call h => h.probeDecides_iff cb call) Orderly.start
  constructor
  · rintro ⟨hdecides, -⟩
    exact hcongr.mp hdecides
  · intro hlate
    refine ⟨hcongr.mpr hlate, ?_⟩
    have hall : Always (SharedBreaker.step cb) Orderly .start calls :=
      always_of_admissible (fun s call hcall h => h.step cb call hcall) Orderly.start hlate
    exact hall.mono fun s h => h.oneProbe

/-- A tell to the actor. -/
def workerContext : InboundContext :=
  ⟨⟨⟨"node-1"⟩, 1⟩, "worker", "Job", .tell, false, none⟩

/-- Two messages are admitted; the first fails and trips the circuit; after
the cooldown a probe is admitted, and then the second one completes. -/
def lateRun : List (BreakerCall Unit) :=
  [.onReceive workerContext 0, .onReceive workerContext 0,
    .onComplete 0 (.handlerError (.internal "boom")) 1,
    .onReceive workerContext 10, .onComplete 0 .tellSuccess 11]

theorem probe_decides_fails :
    ¬ ∀ (cb : CircuitBreakerInterceptor) (calls : List (BreakerCall Unit)),
      Admissible (SharedBreaker.step cb) (ProbeDecides cb) .start calls ∧
        Always (SharedBreaker.step cb) OneProbe .start calls := by
  intro h
  obtain ⟨hdecides, -⟩ := h ⟨1, 100, 5⟩ lateRun
  -- the message that completes last was admitted by the closed circuit
  obtain ⟨i, _, _, m, hcall, hm, -, hprobe⟩ :=
    hdecides.2.2.2.2.1 workerContext.actorId (by decide) (by decide)
  cases hcall
  have hfirst : some m = some ⟨workerContext, none⟩ := hm.symm.trans (by decide)
  rw [Option.some.inj hfirst] at hprobe
  cases hprobe

end Dactor
