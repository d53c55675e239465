/-
Dactor/HalfOpen.lean

A circuit breaker inside the interceptor pipeline of the message loop.

The breaker marks a probe as in flight in `on_receive` and clears the mark
in `on_complete`; between the two, other interceptors may veto the message
and its caller may cancel it.  The pipeline is arbitrary: any interceptors,
with any state of their own, before and after the breaker.

Main result: `noProbe_iff`.  Between two messages no probe is in flight,
all along a run, exactly if every message the breaker admits as a probe is
also completed.
-/
import Dactor.CircuitBreaker
import Dactor.MessageLoop

namespace Dactor

open Runs CircuitBreakerInterceptor

variable {τ σ A M R : Type}

/-! ### The pipeline -/

/-- The circuit breaker, next to the state `τ` of the other interceptors. -/
def CircuitBreakerInterceptor.interceptor (cb : CircuitBreakerInterceptor) :
    InboundInterceptor (CircuitStates × τ) M R where
  name := "circuit-breaker"
  onReceive ctx _ headers _ now s :=
    let r := cb.onReceive ctx now s.1
    (r.1, headers, r.2, s.2)
  onComplete ctx _ _ outcome now s := (cb.onComplete ctx outcome now s.1, s.2)
  wrapHandler _ _ s := (none, s)

/-- Another interceptor, next to the circuit breaker's map. -/
def InboundInterceptor.beside (i : InboundInterceptor τ M R) :
    InboundInterceptor (CircuitStates × τ) M R where
  name := i.name
  onReceive ctx rh headers msg now s :=
    let r := i.onReceive ctx rh headers msg now s.2
    (r.1, r.2.1, s.1, r.2.2)
  onComplete ctx rh headers outcome now s :=
    (s.1, i.onComplete ctx rh headers outcome now s.2)
  wrapHandler ctx headers s :=
    let r := i.wrapHandler ctx headers s.2
    (r.1, s.1, r.2)

/-- An actor spawned with a circuit breaker between `pre` and `post`. -/
def guarded (cb : CircuitBreakerInterceptor) (pre post : List (InboundInterceptor τ M R))
    (deadLetterHandler : Bool) (hooks : ActorHooks A) : Spawn (CircuitStates × τ) A M R where
  interceptors := pre.map InboundInterceptor.beside ++
    cb.interceptor :: post.map InboundInterceptor.beside
  deadLetterHandler := deadLetterHandler
  hooks := hooks

/-! ### Loops that leave a part of the state alone -/

theorem receiveLoop_beside (ictx : InboundContext) (m : Incoming A M R)
    (is : List (InboundInterceptor τ M R)) (n : Nat) (headers : Headers) (delay : Nat)
    (s : CircuitStates × τ) :
    (receiveLoop ictx m (is.map InboundInterceptor.beside) n headers delay s).istate.1 = s.1 := by
  induction is generalizing n headers delay s with
  | nil => rfl
  | cons i is ih =>
      rcases hr : (i.onReceive ictx m.runtimeHeaders headers m.messageAny (m.recvAt n) s.2).1
        with - | d | - | reason | after
      · simp only [List.map_cons, receiveLoop, InboundInterceptor.beside, hr]
        exact ih ..
      · simp only [List.map_cons, receiveLoop, InboundInterceptor.beside, hr]
        exact ih ..
      · simp only [List.map_cons, receiveLoop, InboundInterceptor.beside, hr]
      · simp only [List.map_cons, receiveLoop, InboundInterceptor.beside, hr]
      · simp only [List.map_cons, receiveLoop, InboundInterceptor.beside, hr]

/-- The loop over a concatenation: the second part runs if the first lets
the message through. -/
theorem receiveLoop_append (ictx : InboundContext) (m : Incoming A M R)
    (l₁ l₂ : List (InboundInterceptor σ M R)) (n : Nat) (headers : Headers) (delay : Nat) (s : σ) :
    let r₁ := receiveLoop ictx m l₁ n headers delay s
    let r₂ := receiveLoop ictx m l₂ (n + l₁.length) r₁.headers r₁.totalDelay r₁.istate
    let r := receiveLoop ictx m (l₁ ++ l₂) n headers delay s
    (r₁.rejection ≠ none → r.rejection ≠ none ∧ r.istate = r₁.istate) ∧
      (r₁.rejection = none → r.rejection = r₂.rejection ∧ r.istate = r₂.istate) := by
  induction l₁ generalizing n headers delay s with
  | nil => exact ⟨fun h => absurd rfl h, fun _ => ⟨rfl, rfl⟩⟩
  | cons i l₁ ih =>
      have hlen : n + (i :: l₁).length = n + 1 + l₁.length := by
        rw [List.length_cons]
        omega
      rcases hr : (i.onReceive ictx m.runtimeHeaders headers m.messageAny (m.recvAt n) s).1
        with - | d | - | reason | after
      · simp only [List.cons_append, receiveLoop, hr, hlen]
        exact ih ..
      · simp only [List.cons_append, receiveLoop, hr, hlen]
        exact ih ..
      · simp only [List.cons_append, receiveLoop, hr]
        exact ⟨fun h => ⟨h, trivial⟩, fun h => by cases h⟩
      · simp only [List.cons_append, receiveLoop, hr]
        exact ⟨fun h => ⟨h, trivial⟩, fun h => by cases h⟩
      · simp only [List.cons_append, receiveLoop, hr]
        exact ⟨fun h => ⟨h, trivial⟩, fun h => by cases h⟩

theorem collectHandlerWrappers_beside (ctx : InboundContext) (headers : Headers)
    (is : List (InboundInterceptor τ M R)) (s : CircuitStates × τ) :
    (collectHandlerWrappers ctx headers (is.map InboundInterceptor.beside) s).2.1 = s.1 := by
  induction is generalizing s with
  | nil => rfl
  | cons i is ih => exact ih _

theorem collectHandlerWrappers_append (ctx : InboundContext) (headers : Headers)
    (l₁ l₂ : List (InboundInterceptor σ M R)) (s : σ) :
    (collectHandlerWrappers ctx headers (l₁ ++ l₂) s).2
      = (collectHandlerWrappers ctx headers l₂ (collectHandlerWrappers ctx headers l₁ s).2).2 := by
  induction l₁ generalizing s with
  | nil => rfl
  | cons i l₁ ih => exact ih _

theorem completeLoop_beside (ictx : InboundContext) (m : Incoming A M R) (headers : Headers)
    (outcome : Outcome R) (is : List (InboundInterceptor τ M R)) (n : Nat)
    (s : CircuitStates × τ) :
    (completeLoop ictx m headers outcome (is.map InboundInterceptor.beside) n s).1.1 = s.1 := by
  induction is generalizing n s with
  | nil => rfl
  | cons i is ih => exact ih ..

theorem completeLoop_append (ictx : InboundContext) (m : Incoming A M R) (headers : Headers)
    (outcome : Outcome R) (l₁ l₂ : List (InboundInterceptor σ M R)) (n : Nat) (s : σ) :
    (completeLoop ictx m headers outcome (l₁ ++ l₂) n s).1
      = (completeLoop ictx m headers outcome l₂ (n + l₁.length)
          (completeLoop ictx m headers outcome l₁ n s).1).1 := by
  induction l₁ generalizing n s with
  | nil => rfl
  | cons i l₁ ih =>
      have hlen : n + (i :: l₁).length = n + 1 + l₁.length := by
        rw [List.length_cons]
        omega
      rw [hlen]
      exact ih ..

/-- Whatever the interceptors after the breaker do, the breaker's map is the
one it left in `on_receive`. -/
theorem receiveLoop_breaker (cb : CircuitBreakerInterceptor) (ictx : InboundContext)
    (m : Incoming A M R) (post : List (InboundInterceptor τ M R)) (n : Nat) (headers : Headers)
    (delay : Nat) (s : CircuitStates × τ) :
    (receiveLoop ictx m (cb.interceptor :: post.map InboundInterceptor.beside) n headers delay
        s).istate.1 = (cb.onReceive ictx (m.recvAt n) s.1).2 := by
  rcases hr : (cb.onReceive ictx (m.recvAt n) s.1).1 with - | d | - | reason | after
  · simp only [receiveLoop, interceptor, hr]
    exact receiveLoop_beside ..
  · simp only [receiveLoop, interceptor, hr]
    exact receiveLoop_beside ..
  · simp only [receiveLoop, interceptor, hr]
  · simp only [receiveLoop, interceptor, hr]
  · simp only [receiveLoop, interceptor, hr]

/-! ### What a message does to the breaker's map -/

/-- The interceptors before the breaker let the message through. -/
def ReachesBreaker (pre : List (InboundInterceptor τ M R)) (m : Incoming A M R)
    (s : Core (CircuitStates × τ) A) : Prop :=
  (receiveLoop (inboundContext (messageContext m s) m.toDispatch) m
    (pre.map InboundInterceptor.beside) 0 Headers.new 0 s.istate).rejection = none

/-- The message is not vetoed, and neither cancelled before its dispatch nor
while its handler is pending. -/
def Completes (sp : Spawn σ A M R) (m : Incoming A M R) (s : Core σ A) : Prop :=
  (received sp m s).rejection = none ∧ alreadyCancelled m = false ∧
    ¬ ∃ k, m.cancelToken = some (.atPoll k) ∧ k < (handlerFuture sp m s).pending.length

/-- A completed message ends in the `on_complete` loop. -/
theorem istate_body_of_completes {sp : Spawn σ A M R} {m : Incoming A M R} {s : Core σ A}
    (h : Completes sp m s) :
    ∃ outcome, (spawnInternalBody sp m s).1.istate = (completed sp m s outcome).1 := by
  obtain ⟨hr, hc, hrun⟩ := h
  have hlost : (dispatched sp m s).result ≠ .cancelled := by
    rw [Ne, (dispatched_eq sp m s).2, race_fst_iff _ hc]
    exact hrun
  rcases hd : (dispatched sp m s).result with - | (reply | -)
  · exact absurd hd hlost
  · refine ⟨m.successOutcome reply, ?_⟩
    rw [body_of_returned hr hc hd]
  · refine ⟨.handlerError handlerPanicked, ?_⟩
    rw [body_of_panicked hr hc hd]

/-- Any other message leaves the loop without it. -/
theorem istate_body_of_not_completes {sp : Spawn σ A M R} {m : Incoming A M R} {s : Core σ A}
    (h : ¬ Completes sp m s) :
    (spawnInternalBody sp m s).1.istate = (received sp m s).istate ∨
      (spawnInternalBody sp m s).1.istate = (wrappers sp m s).2 := by
  rcases hr : (received sp m s).rejection with - | ⟨name, disposition⟩
  · right
    rcases hc : alreadyCancelled m with - | -
    · have hwon : (dispatched sp m s).result = .cancelled := by
        rw [(dispatched_eq sp m s).2, race_fst_iff _ hc]
        by_contra hrun
        exact h ⟨hr, hc, hrun⟩
      rw [body_of_cancelled hr hc hwon]
    · rw [body_of_alreadyCancelled hr hc]
  · left
    rw [body_of_rejection hr]

section Guarded

variable {cb : CircuitBreakerInterceptor} {pre post : List (InboundInterceptor τ M R)}
variable {deadLetterHandler : Bool} {hooks : ActorHooks A}
variable {m : Incoming A M R} {s : Core (CircuitStates × τ) A}

theorem received_of_not_reaches (h : ¬ ReachesBreaker pre m s) :
    (received (guarded cb pre post deadLetterHandler hooks) m s).rejection ≠ none ∧
      (received (guarded cb pre post deadLetterHandler hooks) m s).istate.1 = s.istate.1 := by
  obtain ⟨hrej, hst⟩ := (receiveLoop_append
    (inboundContext (messageContext m s) m.toDispatch) m (pre.map InboundInterceptor.beside)
    (cb.interceptor :: post.map InboundInterceptor.beside) 0 Headers.new 0 s.istate).1 h
  refine ⟨hrej, ?_⟩
  rw [received, guarded, hst]
  exact receiveLoop_beside ..

variable (cb post deadLetterHandler hooks) in
theorem received_of_reaches (h : ReachesBreaker pre m s) :
    (received (guarded cb pre post deadLetterHandler hooks) m s).istate.1
      = (cb.onReceive (inboundContext (messageContext m s) m.toDispatch) (m.recvAt pre.length)
          s.istate.1).2 := by
  obtain ⟨-, hst⟩ := (receiveLoop_append
    (inboundContext (messageContext m s) m.toDispatch) m (pre.map InboundInterceptor.beside)
    (cb.interceptor :: post.map InboundInterceptor.beside) 0 Headers.new 0 s.istate).2 h
  rw [received, guarded, hst, receiveLoop_breaker, receiveLoop_beside, List.length_map,
    Nat.zero_add]

theorem wrappers_guarded :
    (wrappers (guarded cb pre post deadLetterHandler hooks) m s).2.1
      = (received (guarded cb pre post deadLetterHandler hooks) m s).istate.1 := by
  rw [wrappers]
  -- what was received no longer matters, only that the breaker wraps nothing
  generalize (received (guarded cb pre post deadLetterHandler hooks) m s) = r
  rw [guarded, collectHandlerWrappers_append]
  refine (collectHandlerWrappers_beside _ _ post _).trans ?_
  exact collectHandlerWrappers_beside _ _ pre _

theorem completed_guarded (outcome : Outcome R) :
    (completed (guarded cb pre post deadLetterHandler hooks) m s outcome).1.1
      = cb.onComplete
          (inboundContext (clearedContext (guarded cb pre post deadLetterHandler hooks) m s)
            m.toDispatch) outcome (m.doneAt pre.length)
          (received (guarded cb pre post deadLetterHandler hooks) m s).istate.1 := by
  rw [completed, ← wrappers_guarded]
  generalize wrappers (guarded cb pre post deadLetterHandler hooks) m s = w
  generalize clearedContext (guarded cb pre post deadLetterHandler hooks) m s = ctx
  rw [guarded, completeLoop_append]
  refine (completeLoop_beside _ m _ outcome post _ _).trans ?_
  simp only [interceptor, completeLoop_beside, List.length_map, Nat.zero_add]

end Guarded

/-! ### Probes -/

/-- The breaker admits the next message to reach this entry as a probe. -/
def CircuitBreakerInterceptor.DueForProbe (cb : CircuitBreakerInterceptor) (now : Nat)
    (entry : CircuitBreakerState) : Prop :=
  entry.state = .halfOpen ∨
    entry.state = .opened ∧ ∃ t₀, entry.openedAt = some t₀ ∧ cb.cooldown ≤ durationSince now t₀

/-- No circuit waits for the completion of a probe. -/
def NoProbe (states : CircuitStates) : Prop :=
  ∀ id, (states.entry id).probeInFlight = false

theorem receive_of_due {cb : CircuitBreakerInterceptor} {now : Nat} {entry : CircuitBreakerState}
    (name : String) (h : entry.probeInFlight = false) (hdue : cb.DueForProbe now entry) :
    (cb.receive name now entry).2.probeInFlight = true ∧
      (cb.receive name now entry).2.state = .halfOpen := by
  rcases hdue with hs | ⟨hs, t₀, ht, hcool⟩
  · simp [receive, hs, h]
  · simp [receive, hs, ht, hcool]

theorem receive_of_not_due {cb : CircuitBreakerInterceptor} {now : Nat}
    {entry : CircuitBreakerState} (name : String) (h : entry.probeInFlight = false)
    (hdue : ¬ cb.DueForProbe now entry) :
    (cb.receive name now entry).2.probeInFlight = false := by
  rcases hs : entry.state with - | - | -
  · simp [receive, hs, h]
  · rcases ht : entry.openedAt with - | t₀
    · simp [receive, hs, ht, h]
    · have hcool : ¬ cb.cooldown ≤ durationSince now t₀ :=
        fun hcool => hdue (.inr ⟨hs, t₀, ht, hcool⟩)
      simp [receive, hs, ht, hcool, h]
  · exact absurd (.inl hs) hdue

theorem complete_probeInFlight {cb : CircuitBreakerInterceptor} {entry : CircuitBreakerState}
    (isError : Bool) (now : Nat) (h : entry.probeInFlight = false ∨ entry.state = .halfOpen) :
    (cb.complete isError now entry).probeInFlight = false := by
  rcases hs : entry.state with - | - | -
  · have hp : entry.probeInFlight = false := by simpa [hs] using h
    cases isError with
    | false => simpa [complete, hs] using hp
    | true =>
        rw [complete_closed_error hs]
        split <;> exact hp
  · have hp : entry.probeInFlight = false := by simpa [hs] using h
    cases isError <;> simpa [complete, hs, CircuitBreakerState.recordError,
      CircuitBreakerState.pruneErrors] using hp
  · cases isError <;> simp [complete, hs, CircuitBreakerState.recordError,
      CircuitBreakerState.pruneErrors]

section Map

variable {cb : CircuitBreakerInterceptor} {ctx : InboundContext} {now : Nat}
variable {states : CircuitStates}

theorem noProbe_onReceive_of_not_due (h : NoProbe states)
    (hdue : ¬ cb.DueForProbe now (states.entry ctx.actorId)) :
    NoProbe (cb.onReceive ctx now states).2 := by
  intro id
  by_cases hid : id = ctx.actorId
  · subst hid
    rw [onReceive, CircuitStates.entry_update]
    exact receive_of_not_due _ (h _) hdue
  · rw [onReceive, CircuitStates.entry_update_of_ne _ _ hid]
    exact h id

variable (ctx) in
/-- The entry of an admitted probe: marked, and half-open. -/
theorem entry_onReceive_of_due (h : NoProbe states)
    (hdue : cb.DueForProbe now (states.entry ctx.actorId)) :
    ((cb.onReceive ctx now states).2.entry ctx.actorId).probeInFlight = true ∧
      ((cb.onReceive ctx now states).2.entry ctx.actorId).state = .halfOpen := by
  rw [onReceive, CircuitStates.entry_update]
  exact receive_of_due _ (h _) hdue

theorem noProbe_onComplete (h : NoProbe states) (outcome : Outcome R) :
    NoProbe (cb.onComplete ctx outcome now states) := by
  intro id
  by_cases hid : id = ctx.actorId
  · subst hid
    rw [onComplete, CircuitStates.entry_update]
    exact complete_probeInFlight _ _ (.inl (h _))
  · rw [onComplete, CircuitStates.entry_update_of_ne _ _ hid]
    exact h id

variable (ctx) in
/-- After a probe was admitted, completion clears its mark exactly if it is
reported for the same actor. -/
theorem noProbe_onComplete_of_due {ctx' : InboundContext} {now' : Nat} (h : NoProbe states)
    (hdue : cb.DueForProbe now (states.entry ctx.actorId)) (outcome : Outcome R) :
    NoProbe (cb.onComplete ctx' outcome now' (cb.onReceive ctx now states).2) ↔
      ctx'.actorId = ctx.actorId := by
  obtain ⟨hprobe, hhalf⟩ := entry_onReceive_of_due ctx h hdue
  constructor
  · intro hall
    by_contra hne
    -- completion reported for another actor leaves the mark where it is
    have hkept := hall ctx.actorId
    rw [onComplete, CircuitStates.entry_update_of_ne _ _ (Ne.symm hne), hprobe] at hkept
    cases hkept
  · intro heq id
    by_cases hid : id = ctx.actorId
    · subst hid
      rw [onComplete, heq, CircuitStates.entry_update]
      exact complete_probeInFlight _ _ (.inr hhalf)
    · rw [onComplete, heq, CircuitStates.entry_update_of_ne _ _ hid, onReceive,
        CircuitStates.entry_update_of_ne _ _ hid]
      exact h id

end Map

/-! ### The loop never waits for a lost probe -/

section Loop

variable (cb : CircuitBreakerInterceptor) (pre post : List (InboundInterceptor τ M R))
variable (deadLetterHandler : Bool) (hooks : ActorHooks A)

/-- A message that the breaker admits as a probe is completed, and its
handler leaves the actor's id in the context as it is. -/
def ProbeCompletes (m : Incoming A M R) (s : Core (CircuitStates × τ) A) : Prop :=
  ReachesBreaker pre m s →
  cb.DueForProbe (m.recvAt pre.length) (s.istate.1.entry s.ctx.actorId) →
  Completes (guarded cb pre post deadLetterHandler hooks) m s ∧
    (clearedContext (guarded cb pre post deadLetterHandler hooks) m s).actorId = s.ctx.actorId

variable {cb pre post deadLetterHandler hooks}

variable (cb pre post deadLetterHandler hooks) in
/-- The map after a message, in terms of the map after its `on_receive`
loop: only a completed message touches it again. -/
theorem states_body (m : Incoming A M R) (s : Core (CircuitStates × τ) A) :
    let sp := guarded cb pre post deadLetterHandler hooks
    (Completes sp m s ∧ ∃ outcome : Outcome R, (spawnInternalBody sp m s).1.istate.1 =
        cb.onComplete (inboundContext (clearedContext sp m s) m.toDispatch) outcome
          (m.doneAt pre.length) (received sp m s).istate.1) ∨
      (¬ Completes sp m s ∧
        (spawnInternalBody sp m s).1.istate.1 = (received sp m s).istate.1) := by
  intro sp
  by_cases hc : Completes sp m s
  · obtain ⟨outcome, hst⟩ := istate_body_of_completes hc
    exact .inl ⟨hc, outcome, by rw [hst, completed_guarded]⟩
  · refine .inr ⟨hc, ?_⟩
    rcases istate_body_of_not_completes hc with hst | hst
    · rw [hst]
    · rw [hst, wrappers_guarded]

/-- A message that is no probe leaves no probe behind, completed or not. -/
theorem noProbe_body_of_received {m : Incoming A M R} {s : Core (CircuitStates × τ) A}
    (h : NoProbe (received (guarded cb pre post deadLetterHandler hooks) m s).istate.1) :
    NoProbe (spawnInternalBody (guarded cb pre post deadLetterHandler hooks) m s).1.istate.1 := by
  rcases states_body cb pre post deadLetterHandler hooks m s with
    ⟨-, outcome, hst⟩ | ⟨-, hst⟩
  · rw [hst]
    exact noProbe_onComplete h outcome
  · rw [hst]
    exact h

/-- One message keeps the circuits free of lost probes exactly if it
completes when it is a probe. -/
theorem noProbe_body_iff (m : Incoming A M R) {s : Core (CircuitStates × τ) A}
    (h : NoProbe s.istate.1) :
    NoProbe (spawnInternalBody (guarded cb pre post deadLetterHandler hooks) m s).1.istate.1 ↔
      ProbeCompletes cb pre post deadLetterHandler hooks m s := by
  by_cases hreach : ReachesBreaker pre m s
  · have hrecv := received_of_reaches cb post deadLetterHandler hooks hreach
    by_cases hdue : cb.DueForProbe (m.recvAt pre.length) (s.istate.1.entry s.ctx.actorId)
    · -- the breaker has marked a probe; only its completion clears the mark
      rcases states_body cb pre post deadLetterHandler hooks m s with
        ⟨hc, outcome, hst⟩ | ⟨hc, hst⟩
      · rw [hst, hrecv]
        refine (noProbe_onComplete_of_due
          (inboundContext (messageContext m s) m.toDispatch) h hdue outcome).trans ?_
        exact ⟨fun heq _ _ => ⟨hc, heq⟩, fun hok => (hok hreach hdue).2⟩
      · rw [hst, hrecv]
        constructor
        · intro hall
          have hprobe := (entry_onReceive_of_due
            (inboundContext (messageContext m s) m.toDispatch) h hdue).1
          rw [hall] at hprobe
          cases hprobe
        · intro hok
          exact absurd (hok hreach hdue).1 hc
    · -- admitted in `Closed` or rejected in `Open`: nothing was marked
      refine ⟨fun _ _ hd => absurd hd hdue, fun _ => noProbe_body_of_received ?_⟩
      rw [hrecv]
      exact noProbe_onReceive_of_not_due h hdue
  · -- vetoed before it reached the breaker
    refine ⟨fun _ hr => absurd hr hreach, fun _ => noProbe_body_of_received ?_⟩
    rw [(received_of_not_reaches hreach).2]
    exact h

/-- **The circuit breaker is never stuck half-open**: between two messages no
probe is in flight, all along a run with any interceptors before and after
the breaker, exactly if every message admitted as a probe completes. -/
theorem noProbe_iff (cb : CircuitBreakerInterceptor) (pre post : List (InboundInterceptor τ M R))
    (deadLetterHandler : Bool) (hooks : ActorHooks A) (actor : A) (ctx : ActorContext) (others : τ)
    (mails : List (Option (Incoming A M R))) :
    let sp := guarded cb pre post deadLetterHandler hooks
    let start : Task (CircuitStates × τ) A R := .start ⟨actor, ctx, (fun _ => none, others), none⟩
    Always (Task.step sp) (fun t => NoProbe t.core.istate.1) start mails ↔
      Admissible (Task.step sp)
        (fun t mail => t.running = true → ∀ m, mail = some m →
          ProbeCompletes cb pre post deadLetterHandler hooks m t.core) start mails := by
  intro sp start
  refine always_iff_admissible (fun t mail h => ?_) (fun _ => rfl)
  refine Task.step_iff (P := fun t : Task (CircuitStates × τ) A R => NoProbe t.core.istate.1)
    mail h h fun hrun m => ?_
  rw [Task.step_some m hrun]
  exact noProbe_body_iff m h

end Loop

/-! ### A dropped probe -/

/-- A rate limiter of sorts: drops everything from instant 1 on. -/
def dropLater : InboundInterceptor Unit Unit Unit where
  name := "drop-later"
  onReceive _ _ headers _ now s := (if now = 0 then .continued else .drop, headers, s)
  onComplete _ _ _ _ _ s := s
  wrapHandler _ _ s := (none, s)

/-- An actor that resumes after a panic. -/
def resumingHooks : ActorHooks Unit where
  onError actor _ := (.resume, actor)
  onStop actor := (false, actor)

/-- A panic that trips the circuit, and a probe after the cooldown. -/
def droppedProbeRun : List (Option (Incoming Unit Unit Unit)) :=
  [some (incomingAt .typed (idleHandler 0 .panicked) 0),
    some (incomingAt .typed (idleHandler 0 (.returned ())) 10)]

theorem noProbe_fails :
    ¬ ∀ (cb : CircuitBreakerInterceptor) (pre post : List (InboundInterceptor Unit Unit Unit))
      (hooks : ActorHooks Unit) (ctx : ActorContext)
      (mails : List (Option (Incoming Unit Unit Unit))),
      Always (Task.step (guarded cb pre post false hooks)) (fun t => NoProbe t.core.istate.1)
        (.start ⟨(), ctx, (fun _ => none, ()), none⟩) mails := by
  intro h
  have hall := h ⟨1, 100, 5⟩ [] [dropLater] resumingHooks freshContext droppedProbeRun
  exact absurd (hall.last freshContext.actorId) (by decide)

end Dactor
