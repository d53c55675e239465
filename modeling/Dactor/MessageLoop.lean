/-
Dactor/MessageLoop.lean

The message loop of `TestRuntime::spawn_internal`, and how often it calls
`on_complete`.

A run of the loop keeps one segment of events per message.  What matters of
a segment here is its observation: at which positions `on_complete` was
called, whether the handler was started, and whether an interceptor vetoed
the message.  Each stage of the loop has one observation, and the segment's
is their concatenation.

Main result: `exactlyOnce_iff`.  The one way to break the contract is a
cancellation that arrives after the handler has been started.
-/
import Dactor.Pipeline
import Dactor.Runs

namespace Dactor

open Runs

variable {σ A M R : Type}

/-! ### The loop -/

/-- How the loop's body ends: at the next `recv`, or out of the loop. -/
inductive Flow
  | next | exit
  deriving DecidableEq, Repr

/-- The loop is left. -/
def Flow.isExit : Flow → Bool
  | .next => false
  | .exit => true

/-- The body of the loop of `spawn_internal`. -/
def spawnInternalBody (sp : Spawn σ A M R) (m : Incoming A M R) (s : Core σ A) :
    Core σ A × List (Event R) × Flow :=
  match (received sp m s).rejection with
  | some (interceptorName, disposition) =>
    ({ s with ctx := messageContext m s, istate := (received sp m s).istate },
      (received sp m s).events ++
        sp.rejectEvents (messageContext m s) m.toDispatch interceptorName disposition,
      .next)
  | none =>
    -- the caller learns of the cancellation, the interceptors do not
    if alreadyCancelled m then
      ({ s with ctx := { handlerContext sp m s with cancellationToken := none },
                istate := (wrappers sp m s).2 },
        intakeEvents sp m s ++ m.cancel, .next)
    else
      let run := dispatched sp m s
      match run.result with
      -- `continue` from inside the `select!`: no `on_complete`, no `cancel()`
      | .cancelled =>
        ({ s with actor := run.actor, ctx := clearedContext sp m s,
                  istate := (wrappers sp m s).2 },
          intakeEvents sp m s ++ run.events, .next)
      | .finished (.returned reply) =>
        let done := completed sp m s (m.successOutcome reply)
        ({ s with actor := run.actor, ctx := clearedContext sp m s, istate := done.1 },
          intakeEvents sp m s ++ run.events ++ done.2 ++ m.sendReply reply, .next)
      | .finished .panicked =>
        let (action, actor) := sp.hooks.onError run.actor handlerPanicked
        let done := completed sp m s (.handlerError handlerPanicked)
        let s' := { s with actor, ctx := clearedContext sp m s, istate := done.1 }
        let events := intakeEvents sp m s ++ run.events ++ done.2
        match action with
        | .resume => (s', events, .next)
        | .stop | .escalate =>
          ({ s' with stopReason := some "handler panicked" }, events, .exit)
        -- treated as `Resume`
        | .restart => (s', events, .next)

/-- The spawned task: the actor's state, whether the loop still runs, and
one segment of events for each message processed. -/
structure Task (σ A R : Type) where
  core : Core σ A
  running : Bool
  log : List (List (Event R))

/-- `while let Some(msg) = rx.recv().await`, one mailbox item; `none` is the
stop signal. -/
def Task.step (sp : Spawn σ A M R) (t : Task σ A R) (mail : Option (Incoming A M R)) :
    Task σ A R :=
  match t.running, mail with
  | false, _ => t
  | true, none => { t with running := false }
  | true, some m =>
    match spawnInternalBody sp m t.core with
    | (core, events, .next) => ⟨core, true, t.log ++ [events]⟩
    | (core, events, .exit) => ⟨core, false, t.log ++ [events]⟩

def Task.start (core : Core σ A) : Task σ A R := ⟨core, true, []⟩

/-! #### What a step does -/

section Step

variable {sp : Spawn σ A M R} {t : Task σ A R}

/-- One message of the loop, with the control flow as a flag. -/
theorem Task.step_some (m : Incoming A M R) (hrun : t.running = true) :
    t.step sp (some m) =
      ⟨(spawnInternalBody sp m t.core).1, !(spawnInternalBody sp m t.core).2.2.isExit,
        t.log ++ [(spawnInternalBody sp m t.core).2.1]⟩ := by
  simp only [Task.step, hrun]
  rcases spawnInternalBody sp m t.core with ⟨core, events, - | -⟩ <;> rfl

/-- The other steps change at most the flag, so a property that ignores it
depends on the message alone, while the loop runs. -/
theorem Task.step_iff {P : Task σ A R → Prop} {Q : Incoming A M R → Prop}
    (mail : Option (Incoming A M R)) (h : P t) (hstop : P { t with running := false })
    (hmsg : t.running = true → ∀ m, (P (t.step sp (some m)) ↔ Q m)) :
    P (t.step sp mail) ↔ (t.running = true → ∀ m, mail = some m → Q m) := by
  rcases hrun : t.running with - | -
  · simp only [Task.step, hrun, Bool.false_eq_true, false_implies, iff_true]
    exact h
  · cases mail with
    | none =>
        simp only [Task.step, hrun, reduceCtorEq, false_implies, implies_true, iff_true]
        exact hstop
    | some m =>
        rw [hmsg hrun m]
        constructor
        · rintro hq - m' ⟨⟩
          exact hq
        · intro hq
          exact hq rfl m rfl

/-! #### The exits of the body -/

variable {m : Incoming A M R} {s : Core σ A}

theorem body_of_rejection {name : String} {disposition : Disposition}
    (hr : (received sp m s).rejection = some (name, disposition)) :
    spawnInternalBody sp m s =
      ({ s with ctx := messageContext m s, istate := (received sp m s).istate },
        (received sp m s).events ++
          sp.rejectEvents (messageContext m s) m.toDispatch name disposition, .next) := by
  simp only [spawnInternalBody, hr]

theorem body_of_alreadyCancelled (hr : (received sp m s).rejection = none)
    (hc : alreadyCancelled m = true) :
    spawnInternalBody sp m s =
      ({ s with ctx := { handlerContext sp m s with cancellationToken := none },
                istate := (wrappers sp m s).2 },
        intakeEvents sp m s ++ m.cancel, .next) := by
  simp only [spawnInternalBody, hr, hc, if_true]

theorem body_of_cancelled (hr : (received sp m s).rejection = none)
    (hc : alreadyCancelled m = false) (hd : (dispatched sp m s).result = .cancelled) :
    spawnInternalBody sp m s =
      ({ s with actor := (dispatched sp m s).actor, ctx := clearedContext sp m s,
                istate := (wrappers sp m s).2 },
        intakeEvents sp m s ++ (dispatched sp m s).events, .next) := by
  simp only [spawnInternalBody, hr, hc, hd, Bool.false_eq_true, if_false]

theorem body_of_returned {reply : R} (hr : (received sp m s).rejection = none)
    (hc : alreadyCancelled m = false)
    (hd : (dispatched sp m s).result = .finished (.returned reply)) :
    spawnInternalBody sp m s =
      ({ s with actor := (dispatched sp m s).actor, ctx := clearedContext sp m s,
                istate := (completed sp m s (m.successOutcome reply)).1 },
        intakeEvents sp m s ++ (dispatched sp m s).events ++
          (completed sp m s (m.successOutcome reply)).2 ++ m.sendReply reply, .next) := by
  simp only [spawnInternalBody, hr, hc, hd, Bool.false_eq_true, if_false]

/-- Whatever `on_error` asks for, the interceptors have seen the error, and
nothing is replied; its answer decides the rest. -/
theorem body_of_panicked (hr : (received sp m s).rejection = none)
    (hc : alreadyCancelled m = false)
    (hd : (dispatched sp m s).result = .finished .panicked) :
    let answer := sp.hooks.onError (dispatched sp m s).actor handlerPanicked
    let done := completed sp m s (.handlerError handlerPanicked)
    spawnInternalBody sp m s =
      ({ actor := answer.2, ctx := clearedContext sp m s, istate := done.1,
         stopReason := if answer.1.stops then some "handler panicked" else s.stopReason },
        intakeEvents sp m s ++ (dispatched sp m s).events ++ done.2,
        if answer.1.stops then .exit else .next) := by
  simp only [spawnInternalBody, hr, hc, hd, Bool.false_eq_true, if_false]
  rcases (sp.hooks.onError (dispatched sp m s).actor handlerPanicked).1 with
    - | - | - | - <;> rfl

end Step

/-! ### Observations -/

/-- What matters of a segment: the positions at which `on_complete` was
called, whether the handler was started, whether a veto was returned. -/
structure Observed where
  completions : List Nat
  started : Bool
  vetoed : Bool
  deriving DecidableEq, Repr

def Observed.nothing : Observed := ⟨[], false, false⟩

def Observed.append (a b : Observed) : Observed :=
  ⟨a.completions ++ b.completions, a.started || b.started, a.vetoed || b.vetoed⟩

def Event.observed : Event R → Observed
  | .onReceive _ _ _ _ disposition => ⟨[], false, disposition.vetoes⟩
  | .handlerStarted _ _ => ⟨[], true, false⟩
  | .onComplete position _ _ _ _ => ⟨[position], false, false⟩
  | .deadLetter _ | .callerError _ | .slept _ | .replied _ => .nothing

def observe : List (Event R) → Observed
  | [] => .nothing
  | e :: es => e.observed.append (observe es)

theorem Observed.append_assoc (a b c : Observed) :
    (a.append b).append c = a.append (b.append c) := by
  simp [Observed.append, Bool.or_assoc]

@[simp] theorem observe_append (l₁ l₂ : List (Event R)) :
    observe (l₁ ++ l₂) = (observe l₁).append (observe l₂) := by
  induction l₁ with
  | nil => rfl
  | cons e l₁ ih =>
      rw [List.cons_append, observe, observe, ih, Observed.append_assoc]

/-! #### One observation per stage -/

theorem observe_receiveLoop (ictx : InboundContext) (m : Incoming A M R)
    (is : List (InboundInterceptor σ M R)) (n : Nat) (headers : Headers) (delay : Nat) (s : σ) :
    observe (receiveLoop ictx m is n headers delay s).events
      = ⟨[], false, (receiveLoop ictx m is n headers delay s).rejection.isSome⟩ := by
  induction is generalizing n headers delay s with
  | nil => rfl
  | cons i is ih =>
      rcases hr : (i.onReceive ictx m.runtimeHeaders headers m.messageAny (m.recvAt n) s).1
        with - | d | - | reason | after
      · simp only [receiveLoop, hr, observe, ih]
        rfl
      · simp only [receiveLoop, hr, observe, ih]
        rfl
      · simp only [receiveLoop, hr]
        rfl
      · simp only [receiveLoop, hr]
        rfl
      · simp only [receiveLoop, hr]
        rfl

@[simp] theorem observe_reject (d : Dispatch A M R) (disposition : Disposition)
    (name : String) : observe (d.reject disposition name) = .nothing := by
  unfold Dispatch.reject
  split
  · split <;> rfl
  · split <;> rfl
  all_goals rfl

@[simp] theorem observe_rejectEvents (sp : Spawn σ A M R) (ctx : ActorContext)
    (d : Dispatch A M R) (name : String) (disposition : Disposition) :
    observe (sp.rejectEvents ctx d name disposition) = .nothing := by
  unfold Spawn.rejectEvents
  split
  · rw [observe_append, observe_reject]
    rfl
  · rw [List.nil_append, observe_reject]

@[simp] theorem observe_cancel (d : Dispatch A M R) : observe d.cancel = .nothing := by
  unfold Dispatch.cancel
  split <;> rfl

@[simp] theorem observe_sendReply (d : Dispatch A M R) (reply : R) :
    observe (d.sendReply reply) = .nothing := by
  unfold Dispatch.sendReply
  split <;> rfl

@[simp] theorem observe_sleepEvents (delay : Nat) :
    observe (sleepEvents delay : List (Event R)) = .nothing := by
  unfold sleepEvents
  split <;> rfl

@[simp] theorem observe_startedEvents (d : Dispatch A M R) (ctx : ActorContext) (polls : Nat) :
    observe (startedEvents d ctx polls) = ⟨[], decide (0 < polls), false⟩ := by
  unfold startedEvents
  split
  · next h => simp [observe, Event.observed, Observed.append, Observed.nothing, h]
  · next h => simp [observe, Observed.nothing, h]

theorem observe_completeLoop (ictx : InboundContext) (m : Incoming A M R) (headers : Headers)
    (outcome : Outcome R) (is : List (InboundInterceptor σ M R)) (n : Nat) (s : σ) :
    observe (completeLoop ictx m headers outcome is n s).2
      = ⟨List.range' n is.length, false, false⟩ := by
  induction is generalizing n s with
  | nil => rfl
  | cons i is ih =>
      simp only [completeLoop, observe, ih, List.length_cons, List.range'_succ]
      rfl

/-! ### The observation of a segment -/

section Segment

variable (sp : Spawn σ A M R) (m : Incoming A M R) (s : Core σ A)

theorem observe_received :
    observe (received sp m s).events = ⟨[], false, (received sp m s).rejection.isSome⟩ :=
  observe_receiveLoop ..

theorem observe_completed (outcome : Outcome R) :
    observe (completed sp m s outcome).2 = ⟨List.range sp.interceptors.length, false, false⟩ := by
  rw [completed, observe_completeLoop, List.range_eq_range']

variable {sp m s}

theorem observe_intakeEvents (h : (received sp m s).rejection = none) :
    observe (intakeEvents sp m s) = .nothing := by
  rw [intakeEvents, observe_append, observe_received, observe_sleepEvents, h]
  rfl

theorem observe_dispatched :
    observe (dispatched sp m s).events
      = ⟨[], decide (0 < (race (handlerFuture sp m s) m.cancelToken).2), false⟩ := by
  rw [(dispatched_eq sp m s).1, observe_startedEvents]

/-- A vetoed message. -/
theorem observe_body_of_rejection (h : (received sp m s).rejection ≠ none) :
    observe (spawnInternalBody sp m s).2.1 = ⟨[], false, true⟩ := by
  obtain ⟨⟨name, disposition⟩, hr⟩ := Option.ne_none_iff_exists'.mp h
  rw [body_of_rejection hr]
  simp only [observe_append, observe_received, observe_rejectEvents, hr]
  rfl

/-- A message cancelled before its dispatch. -/
theorem observe_body_of_alreadyCancelled (h : (received sp m s).rejection = none)
    (hc : alreadyCancelled m = true) :
    observe (spawnInternalBody sp m s).2.1 = .nothing := by
  rw [body_of_alreadyCancelled h hc]
  simp only [observe_append, observe_intakeEvents h, observe_cancel]
  rfl

/-- A message that is dispatched: its `on_complete` calls are made unless
the token wins the race. -/
theorem observe_body_of_dispatched (h : (received sp m s).rejection = none)
    (hc : alreadyCancelled m = false) :
    observe (spawnInternalBody sp m s).2.1 =
      ⟨if (race (handlerFuture sp m s) m.cancelToken).1 then []
        else List.range sp.interceptors.length,
        decide (0 < (race (handlerFuture sp m s) m.cancelToken).2), false⟩ := by
  -- when the dispatch ends with a result, the token has lost the race
  have hresult := (dispatched_eq sp m s).2
  rcases hd : (dispatched sp m s).result with - | (reply | -)
  · rw [hd] at hresult
    rw [body_of_cancelled h hc hd]
    simp only [observe_append, observe_intakeEvents h, observe_dispatched, hresult.mp rfl,
      if_true]
    rfl
  · have hlost : ¬ (race (handlerFuture sp m s) m.cancelToken).1 = true := by
      simp [← hresult, hd]
    rw [body_of_returned h hc hd]
    simp only [observe_append, observe_intakeEvents h, observe_dispatched, observe_completed,
      observe_sendReply, hlost, Bool.false_eq_true, if_false]
    simp [Observed.append, Observed.nothing]
  · have hlost : ¬ (race (handlerFuture sp m s) m.cancelToken).1 = true := by
      simp [← hresult, hd]
    rw [body_of_panicked h hc hd]
    simp only [observe_append, observe_intakeEvents h, observe_dispatched, observe_completed,
      hlost, Bool.false_eq_true, if_false]
    simp [Observed.append, Observed.nothing]

end Segment

/-! ### Exactly once -/

/-- The contract for one message: if its handler was started, `on_complete`
was called at every position of the pipeline once and in order; if it was
vetoed, at none. -/
def ExactlyOnce (n : Nat) (segment : List (Event R)) : Prop :=
  ((observe segment).started = true → (observe segment).completions = List.range n) ∧
    ((observe segment).vetoed = true → (observe segment).completions = [])

instance (n : Nat) (segment : List (Event R)) : Decidable (ExactlyOnce n segment) :=
  inferInstanceAs (Decidable (_ ∧ _))

/-- The message gets past the interceptors, and its token is cancelled after
the handler was first polled and before it ends. -/
def CancelledMidway (sp : Spawn σ A M R) (m : Incoming A M R) (s : Core σ A) : Prop :=
  (received sp m s).rejection = none ∧ ∃ k, m.cancelToken = some (.atPoll k) ∧
    k < (handlerFuture sp m s).pending.length ∧ 0 < (handlerFuture sp m s).pollsBefore (k + 1)

theorem exactlyOnce_body_of_nil {sp : Spawn σ A M R} (hsp : sp.interceptors = [])
    (m : Incoming A M R) (s : Core σ A) :
    ExactlyOnce sp.interceptors.length (spawnInternalBody sp m s).2.1 := by
  rw [ExactlyOnce, hsp]
  by_cases hr : (received sp m s).rejection = none
  · rcases hc : alreadyCancelled m with - | -
    · rw [observe_body_of_dispatched hr hc, hsp]
      simp
    · rw [observe_body_of_alreadyCancelled hr hc]
      simp [Observed.nothing]
  · rw [observe_body_of_rejection hr]
    simp

/-- With at least one interceptor, a message keeps the contract exactly if
it is not cancelled midway. -/
theorem exactlyOnce_body_iff {sp : Spawn σ A M R} (hsp : sp.interceptors ≠ [])
    (m : Incoming A M R) (s : Core σ A) :
    ExactlyOnce sp.interceptors.length (spawnInternalBody sp m s).2.1 ↔
      ¬ CancelledMidway sp m s := by
  have hrange : [] ≠ List.range sp.interceptors.length := by
    intro h
    apply hsp
    rw [← List.length_eq_zero_iff, ← List.length_range (n := sp.interceptors.length), ← h]
    rfl
  by_cases hr : (received sp m s).rejection = none
  · rcases hc : alreadyCancelled m with - | -
    · rw [ExactlyOnce, observe_body_of_dispatched hr hc]
      have hrace := race_fst_iff (handlerFuture sp m s) hc
      by_cases hwin : (race (handlerFuture sp m s) m.cancelToken).1 = true
      · -- the token wins: the contract breaks if the handler was polled by then
        obtain ⟨k, hk, hlt⟩ := hrace.mp hwin
        have hpolls : (race (handlerFuture sp m s) m.cancelToken).2
            = (handlerFuture sp m s).pollsBefore (k + 1) := by
          simp only [hk, race, hlt, if_true]
        have hmid : CancelledMidway sp m s ↔ 0 < (handlerFuture sp m s).pollsBefore (k + 1) := by
          constructor
          · rintro ⟨-, k', hk', -, hpos⟩
            rw [hk] at hk'
            cases hk'
            exact hpos
          · exact fun hpos => ⟨hr, k, hk, hlt, hpos⟩
        rw [hmid, hpolls]
        simp [hwin, hrange]
      · -- the handler ends, and `on_complete` follows
        have hmid : ¬ CancelledMidway sp m s := by
          rintro ⟨-, k, hk, hlt, -⟩
          exact hwin (hrace.mpr ⟨k, hk, hlt⟩)
        simp [hwin, hmid]
    · -- a token cancelled before the dispatch is not cancelled at a poll
      have hmid : ¬ CancelledMidway sp m s := by
        rintro ⟨-, k, hk, -, -⟩
        simp [alreadyCancelled, hk, CancellationToken.isCancelled] at hc
      rw [ExactlyOnce, observe_body_of_alreadyCancelled hr hc]
      simp [Observed.nothing, hmid]
  · have hmid : ¬ CancelledMidway sp m s := fun h => hr h.1
    rw [ExactlyOnce, observe_body_of_rejection hr]
    simp [hmid]

/-- Every segment of the log keeps the contract. -/
def Task.KeepsContract (sp : Spawn σ A M R) (t : Task σ A R) : Prop :=
  ∀ segment ∈ t.log, ExactlyOnce sp.interceptors.length segment

instance (sp : Spawn σ A M R) (t : Task σ A R) : Decidable (t.KeepsContract sp) :=
  inferInstanceAs (Decidable (∀ segment ∈ t.log, _))

/-- The next message, if the loop still takes one, is not cancelled midway. -/
def Task.NotCancelledMidway (sp : Spawn σ A M R) (t : Task σ A R)
    (mail : Option (Incoming A M R)) : Prop :=
  t.running = true → ∀ m, mail = some m → ¬ CancelledMidway sp m t.core

/-- A message adds one segment to the log, so the log keeps the contract
exactly if that segment does. -/
theorem Task.keepsContract_step_iff {sp : Spawn σ A M R} (t : Task σ A R)
    (mail : Option (Incoming A M R)) (h : t.KeepsContract sp) :
    (t.step sp mail).KeepsContract sp ↔
      (t.running = true → ∀ m, mail = some m →
        ExactlyOnce sp.interceptors.length (spawnInternalBody sp m t.core).2.1) := by
  refine Task.step_iff mail h h fun hrun m => ?_
  rw [Task.step_some m hrun]
  constructor
  · intro hall
    exact hall _ (List.mem_append_right _ (List.mem_singleton_self _))
  · intro hnew segment hseg
    rcases List.mem_append.mp hseg with hseg | hseg
    · exact h segment hseg
    · rw [List.mem_singleton.mp hseg]
      exact hnew

/-- **`on_complete` is called exactly once per delivered message**, in every
run of the loop over any interceptors and any messages, exactly when there
is no interceptor or no message is cancelled after its handler was started. -/
theorem exactlyOnce_iff (sp : Spawn σ A M R) (core : Core σ A)
    (mails : List (Option (Incoming A M R))) :
    Always (Task.step sp) (Task.KeepsContract sp) (.start core) mails ↔
      sp.interceptors = [] ∨
        Admissible (Task.step sp) (Task.NotCancelledMidway sp) (.start core) mails := by
  have hstart : (Task.start core : Task σ A R).KeepsContract sp := fun _ h => by cases h
  by_cases hsp : sp.interceptors = []
  · simp only [hsp, true_or, iff_true]
    refine always_induction (fun t mail h => ?_) mails hstart
    rw [Task.keepsContract_step_iff t mail h]
    exact fun _ m _ => exactlyOnce_body_of_nil hsp m t.core
  · simp only [hsp, false_or]
    refine always_iff_admissible (fun t mail h => ?_) hstart
    rw [Task.keepsContract_step_iff t mail h]
    refine imp_congr_right fun _ => forall_congr' fun m => imp_congr_right fun _ => ?_
    exact exactlyOnce_body_iff hsp m t.core

/-! ### A cancelled ask -/

/-- An interceptor that lets everything through. -/
def passInterceptor (σ M R : Type) : InboundInterceptor σ M R where
  name := "pass"
  onReceive _ _ headers _ _ s := (.continued, headers, s)
  onComplete _ _ _ _ _ s := s
  wrapHandler _ _ s := (none, s)

/-- A handler that is pending `n` times and changes nothing. -/
def idleHandler {A R : Type} (n : Nat) (result : HandlerEnd R) : HandlerRun A R where
  pending _ _ := n
  progress actor ctx _ := (actor, ctx)
  finish actor ctx := (result, actor, ctx)

/-- A message of the given kind, processed at instant `now`. -/
def incomingAt {A R : Type} (kind : DispatchKind) (handler : HandlerRun A R) (now : Nat) :
    Incoming A Unit R where
  kind := kind
  messageTypeName := "Ping"
  messageAny := ()
  handler := handler
  runtimeHeaders := ⟨0, now⟩
  recvAt _ := now
  doneAt _ := now

/-- An actor without hooks of its own: a panic stops it. -/
def plainHooks (A : Type) : ActorHooks A where
  onError actor _ := (.stop, actor)
  onStop actor := (false, actor)

def freshContext : ActorContext := ⟨⟨⟨"node-1"⟩, 1⟩, "worker", none, Headers.new, none⟩

/-- An ask whose token is cancelled while its handler is pending. -/
def cancelledAsk : Incoming Unit Unit Unit :=
  incomingAt (.ask (some (.atPoll 0))) (idleHandler 1 (.returned ())) 0

theorem exactlyOnce_fails :
    ¬ ∀ (sp : Spawn Unit Unit Unit Unit) (core : Core Unit Unit)
      (mails : List (Option (Incoming Unit Unit Unit))),
      Always (Task.step sp) (Task.KeepsContract sp) (.start core) mails := by
  intro h
  have hall := h ⟨[passInterceptor Unit Unit Unit], false, plainHooks Unit⟩
    ⟨(), freshContext, (), none⟩ [some cancelledAsk]
  exact absurd hall.last (by decide)

end Dactor
