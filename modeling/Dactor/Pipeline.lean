/-
Dactor/Pipeline.lean

The parts from which every runtime builds the processing of one message:
dispatch envelopes, the `on_receive` and `on_complete` loops, rejection, and
the race of a handler against its cancellation token.

What the environment decides is part of the input (`Incoming`): the runtime
headers generated for the message, the clock, when its token is cancelled,
and what its handler does.  A handler is its poll behaviour: how often it is
pending, what it has done to the actor and the context after a number of
polls, and how it ends.

What the outside sees is a list of events, in order.
-/
import Dactor.Interceptor

namespace Dactor

/-! ### Tokens, contexts and handlers -/

/-- A cancellation token, as the moment it is cancelled: not while the
message is processed, before the check that precedes the dispatch, or so
that poll `k` of the race is the first to see it. -/
inductive CancellationToken
  | never
  | beforeDispatch
  | atPoll (k : Nat)
  deriving DecidableEq, Repr

def CancellationToken.isCancelled : CancellationToken → Bool
  | .beforeDispatch => true
  | .never | .atPoll _ => false

structure ActorContext where
  actorId : ActorId
  actorName : String
  sendMode : Option SendMode
  headers : Headers
  cancellationToken : Option CancellationToken
  deriving DecidableEq, Repr

inductive HandlerEnd (R : Type)
  | returned (reply : R)
  | panicked
  deriving DecidableEq, Repr

/-- A handler call: it is pending `pending` times, `progress` is what it has
done after that many polls without ending, `finish` what it has done when
it ends.  Being given `&mut`, it may change actor and context at will. -/
structure HandlerRun (A R : Type) where
  pending : A → ActorContext → Nat
  progress : A → ActorContext → Nat → A × ActorContext
  finish : A → ActorContext → HandlerEnd R × A × ActorContext

variable {σ A M R : Type}

/-- What `polls` polls of the handler have done. -/
def HandlerRun.after (h : HandlerRun A R) (actor : A) (ctx : ActorContext) (polls : Nat) :
    A × ActorContext :=
  if h.pending actor ctx < polls then (h.finish actor ctx).2 else h.progress actor ctx polls

/-! ### Dispatch envelopes -/

/-- The five kinds of envelope.  A tell carries no token. -/
inductive DispatchKind
  | typed
  | ask (cancel : Option CancellationToken)
  | expand (cancel : Option CancellationToken)
  | reduce (cancel : Option CancellationToken)
  | transform (cancel : Option CancellationToken)
  deriving DecidableEq, Repr

structure Dispatch (A M R : Type) where
  kind : DispatchKind
  messageTypeName : String
  messageAny : M
  handler : HandlerRun A R

inductive DeadLetterReason
  | actorStopped
  | actorNotFound
  | mailboxFull
  | droppedByInterceptor (interceptor : String)
  | wireInterceptorDrop (interceptor : String)
  | wireInterceptorReject (interceptor reason : String)
  deriving DecidableEq, Repr

structure DeadLetterEvent where
  targetId : ActorId
  targetName : Option String
  messageType : String
  sendMode : SendMode
  reason : DeadLetterReason
  deriving DecidableEq, Repr

/-- What processing a message shows to the outside.  Interceptor calls carry
the position of the interceptor in the pipeline. -/
inductive Event (R : Type)
  | onReceive (position : Nat) (ctx : InboundContext) (runtimeHeaders : RuntimeHeaders)
      (headers : Headers) (disposition : Disposition)
  | deadLetter (event : DeadLetterEvent)
  | callerError (error : RuntimeError)
  | slept (delay : Nat)
  | handlerStarted (messageType : String) (ctx : ActorContext)
  | onComplete (position : Nat) (ctx : InboundContext) (runtimeHeaders : RuntimeHeaders)
      (headers : Headers) (outcome : Outcome R)
  | replied (reply : R)
  deriving DecidableEq, Repr

namespace Dispatch

variable (d : Dispatch A M R)

def sendMode : SendMode :=
  match d.kind with
  | .typed => .tell
  | .ask _ => .ask
  | .expand _ => .expand
  | .reduce _ => .reduce
  | .transform _ => .transform

def cancelToken : Option CancellationToken :=
  match d.kind with
  | .typed => none
  | .ask cancel | .expand cancel | .reduce cancel | .transform cancel => cancel

/-- `reject`: an error for the caller of an ask or a reduce. -/
def reject (disposition : Disposition) (interceptorName : String) : List (Event R) :=
  match d.kind with
  | .ask _ | .reduce _ =>
    match disposition with
    | .reject reason => [.callerError (.rejected interceptorName reason)]
    | .retry after => [.callerError (.retryAfter interceptorName after)]
    | .drop =>
      [.callerError (.actorNotFound ("dropped by interceptor '" ++ interceptorName ++ "'"))]
    | .continued | .delay _ => []
  | .typed | .expand _ | .transform _ => []

def cancel : List (Event R) :=
  match d.kind with
  | .ask _ | .reduce _ => [.callerError .cancelled]
  | .typed | .expand _ | .transform _ => []

/-- The `reply` of the `DispatchResult`: present for an ask or a reduce. -/
def resultReply (reply : R) : Option R :=
  match d.kind with
  | .ask _ | .reduce _ => some reply
  | .typed | .expand _ | .transform _ => none

/-- The outcome shown to `on_complete` after a handler that returned. -/
def successOutcome (reply : R) : Outcome R :=
  match d.resultReply reply, d.sendMode with
  | some reply, .ask => .askSuccess reply
  | _, _ => .tellSuccess

/-- `send_reply`. -/
def sendReply (reply : R) : List (Event R) :=
  match d.resultReply reply with
  | some reply => [.replied reply]
  | none => []

end Dispatch

/-- A mailbox message with what the environment decides about it: its
runtime headers, and the instants at which the interceptors at each position
read the clock. -/
structure Incoming (A M R : Type) extends Dispatch A M R where
  runtimeHeaders : RuntimeHeaders
  recvAt : Nat → Nat
  doneAt : Nat → Nat

/-- The actor's own hooks.  `onStop` also tells whether it panics. -/
structure ActorHooks (A : Type) where
  onError : A → ActorError → ErrorAction × A
  onStop : A → Bool × A

/-- What an actor is spawned with. -/
structure Spawn (σ A M R : Type) where
  interceptors : List (InboundInterceptor σ M R)
  deadLetterHandler : Bool
  hooks : ActorHooks A

/-- The state a runtime keeps of an actor between messages; `istate` is the
interior state of its interceptors. -/
structure Core (σ A : Type) where
  actor : A
  ctx : ActorContext
  istate : σ
  stopReason : Option String
  deriving DecidableEq, Repr

/-! ### The on_receive loop -/

def inboundContext (ctx : ActorContext) (d : Dispatch A M R) : InboundContext where
  actorId := ctx.actorId
  actorName := ctx.actorName
  messageType := d.messageTypeName
  sendMode := d.sendMode
  remote := false
  originNode := none

structure Received (σ R : Type) where
  headers : Headers
  totalDelay : Nat
  rejection : Option (String × Disposition)
  istate : σ
  events : List (Event R)

/-- `for interceptor in &interceptors`: delays add up, the first veto ends
the loop.  `n` is the position of the next interceptor.  A sum beyond
`Duration::MAX` panics, which `receiveLoopChecked` models; here it does not
come to that. -/
def receiveLoop (ictx : InboundContext) (m : Incoming A M R) :
    List (InboundInterceptor σ M R) → Nat → Headers → Nat → σ → Received σ R
  | [], _, headers, delay, s => ⟨headers, delay, none, s, []⟩
  | i :: is, n, headers, delay, s =>
    let r := i.onReceive ictx m.runtimeHeaders headers m.messageAny (m.recvAt n) s
    -- the headers as the interceptor found them
    let call := Event.onReceive n ictx m.runtimeHeaders headers r.1
    match r.1 with
    | .continued =>
      let rest := receiveLoop ictx m is (n + 1) r.2.1 delay r.2.2
      { rest with events := call :: rest.events }
    | .delay d =>
      let rest := receiveLoop ictx m is (n + 1) r.2.1 (delay + d) r.2.2
      { rest with events := call :: rest.events }
    | .drop | .reject _ | .retry _ => ⟨r.2.1, delay, some (i.name, r.1), r.2.2, [call]⟩

/-- A dead letter for a dropped message, if a handler is installed, and the
error for the caller. -/
def Spawn.rejectEvents (sp : Spawn σ A M R) (ctx : ActorContext) (d : Dispatch A M R)
    (interceptorName : String) (disposition : Disposition) : List (Event R) :=
  (if disposition = .drop ∧ sp.deadLetterHandler then
    [.deadLetter
      { targetId := ctx.actorId, targetName := some ctx.actorName,
        messageType := d.messageTypeName, sendMode := d.sendMode,
        reason := .droppedByInterceptor interceptorName }]
  else []) ++ d.reject disposition interceptorName

/-- `if !total_delay.is_zero()  sleep(total_delay)`. -/
def sleepEvents (totalDelay : Nat) : List (Event R) :=
  if totalDelay = 0 then [] else [.slept totalDelay]

/-! ### Dispatching -/

/-- The biased `select!` of a future against a token: whether the token
wins, and how many polls the handler got.  The future is polled first, so
the token is looked at only when the future is pending. -/
def race (fut : Fut) : Option CancellationToken → Bool × Nat
  | some (.atPoll k) =>
    if k < fut.pending.length then (true, fut.pollsBefore (k + 1)) else (false, fut.polls)
  | some .beforeDispatch =>
    if 0 < fut.pending.length then (true, fut.pollsBefore 1) else (false, fut.polls)
  | some .never | none => (false, fut.polls)

/-- How a dispatch ends: cancelled, or with the result of the handler. -/
inductive DispatchEnd (R : Type)
  | cancelled
  | finished (result : HandlerEnd R)
  deriving DecidableEq, Repr

structure Dispatched (A R : Type) where
  result : DispatchEnd R
  actor : A
  ctx : ActorContext
  events : List (Event R)

def startedEvents (d : Dispatch A M R) (ctx : ActorContext) (polls : Nat) : List (Event R) :=
  if 0 < polls then [.handlerStarted d.messageTypeName ctx] else []

/-- The wrapped path.  The handler's result comes through a channel; if the
wrappers end without it, that counts as a panic. -/
def dispatchWrapped (d : Dispatch A M R) (wrappers : List (Option HandlerWrapper))
    (token : Option CancellationToken) (actor : A) (ctx : ActorContext) : Dispatched A R :=
  let fut := applyHandlerWrappers wrappers (.handler (d.handler.pending actor ctx))
  let r := race fut token
  let after := d.handler.after actor ctx r.2
  { result :=
      if r.1 then .cancelled
      -- `result_rx.try_recv()`: sent once the handler's own future has ended
      else if d.handler.pending actor ctx < r.2 then .finished (d.handler.finish actor ctx).1
      else .finished .panicked
    actor := after.1
    ctx := after.2
    events := startedEvents d ctx r.2 }

/-- The fast path, without wrappers. -/
def dispatchFast (d : Dispatch A M R) (token : Option CancellationToken) (actor : A)
    (ctx : ActorContext) : Dispatched A R :=
  let r := race (.handler (d.handler.pending actor ctx)) token
  let after := d.handler.after actor ctx r.2
  { result := if r.1 then .cancelled else .finished (d.handler.finish actor ctx).1
    actor := after.1
    ctx := after.2
    events := startedEvents d ctx r.2 }

/-! ### The on_complete loop -/

/-- `for interceptor in &interceptors  interceptor.on_complete(..)`. -/
def completeLoop (ictx : InboundContext) (m : Incoming A M R) (headers : Headers)
    (outcome : Outcome R) : List (InboundInterceptor σ M R) → Nat → σ → σ × List (Event R)
  | [], _, s => (s, [])
  | i :: is, n, s =>
    let s' := i.onComplete ictx m.runtimeHeaders headers outcome (m.doneAt n) s
    let rest := completeLoop ictx m headers outcome is (n + 1) s'
    (rest.1, .onComplete n ictx m.runtimeHeaders headers outcome :: rest.2)

/-! ### The stages of one message

The stages below are the same text in every runtime; what differs is how a
runtime leaves the processing of a message, and how it stops. -/

section Stages

variable (sp : Spawn σ A M R) (m : Incoming A M R) (s : Core σ A)

/-- The context once the fields for this message are set. -/
def messageContext : ActorContext :=
  { s.ctx with sendMode := some m.sendMode, headers := Headers.new }

def received : Received σ R :=
  receiveLoop (inboundContext (messageContext m s) m.toDispatch) m sp.interceptors 0
    Headers.new 0 s.istate

/-- Wrappers are collected before the headers move into the context. -/
def wrappers : List (Option HandlerWrapper) × σ :=
  collectHandlerWrappers (inboundContext (messageContext m s) m.toDispatch)
    (received sp m s).headers sp.interceptors (received sp m s).istate

def needsWrap : Bool := (wrappers sp m s).1.any (·.isSome)

/-- The context the handler is given. -/
def handlerContext : ActorContext :=
  { messageContext m s with
    headers := (received sp m s).headers, cancellationToken := m.cancelToken }

/-- `token.is_cancelled()` before the dispatch. -/
def alreadyCancelled : Bool := m.cancelToken.any (·.isCancelled)

def dispatched : Dispatched A R :=
  if needsWrap sp m s then
    dispatchWrapped m.toDispatch (wrappers sp m s).1 m.cancelToken s.actor (handlerContext sp m s)
  else dispatchFast m.toDispatch m.cancelToken s.actor (handlerContext sp m s)

/-- The context after the dispatch, its token cleared. -/
def clearedContext : ActorContext :=
  { (dispatched sp m s).ctx with cancellationToken := none }

/-- The `on_complete` loop, over the headers in the context. -/
def completed (outcome : Outcome R) : σ × List (Event R) :=
  completeLoop (inboundContext (clearedContext sp m s) m.toDispatch) m
    (clearedContext sp m s).headers outcome sp.interceptors 0 (wrappers sp m s).2

/-- Everything up to the dispatch of a message that is let through. -/
def intakeEvents : List (Event R) :=
  (received sp m s).events ++ sleepEvents (received sp m s).totalDelay

/-- The future that is raced against the token. -/
def handlerFuture : Fut :=
  let inner := Fut.handler (m.handler.pending s.actor (handlerContext sp m s))
  if needsWrap sp m s then applyHandlerWrappers (wrappers sp m s).1 inner else inner

end Stages

/-- The error every runtime builds from a panicking handler. -/
def handlerPanicked : ActorError := .internal "handler panicked"

/-! ### What the stages do -/

theorem dispatched_eq (sp : Spawn σ A M R) (m : Incoming A M R) (s : Core σ A) :
    (dispatched sp m s).events =
        startedEvents m.toDispatch (handlerContext sp m s)
          (race (handlerFuture sp m s) m.cancelToken).2 ∧
      ((dispatched sp m s).result = .cancelled ↔
        (race (handlerFuture sp m s) m.cancelToken).1 = true) := by
  rcases hw : needsWrap sp m s with - | -
  · simp only [dispatched, handlerFuture, hw, Bool.false_eq_true, if_false, dispatchFast]
    refine ⟨trivial, ?_⟩
    rcases race (.handler (m.handler.pending s.actor (handlerContext sp m s))) m.cancelToken
      with ⟨- | -, polls⟩ <;> simp
  · simp only [dispatched, handlerFuture, hw, if_true, dispatchWrapped]
    refine ⟨trivial, ?_⟩
    rcases race (applyHandlerWrappers (wrappers sp m s).1
        (.handler (m.handler.pending s.actor (handlerContext sp m s)))) m.cancelToken
      with ⟨- | -, polls⟩
    · simp only [Bool.false_eq_true, if_false, iff_false]
      split <;> simp
    · simp

/-- The token wins the race against a future exactly if it is cancelled
while the future is still pending. -/
theorem race_fst_iff (fut : Fut) {token : Option CancellationToken}
    (h : token.any (·.isCancelled) = false) :
    (race fut token).1 = true ↔ ∃ k, token = some (.atPoll k) ∧ k < fut.pending.length := by
  rcases token with - | (- | - | k)
  · simp [race]
  · simp [race]
  · cases h
  · by_cases hk : k < fut.pending.length
    · simp [race, hk]
    · simp [race, hk]

end Dactor
