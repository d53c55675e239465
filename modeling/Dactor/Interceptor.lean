/-
Dactor/Interceptor.lean

Inbound interceptors.

An interceptor object has interior state (a mutex around a map, say), so
each method is a function on a state type `σ` shared by the whole pipeline;
`M` is what interceptors see of a message, `R` the type-erased reply.  A
method that reads the clock gets the instant as an argument.

A future is its poll behaviour: how many times each of its polls polls the
handler.  That is all a runtime learns of a wrapper, and enough to say
whether the handler was started and whether it finished.
-/
import Dactor.Basic

namespace Dactor

/-- Metadata about an inbound message and its target actor. -/
structure InboundContext where
  actorId : ActorId
  actorName : String
  messageType : String
  sendMode : SendMode
  remote : Bool
  originNode : Option NodeId
  deriving DecidableEq, Repr

/-- The outcome of a handler, as shown to `on_complete`. -/
inductive Outcome (R : Type)
  | tellSuccess
  | askSuccess (reply : R)
  | handlerError (error : ActorError)
  | streamCompleted (itemsEmitted : UInt64)
  | streamCancelled (itemsEmitted : UInt64)
  deriving DecidableEq, Repr

def Outcome.isError {R : Type} : Outcome R → Bool
  | .handlerError _ => true
  | _ => false

/-! ### Futures and wrappers -/

/-- A future that is polled to its end: the number of handler polls made by
each poll that returns `Pending`, and by the last poll. -/
structure Fut where
  pending : List Nat
  last : Nat
  deriving DecidableEq, Repr

/-- The handler's own future, with `n` pending polls before the last. -/
def Fut.handler (n : Nat) : Fut := ⟨List.replicate n 1, 1⟩

/-- Handler polls made by the first `k` polls. -/
def Fut.pollsBefore (f : Fut) (k : Nat) : Nat := (f.pending.take k).sum

/-- Handler polls made by the whole future. -/
def Fut.polls (f : Fut) : Nat := f.pending.sum + f.last

/-- A `HandlerWrapper` turns the next future into its own.  A wrapper that
does not await `next`, or panics, returns one that polls it too little. -/
abbrev HandlerWrapper := Fut → Fut

structure InboundInterceptor (σ M R : Type) where
  name : String
  onReceive : InboundContext → RuntimeHeaders → Headers → M → Nat → σ →
    Disposition × Headers × σ
  onComplete : InboundContext → RuntimeHeaders → Headers → Outcome R → Nat → σ → σ
  wrapHandler : InboundContext → Headers → σ → Option HandlerWrapper × σ

variable {σ M R : Type}

/-- `collect_handler_wrappers`: one entry per interceptor, in order. -/
def collectHandlerWrappers (ctx : InboundContext) (headers : Headers) :
    List (InboundInterceptor σ M R) → σ → List (Option HandlerWrapper) × σ
  | [], s => ([], s)
  | i :: is, s =>
    let r := i.wrapHandler ctx headers s
    let rest := collectHandlerWrappers ctx headers is r.2
    (r.1 :: rest.1, rest.2)

/-- `apply_handler_wrappers`: in reverse order, so that the first
interceptor's wrapper is the outermost. -/
def applyHandlerWrappers (wrappers : List (Option HandlerWrapper)) (inner : Fut) : Fut :=
  wrappers.reverse.foldl (fun next wrapper =>
    match wrapper with
    | some w => w next
    | none => next) inner

end Dactor
