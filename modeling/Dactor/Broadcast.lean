/-
Dactor/Broadcast.lean

Broadcasts to a group of actors.

`tell` sends to the members one after another.  `ask` first asks every member,
in order, and then waits for all replies at once, each with its own timeout.
The futures are polled in any order and any number of times, replies arrive
and time passes in between, so the waiting is a step system.  A member can
fail to accept the message right away, or through its reply.

The actors behind the references are a state that the calls change; a dead
letter handler may change it too, and may panic.  What happens to this state
says which calls were made: `Delivers`, `Broadcasting.effects`.

Main result: `broadcast_accounts`.
-/
import Dactor.DeadLetters
import Dactor.Runs
import Dactor.Slots

namespace Dactor

open Runs Slots

variable {ρ M R ω : Type}

/-! ### Groups -/

/-- The references `R: ActorRef<A>` of a group.  A call may do anything to the
actors. -/
structure ActorRefs (ρ M ω : Type) where
  id : ρ → ActorId
  name : ρ → String
  tell : ρ → M → ω → Except ActorSendError Unit × ω
  ask : ρ → M → ω → Except ActorSendError Unit × ω

/-- `on_dead_letter`, which returns or panics. -/
abbrev DeadLetterHandler (ω : Type) := DeadLetterEvent → ω → HandlerEnd Unit × ω

structure BroadcastRef (ρ ω : Type) where
  refs : List ρ
  deadLetterHandler : Option (DeadLetterHandler ω)

/-- The actors, with the deliveries attempted and the calls of the dead letter
handler. -/
structure Scene (ρ ω : Type) where
  actors : ω
  attempts : List (ρ × Except ActorSendError Unit)
  letters : List DeadLetterEvent

def Scene.start (actors : ω) : Scene ρ ω := ⟨actors, [], []⟩

/-- What a delivery to a member came to. -/
def Scene.attempted (w : Scene ρ ω) (r : ρ) (call : Except ActorSendError Unit × ω) : Scene ρ ω :=
  { w with actors := call.2, attempts := w.attempts ++ [(r, call.1)] }

/-! ### Dead letters -/

/-- The reason `emit_dead_letter` reads off the text of an error. -/
def broadcastReason (error : ActorSendError) : DeadLetterReason :=
  if containsText error.message "stopped" || containsText error.message "closed" then .actorStopped
  else if containsText error.message "not found" then .actorNotFound
  else if containsText error.message "full" then .mailboxFull
  else .actorStopped

def deadLetter (api : ActorRefs ρ M ω) (messageType : String) (r : ρ) (error : ActorSendError)
    (sendMode : SendMode) : DeadLetterEvent where
  targetId := api.id r
  targetName := some (api.name r)
  messageType
  sendMode
  reason := broadcastReason error

/-- `catch_unwind`: a panic of the call becomes a value.  What the call did
before stays. -/
def catchUnwind (call : ω → HandlerEnd Unit × ω) (actors : ω) : Except Unit Unit × ω :=
  match call actors with
  | (.returned u, actors) => (.ok u, actors)
  | (.panicked, actors) => (.error (), actors)

/-- The handler is called once, and how the call ended is dropped. -/
def emitDeadLetter (handler : DeadLetterHandler ω) (event : DeadLetterEvent) (w : Scene ρ ω) :
    Scene ρ ω :=
  { w with
    actors := (catchUnwind (handler event) w.actors).2
    letters := w.letters ++ [event] }

namespace BroadcastRef

variable (g : BroadcastRef ρ ω)

/-- Route a failed send to the dead letter handler, if configured. -/
def routeDeadLetter (event : DeadLetterEvent) (w : Scene ρ ω) : Scene ρ ω :=
  match g.deadLetterHandler with
  | some handler => emitDeadLetter handler event w
  | none => w

/-- What the call of the handler does to the actors. -/
def handling (event : DeadLetterEvent) (actors : ω) : ω :=
  match g.deadLetterHandler with
  | some handler => (catchUnwind (handler event) actors).2
  | none => actors

/-- The event, if there is somebody to tell. -/
def lettered (event : DeadLetterEvent) : Option DeadLetterEvent :=
  g.deadLetterHandler.map fun _ => event

end BroadcastRef

/-! ### Tell -/

structure BroadcastTellOutcome where
  actorId : ActorId
  result : Except ActorSendError Unit

/-- `if let Err(ref err) = result` in the loop of `tell`. -/
def BroadcastRef.routeFailure (api : ActorRefs ρ M ω) (g : BroadcastRef ρ ω) (messageType : String)
    (r : ρ) (result : Except ActorSendError Unit) (w : Scene ρ ω) : Scene ρ ω :=
  match result with
  | .error e => g.routeDeadLetter (deadLetter api messageType r e .tell) w
  | .ok () => w

/-- The loop of `tell`. -/
def BroadcastRef.tellLoop (api : ActorRefs ρ M ω) (g : BroadcastRef ρ ω) (messageType : String)
    (msg : M) : List ρ → List BroadcastTellOutcome → Scene ρ ω →
      List BroadcastTellOutcome × Scene ρ ω
  | [], outcomes, w => (outcomes, w)
  | r :: rest, outcomes, w =>
    let call := api.tell r msg w.actors
    let w := g.routeFailure api messageType r call.1 (w.attempted r call)
    tellLoop api g messageType msg rest (outcomes ++ [⟨api.id r, call.1⟩]) w

def BroadcastRef.tell (api : ActorRefs ρ M ω) (g : BroadcastRef ρ ω) (messageType : String)
    (msg : M) (w : Scene ρ ω) : List BroadcastTellOutcome × Scene ρ ω :=
  g.tellLoop api messageType msg g.refs [] w

/-! ### Ask -/

inductive BroadcastReceipt (R : Type)
  | ok (actorId : ActorId) (reply : R)
  | timeout (actorId : ActorId)
  | sendError (actorId : ActorId) (error : ActorSendError)
  | replyError (actorId : ActorId) (error : RuntimeError)
  deriving DecidableEq

def BroadcastReceipt.actorId : BroadcastReceipt R → ActorId
  | .ok id _ | .timeout id | .sendError id _ | .replyError id _ => id

/-- The future of one member: the reference, what asking it returned, the
deadline once the timeout has been started, the reply once there is one,
whether its token is cancelled, and what the future was ready with. -/
structure MemberAsk (ρ R : Type) where
  ref : ρ
  attempt : Except ActorSendError Unit
  deadline : Option ℕ
  arrived : Option (Except RuntimeError R)
  cancelled : Bool
  receipt : Option (BroadcastReceipt R)

/-- A wait for the replies. -/
structure Broadcasting (ρ R ω : Type) where
  now : ℕ
  futures : List (MemberAsk ρ R)
  scene : Scene ρ ω

/-- Ask every member. -/
def askAll (api : ActorRefs ρ M ω) (msg : M) :
    List ρ → Scene ρ ω → List (MemberAsk ρ R) × Scene ρ ω
  | [], w => ([], w)
  | r :: rest, w =>
    let call := api.ask r msg w.actors
    let later := askAll api msg rest (w.attempted r call)
    (⟨r, call.1, none, none, false, none⟩ :: later.1, later.2)

/-- `ask` up to its first await. -/
def BroadcastRef.ask (api : ActorRefs ρ M ω) (g : BroadcastRef ρ ω) (msg : M) (now : ℕ)
    (w : Scene ρ ω) : Broadcasting ρ R ω :=
  let asked := askAll api msg g.refs w
  ⟨now, asked.1, asked.2⟩

namespace MemberAsk

/-- A send error, reported when the member was asked or by its reply. -/
def failed (api : ActorRefs ρ M ω) (g : BroadcastRef ρ ω) (messageType : String)
    (f : MemberAsk ρ R) (w : Scene ρ ω) (e : ActorSendError) : MemberAsk ρ R × Scene ρ ω :=
  ({ f with receipt := some (.sendError (api.id f.ref) e) },
    g.routeDeadLetter (deadLetter api messageType f.ref e .ask) w)

/-- The reply was there before the timeout. -/
def replied (api : ActorRefs ρ M ω) (g : BroadcastRef ρ ω) (messageType : String)
    (f : MemberAsk ρ R) (w : Scene ρ ω) : Except RuntimeError R → MemberAsk ρ R × Scene ρ ω
  | .ok reply => ({ f with receipt := some (.ok (api.id f.ref) reply) }, w)
  | .error (.send msg) => f.failed api g messageType w ⟨msg⟩
  | .error e => ({ f with receipt := some (.replyError (api.id f.ref) e) }, w)

/-- The timer of the timeout, which the first poll starts. -/
def pollTimer (api : ActorRefs ρ M ω) (timeout now : ℕ) (timerSeen : Bool)
    (f : MemberAsk ρ R) : MemberAsk ρ R :=
  let deadline := f.deadline.getD (now + timeout)
  if timerSeen ∧ deadline ≤ now then
    { f with
      deadline := some deadline
      cancelled := true
      receipt := some (.timeout (api.id f.ref)) }
  else { f with deadline := some deadline }

/-- One poll of a member's future.  The timeout polls the reply first and its
timer second; either may be left for a later poll, when the task is out of
budget or the timer has not been served.  A future that was ready is not
polled again. -/
def poll (api : ActorRefs ρ M ω) (g : BroadcastRef ρ ω) (messageType : String)
    (timeout now : ℕ) (replySeen timerSeen : Bool) (f : MemberAsk ρ R) (w : Scene ρ ω) :
    MemberAsk ρ R × Scene ρ ω :=
  match f.receipt, f.attempt with
  | some _, _ => (f, w)
  | none, .error e => f.failed api g messageType w e
  | none, .ok () =>
    match if replySeen then f.arrived else none with
    | some result => f.replied api g messageType w result
    | none => (f.pollTimer api timeout now timerSeen, w)

end MemberAsk

/-- What happens while the broadcast waits: a future is polled, a member's
reply channel is resolved, time passes, the actors go on. -/
inductive AskOp (R ω : Type)
  | poll (i : ℕ) (replySeen timerSeen : Bool)
  | arrive (i : ℕ) (result : Except RuntimeError R)
  | elapse (d : ℕ)
  | actors (change : ω → ω)

def Broadcasting.step (api : ActorRefs ρ M ω) (g : BroadcastRef ρ ω) (messageType : String)
    (timeout : ℕ) (s : Broadcasting ρ R ω) : AskOp R ω → Broadcasting ρ R ω
  | .poll i replySeen timerSeen =>
    match s.futures[i]? with
    | some f =>
      let polled := f.poll api g messageType timeout s.now replySeen timerSeen s.scene
      { s with futures := s.futures.set i polled.1, scene := polled.2 }
    | none => s
  | .arrive i result =>
    match s.futures[i]? with
    | some f =>
      let arrived := f.arrived.or (some result)
      { s with futures := s.futures.set i { f with arrived } }
    | none => s
  | .elapse d => { s with now := s.now + d }
  | .actors change => { s with scene := { s.scene with actors := change s.scene.actors } }

/-- `join_all`: ready when all are, with their results in order. -/
def joinAll : List (MemberAsk ρ R) → Option (List (BroadcastReceipt R))
  | [] => some []
  | f :: rest =>
    match f.receipt, joinAll rest with
    | some receipt, some receipts => some (receipt :: receipts)
    | _, _ => none

/-! ### The contract -/

/-- Calls made one after another: each has returned what it is to return in the
state that the one before has left, after what followed that one. -/
def Delivers (call : ρ → ω → Except ActorSendError Unit × ω)
    (after : ρ × Except ActorSendError Unit → ω → ω) :
    List (ρ × Except ActorSendError Unit) → ω → ω → Prop
  | [], actors, actors' => actors' = actors
  | attempt :: rest, actors, actors' =>
    attempt.2 = (call attempt.1 actors).1 ∧
      Delivers call after rest (after attempt (call attempt.1 actors).2) actors'

section Contract

variable (api : ActorRefs ρ M ω) (g : BroadcastRef ρ ω) (messageType : String)

/-- What a failed delivery does to the actors: the handler is called. -/
def tellEffect (attempt : ρ × Except ActorSendError Unit) (actors : ω) : ω :=
  match attempt.2 with
  | .error e => g.handling (deadLetter api messageType attempt.1 e .tell) actors
  | .ok () => actors

/-- What a step of the wait does to the actors: they go on, or the handler is
called for the new dead letters. -/
def Broadcasting.effects (timeout : ℕ) (s : Broadcasting ρ R ω) : AskOp R ω → List (ω → ω)
  | .actors change => [change]
  | op =>
    ((s.step api g messageType timeout op).scene.letters.drop s.scene.letters.length).map g.handling

/-- The dead letter due for an attempted delivery. -/
def tellLetter (attempt : ρ × Except ActorSendError Unit) : Option DeadLetterEvent :=
  match attempt.2 with
  | .error e => g.lettered (deadLetter api messageType attempt.1 e .tell)
  | .ok () => none

/-- One delivery and one outcome for each member, in order, and a dead letter
for each failure; and nothing else is done to the actors. -/
structure TellAccounts (msg : M) (actors : ω) (result : List BroadcastTellOutcome × Scene ρ ω) :
    Prop where
  attempts : result.2.attempts.map Prod.fst = g.refs
  delivered : Delivers (fun r => api.tell r msg) (tellEffect api g messageType)
    result.2.attempts actors result.2.actors
  outcomes : result.1 = result.2.attempts.map fun a => ⟨api.id a.1, a.2⟩
  letters : result.2.letters = result.2.attempts.filterMap (tellLetter api g messageType)

/-- The dead letter due for a member that was asked: only if its receipt is a
send error. -/
def askLetter (f : MemberAsk ρ R) : Option DeadLetterEvent :=
  match f.receipt with
  | some (.sendError _ e) => g.lettered (deadLetter api messageType f.ref e .ask)
  | _ => none

/-- What a receipt says happened. -/
def MemberAsk.Settles (now : ℕ) (f : MemberAsk ρ R) : BroadcastReceipt R → Prop
  | .ok _ reply => f.attempt = .ok () ∧ f.arrived = some (.ok reply)
  | .timeout _ => f.attempt = .ok () ∧ ∃ deadline, f.deadline = some deadline ∧ deadline ≤ now
  | .sendError _ e => f.attempt = .error e ∨
      f.attempt = .ok () ∧ f.arrived = some (.error (.send e.message))
  | .replyError _ e =>
      f.attempt = .ok () ∧ f.arrived = some (.error e) ∧ ∀ msg, e ≠ .send msg

/-- A receipt is its member's, and true; and the token is cancelled exactly
by a timeout. -/
structure MemberAsk.Accounts (now : ℕ) (f : MemberAsk ρ R) : Prop where
  receipt : ∀ receipt, f.receipt = some receipt →
    receipt.actorId = api.id f.ref ∧ f.Settles now receipt
  token : f.cancelled = true ↔ ∃ id, f.receipt = some (.timeout id)

/-- One attempt and one future for each member, in order, each with the right
receipt; a dead letter for each send error and no other; and the receipts are
returned in the order of the members. -/
structure AskAccounts (s : Broadcasting ρ R ω) : Prop where
  attempts : s.scene.attempts.map Prod.fst = g.refs
  futures : s.futures.map (fun f => (f.ref, f.attempt)) = s.scene.attempts
  members : ∀ f ∈ s.futures, f.Accounts api s.now
  letters : s.scene.letters.Perm (s.futures.filterMap (askLetter api g messageType))
  returned : ∀ receipts, joinAll s.futures = some receipts →
    List.Forall₂ (fun f receipt => f.receipt = some receipt) s.futures receipts ∧
      receipts.map BroadcastReceipt.actorId = g.refs.map api.id

/-- After any steps, if every future is polled, the timeout passes, and every
future is polled again after its timer was served, then all receipts are
there. -/
def AnswersInTime (timeout : ℕ) (start : Broadcasting ρ R ω) : Prop :=
  ∀ (ops polls late : List (AskOp R ω)) (d : ℕ), timeout ≤ d →
    (∀ i < g.refs.length, ∃ replySeen timerSeen, .poll i replySeen timerSeen ∈ polls) →
    (∀ i < g.refs.length, ∃ replySeen, .poll i replySeen true ∈ late) →
    ∃ receipts, joinAll (run (Broadcasting.step api g messageType timeout) start
      (ops ++ polls ++ .elapse d :: late)).futures = some receipts

end Contract

/-! ### Dead letters, once each -/

theorem BroadcastRef.routeDeadLetter_actors (g : BroadcastRef ρ ω) (event : DeadLetterEvent)
    (w : Scene ρ ω) : (g.routeDeadLetter event w).actors = g.handling event w.actors := by
  rw [routeDeadLetter, handling]
  cases g.deadLetterHandler with
  | none => rfl
  | some handler => rfl

theorem BroadcastRef.routeDeadLetter_attempts (g : BroadcastRef ρ ω) (event : DeadLetterEvent)
    (w : Scene ρ ω) : (g.routeDeadLetter event w).attempts = w.attempts := by
  rw [routeDeadLetter]
  cases g.deadLetterHandler with
  | none => rfl
  | some handler => rfl

/-- Whatever the handler does, it is called once. -/
theorem BroadcastRef.routeDeadLetter_letters (g : BroadcastRef ρ ω) (event : DeadLetterEvent)
    (w : Scene ρ ω) :
    (g.routeDeadLetter event w).letters = w.letters ++ (g.lettered event).toList := by
  rw [routeDeadLetter, lettered]
  cases g.deadLetterHandler with
  | none => exact (List.append_nil _).symm
  | some handler => rfl

/-! ### Tell -/

variable {api : ActorRefs ρ M ω} {g : BroadcastRef ρ ω} {messageType : String}

theorem routeFailure_actors (r : ρ) (result : Except ActorSendError Unit) (w : Scene ρ ω) :
    (g.routeFailure api messageType r result w).actors =
      tellEffect api g messageType (r, result) w.actors := by
  cases result with
  | ok u => rfl
  | error e => exact g.routeDeadLetter_actors _ w

theorem routeFailure_attempts (r : ρ) (result : Except ActorSendError Unit) (w : Scene ρ ω) :
    (g.routeFailure api messageType r result w).attempts = w.attempts := by
  cases result with
  | ok u => rfl
  | error e => exact g.routeDeadLetter_attempts _ w

theorem routeFailure_letters (r : ρ) (result : Except ActorSendError Unit) (w : Scene ρ ω) :
    (g.routeFailure api messageType r result w).letters =
      w.letters ++ (tellLetter api g messageType (r, result)).toList := by
  cases result with
  | ok u => exact (List.append_nil _).symm
  | error e => exact g.routeDeadLetter_letters _ w

/-- The loop attempts the deliveries that are left, one after another. -/
theorem tellLoop_spec (msg : M) (refs : List ρ) (outcomes : List BroadcastTellOutcome)
    (w : Scene ρ ω) :
    ∃ attempts : List (ρ × Except ActorSendError Unit), attempts.map Prod.fst = refs ∧
      (g.tellLoop api messageType msg refs outcomes w).1 =
        outcomes ++ attempts.map (fun a => ⟨api.id a.1, a.2⟩) ∧
      Delivers (fun r => api.tell r msg) (tellEffect api g messageType) attempts w.actors
        (g.tellLoop api messageType msg refs outcomes w).2.actors ∧
      (g.tellLoop api messageType msg refs outcomes w).2.attempts = w.attempts ++ attempts ∧
      (g.tellLoop api messageType msg refs outcomes w).2.letters =
        w.letters ++ attempts.filterMap (tellLetter api g messageType) := by
  induction refs generalizing outcomes w with
  | nil =>
      refine ⟨[], rfl, ?_, rfl, ?_, ?_⟩
      · exact (List.append_nil _).symm
      · exact (List.append_nil _).symm
      · exact (List.append_nil _).symm
  | cons r rest ih =>
      rw [BroadcastRef.tellLoop]
      let call := api.tell r msg w.actors
      obtain ⟨attempts, hrefs, hout, hdelivers, hatt, hlet⟩ :=
        ih (outcomes ++ [⟨api.id r, call.1⟩])
          (g.routeFailure api messageType r call.1 (w.attempted r call))
      refine ⟨(r, call.1) :: attempts, by rw [List.map_cons, hrefs], ?_, ⟨rfl, ?_⟩, ?_, ?_⟩
      · rw [hout, List.append_assoc]
        rfl
      · rw [routeFailure_actors] at hdelivers
        exact hdelivers
      · rw [hatt, routeFailure_attempts, Scene.attempted, List.append_assoc]
        rfl
      · rw [hlet, routeFailure_letters, List.append_assoc, filterMap_cons_toList]
        rfl

theorem tellAccounts (api : ActorRefs ρ M ω) (g : BroadcastRef ρ ω) (messageType : String)
    (msg : M) (actors : ω) :
    TellAccounts api g messageType msg actors
      (g.tell api messageType msg (.start actors)) := by
  obtain ⟨attempts, hrefs, hout, hdelivers, hatt, hlet⟩ :=
    tellLoop_spec msg g.refs [] (.start actors)
  refine ⟨?_, ?_, ?_, ?_⟩
  · rw [BroadcastRef.tell, hatt]
    exact hrefs
  · rw [BroadcastRef.tell, hatt]
    exact hdelivers
  · rw [BroadcastRef.tell, hatt]
    exact hout
  · rw [BroadcastRef.tell, hatt]
    exact hlet

/-! ### One poll -/

/-- A future that becomes ready with anything but a timeout. -/
theorem MemberAsk.Accounts.ready {now : ℕ} {f : MemberAsk ρ R} (h : f.Accounts api now)
    (hpending : f.receipt = none) {receipt : BroadcastReceipt R}
    (hid : receipt.actorId = api.id f.ref) (hsettles : f.Settles now receipt)
    (hnot : ∀ id, receipt ≠ .timeout id) :
    ({ f with receipt := some receipt } : MemberAsk ρ R).Accounts api now := by
  refine ⟨?_, ?_⟩
  · rintro _ ⟨⟩
    refine ⟨hid, ?_⟩
    cases receipt with
    | ok id reply => exact hsettles
    | timeout id => exact hsettles
    | sendError id e => exact hsettles
    | replyError id e => exact hsettles
  · refine iff_of_false ?_ ?_
    · intro hcancelled
      obtain ⟨id, hid⟩ := h.token.mp hcancelled
      rw [hpending] at hid
      cases hid
    · rintro ⟨id, hid⟩
      exact hnot id (Option.some.inj hid)

/-- What one poll does. -/
structure PollSpec (api : ActorRefs ρ M ω) (g : BroadcastRef ρ ω) (messageType : String)
    (now : ℕ) (f : MemberAsk ρ R) (w : Scene ρ ω) (polled : MemberAsk ρ R × Scene ρ ω) :
    Prop where
  member : (polled.1.ref, polled.1.attempt) = (f.ref, f.attempt)
  accounts : polled.1.Accounts api now
  attempts : polled.2.attempts = w.attempts
  letters : (polled.2.letters ++ (askLetter api g messageType f).toList).Perm
    (w.letters ++ (askLetter api g messageType polled.1).toList)

variable {timeout now : ℕ} {f : MemberAsk ρ R} {w : Scene ρ ω}

theorem askLetter_pending (h : f.receipt = none) : askLetter api g messageType f = none := by
  rw [askLetter, h]

/-- A send error calls the handler. -/
theorem failed_spec (h : f.Accounts api now) (hpending : f.receipt = none)
    {e : ActorSendError} (hsettles : f.Settles now (.sendError (api.id f.ref) e)) :
    PollSpec api g messageType now f w (f.failed api g messageType w e) := by
  refine ⟨rfl, h.ready hpending rfl hsettles ?_, g.routeDeadLetter_attempts _ w, ?_⟩
  · intro id hid
    cases hid
  · rw [askLetter_pending hpending]
    show ((g.routeDeadLetter _ w).letters ++ []).Perm _
    rw [g.routeDeadLetter_letters, List.append_nil]
    exact List.Perm.refl _

/-- Any other poll of a pending future leaves the scene alone. -/
theorem pollSpec_quiet {f' : MemberAsk ρ R} (hpending : f.receipt = none)
    (hmember : (f'.ref, f'.attempt) = (f.ref, f.attempt)) (haccounts : f'.Accounts api now)
    (hletter : askLetter api g messageType f' = none) :
    PollSpec api g messageType now f w (f', w) := by
  refine ⟨hmember, haccounts, rfl, ?_⟩
  rw [askLetter_pending hpending, hletter]

theorem replied_spec (h : f.Accounts api now) (hpending : f.receipt = none)
    (hattempt : f.attempt = .ok ()) {result : Except RuntimeError R}
    (harrived : f.arrived = some result) :
    PollSpec api g messageType now f w (f.replied api g messageType w result) := by
  cases result with
  | ok reply =>
      refine pollSpec_quiet hpending rfl (h.ready hpending rfl ⟨hattempt, harrived⟩ ?_) rfl
      intro id hid
      cases hid
  | error e =>
      by_cases hsend : ∃ msg, e = .send msg
      · obtain ⟨msg, rfl⟩ := hsend
        exact failed_spec h hpending (.inr ⟨hattempt, harrived⟩)
      · have hno : ∀ msg, e ≠ .send msg := fun msg heq => hsend ⟨msg, heq⟩
        have hreplied : f.replied api g messageType w (.error e) =
            ({ f with receipt := some (.replyError (api.id f.ref) e) }, w) := by
          cases e with
          | send msg => exact absurd rfl (hno msg)
          | _ => rfl
        rw [hreplied]
        refine pollSpec_quiet hpending rfl
          (h.ready hpending rfl ⟨hattempt, harrived, hno⟩ ?_) rfl
        intro id hid
        cases hid

theorem pollTimer_spec (h : f.Accounts api now) (hpending : f.receipt = none)
    (hattempt : f.attempt = .ok ()) (timerSeen : Bool) :
    PollSpec api g messageType now f w (f.pollTimer api timeout now timerSeen, w) := by
  rw [MemberAsk.pollTimer]
  split
  · next hdue =>
      refine pollSpec_quiet hpending rfl ⟨?_, iff_of_true rfl ⟨_, rfl⟩⟩ rfl
      rintro _ ⟨⟩
      exact ⟨rfl, hattempt, _, rfl, hdue.2⟩
  · refine pollSpec_quiet hpending rfl ⟨?_, h.token⟩ (askLetter_pending hpending)
    intro receipt hreceipt
    rw [show f.receipt = some receipt from hreceipt] at hpending
    cases hpending

theorem poll_spec (h : f.Accounts api now) (replySeen timerSeen : Bool) :
    PollSpec api g messageType now f w
      (f.poll api g messageType timeout now replySeen timerSeen w) := by
  rw [MemberAsk.poll]
  cases hreceipt : f.receipt with
  | some receipt => exact ⟨rfl, h, rfl, List.Perm.refl _⟩
  | none =>
      cases hattempt : f.attempt with
      | error e => exact failed_spec h hreceipt (.inl hattempt)
      | ok u =>
          dsimp only
          split
          · next result hseen =>
              -- only an arrived reply is seen
              have harrived : f.arrived = some result := by
                cases replySeen with
                | false => cases hseen
                | true => exact hseen
              exact replied_spec h hreceipt hattempt harrived
          · exact pollTimer_spec h hreceipt hattempt timerSeen

/-! ### What the wait does to the actors -/

/-- The handler was called for the dead letters that have come in. -/
def CallsHandler (g : BroadcastRef ρ ω) (w w' : Scene ρ ω) : Prop :=
  w'.attempts = w.attempts ∧ ∃ events, w'.letters = w.letters ++ events ∧
    w'.actors = events.foldl (fun actors event => g.handling event actors) w.actors

theorem callsHandler_refl (g : BroadcastRef ρ ω) (w : Scene ρ ω) : CallsHandler g w w :=
  ⟨rfl, [], (List.append_nil _).symm, rfl⟩

theorem failed_callsHandler (f : MemberAsk ρ R) (w : Scene ρ ω) (e : ActorSendError) :
    CallsHandler g w (f.failed api g messageType w e).2 := by
  refine ⟨g.routeDeadLetter_attempts _ w, _, g.routeDeadLetter_letters _ w, ?_⟩
  show (g.routeDeadLetter _ w).actors = _
  rw [g.routeDeadLetter_actors, BroadcastRef.handling, BroadcastRef.lettered]
  cases hhandler : g.deadLetterHandler with
  | none => rfl
  | some handler =>
      simp only [Option.map_some, Option.toList_some, List.foldl_cons, List.foldl_nil,
        BroadcastRef.handling, hhandler]

theorem poll_callsHandler (f : MemberAsk ρ R) (w : Scene ρ ω) (replySeen timerSeen : Bool) :
    CallsHandler g w (f.poll api g messageType timeout now replySeen timerSeen w).2 := by
  rw [MemberAsk.poll]
  split
  · exact callsHandler_refl g w
  · exact failed_callsHandler f w _
  · split
    · next result _ =>
        rcases result with e | reply
        · cases e with
          | send msg => exact failed_callsHandler f w _
          | _ => exact callsHandler_refl g w
        · exact callsHandler_refl g w
    · exact callsHandler_refl g w

/-- The attempts are over when the wait begins, and after that only its effects
change the actors. -/
theorem Broadcasting.effects_step {asked : List (ρ × Except ActorSendError Unit)} {actors : ω}
    (past : List (ω → ω)) (s : Broadcasting ρ R ω) (op : AskOp R ω)
    (h : s.scene.attempts = asked ∧
      s.scene.actors = past.foldl (fun actors effect => effect actors) actors) :
    (s.step api g messageType timeout op).scene.attempts = asked ∧
      (s.step api g messageType timeout op).scene.actors =
        (past ++ s.effects api g messageType timeout op).foldl
          (fun actors effect => effect actors) actors := by
  obtain ⟨hattempts, hactors⟩ := h
  rw [List.foldl_append, ← hactors]
  have hhandled : CallsHandler g s.scene (s.step api g messageType timeout op).scene →
      (s.step api g messageType timeout op).scene.attempts = asked ∧
        (s.step api g messageType timeout op).scene.actors =
          (((s.step api g messageType timeout op).scene.letters.drop
            s.scene.letters.length).map g.handling).foldl (fun actors effect => effect actors)
              s.scene.actors := by
    rintro ⟨hsame, events, hletters, hhandling⟩
    rw [hsame, hletters, List.drop_left, List.foldl_map]
    exact ⟨hattempts, hhandling⟩
  cases op with
  | poll i replySeen timerSeen =>
      apply hhandled
      rw [Broadcasting.step]
      split
      · exact poll_callsHandler _ s.scene replySeen timerSeen
      · exact callsHandler_refl g s.scene
  | arrive i result =>
      apply hhandled
      rw [Broadcasting.step]
      split
      · exact callsHandler_refl g s.scene
      · exact callsHandler_refl g s.scene
  | elapse d => exact hhandled (callsHandler_refl g s.scene)
  | actors change => exact ⟨hattempts, rfl⟩

/-! ### Runs of the wait -/

/-- The accounts at any moment, and no timer runs longer than the timeout. -/
structure Broadcasting.Inv (api : ActorRefs ρ M ω) (g : BroadcastRef ρ ω) (messageType : String)
    (timeout : ℕ) (s : Broadcasting ρ R ω) : Prop where
  attempts : s.scene.attempts.map Prod.fst = g.refs
  futures : s.futures.map (fun f => (f.ref, f.attempt)) = s.scene.attempts
  members : ∀ f ∈ s.futures, f.Accounts api s.now
  letters : s.scene.letters.Perm (s.futures.filterMap (askLetter api g messageType))
  timers : ∀ f ∈ s.futures, ∀ deadline, f.deadline = some deadline → deadline ≤ s.now + timeout

theorem MemberAsk.Accounts.later {d : ℕ} (h : f.Accounts api now) : f.Accounts api (now + d) := by
  refine ⟨fun receipt hreceipt => ?_, h.token⟩
  obtain ⟨hid, hsettles⟩ := h.receipt receipt hreceipt
  refine ⟨hid, ?_⟩
  cases receipt with
  | timeout id =>
      obtain ⟨hattempt, deadline, hdeadline, hdue⟩ := hsettles
      exact ⟨hattempt, deadline, hdeadline, Nat.le_add_right_of_le hdue⟩
  | ok id reply => exact hsettles
  | sendError id e => exact hsettles
  | replyError id e => exact hsettles

/-- A reply is not overwritten. -/
theorem MemberAsk.Accounts.arrive (h : f.Accounts api now) (result : Except RuntimeError R) :
    ({ f with arrived := f.arrived.or (some result) } : MemberAsk ρ R).Accounts api now := by
  have hkept : ∀ {x}, f.arrived = some x → f.arrived.or (some result) = some x := by
    intro x hx
    rw [hx]
    rfl
  refine ⟨fun receipt hreceipt => ?_, h.token⟩
  obtain ⟨hid, hsettles⟩ := h.receipt receipt hreceipt
  refine ⟨hid, ?_⟩
  cases receipt with
  | timeout id => exact hsettles
  | ok id reply => exact ⟨hsettles.1, hkept hsettles.2⟩
  | sendError id e => exact hsettles.imp_right fun hs => ⟨hs.1, hkept hs.2⟩
  | replyError id e => exact ⟨hsettles.1, hkept hsettles.2.1, hsettles.2.2⟩

/-- What one poll does to the timer. -/
structure PollTimes (timeout now : ℕ) (timerSeen : Bool) (f f' : MemberAsk ρ R) : Prop where
  receipt : ∀ receipt, f.receipt = some receipt → f'.receipt = some receipt
  deadline : f'.deadline = f.deadline ∨ f.deadline = none ∧ f'.deadline = some (now + timeout)
  pending : f'.receipt = none →
    ∃ deadline, f'.deadline = some deadline ∧ (timerSeen = true → now < deadline)

theorem PollTimes.deadline_le {timerSeen : Bool} {f' : MemberAsk ρ R}
    (h : PollTimes timeout now timerSeen f f')
    (hold : ∀ deadline, f.deadline = some deadline → deadline ≤ now + timeout) :
    ∀ deadline, f'.deadline = some deadline → deadline ≤ now + timeout := by
  intro deadline hdeadline
  rcases h.deadline with hsame | ⟨-, hstarted⟩
  · exact hold deadline (hsame ▸ hdeadline)
  · rw [hstarted] at hdeadline
    cases hdeadline
    exact Nat.le_refl _

/-- A future that is ready after the poll, with the timer as it was. -/
theorem pollTimes_ready {timerSeen : Bool} {receipt : BroadcastReceipt R}
    (hpending : f.receipt = none) :
    PollTimes timeout now timerSeen f { f with receipt := some receipt } := by
  refine ⟨fun _ h => ?_, .inl rfl, fun h => ?_⟩
  · rw [hpending] at h
    cases h
  · cases h

theorem pollTimer_times (hpending : f.receipt = none) (timerSeen : Bool) :
    PollTimes timeout now timerSeen f (f.pollTimer api timeout now timerSeen) := by
  have hdeadline : some (f.deadline.getD (now + timeout)) = f.deadline ∨
      f.deadline = none ∧ some (f.deadline.getD (now + timeout)) = some (now + timeout) := by
    cases f.deadline with
    | none => exact .inr ⟨rfl, rfl⟩
    | some deadline => exact .inl rfl
  have hno : ∀ {receipt}, f.receipt ≠ some receipt := by
    intro receipt h
    rw [hpending] at h
    cases h
  rw [MemberAsk.pollTimer]
  split
  · refine ⟨fun _ h => absurd h hno, hdeadline, fun h => ?_⟩
    cases h
  · next hlater =>
      refine ⟨fun _ h => absurd h hno, hdeadline, fun _ => ⟨_, rfl, fun hseen => ?_⟩⟩
      exact Nat.lt_of_not_le fun hle => hlater ⟨hseen, hle⟩

theorem poll_times (w : Scene ρ ω) (replySeen timerSeen : Bool) :
    PollTimes timeout now timerSeen f
      (f.poll api g messageType timeout now replySeen timerSeen w).1 := by
  rw [MemberAsk.poll]
  cases hreceipt : f.receipt with
  | some receipt =>
      refine ⟨fun _ h => h, .inl rfl, fun h => ?_⟩
      rw [show f.receipt = none from h] at hreceipt
      cases hreceipt
  | none =>
      cases hattempt : f.attempt with
      | error e => exact pollTimes_ready hreceipt
      | ok u =>
          dsimp only
          split
          · next result _ =>
              -- whatever the reply is, the future is ready
              cases result with
              | ok reply => exact pollTimes_ready hreceipt
              | error e => cases e <;> exact pollTimes_ready hreceipt
          · exact pollTimer_times hreceipt timerSeen

/-- A future keeps what it has reached: its receipt and its deadline. -/
structure Advances (f f' : MemberAsk ρ R) : Prop where
  receipt : ∀ receipt, f.receipt = some receipt → f'.receipt = some receipt
  deadline : ∀ deadline, f.deadline = some deadline → f'.deadline = some deadline

theorem advances_refl (f : MemberAsk ρ R) : Advances f f := ⟨fun _ h => h, fun _ h => h⟩

/-- What is pending now was pending before. -/
theorem Advances.pending {f' : MemberAsk ρ R} (h : Advances f f') (hpending : f'.receipt = none) :
    f.receipt = none := by
  cases hreceipt : f.receipt with
  | none => rfl
  | some receipt =>
      rw [h.receipt receipt hreceipt] at hpending
      cases hpending

theorem PollTimes.advances {timerSeen : Bool} {f' : MemberAsk ρ R}
    (h : PollTimes timeout now timerSeen f f') : Advances f f' := by
  refine ⟨h.receipt, fun deadline hdeadline => ?_⟩
  rcases h.deadline with hsame | ⟨hnone, -⟩
  · rw [hsame]
    exact hdeadline
  · rw [hnone] at hdeadline
    cases hdeadline

namespace Broadcasting

variable {s : Broadcasting ρ R ω}

/-- A step changes at most one future: this is what that future must keep. -/
theorem Inv.set (h : s.Inv api g messageType timeout) {i : ℕ} {f f' : MemberAsk ρ R}
    (hf : s.futures[i]? = some f) {w : Scene ρ ω}
    (hspec : PollSpec api g messageType s.now f s.scene (f', w))
    (htimer : ∀ deadline, f'.deadline = some deadline → deadline ≤ s.now + timeout) :
    Inv api g messageType timeout { s with futures := s.futures.set i f', scene := w } where
  attempts := by
    show w.attempts.map Prod.fst = g.refs
    rw [hspec.attempts]
    exact h.attempts
  futures := by
    show (s.futures.set i f').map _ = w.attempts
    rw [hspec.attempts, map_set_of_eq _ hf hspec.member]
    exact h.futures
  members := forall_mem_set h.members hspec.accounts
  letters := by
    have hbalance : (w.letters ++ (askLetter api g messageType f).toList).Perm
        ((s.futures.set i f').filterMap (askLetter api g messageType) ++
          (askLetter api g messageType f).toList) :=
      (hspec.letters.trans (h.letters.append_right _)).trans
        (filterMap_set_perm (askLetter api g messageType) hf f').symm
    exact (List.perm_append_right_iff _).mp hbalance
  timers := forall_mem_set h.timers htimer

theorem inv_step (op : AskOp R ω) (h : s.Inv api g messageType timeout) :
    (s.step api g messageType timeout op).Inv api g messageType timeout := by
  cases op with
  | poll i replySeen timerSeen =>
      rw [step]
      cases hf : s.futures[i]? with
      | none => exact h
      | some f =>
          have hmem : f ∈ s.futures := List.mem_of_getElem? hf
          apply h.set hf (poll_spec (h.members f hmem) replySeen timerSeen)
          exact (poll_times s.scene replySeen timerSeen).deadline_le (h.timers f hmem)
  | arrive i result =>
      rw [step]
      cases hf : s.futures[i]? with
      | none => exact h
      | some f =>
          have hmem : f ∈ s.futures := List.mem_of_getElem? hf
          have hspec : PollSpec api g messageType s.now f s.scene
              ({ f with arrived := f.arrived.or (some result) }, s.scene) :=
            ⟨rfl, (h.members f hmem).arrive result, rfl, List.Perm.refl _⟩
          exact h.set hf hspec (h.timers f hmem)
  | elapse d =>
      refine ⟨h.attempts, h.futures, fun f hf => (h.members f hf).later, h.letters, ?_⟩
      intro f hf deadline hdeadline
      show deadline ≤ s.now + d + timeout
      have hbound := h.timers f hf deadline hdeadline
      omega
  | actors change => exact ⟨h.attempts, h.futures, h.members, h.letters, h.timers⟩

/-! ### The receipts come -/

/-- Ready, or with a timer whose deadline is as `P` says. -/
def Until (P : ℕ → ℕ → Prop) (now : ℕ) (f : MemberAsk ρ R) : Prop :=
  f.receipt = none → ∃ deadline, f.deadline = some deadline ∧ P now deadline

/-- The future at position `i` has got so far. -/
def At (P : ℕ → ℕ → Prop) (i : ℕ) (s : Broadcasting ρ R ω) : Prop :=
  ∃ f, s.futures[i]? = some f ∧ Until P s.now f

theorem step_advances (api : ActorRefs ρ M ω) (g : BroadcastRef ρ ω) (messageType : String)
    (timeout : ℕ) (op : AskOp R ω) {i : ℕ} {f : MemberAsk ρ R} (hf : s.futures[i]? = some f) :
    s.now ≤ (s.step api g messageType timeout op).now ∧
      ∃ f', (s.step api g messageType timeout op).futures[i]? = some f' ∧ Advances f f' := by
  cases op with
  | poll j replySeen timerSeen =>
      rw [step]
      cases hj : s.futures[j]? with
      | none => exact ⟨Nat.le_refl _, f, hf, advances_refl f⟩
      | some a =>
          refine ⟨Nat.le_refl _, rel_set advances_refl hj ?_ hf⟩
          exact (poll_times s.scene replySeen timerSeen).advances
  | arrive j result =>
      rw [step]
      cases hj : s.futures[j]? with
      | none => exact ⟨Nat.le_refl _, f, hf, advances_refl f⟩
      | some a =>
          refine ⟨Nat.le_refl _, rel_set advances_refl hj ?_ hf⟩
          exact ⟨fun _ h => h, fun _ h => h⟩
  | elapse d => exact ⟨Nat.le_add_right _ _, f, hf, advances_refl f⟩
  | actors change => exact ⟨Nat.le_refl _, f, hf, advances_refl f⟩

/-- What a future has reached, it keeps. -/
theorem At.step {P : ℕ → ℕ → Prop}
    (hP : ∀ {now now' deadline}, now ≤ now' → P now deadline → P now' deadline) {i : ℕ}
    (h : s.At P i) (op : AskOp R ω) : (s.step api g messageType timeout op).At P i := by
  obtain ⟨f, hf, huntil⟩ := h
  obtain ⟨hnow, f', hf', hadvances⟩ := step_advances api g messageType timeout op hf
  refine ⟨f', hf', fun hpending => ?_⟩
  obtain ⟨deadline, hdeadline, hPd⟩ := huntil (hadvances.pending hpending)
  exact ⟨deadline, hadvances.deadline deadline hdeadline, hP hnow hPd⟩

/-- A poll acts on the future at its position. -/
theorem At.poll {Q : ℕ → ℕ → Prop} {i : ℕ} {f : MemberAsk ρ R} (hf : s.futures[i]? = some f)
    {replySeen timerSeen : Bool}
    (hQ : ∀ {f'}, PollTimes timeout s.now timerSeen f f' → Until Q s.now f') :
    (s.step api g messageType timeout (.poll i replySeen timerSeen)).At Q i := by
  obtain ⟨hi, -⟩ := List.getElem?_eq_some_iff.mp hf
  rw [Broadcasting.step, hf]
  exact ⟨_, List.getElem?_set_self hi, hQ (poll_times s.scene replySeen timerSeen)⟩

/-- Polled once, the timer runs. -/
theorem at_started {i : ℕ} {ops : List (AskOp R ω)} {replySeen timerSeen : Bool}
    (hi : ∃ f, s.futures[i]? = some f) (hmem : .poll i replySeen timerSeen ∈ ops) :
    (run (Broadcasting.step api g messageType timeout) s ops).At (fun _ _ => True) i := by
  refine run_of_mem (P := fun s => ∃ f, s.futures[i]? = some f) ?_ ?_ ?_ hi hmem
  · rintro s op ⟨f, hf⟩
    obtain ⟨-, f', hf', -⟩ := step_advances api g messageType timeout op hf
    exact ⟨f', hf'⟩
  · intro s op h
    exact h.step (fun _ => id) op
  · rintro s ⟨f, hf⟩
    refine At.poll hf fun htimes hpending => ?_
    obtain ⟨deadline, hdeadline, -⟩ := htimes.pending hpending
    exact ⟨deadline, hdeadline, trivial⟩

/-- Polled after the deadline, with the timer served, the future is ready. -/
theorem at_ready {i : ℕ} {ops : List (AskOp R ω)} {replySeen : Bool}
    (hdue : s.At (fun now deadline => deadline ≤ now) i) (hmem : .poll i replySeen true ∈ ops) :
    (run (Broadcasting.step api g messageType timeout) s ops).At (fun _ _ => False) i := by
  refine run_of_mem ?_ ?_ ?_ hdue hmem
  · intro s op h
    exact h.step (fun hnow hle => hle.trans hnow) op
  · intro s op h
    exact h.step (fun _ => id) op
  · rintro s ⟨f, hf, huntil⟩
    refine At.poll hf fun {f'} htimes hpending => ?_
    -- the deadline before the poll is the one after it
    obtain ⟨deadline, hdeadline, hle⟩ := huntil (htimes.advances.pending hpending)
    obtain ⟨deadline', hdeadline', hlt⟩ := htimes.pending hpending
    rw [htimes.advances.deadline deadline hdeadline] at hdeadline'
    cases hdeadline'
    exact absurd (hlt rfl) (Nat.not_lt_of_le hle)

end Broadcasting

/-! ### The start and the end of the wait -/

theorem forall₂_of_joinAll {futures : List (MemberAsk ρ R)} {receipts : List (BroadcastReceipt R)}
    (h : joinAll futures = some receipts) :
    List.Forall₂ (fun f receipt => f.receipt = some receipt) futures receipts := by
  induction futures generalizing receipts with
  | nil =>
      cases h
      exact .nil
  | cons f rest ih =>
      rw [joinAll] at h
      split at h
      · next receipt receipts' hreceipt hrest =>
          cases h
          exact .cons hreceipt (ih hrest)
      · cases h

theorem joinAll_isSome {futures : List (MemberAsk ρ R)} (h : ∀ f ∈ futures, f.receipt ≠ none) :
    ∃ receipts, joinAll futures = some receipts := by
  induction futures with
  | nil => exact ⟨[], rfl⟩
  | cons f rest ih =>
      obtain ⟨receipts, hrest⟩ := ih fun f' hf' => h f' (List.mem_cons_of_mem f hf')
      obtain ⟨receipt, hreceipt⟩ := Option.ne_none_iff_exists'.mp (h f List.mem_cons_self)
      refine ⟨receipt :: receipts, ?_⟩
      rw [joinAll, hreceipt, hrest]

/-- All members are asked before any future is polled. -/
theorem askAll_spec (api : ActorRefs ρ M ω) (msg : M) (refs : List ρ) (w : Scene ρ ω) :
    ∃ attempts : List (ρ × Except ActorSendError Unit), attempts.map Prod.fst = refs ∧
      Delivers (fun r => api.ask r msg) (fun _ actors => actors) attempts w.actors
        (askAll (R := R) api msg refs w).2.actors ∧
      (askAll (R := R) api msg refs w).1 =
        attempts.map (fun a => ⟨a.1, a.2, none, none, false, none⟩) ∧
      (askAll (R := R) api msg refs w).2.attempts = w.attempts ++ attempts ∧
      (askAll (R := R) api msg refs w).2.letters = w.letters := by
  induction refs generalizing w with
  | nil => exact ⟨[], rfl, rfl, rfl, (List.append_nil _).symm, rfl⟩
  | cons r rest ih =>
      let call := api.ask r msg w.actors
      obtain ⟨attempts, hrefs, hdelivers, hfutures, hattempts, hletters⟩ :=
        ih (w.attempted r call)
      refine ⟨(r, call.1) :: attempts, by rw [List.map_cons, hrefs], ⟨rfl, hdelivers⟩, ?_, ?_, ?_⟩
      · rw [askAll, hfutures]
        rfl
      · rw [askAll, hattempts, Scene.attempted, List.append_assoc]
        rfl
      · rw [askAll, hletters]
        rfl

theorem Broadcasting.inv_ask (api : ActorRefs ρ M ω) (g : BroadcastRef ρ ω) (messageType : String)
    (timeout : ℕ) (msg : M) (now : ℕ) (actors : ω) :
    (g.ask (R := R) api msg now (.start actors)).Inv api g messageType timeout := by
  obtain ⟨attempts, hrefs, -, hfutures, hattempts, hletters⟩ :=
    askAll_spec (R := R) api msg g.refs (.start actors)
  -- a fresh future has no receipt, no deadline and a live token
  have hfresh : ∀ f ∈ (askAll (R := R) api msg g.refs (.start actors)).1,
      f.receipt = none ∧ f.deadline = none ∧ f.cancelled = false := by
    rw [hfutures]
    intro f hf
    obtain ⟨a, -, rfl⟩ := List.mem_map.mp hf
    exact ⟨rfl, rfl, rfl⟩
  refine ⟨?_, ?_, ?_, ?_, ?_⟩
  · show (askAll (R := R) api msg g.refs _).2.attempts.map Prod.fst = g.refs
    rw [hattempts]
    exact hrefs
  · show (askAll (R := R) api msg g.refs _).1.map _ = (askAll (R := R) api msg g.refs _).2.attempts
    rw [hattempts, hfutures, List.map_map]
    exact List.map_id _
  · intro f hf
    obtain ⟨hreceipt, -, hcancelled⟩ := hfresh f hf
    refine ⟨fun receipt h => ?_, ?_⟩
    · rw [hreceipt] at h
      cases h
    · rw [hreceipt, hcancelled]
      refine iff_of_false (by decide) ?_
      rintro ⟨id, h⟩
      cases h
  · show (askAll (R := R) api msg g.refs _).2.letters.Perm _
    rw [hletters]
    refine List.Perm.of_eq (List.filterMap_eq_nil_iff.mpr fun f hf => ?_).symm
    exact askLetter_pending (hfresh f hf).1
  · intro f hf deadline hdeadline
    rw [(hfresh f hf).2.1] at hdeadline
    cases hdeadline

theorem Broadcasting.Inv.length {s : Broadcasting ρ R ω} (h : s.Inv api g messageType timeout) :
    s.futures.length = g.refs.length := by
  rw [← h.attempts, ← h.futures, List.length_map, List.length_map]

theorem Broadcasting.Inv.accounts {s : Broadcasting ρ R ω}
    (h : s.Inv api g messageType timeout) : AskAccounts api g messageType s := by
  refine ⟨h.attempts, h.futures, h.members, h.letters, fun receipts hjoin => ?_⟩
  have hreceipts := forall₂_of_joinAll hjoin
  refine ⟨hreceipts, ?_⟩
  have hids : List.Forall₂ (fun id f => id = api.id f.ref)
      (receipts.map BroadcastReceipt.actorId) s.futures := by
    rw [List.forall₂_map_left_iff]
    have hboth := (List.forall₂_and_left _ _).mpr ⟨h.members, hreceipts⟩
    apply List.Forall₂.flip
    refine hboth.imp ?_
    rintro f receipt ⟨hf, hreceipt⟩
    exact (hf.receipt receipt hreceipt).1
  rw [← h.attempts, ← h.futures, List.map_map, List.map_map]
  exact List.forall₂_eq_eq_eq ▸ (List.forall₂_map_right_iff.mpr hids)

/-- A running timer is due once the timeout has passed. -/
theorem Broadcasting.Inv.at_due {s : Broadcasting ρ R ω} (h : s.Inv api g messageType timeout)
    {i d : ℕ} (hd : timeout ≤ d) (hstarted : s.At (fun _ _ => True) i) :
    (s.step api g messageType timeout (.elapse d)).At (fun now deadline => deadline ≤ now) i := by
  obtain ⟨f, hf, huntil⟩ := hstarted
  refine ⟨f, hf, fun hpending => ?_⟩
  obtain ⟨deadline, hdeadline, -⟩ := huntil hpending
  have hbound := h.timers f (List.mem_of_getElem? hf) deadline hdeadline
  exact ⟨deadline, hdeadline, hbound.trans (Nat.add_le_add_left hd _)⟩

/-- When every member's future is ready, so is the broadcast. -/
theorem Broadcasting.Inv.joinAll_of_ready {s : Broadcasting ρ R ω}
    (h : s.Inv api g messageType timeout)
    (hready : ∀ i < g.refs.length, s.At (fun _ _ => False) i) :
    ∃ receipts, joinAll s.futures = some receipts := by
  apply joinAll_isSome
  intro f hmem hpending
  obtain ⟨i, hi, rfl⟩ := List.mem_iff_getElem.mp hmem
  obtain ⟨f, hf, huntil⟩ := hready i (h.length ▸ hi)
  rw [List.getElem?_eq_getElem hi] at hf
  cases hf
  obtain ⟨-, -, hfalse⟩ := huntil hpending
  exact hfalse

/-- Polled, left until the timeout is over and polled again, all futures are
ready. -/
theorem Broadcasting.Inv.answersInTime {start : Broadcasting ρ R ω}
    (hstart : start.Inv api g messageType timeout) :
    AnswersInTime api g messageType timeout start := by
  intro ops polls late d hd hpolls hlate
  let step := Broadcasting.step (R := R) api g messageType timeout
  let before := run step start ops
  have hbefore : before.Inv api g messageType timeout :=
    run_induction (fun _ => inv_step) ops hstart
  let polled := run step before polls
  have hpolled : polled.Inv api g messageType timeout :=
    run_induction (fun _ => inv_step) polls hbefore
  let last := run step (step polled (.elapse d)) late
  have hlast : last.Inv api g messageType timeout :=
    run_induction (fun _ => inv_step) late (inv_step _ hpolled)
  have hrun : run step start (ops ++ polls ++ .elapse d :: late) = last := by
    rw [run_append, run_append, run_cons]
  show ∃ receipts, joinAll (run step start (ops ++ polls ++ .elapse d :: late)).futures = _
  rw [hrun]
  apply hlast.joinAll_of_ready
  intro i hi
  obtain ⟨replySeen, timerSeen, hpoll⟩ := hpolls i hi
  obtain ⟨lastSeen, hlatePoll⟩ := hlate i hi
  have hexists : ∃ f, before.futures[i]? = some f := by
    rw [← hbefore.length] at hi
    exact ⟨_, List.getElem?_eq_getElem hi⟩
  exact at_ready (hpolled.at_due hd (at_started hexists hpoll)) hlatePoll

/-! ### Main result -/

/-- **A broadcast accounts for every member.**  Whatever the members answer
and whatever a dead letter handler does: `tell` calls the `tell` of each member
once and returns their outcomes in order; `ask` calls the `ask` of each member
once before it waits, and nobody's after that; along every run of the wait there
is at most one receipt per member, with its id and in its place, a dead letter,
and a call of the handler, for each send error and for nothing else, and a
cancelled token for each timeout; and the receipts do come. -/
theorem broadcast_accounts (api : ActorRefs ρ M ω) (g : BroadcastRef ρ ω) (messageType : String)
    (msg : M) (actors : ω) (now timeout : ℕ) :
    let step := Broadcasting.step (R := R) api g messageType timeout
    let asked := g.ask (R := R) api msg now (.start actors)
    TellAccounts api g messageType msg actors (g.tell api messageType msg (.start actors)) ∧
      Delivers (fun r => api.ask r msg) (fun _ actors => actors) asked.scene.attempts actors
        asked.scene.actors ∧
      (∀ ops : List (AskOp R ω),
        Always step (AskAccounts api g messageType) asked ops ∧
        (run step asked ops).scene.attempts = asked.scene.attempts ∧
        (run step asked ops).scene.actors =
          (outputs step (Broadcasting.effects api g messageType timeout) asked ops).foldl
            (fun actors effect => effect actors) asked.scene.actors) ∧
      AnswersInTime api g messageType timeout asked := by
  intro step asked
  have hstart := Broadcasting.inv_ask (R := R) api g messageType timeout msg now actors
  refine ⟨tellAccounts api g messageType msg actors, ?_, fun ops => ⟨?_, ?_⟩,
    hstart.answersInTime⟩
  · obtain ⟨attempts, -, hdelivers, -, hattempts, -⟩ :=
      askAll_spec (R := R) api msg g.refs (.start actors)
    show Delivers _ _ (askAll (R := R) api msg g.refs _).2.attempts _ _
    rw [hattempts]
    exact hdelivers
  · refine Always.mono ?_ (always_induction (fun _ => Broadcasting.inv_step) ops hstart)
    intro s h
    exact h.accounts
  · exact outputs_induction Broadcasting.effects_step ⟨rfl, rfl⟩ ops

/-- Two members: the second has a full mailbox, the first does not reply in
time.  The handler panics. -/
example :
    let api : ActorRefs UInt64 Unit Unit :=
      ⟨fun r => ⟨⟨"node-1"⟩, r⟩, fun _ => "worker", fun _ _ w => (.ok (), w),
        fun r _ w => (if r = 2 then .error ⟨"mailbox full"⟩ else .ok (), w)⟩
    let g : BroadcastRef UInt64 Unit := ⟨[1, 2], some fun _ w => (.panicked, w)⟩
    let s := run (Broadcasting.step (R := ℕ) api g "Ping" 50) (g.ask api () 0 (.start ()))
      [.poll 1 true true, .poll 0 true true, .elapse 50, .poll 0 true true]
    joinAll s.futures = some [.timeout ⟨⟨"node-1"⟩, 1⟩,
        .sendError ⟨⟨"node-1"⟩, 2⟩ ⟨"mailbox full"⟩] ∧
      s.scene.letters = [⟨⟨⟨"node-1"⟩, 2⟩, some "worker", "Ping", .ask, .mailboxFull⟩] ∧
      s.futures.map MemberAsk.cancelled = [true, false] := by
  decide +kernel

end Dactor
