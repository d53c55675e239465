/-
Dactor/DeadLetters.lean

What becomes of the messages sent to a test-runtime actor: `TestActorRef`'s
five ways to send, the message loop and the end of its task, with the dead
letters each of them reports.

A message that the outbound interceptors let pass gets the next ticket.  A
`Mailroom` is a `Hosted` actor with the books kept beside it: the messages
sent, the tickets of those in the mailbox, and the fates recorded for each
ticket.  Every step is one entry in a tally of tickets (`tally_step`), and
the entries that lose a ticket are the ways in which the code loses a message
without a word: `DropNewest` on a full mailbox, a stream request that is not
taken in, a handler wrapper that never polls the handler, and whatever is
left in the mailbox when its receiver is dropped.

Main result: `messages_accounted_iff`, over every run.
-/
import Dactor.StopSignal
import Dactor.Outbound
import Dactor.Tickets

namespace Dactor

open Runs Channels Tickets

variable {ω σ A M R : Type}

/-! ### Sending -/

/-- `s.contains(pattern)`. -/
def containsText (s pattern : String) : Bool :=
  s.toList.tails.any fun rest => pattern.toList.isPrefixOf rest

/-- The reason `tell` and `ask` give for a failed send: they look for a text
in the error. -/
def ActorSendError.deadLetterReason (e : ActorSendError) : DeadLetterReason :=
  if containsText e.message "mailbox full" then .mailboxFull else .actorStopped

/-- A test actor reference: the pipeline its sends run through, with the
actor's id and name, and whether a dead letter handler is installed. -/
structure TestActorRef (ω M : Type) where
  pipeline : OutboundPipeline ω M
  deadLetterHandler : Bool

/-- What a send comes to.  A caller gets an error, or a reply or stream to
wait for; the reply to an ask that was turned away holds its error already.
`passed` says that the outbound interceptors let the message through. -/
structure Posting (ω : Type) where
  result : Except ActorSendError (Option RuntimeError)
  outbound : ω
  notices : List DropNotice
  passed : Bool
  letters : List DeadLetterEvent

namespace TestActorRef

variable (r : TestActorRef ω M)

def notifyDeadLetter (messageType : String) (sendMode : SendMode) (reason : DeadLetterReason) :
    List DeadLetterEvent :=
  if r.deadLetterHandler then
    [{ targetId := r.pipeline.targetId, targetName := some r.pipeline.targetName,
       messageType, sendMode, reason }]
  else []

/-! In the five sends below `answer` is what `self.sender.send(Some(dispatch))`
returns, for the sends that get there. -/

/-- The end of `tell` and `ask`: an error is reported as a dead letter. -/
def sendReported (m : Dispatch A M R) (sendMode : SendMode) (outbound : ω)
    (notices : List DropNotice) (answer : Except ActorSendError Unit) : Posting ω :=
  match answer with
  | .ok () => ⟨.ok none, outbound, notices, true, []⟩
  | .error e =>
    ⟨.error e, outbound, notices, true,
      r.notifyDeadLetter m.messageTypeName sendMode e.deadLetterReason⟩

/-- `self.sender.send(Some(dispatch))?` in the stream requests: an error goes
to the caller and nowhere else. -/
def sendUnreported (outbound : ω) (notices : List DropNotice)
    (answer : Except ActorSendError Unit) : Posting ω :=
  match answer with
  | .ok () => ⟨.ok none, outbound, notices, true, []⟩
  | .error e => ⟨.error e, outbound, notices, true, []⟩

def tell (m : Dispatch A M R) (rh : RuntimeHeaders) (outbound : ω)
    (answer : Except ActorSendError Unit) : Posting ω :=
  let (result, notices, outbound) :=
    r.pipeline.runOnSend .tell m.messageTypeName m.messageAny rh outbound
  match result.disposition with
  | .continued => r.sendReported m .tell outbound notices answer
  | .delay _ => r.sendReported m .tell outbound notices answer
  | .drop | .reject _ | .retry _ => ⟨.ok none, outbound, notices, false, []⟩

def ask (m : Dispatch A M R) (rh : RuntimeHeaders) (outbound : ω)
    (answer : Except ActorSendError Unit) : Posting ω :=
  let (result, notices, outbound) :=
    r.pipeline.runOnSend .ask m.messageTypeName m.messageAny rh outbound
  match result.disposition with
  | .continued => r.sendReported m .ask outbound notices answer
  | .delay _ => r.sendReported m .ask outbound notices answer
  | .drop =>
    ⟨.ok (some (.actorNotFound "message dropped by outbound interceptor")), outbound, notices,
      false, []⟩
  | .reject reason =>
    ⟨.ok (some (.rejected result.interceptorName reason)), outbound, notices, false, []⟩
  | .retry retryAfter =>
    ⟨.ok (some (.retryAfter result.interceptorName retryAfter)), outbound, notices, false, []⟩

def expand (m : Dispatch A M R) (rh : RuntimeHeaders) (outbound : ω)
    (answer : Except ActorSendError Unit) : Posting ω :=
  let (result, notices, outbound) :=
    r.pipeline.runOnSend .expand m.messageTypeName m.messageAny rh outbound
  match result.disposition with
  | .continued => sendUnreported outbound notices answer
  | .delay _ => sendUnreported outbound notices answer
  | .drop => ⟨.error ⟨"stream dropped by outbound interceptor"⟩, outbound, notices, false, []⟩
  | .reject reason => ⟨.error ⟨"stream rejected: " ++ reason⟩, outbound, notices, false, []⟩
  | .retry _ => ⟨.error ⟨"stream retry requested by interceptor"⟩, outbound, notices, false, []⟩

/-- `reduce` intercepts its items one by one, not the request. -/
def reduce (outbound : ω) (answer : Except ActorSendError Unit) : Posting ω :=
  sendUnreported outbound [] answer

/-- So does `transform`. -/
def transform (outbound : ω) (answer : Except ActorSendError Unit) : Posting ω :=
  sendUnreported outbound [] answer

/-- The send that makes a dispatch of the given kind. -/
def post (m : Dispatch A M R) (rh : RuntimeHeaders) (outbound : ω)
    (answer : Except ActorSendError Unit) : Posting ω :=
  match m.kind with
  | .typed => r.tell m rh outbound answer
  | .ask _ => r.ask m rh outbound answer
  | .expand _ => r.expand m rh outbound answer
  | .reduce _ => reduce outbound answer
  | .transform _ => transform outbound answer

end TestActorRef

/-! #### What a send comes to -/

/-- A tell or an ask, the sends that report a failure. -/
def DispatchKind.reportsFailure : DispatchKind → Bool
  | .typed | .ask _ => true
  | .expand _ | .reduce _ | .transform _ => false

namespace TestActorRef

variable (r : TestActorRef ω M) (m : Dispatch A M R) (rh : RuntimeHeaders) (outbound : ω)
variable (answer : Except ActorSendError Unit)

/-- The outbound interceptors let the message pass. -/
def passes : Bool :=
  match m.kind with
  | .typed | .ask _ | .expand _ =>
    !(r.pipeline.runOnSend m.sendMode m.messageTypeName m.messageAny rh
      outbound).1.disposition.vetoes
  | .reduce _ | .transform _ => true

/-- The dead letters of a message that the interceptors let pass. -/
def lettersFor : List DeadLetterEvent :=
  match m.kind.reportsFailure, answer with
  | true, .error e => r.notifyDeadLetter m.messageTypeName m.sendMode e.deadLetterReason
  | _, _ => []

/-- The five sends at once.  Only what they return to the caller differs
further. -/
theorem post_spec :
    (r.post m rh outbound answer).passed = r.passes m rh outbound ∧
      (r.passes m rh outbound = true →
        (r.post m rh outbound answer).letters = r.lettersFor m answer) := by
  rcases hk : m.kind with - | c | c | c | c
  · have hmode : m.sendMode = .tell := by simp [Dispatch.sendMode, hk]
    simp only [post, passes, lettersFor, hk, tell, hmode]
    rcases (r.pipeline.runOnSend .tell m.messageTypeName m.messageAny rh outbound).1.disposition
      <;> cases answer <;> simp [sendReported, Disposition.vetoes, DispatchKind.reportsFailure]
  · have hmode : m.sendMode = .ask := by simp [Dispatch.sendMode, hk]
    simp only [post, passes, lettersFor, hk, ask, hmode]
    rcases (r.pipeline.runOnSend .ask m.messageTypeName m.messageAny rh outbound).1.disposition
      <;> cases answer <;> simp [sendReported, Disposition.vetoes, DispatchKind.reportsFailure]
  · have hmode : m.sendMode = .expand := by simp [Dispatch.sendMode, hk]
    simp only [post, passes, lettersFor, hk, expand, hmode]
    rcases (r.pipeline.runOnSend .expand m.messageTypeName m.messageAny rh outbound).1.disposition
      <;> cases answer <;> simp [sendUnreported, Disposition.vetoes, DispatchKind.reportsFailure]
  · simp only [post, passes, lettersFor, hk, reduce]
    cases answer <;> simp [sendUnreported, DispatchKind.reportsFailure]
  · simp only [post, passes, lettersFor, hk, transform]
    cases answer <;> simp [sendUnreported, DispatchKind.reportsFailure]

/-- With a handler installed, a tell or an ask that fails is one dead
letter, and nothing else is. -/
theorem lettersFor_length (hr : r.deadLetterHandler = true) :
    (r.lettersFor m answer).length =
      if m.kind.reportsFailure = true ∧ answer ≠ .ok () then 1 else 0 := by
  rcases answer with e | ⟨⟩ <;> rcases hk : m.kind.reportsFailure with - | - <;>
    simp [lettersFor, hk, notifyDeadLetter, hr]

/-- The dead letter of a send names the message. -/
theorem named_of_mem_lettersFor {e : DeadLetterEvent} (he : e ∈ r.lettersFor m answer) :
    e.messageType = m.messageTypeName ∧ e.sendMode = m.sendMode := by
  rcases answer with error | ⟨⟩ <;> rcases hk : m.kind.reportsFailure with - | - <;>
    simp only [lettersFor, hk] at he
  · cases he
  · rw [notifyDeadLetter] at he
    split at he
    · rw [List.mem_singleton.mp he]
      exact ⟨rfl, rfl⟩
    · cases he
  · cases he
  · cases he

end TestActorRef

/-- A mailbox that says so when a message does not get in: its receiver is
gone, or its overflow strategy is not `DropNewest`. -/
def Mailbox.Reports {T : Type} (mb : Mailbox T) : Prop :=
  mb.channel.closed = true ∨ mb.config.sender ≠ .bounded .dropNewest

instance Mailbox.Reports.decidable {T : Type} (mb : Mailbox T) : Decidable mb.Reports :=
  inferInstanceAs (Decidable (_ ∨ _))

theorem Mailbox.send_of_admits {T : Type} {mb : Mailbox T} (h : mb.Admits) (msg : T) :
    (mb.send msg).1 = .ok () := by
  show (mb.config.sender.send msg mb.channel).1 = .ok ()
  rcases mb.config.sender with - | (- | - | -) <;>
    simp only [MailboxSender.send, Channel.trySend_of_admits h]

theorem Mailbox.send_of_not_admits {T : Type} {mb : Mailbox T} (h : ¬ mb.Admits) (msg : T) :
    (mb.send msg).1 ≠ .ok () ↔ mb.Reports := by
  show (mb.config.sender.send msg mb.channel).1 ≠ .ok () ↔ _
  rw [Mailbox.Reports]
  rcases Channel.not_admits_iff.mp h with hclosed | ⟨hopen, hfull⟩
  · rcases mb.config.sender with - | (- | - | -) <;>
      simp [MailboxSender.send, Channel.trySend_of_closed hclosed, hclosed]
  · rcases mb.config.sender with - | (- | - | -) <;>
      simp [MailboxSender.send, Channel.trySend_of_full hopen hfull, hopen]

/-! ### The fate of a message -/

/-- How a message is accounted for.  `turnedAway` is an inbound `Reject` or
`Retry`; `cancelled` is a message whose token was cancelled before its
handler was started. -/
inductive Fate
  | started
  | turnedAway
  | cancelled
  | deadLetter (event : DeadLetterEvent)
  deriving DecidableEq, Repr

/-- A dead letter names the type of its message and how it was sent. -/
def Fate.IsFor (m : Dispatch A M R) : Fate → Prop
  | .deadLetter e => e.messageType = m.messageTypeName ∧ e.sendMode = m.sendMode
  | .started | .turnedAway | .cancelled => True

def Disposition.fates : Disposition → List Fate
  | .reject _ | .retry _ => [.turnedAway]
  | .continued | .delay _ | .drop => []

def Event.fates : Event R → List Fate
  | .onReceive _ _ _ _ disposition => disposition.fates
  | .deadLetter e => [.deadLetter e]
  | .handlerStarted _ _ => [.started]
  | .callerError _ | .slept _ | .onComplete _ _ _ _ _ | .replied _ => []

section Fates

variable (sp : Spawn σ A M R) (m : Incoming A M R) (s : Core σ A)

/-- The token is cancelled while the handler has not been polled.  A stream
request that is cancelled shows no event, so this is read off the message. -/
def cancelledUnstarted : Bool :=
  (received sp m s).rejection.isNone &&
    (alreadyCancelled m ||
      (race (handlerFuture sp m s) m.cancelToken).1 &&
        (race (handlerFuture sp m s) m.cancelToken).2 == 0)

/-- What processing a message records for it. -/
def messageFates : List Fate :=
  (spawnInternalBody sp m s).2.1.flatMap Event.fates ++
    if cancelledUnstarted sp m s then [.cancelled] else []

/-- The message gets past the interceptors and its token, and then the
wrappers end without ever polling the handler. -/
def handlerSkipped : Bool :=
  (received sp m s).rejection.isNone && !alreadyCancelled m &&
    !(race (handlerFuture sp m s) m.cancelToken).1 &&
      (race (handlerFuture sp m s) m.cancelToken).2 == 0

end Fates

/-! #### One list of fates per stage -/

/-- The `on_receive` loop shows the veto it ends with, and a veto is one of
the three. -/
theorem fates_receiveLoop (ictx : InboundContext) (m : Incoming A M R)
    (is : List (InboundInterceptor σ M R)) (n : Nat) (headers : Headers) (delay : Nat) (s : σ) :
    (receiveLoop ictx m is n headers delay s).events.flatMap Event.fates =
        (receiveLoop ictx m is n headers delay s).rejection.elim [] (·.2.fates) ∧
      ∀ r, (receiveLoop ictx m is n headers delay s).rejection = some r →
        r.2.vetoes = true := by
  induction is generalizing n headers delay s with
  | nil => exact ⟨rfl, fun r hr => nomatch hr⟩
  | cons i is ih =>
      rcases hd : (i.onReceive ictx m.runtimeHeaders headers m.messageAny (m.recvAt n) s).1
        with - | d | - | reason | after
      · simp only [receiveLoop, hd, List.flatMap_cons]
        exact ih ..
      · simp only [receiveLoop, hd, List.flatMap_cons]
        exact ih ..
      · simp [receiveLoop, hd, Event.fates, Disposition.fates, Disposition.vetoes]
      · simp [receiveLoop, hd, Event.fates, Disposition.fates, Disposition.vetoes]
      · simp [receiveLoop, hd, Event.fates, Disposition.fates, Disposition.vetoes]

@[simp] theorem fates_reject (d : Dispatch A M R) (disposition : Disposition) (name : String) :
    (d.reject disposition name).flatMap Event.fates = [] := by
  unfold Dispatch.reject
  split
  · split <;> rfl
  · split <;> rfl
  all_goals rfl

@[simp] theorem fates_cancel (d : Dispatch A M R) : d.cancel.flatMap Event.fates = [] := by
  unfold Dispatch.cancel
  split <;> rfl

@[simp] theorem fates_sendReply (d : Dispatch A M R) (reply : R) :
    (d.sendReply reply).flatMap Event.fates = [] := by
  unfold Dispatch.sendReply
  split <;> rfl

@[simp] theorem fates_sleepEvents (delay : Nat) :
    (sleepEvents delay : List (Event R)).flatMap Event.fates = [] := by
  unfold sleepEvents
  split <;> rfl

@[simp] theorem fates_startedEvents (d : Dispatch A M R) (ctx : ActorContext) (polls : Nat) :
    (startedEvents d ctx polls).flatMap Event.fates = if 0 < polls then [.started] else [] := by
  unfold startedEvents
  split <;> rfl

theorem fates_completeLoop (ictx : InboundContext) (m : Incoming A M R) (headers : Headers)
    (outcome : Outcome R) (is : List (InboundInterceptor σ M R)) (n : Nat) (s : σ) :
    (completeLoop ictx m headers outcome is n s).2.flatMap Event.fates = [] := by
  induction is generalizing n s with
  | nil => rfl
  | cons i is ih =>
      simp only [completeLoop, List.flatMap_cons, ih]
      rfl

/-! #### The fates of a message -/

section Message

variable {sp : Spawn σ A M R} {m : Incoming A M R} {s : Core σ A}

theorem fates_intakeEvents (h : (received sp m s).rejection = none) :
    (intakeEvents sp m s).flatMap Event.fates = [] := by
  rw [intakeEvents, List.flatMap_append, fates_sleepEvents, List.append_nil]
  exact (fates_receiveLoop ..).1.trans (by rw [← received, h]; rfl)

theorem fates_dispatched :
    (dispatched sp m s).events.flatMap Event.fates =
      if 0 < (race (handlerFuture sp m s) m.cancelToken).2 then [.started] else [] := by
  rw [(dispatched_eq sp m s).1, fates_startedEvents]

/-- A vetoed message is turned away, or it is a dead letter. -/
theorem messageFates_of_rejection {name : String} {d : Disposition}
    (h : (received sp m s).rejection = some (name, d)) :
    d.vetoes = true ∧ messageFates sp m s = d.fates ++
      if d = .drop ∧ sp.deadLetterHandler then
        [.deadLetter
          { targetId := (messageContext m s).actorId
            targetName := some (messageContext m s).actorName
            messageType := m.messageTypeName, sendMode := m.sendMode
            reason := .droppedByInterceptor name }]
      else [] := by
  have hloop := fates_receiveLoop (inboundContext (messageContext m s) m.toDispatch) m
    sp.interceptors 0 Headers.new 0 s.istate
  rw [← received, h] at hloop
  refine ⟨hloop.2 (name, d) rfl, ?_⟩
  have hcancelled : cancelledUnstarted sp m s = false := by simp [cancelledUnstarted, h]
  rw [messageFates, body_of_rejection h, hcancelled]
  simp only [List.flatMap_append, hloop.1, Spawn.rejectEvents, fates_reject, List.append_nil,
    Bool.false_eq_true, if_false]
  split <;> rfl

/-- A message that is let through is started, unless its token or a wrapper
keeps it from the handler. -/
theorem messageFates_of_accepted (h : (received sp m s).rejection = none) :
    messageFates sp m s =
      if alreadyCancelled m then [.cancelled]
      else if 0 < (race (handlerFuture sp m s) m.cancelToken).2 then [.started]
      else if (race (handlerFuture sp m s) m.cancelToken).1 then [.cancelled] else [] := by
  rcases hc : alreadyCancelled m with - | -
  · have hbody : (spawnInternalBody sp m s).2.1.flatMap Event.fates =
        if 0 < (race (handlerFuture sp m s) m.cancelToken).2 then [.started] else [] := by
      rw [← fates_dispatched]
      rcases hd : (dispatched sp m s).result with - | (reply | -)
      · rw [body_of_cancelled h hc hd]
        simp [fates_intakeEvents h]
      · rw [body_of_returned h hc hd]
        simp [fates_intakeEvents h, completed, fates_completeLoop]
      · rw [body_of_panicked h hc hd]
        simp [fates_intakeEvents h, completed, fates_completeLoop]
    rw [messageFates, hbody, cancelledUnstarted, h, hc]
    rcases (race (handlerFuture sp m s) m.cancelToken) with ⟨- | -, - | polls⟩ <;> simp
  · rw [messageFates, body_of_alreadyCancelled h hc]
    simp [fates_intakeEvents h, cancelledUnstarted, h, hc]

/-- **One fate per message**, with a dead letter handler installed, unless
the handler is skipped. -/
theorem messageFates_length (hsp : sp.deadLetterHandler = true) :
    (messageFates sp m s).length = if handlerSkipped sp m s then 0 else 1 := by
  rcases hr : (received sp m s).rejection with - | ⟨name, d⟩
  · rw [messageFates_of_accepted hr, handlerSkipped, hr]
    rcases alreadyCancelled m with - | -
    · rcases (race (handlerFuture sp m s) m.cancelToken) with ⟨- | -, - | polls⟩ <;> simp
    · simp
  · obtain ⟨hveto, hfates⟩ := messageFates_of_rejection hr
    rw [hfates, handlerSkipped, hr]
    cases d <;> simp_all [Disposition.fates, Disposition.vetoes]

theorem messageFates_isFor : ∀ fate ∈ messageFates sp m s, fate.IsFor m.toDispatch := by
  intro fate hfate
  rcases hr : (received sp m s).rejection with - | ⟨name, d⟩
  · rw [messageFates_of_accepted hr] at hfate
    cases fate with
    | deadLetter e =>
        -- no stage after the interceptors reports one
        split at hfate
        · simp at hfate
        · split at hfate
          · simp at hfate
          · split at hfate <;> simp at hfate
    | started | turnedAway | cancelled => trivial
  · rw [(messageFates_of_rejection hr).2] at hfate
    rcases List.mem_append.mp hfate with hfate | hfate
    · cases d <;> simp [Disposition.fates] at hfate <;> rw [hfate] <;> trivial
    · split at hfate
      · rw [List.mem_singleton.mp hfate]
        exact ⟨rfl, rfl⟩
      · cases hfate

end Message

/-! ### The actor with its books -/

/-- An actor and what has become of the messages sent to it.  A message that
the outbound interceptors let pass is known by its place in `sent`; `waiting`
holds the places of the messages in the mailbox, oldest first, and `accounts`
each fate with the place of its message. -/
structure Mailroom (ω σ A M R : Type) where
  hosted : Hosted σ A M R
  outbound : ω
  sent : List (Incoming A M R)
  waiting : List Nat
  accounts : List (Nat × Fate)

/-- The steps of a `Hosted` actor, with the headers a send runs under.  The
outbound interceptors are shared with the rest of the runtime and see replies
and stream items as well, so their state may also change in between. -/
inductive MailroomOp (ω A M R : Type)
  | send (m : Incoming A M R) (rh : RuntimeHeaders)
  | stop
  | recv
  | cloneRef
  | dropRef
  | lookup
  | unregister
  | finish
  | elsewhere (outbound : ω)

namespace Mailroom

def spawn (config : MailboxConfig) (core : Core σ A) (outbound : ω) : Mailroom ω σ A M R where
  hosted := .spawn config core
  outbound := outbound
  sent := []
  waiting := []
  accounts := []

/-- One of the five sends: the message gets in, or the sender accounts for
it, or nobody does. -/
def send (r : TestActorRef ω M) (s : Mailroom ω σ A M R) (m : Incoming A M R)
    (rh : RuntimeHeaders) : Mailroom ω σ A M R :=
  let posting := r.post m.toDispatch rh s.outbound (s.hosted.mailbox.send (some m)).1
  if posting.passed then
    { hosted := s.hosted.send m
      outbound := posting.outbound
      sent := s.sent ++ [m]
      waiting := if s.hosted.mailbox.Admits then s.waiting ++ [s.sent.length] else s.waiting
      accounts := s.accounts ++ posting.letters.map fun e => (s.sent.length, .deadLetter e) }
  else { s with outbound := posting.outbound }

/-- The message the loop takes next, if it takes one. -/
def taken (s : Mailroom ω σ A M R) : Option (Incoming A M R) :=
  if s.hosted.task.running then
    match s.hosted.mailbox.recv with
    | some (some m, _) => some m
    | some (none, _) | none => none
  else none

/-- One iteration of the loop: the oldest message in the mailbox is processed
to its end. -/
def recv (sp : Spawn σ A M R) (s : Mailroom ω σ A M R) : Mailroom ω σ A M R :=
  match s.taken with
  | some m =>
    { s with
      hosted := s.hosted.recv sp
      waiting := s.waiting.tail
      accounts := s.accounts ++ (s.waiting.take 1).flatMap fun n =>
        (messageFates sp m s.hosted.task.core).map fun fate => (n, fate) }
  | none => { s with hosted := s.hosted.recv sp }

/-- The end of the task drops the receiver, with the messages in it. -/
def finish (s : Mailroom ω σ A M R) : Mailroom ω σ A M R :=
  { s with
    hosted := s.hosted.finish
    waiting := if s.hosted.task.running then s.waiting else [] }

def step (sp : Spawn σ A M R) (r : TestActorRef ω M) (s : Mailroom ω σ A M R) :
    MailroomOp ω A M R → Mailroom ω σ A M R
  | .send m rh => if 0 < s.hosted.refs then s.send r m rh else s
  | .stop => { s with hosted := s.hosted.step sp .stop }
  | .recv => s.recv sp
  | .cloneRef => { s with hosted := s.hosted.step sp .cloneRef }
  | .dropRef => { s with hosted := s.hosted.step sp .dropRef }
  | .lookup => { s with hosted := s.hosted.step sp .lookup }
  | .unregister => { s with hosted := s.hosted.step sp .unregister }
  | .finish => s.finish
  | .elsewhere outbound => { s with outbound }

/-! ### No message vanishes silently -/

/-- The task is over and its receiver dropped. -/
def Terminated (s : Mailroom ω σ A M R) : Prop := s.hosted.mailbox.channel.closed = true

instance Terminated.decidable (s : Mailroom ω σ A M R) : Decidable s.Terminated :=
  inferInstanceAs (Decidable (_ = _))

/-- The fates of the `n`-th message sent. -/
def fatesOf (s : Mailroom ω σ A M R) (n : Nat) : List Fate :=
  (s.accounts.filter fun account => account.1 = n).map Prod.snd

/-- Every message that passed the outbound interceptors is accounted for at
most once, and once when the actor has terminated; a dead letter among its
accounts is about it. -/
def MessagesAccounted (s : Mailroom ω σ A M R) : Prop :=
  ∀ n m, s.sent[n]? = some m →
    (∀ fate ∈ s.fatesOf n, fate.IsFor m.toDispatch) ∧ (s.fatesOf n).length ≤ 1 ∧
      (s.Terminated → (s.fatesOf n).length = 1)

/-- A message that passes the interceptors gets into the mailbox; or it is a
tell or an ask and the mailbox reports that it does not. -/
def SendCounts (r : TestActorRef ω M) (s : Mailroom ω σ A M R) (m : Incoming A M R)
    (rh : RuntimeHeaders) : Prop :=
  r.passes m.toDispatch rh s.outbound = true →
    s.hosted.mailbox.Admits ∨ m.kind.reportsFailure = true ∧ s.hosted.mailbox.Reports

/-- A send counts, a message that is processed has its handler polled unless
an interceptor or its token stops it, and the receiver of the mailbox is
dropped only when there is no message in it. -/
def Delivers (sp : Spawn σ A M R) (r : TestActorRef ω M) (s : Mailroom ω σ A M R) :
    MailroomOp ω A M R → Prop
  | .send m rh => 0 < s.hosted.refs → s.SendCounts r m rh
  | .recv => ∀ m ∈ s.taken, handlerSkipped sp m s.hosted.task.core = false
  | .finish => s.hosted.task.running = false → s.hosted.mailbox.channel.queue.reduceOption = []
  | .stop | .cloneRef | .dropRef | .lookup | .unregister | .elsewhere _ => True

instance Delivers.decidable (sp : Spawn σ A M R) (r : TestActorRef ω M)
    (s : Mailroom ω σ A M R) : (op : MailroomOp ω A M R) → Decidable (s.Delivers sp r op)
  | .send _ _ => inferInstanceAs (Decidable (_ → _ → _ ∨ _ ∧ _))
  | .recv => inferInstanceAs (Decidable (∀ m ∈ s.taken, _))
  | .finish => inferInstanceAs (Decidable (_ → _ = []))
  | .stop | .cloneRef | .dropRef | .lookup | .unregister | .elsewhere _ => isTrue trivial

/-! ### The tally behind the books -/

def tally (s : Mailroom ω σ A M R) : Tally := ⟨s.sent.length, s.waiting, s.accounts.map Prod.fst⟩

/-- The entry a step makes in the tally. -/
def entry (sp : Spawn σ A M R) (r : TestActorRef ω M) (s : Mailroom ω σ A M R) :
    MailroomOp ω A M R → Entry
  | .send m rh =>
    if 0 < s.hosted.refs ∧ r.passes m.toDispatch rh s.outbound = true then
      if s.hosted.mailbox.Admits then .enter
      else if m.kind.reportsFailure = true ∧ s.hosted.mailbox.Reports then .refuse
      else .misplace
    else .nothing
  | .recv =>
    match s.taken with
    | some m => if handlerSkipped sp m s.hosted.task.core then .forget else .settle
    | none => .nothing
  | .finish => if s.hosted.task.running then .nothing else .discard
  | .stop | .cloneRef | .dropRef | .lookup | .unregister | .elsewhere _ => .nothing

section Tally

variable {sp : Spawn σ A M R} {r : TestActorRef ω M} {s : Mailroom ω σ A M R}

theorem tally_send (hr : r.deadLetterHandler = true) (m : Incoming A M R) (rh : RuntimeHeaders) :
    (s.step sp r (.send m rh)).tally = s.tally.record (s.entry sp r (.send m rh)) := by
  by_cases hrefs : 0 < s.hosted.refs
  · obtain ⟨hpassed, hletters⟩ := r.post_spec m.toDispatch rh s.outbound
      (s.hosted.mailbox.send (some m)).1
    rcases hp : r.passes m.toDispatch rh s.outbound with - | -
    · simp only [step, entry, hrefs, if_true, send, hpassed, hp, Bool.false_eq_true, if_false,
        and_false]
      rfl
    · have hlen := r.lettersFor_length m.toDispatch (s.hosted.mailbox.send (some m)).1 hr
      rw [← hletters hp] at hlen
      simp only [step, entry, hrefs, if_true, send, hpassed, hp, and_self]
      by_cases hadm : s.hosted.mailbox.Admits
      · -- the message gets in, and there is nothing to report
        rw [Mailbox.send_of_admits hadm] at hlen ⊢
        have hnone := List.length_eq_zero_iff.mp (hlen.trans (if_neg fun h => h.2 rfl))
        simp [tally, Tally.record, hadm, hnone]
      · rw [if_neg hadm]
        by_cases hcount : m.kind.reportsFailure = true ∧ s.hosted.mailbox.Reports
        · rw [if_pos ⟨hcount.1, (Mailbox.send_of_not_admits hadm _).mpr hcount.2⟩] at hlen
          obtain ⟨e, he⟩ := List.length_eq_one_iff.mp hlen
          simp [tally, Tally.record, hadm, hcount, he]
        · rw [if_neg fun h => hcount ⟨h.1, (Mailbox.send_of_not_admits hadm _).mp h.2⟩] at hlen
          simp [tally, Tally.record, hadm, hcount, List.length_eq_zero_iff.mp hlen]
  · simp only [step, entry, hrefs, if_false, false_and]
    rfl

theorem tally_recv (hsp : sp.deadLetterHandler = true) :
    (s.step sp r .recv).tally = s.tally.record (s.entry sp r .recv) := by
  show (s.recv sp).tally = _
  rcases ht : s.taken with - | m
  · simp only [recv, entry, ht]
    rfl
  · have hlen := messageFates_length (m := m) (s := s.hosted.task.core) hsp
    simp only [recv, entry, ht]
    rcases hskip : handlerSkipped sp m s.hosted.task.core with - | -
    · rw [hskip, if_neg Bool.false_ne_true] at hlen
      obtain ⟨fate, hfate⟩ := List.length_eq_one_iff.mp hlen
      rcases hw : s.waiting with - | ⟨n, rest⟩ <;> simp [tally, Tally.record, hfate, hw]
    · rw [hskip, if_pos rfl] at hlen
      simp [tally, Tally.record, List.length_eq_zero_iff.mp hlen]

/-- Every step is one entry in the tally. -/
theorem tally_step (hsp : sp.deadLetterHandler = true) (hr : r.deadLetterHandler = true)
    (op : MailroomOp ω A M R) :
    (s.step sp r op).tally = s.tally.record (s.entry sp r op) := by
  cases op with
  | send m rh => exact tally_send hr m rh
  | recv => exact tally_recv hsp
  | finish =>
      rcases hrun : s.hosted.task.running with - | - <;>
        simp [step, finish, entry, tally, Tally.record, hrun]
  | stop | cloneRef | dropRef | lookup | unregister | elsewhere outbound => rfl

end Tally

/-! ### The books match the mailbox -/

/-- The places in `waiting` are those of the messages in the mailbox, in
order; a dropped receiver leaves none; every fate belongs to a message. -/
structure InOrder (s : Mailroom ω σ A M R) : Prop where
  matched : s.waiting.map (s.sent[·]?) = s.hosted.mailbox.channel.queue.reduceOption.map some
  emptied : s.hosted.mailbox.channel.closed = true → s.hosted.mailbox.channel.queue = []
  named : ∀ account ∈ s.accounts, ∃ m, s.sent[account.1]? = some m ∧ account.2.IsFor m.toDispatch

section InOrder

variable {sp : Spawn σ A M R} {r : TestActorRef ω M} {s : Mailroom ω σ A M R}

theorem InOrder.waiting_eq_nil_iff (h : s.InOrder) :
    s.waiting = [] ↔ s.hosted.mailbox.channel.queue.reduceOption = [] := by
  have hlen := congrArg List.length h.matched
  rw [List.length_map, List.length_map] at hlen
  rw [← List.length_eq_zero_iff, hlen, List.length_eq_zero_iff]

/-- A message sent later does not change which message a place is. -/
theorem getElem?_append_of_some {sent : List (Incoming A M R)} {n : Nat} {m m' : Incoming A M R}
    (h : sent[n]? = some m) : (sent ++ [m'])[n]? = some m := by
  rw [List.getElem?_append_left (List.getElem?_eq_some_iff.mp h).1]
  exact h

theorem InOrder.matched_append (h : s.InOrder) (m : Incoming A M R) :
    s.waiting.map ((s.sent ++ [m])[·]?) = s.hosted.mailbox.channel.queue.reduceOption.map some := by
  rw [← h.matched]
  apply List.map_congr_left
  intro n hn
  -- the place of a message in the mailbox is the place of a message sent
  have hmem : s.sent[n]? ∈ s.hosted.mailbox.channel.queue.reduceOption.map some := by
    rw [← h.matched]
    exact List.mem_map_of_mem hn
  obtain ⟨m', -, hm'⟩ := List.mem_map.mp hmem
  rw [← hm']
  exact getElem?_append_of_some hm'.symm

theorem InOrder.send (h : s.InOrder) (m : Incoming A M R) (rh : RuntimeHeaders) :
    (s.send r m rh).InOrder := by
  obtain ⟨hpassed, hletters⟩ := r.post_spec m.toDispatch rh s.outbound
    (s.hosted.mailbox.send (some m)).1
  rw [Mailroom.send, hpassed]
  rcases hp : r.passes m.toDispatch rh s.outbound with - | -
  · exact ⟨h.matched, h.emptied, h.named⟩
  · rw [if_pos rfl]
    refine ⟨?_, fun hclosed => ?_, fun account haccount => ?_⟩
    · show (if s.hosted.mailbox.Admits then s.waiting ++ [s.sent.length] else s.waiting).map
        ((s.sent ++ [m])[·]?) = (s.hosted.send m).mailbox.channel.queue.reduceOption.map some
      by_cases hadm : s.hosted.mailbox.Admits
      · rw [if_pos hadm, (Hosted.send_of_admits hadm m).1, List.reduceOption_append,
          List.map_append, List.map_append, h.matched_append m]
        simp
      · rw [if_neg hadm, (Hosted.send_of_not_admits hadm m).1, h.matched_append m]
    · -- nothing gets into a closed mailbox
      have hclosed : s.hosted.mailbox.channel.closed = true :=
        (Hosted.send_closed (s := s.hosted) m).symm.trans hclosed
      have hadm : ¬ s.hosted.mailbox.Admits := fun hadm => by simp [hadm.1] at hclosed
      exact (Hosted.send_of_not_admits hadm m).1.trans (h.emptied hclosed)
    · rcases List.mem_append.mp haccount with hold | hnew
      · obtain ⟨m', hm', hfor⟩ := h.named account hold
        exact ⟨m', getElem?_append_of_some hm', hfor⟩
      · obtain ⟨e, he, rfl⟩ := List.mem_map.mp hnew
        refine ⟨m, by simp, ?_⟩
        rw [hletters hp] at he
        exact r.named_of_mem_lettersFor m.toDispatch _ he

/-- What the loop takes is the oldest item of the mailbox. -/
theorem taken_eq_some (sp : Spawn σ A M R) {m : Incoming A M R} (h : s.taken = some m) :
    ∃ mb, s.hosted.mailbox.recv = some (some m, mb) ∧
      s.hosted.recv sp = s.hosted.take sp (some m) mb := by
  rw [taken] at h
  split at h
  · next hrun =>
      split at h
      · next m' mb hmb =>
          obtain rfl := Option.some.inj h
          refine ⟨mb, hmb, ?_⟩
          rw [Hosted.recv, if_pos hrun, hmb]
      · cases h
      · cases h
  · cases h

/-- A turn of the loop that takes no message leaves the messages in the
mailbox. -/
theorem recv_of_taken_eq_none (sp : Spawn σ A M R) (h : s.taken = none) :
    (s.hosted.recv sp).mailbox.channel.queue.reduceOption =
        s.hosted.mailbox.channel.queue.reduceOption ∧
      (s.hosted.recv sp).mailbox.channel.closed = s.hosted.mailbox.channel.closed ∧
      (s.hosted.mailbox.channel.queue = [] → (s.hosted.recv sp).mailbox.channel.queue = []) := by
  rw [taken] at h
  rw [Hosted.recv]
  split at h
  · next hrun =>
      rw [if_pos hrun]
      rcases hmb : s.hosted.mailbox.recv with - | ⟨- | m, mb⟩
      · simp only
        split <;> exact ⟨rfl, rfl, id⟩
      · obtain ⟨hq, hclosed⟩ := Mailbox.recv_eq_some hmb
        refine ⟨?_, hclosed, fun hnil => ?_⟩
        · rw [hq]
          rfl
        · rw [hnil] at hq
          cases hq
      · rw [hmb] at h
        cases h
  · next hrun =>
      rw [if_neg hrun]
      exact ⟨rfl, rfl, id⟩

theorem InOrder.recv (h : s.InOrder) : (s.recv sp).InOrder := by
  rcases ht : s.taken with - | m
  · obtain ⟨hq, hclosed, hnil⟩ := recv_of_taken_eq_none sp ht
    rw [Mailroom.recv, ht]
    exact ⟨h.matched.trans (congrArg _ hq.symm), fun hc => hnil (h.emptied (hclosed.symm.trans hc)),
      h.named⟩
  · obtain ⟨mb, hmb, hrecv⟩ := taken_eq_some sp ht
    obtain ⟨hq, hclosed⟩ := Mailbox.recv_eq_some hmb
    have hmatched := h.matched
    rw [hq, List.reduceOption_cons_of_some, List.map_cons] at hmatched
    -- the message taken is the one at the oldest place
    rcases hw : s.waiting with - | ⟨n, rest⟩
    · rw [hw] at hmatched
      cases hmatched
    · rw [hw, List.map_cons] at hmatched
      obtain ⟨hn, hrest⟩ := List.cons.inj hmatched
      rw [Mailroom.recv, ht]
      refine ⟨?_, fun hc => ?_, fun account haccount => ?_⟩
      · show s.waiting.tail.map _ = (s.hosted.recv sp).mailbox.channel.queue.reduceOption.map some
        rw [hw, hrecv]
        exact hrest
      · have hnew : (s.hosted.recv sp).mailbox.channel.closed = true := hc
        rw [hrecv] at hnew
        rw [h.emptied (hclosed.symm.trans hnew)] at hq
        cases hq
      · rcases List.mem_append.mp haccount with hold | hnew
        · exact h.named account hold
        · rw [hw, List.take_succ_cons, List.take_zero, List.flatMap_singleton] at hnew
          obtain ⟨fate, hfate, rfl⟩ := List.mem_map.mp hnew
          exact ⟨m, hn, messageFates_isFor fate hfate⟩

/-- The steps that leave the books alone leave the messages in the mailbox. -/
theorem InOrder.hosted (h : s.InOrder) {hosted : Hosted σ A M R}
    (hmessages : hosted.mailbox.channel.queue.reduceOption =
      s.hosted.mailbox.channel.queue.reduceOption)
    (hclosed : hosted.mailbox.channel.closed = true →
      s.hosted.mailbox.channel.closed = true ∧
        hosted.mailbox.channel.queue = s.hosted.mailbox.channel.queue) :
    { s with hosted }.InOrder :=
  ⟨h.matched.trans (congrArg _ hmessages.symm),
    fun hc => (hclosed hc).2.trans (h.emptied (hclosed hc).1), h.named⟩

theorem InOrder.stop (h : s.InOrder) : { s with hosted := s.hosted.stop }.InOrder := by
  apply h.hosted
  · rw [Hosted.stop_queue]
    split
    · rw [List.reduceOption_append]
      exact List.append_nil _
    · rfl
  · intro hc
    rw [Hosted.stop_closed] at hc
    refine ⟨hc, ?_⟩
    rw [Hosted.stop_queue, if_neg fun hadm => by simp [hadm.1] at hc]

theorem InOrder.finish (h : s.InOrder) : s.finish.InOrder := by
  rcases hrun : s.hosted.task.running with - | -
  · simp only [Mailroom.finish, Hosted.finish, hrun, Bool.false_eq_true, if_false]
    exact ⟨rfl, fun _ => rfl, h.named⟩
  · simp only [Mailroom.finish, Hosted.finish, hrun, if_true]
    exact h

theorem inOrder_step (sp : Spawn σ A M R) (r : TestActorRef ω M) (s : Mailroom ω σ A M R)
    (op : MailroomOp ω A M R) (h : s.InOrder) : (s.step sp r op).InOrder := by
  have hsame : ∀ hosted : Hosted σ A M R, hosted.mailbox = s.hosted.mailbox →
      { s with hosted }.InOrder := by
    intro hosted hmb
    apply h.hosted
    · rw [hmb]
    · intro hc
      rw [hmb] at hc ⊢
      exact ⟨hc, rfl⟩
  cases op with
  | send m rh =>
      rw [step]
      split
      · exact h.send m rh
      · exact h
  | recv => exact h.recv
  | finish => exact h.finish
  | stop =>
      rw [step, Hosted.step]
      split
      · exact h.stop
      · exact h
  | cloneRef =>
      apply hsame
      exact Hosted.mailbox_cloneRef sp s.hosted
  | lookup =>
      apply hsame
      exact Hosted.mailbox_lookup sp s.hosted
  | dropRef => exact hsame _ rfl
  | unregister => exact hsame _ rfl
  | elsewhere outbound => exact ⟨h.matched, h.emptied, h.named⟩

theorem inOrder_spawn (config : MailboxConfig) (core : Core σ A) (outbound : ω) :
    (spawn config core outbound : Mailroom ω σ A M R).InOrder where
  matched := rfl
  emptied _ := rfl
  named _ h := nomatch h

end InOrder

/-! ### Accounting over a run -/

section Accounting

variable {sp : Spawn σ A M R} {r : TestActorRef ω M} {s : Mailroom ω σ A M R}

/-- The entries that lose no ticket are those of the steps that deliver. -/
theorem lossless_entry_iff (h : s.InOrder) (op : MailroomOp ω A M R) :
    s.tally.Lossless (s.entry sp r op) ↔ s.Delivers sp r op := by
  cases op with
  | send m rh =>
      by_cases hrefs : 0 < s.hosted.refs
      · by_cases hp : r.passes m.toDispatch rh s.outbound = true
        · by_cases hadm : s.hosted.mailbox.Admits
          · simp [entry, Delivers, SendCounts, hrefs, hp, hadm, Tally.Lossless]
          · by_cases hcount : m.kind.reportsFailure = true ∧ s.hosted.mailbox.Reports
            · simp [entry, Delivers, SendCounts, hrefs, hp, hadm, hcount, Tally.Lossless]
            · simp only [entry, Delivers, SendCounts, hrefs, hp, hadm, hcount, Tally.Lossless,
                and_self, if_true, if_false, or_self, true_implies]
        · simp [entry, Delivers, SendCounts, hrefs, hp, Tally.Lossless]
      · simp [entry, Delivers, hrefs, Tally.Lossless]
  | recv =>
      rcases ht : s.taken with - | m
      · simp [entry, Delivers, ht, Tally.Lossless]
      · -- a message is taken, so a ticket is waiting
        have hwaiting : s.waiting ≠ [] := by
          obtain ⟨mb, hmb, -⟩ := taken_eq_some sp ht
          rw [Ne, h.waiting_eq_nil_iff, (Mailbox.recv_eq_some hmb).1,
            List.reduceOption_cons_of_some]
          exact List.cons_ne_nil _ _
        rcases hskip : handlerSkipped sp m s.hosted.task.core with - | -
        · simp [entry, Delivers, ht, hskip, Tally.Lossless]
        · simp [entry, Delivers, ht, hskip, Tally.Lossless, tally, hwaiting]
  | finish =>
      rcases hrun : s.hosted.task.running with - | -
      · simp only [entry, Delivers, hrun, Bool.false_eq_true, if_false, true_implies]
        exact h.waiting_eq_nil_iff
      · simp [entry, Delivers, hrun, Tally.Lossless]
  | stop | cloneRef | dropRef | lookup | unregister | elsewhere outbound => exact Iff.rfl

theorem length_fatesOf (s : Mailroom ω σ A M R) (n : Nat) :
    (s.fatesOf n).length = s.tally.settled.count n := by
  show (s.fatesOf n).length = (s.accounts.map Prod.fst).count n
  rw [fatesOf, List.length_map, List.count, List.countP_map, List.countP_eq_length_filter]
  congr 1

/-- In a terminated actor nothing waits. -/
theorem InOrder.waiting_of_terminated (h : s.InOrder) (hterm : s.Terminated) : s.waiting = [] := by
  rw [h.waiting_eq_nil_iff, h.emptied hterm]
  rfl

/-- Sound books account for the messages when those of a terminated actor are
balanced. -/
theorem messagesAccounted_iff_balanced (h : s.InOrder) (hs : s.tally.Sound) :
    s.MessagesAccounted ↔ (s.Terminated → s.tally.Balanced) := by
  constructor
  · intro hacc hterm
    rw [hs.balanced_iff_count (h.waiting_of_terminated hterm)]
    intro n hn
    rw [← length_fatesOf]
    exact (hacc n _ (List.getElem?_eq_getElem hn)).2.2 hterm
  · intro hbal n m hm
    refine ⟨fun fate hfate => ?_, ?_, fun hterm => ?_⟩
    · obtain ⟨account, haccount, rfl⟩ := List.mem_map.mp hfate
      obtain ⟨hmem, hplace⟩ := List.mem_filter.mp haccount
      obtain ⟨m', hm', hfor⟩ := h.named account hmem
      rw [of_decide_eq_true hplace, hm] at hm'
      rw [Option.some.inj hm']
      exact hfor
    · rw [length_fatesOf]
      exact hs.count_settled_le n
    · rw [length_fatesOf]
      exact (hs.balanced_iff_count (h.waiting_of_terminated hterm)).mp (hbal hterm) n
        (List.getElem?_eq_some_iff.mp hm).1

/-- A dropped receiver does not come back. -/
theorem terminated_step (sp : Spawn σ A M R) (r : TestActorRef ω M) (s : Mailroom ω σ A M R)
    (op : MailroomOp ω A M R) (h : s.Terminated) : (s.step sp r op).Terminated := by
  cases op with
  | send m rh =>
      rw [step]
      split
      · rw [Mailroom.send]
        split
        · exact (Hosted.send_closed (s := s.hosted) m).trans h
        · exact h
      · exact h
  | recv =>
      show (s.recv sp).Terminated
      rcases ht : s.taken with - | m
      · simp only [Mailroom.recv, ht]
        exact (recv_of_taken_eq_none sp ht).2.1.trans h
      · obtain ⟨mb, hmb, hrecv⟩ := taken_eq_some sp ht
        simp only [Mailroom.recv, ht, hrecv]
        exact (Mailbox.recv_eq_some hmb).2.trans h
  | finish =>
      show s.hosted.finish.mailbox.channel.closed = true
      rw [Hosted.finish]
      split
      · exact h
      · rfl
  | stop =>
      show (s.hosted.step sp .stop).mailbox.channel.closed = true
      rw [Hosted.step]
      split
      · exact (Hosted.stop_closed s.hosted).trans h
      · exact h
  | cloneRef =>
      show (s.hosted.step sp .cloneRef).mailbox.channel.closed = true
      rw [Hosted.mailbox_cloneRef]
      exact h
  | lookup =>
      show (s.hosted.step sp .lookup).mailbox.channel.closed = true
      rw [Hosted.mailbox_lookup]
      exact h
  | dropRef | unregister | elsewhere outbound => exact h

end Accounting

end Mailroom

/-- **No message vanishes silently**, in every run of an actor with a dead
letter handler, exactly if the run has not ended in termination or every step
of it delivers. -/
theorem messages_accounted_iff (sp : Spawn σ A M R) (r : TestActorRef ω M)
    (hsp : sp.deadLetterHandler = true) (hr : r.deadLetterHandler = true)
    (config : MailboxConfig) (core : Core σ A) (outbound : ω) (ops : List (MailroomOp ω A M R)) :
    Always (Mailroom.step sp r) Mailroom.MessagesAccounted (.spawn config core outbound) ops ↔
      ((run (Mailroom.step sp r) (.spawn config core outbound) ops).Terminated →
        Admissible (Mailroom.step sp r) (Mailroom.Delivers sp r) (.spawn config core outbound)
          ops) := by
  have hstep : ∀ (s : Mailroom ω σ A M R) op, s.InOrder ∧ s.tally.Sound →
      (s.step sp r op).InOrder ∧ (s.step sp r op).tally.Sound := by
    intro s op h
    refine ⟨Mailroom.inOrder_step sp r s op h.1, ?_⟩
    rw [Mailroom.tally_step hsp hr op]
    exact h.2.record _
  have hspawn : (Mailroom.spawn config core outbound : Mailroom ω σ A M R).InOrder ∧
      (Mailroom.spawn config core outbound : Mailroom ω σ A M R).tally.Sound :=
    ⟨Mailroom.inOrder_spawn config core outbound, Tally.sound_empty⟩
  have hrecord : ∀ (s : Mailroom ω σ A M R) op, s.tally.Sound →
      ((s.step sp r op).tally.Balanced ↔
        s.tally.Balanced ∧ s.tally.Lossless (s.entry sp r op)) := by
    intro s op h
    rw [Mailroom.tally_step hsp hr op]
    exact Tally.balanced_record_iff h _
  rw [always_congr hstep (fun s h => Mailroom.messagesAccounted_iff_balanced h.1 h.2) hspawn,
    always_imp_iff hstep (Mailroom.terminated_step sp r)
      (fun s op h hbal => ((hrecord s op h.2).mp hbal).1) hspawn]
  refine imp_congr_right fun _ => ?_
  have hbalanced : Always (Mailroom.step sp r) (fun s => s.tally.Balanced)
        (.spawn config core outbound) ops ↔
      Admissible (Mailroom.step sp r) (fun s op => s.tally.Lossless (s.entry sp r op))
        (.spawn config core outbound) ops := by
    refine always_iff_admissible (fun s op hbal => ?_) Tally.balanced_empty
    rw [hrecord s op hbal.sound]
    exact and_iff_right hbal
  rw [hbalanced]
  exact admissible_congr (Mailroom.inOrder_step sp r)
    (fun s op h => Mailroom.lossless_entry_iff h op) hspawn.1

/-! ### Runs with and without a loss -/

/-- An actor without interceptors, with a dead letter handler. -/
def notifiedSpawn : Spawn Unit Unit Unit Unit := ⟨[], true, plainHooks Unit⟩

def notifiedRef : TestActorRef Unit Unit := ⟨⟨[], false, ⟨⟨"node-1"⟩, 1⟩, "worker"⟩, true⟩

def quickTell : Incoming Unit Unit Unit := incomingAt .typed (idleHandler 0 (.returned ())) 0

/-- One tell is handled, one does not fit, and one comes too late. -/
def reportedRun : List (MailroomOp Unit Unit Unit Unit) :=
  [.send quickTell ⟨0, 0⟩, .send quickTell ⟨1, 0⟩, .recv, .stop, .recv, .finish,
    .send quickTell ⟨2, 0⟩]

theorem messages_accounted_reportedRun :
    (run (Mailroom.step notifiedSpawn notifiedRef)
        (.spawn (.bounded 1 .rejectWithError) ⟨(), freshContext, (), none⟩ ())
        reportedRun).Terminated ∧
      Always (Mailroom.step notifiedSpawn notifiedRef) Mailroom.MessagesAccounted
        (.spawn (.bounded 1 .rejectWithError) ⟨(), freshContext, (), none⟩ ()) reportedRun := by
  refine ⟨rfl, (messages_accounted_iff notifiedSpawn notifiedRef rfl rfl _ _ _ _).mpr fun _ => ?_⟩
  decide

/-- A tell that follows a `stop` into the mailbox is dropped with it, and no
dead letter says so. -/
theorem message_behind_stop_vanishes :
    ¬ ∀ (sp : Spawn Unit Unit Unit Unit) (r : TestActorRef Unit Unit),
      sp.deadLetterHandler = true → r.deadLetterHandler = true →
      ∀ (config : MailboxConfig) (core : Core Unit Unit) (outbound : Unit)
        (ops : List (MailroomOp Unit Unit Unit Unit)),
        Always (Mailroom.step sp r) Mailroom.MessagesAccounted
          (.spawn config core outbound) ops := by
  intro h
  have hall := h notifiedSpawn notifiedRef rfl rfl .unbounded ⟨(), freshContext, (), none⟩ ()
    [.stop, .send quickTell ⟨0, 0⟩, .recv, .finish]
  exact absurd ((hall.last 0 quickTell rfl).2.2 rfl) (by decide)

end Dactor
