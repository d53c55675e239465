/-
Dactor/OnReply.lean

What the outbound interceptors see of the replies to asks.

`TestActorRef::ask` puts a task between the actor's reply and the caller,
which calls `on_reply` of every interceptor and then passes the reply on.
`RemoteActorRef::ask` does the same in the task that waits for the transport,
and also shows its failures.  `RactorActorRef::ask` hands the reply channel
to the caller as it is: `run_on_reply` is not called.

An `on_reply` that panics takes the task with it, and the caller finds the
channel closed.

Main result: `onReply_observes_iff`.
-/
import Dactor.Cancellation
import Dactor.RemoteTell

namespace Dactor

variable {σ M R D : Type}

/-! ### Interceptors that see replies -/

/-- An outbound interceptor with its `on_reply`, which leaves the new state
or panics. -/
structure ReplyInterceptor (σ M R : Type) extends OutboundInterceptor σ M where
  onReply : OutboundContext → RuntimeHeaders → Headers → Outcome R → σ → Option σ

/-- What happens on the way of a reply, in order. -/
inductive ReplyEvent (R : Type)
  | onReply (position : Nat) (ctx : OutboundContext) (outcome : Outcome R)
  | resolved (result : Except RuntimeError R)

/-- `for interceptor in interceptors  interceptor.on_reply(..)`: the calls,
and whether they all returned. -/
def onReplyLoop (ctx : OutboundContext) (rh : RuntimeHeaders) (headers : Headers)
    (outcome : Outcome R) : List (ReplyInterceptor σ M R) → Nat → σ → List (ReplyEvent R) × Bool
  | [], _, _ => ([], true)
  | i :: is, n, s =>
    match i.onReply ctx rh headers outcome s with
    -- a panic: the interceptors after this one are not called
    | none => ([.onReply n ctx outcome], false)
    | some s =>
      let rest := onReplyLoop ctx rh headers outcome is (n + 1) s
      (.onReply n ctx outcome :: rest.1, rest.2)

/-- The end of a task that shows an outcome and then sends a result: if a
call panics, the caller finds the channel closed. -/
def shownThen (shown : List (ReplyEvent R) × Bool) (result : Except RuntimeError R) :
    List (ReplyEvent R) :=
  shown.1 ++ [.resolved (if shown.2 then result else .error replyChannelClosed)]

/-- The interceptors, called in turn, all return from `on_reply`. -/
def AllReturn (ctx : OutboundContext) (rh : RuntimeHeaders) (headers : Headers)
    (outcome : Outcome R) : List (ReplyInterceptor σ M R) → σ → Prop
  | [], _ => True
  | i :: is, s =>
    ∃ s', i.onReply ctx rh headers outcome s = some s' ∧ AllReturn ctx rh headers outcome is s'

/-! ### The contract -/

/-- The calls of `on_reply`: which interceptor, and the outcome it is shown. -/
def ReplyEvent.call : ReplyEvent R → Option (Nat × Outcome R)
  | .onReply position _ outcome => some (position, outcome)
  | .resolved _ => none

def calls (events : List (ReplyEvent R)) : List (Nat × Outcome R) := events.filterMap (·.call)

/-- One call for each of the `n` interceptors, in list order, with the
reply. -/
def eachOnce (n : Nat) (reply : R) : List (Nat × Outcome R) :=
  (List.range n).map fun position => (position, .askSuccess reply)

/-- Before the caller gets a reply, each of the `n` interceptors has been
shown it; and none is shown a reply when the caller gets an error. -/
structure ReplyObserved (n : Nat) (events : List (ReplyEvent R)) : Prop where
  answered : ∀ before after reply, events = before ++ .resolved (.ok reply) :: after →
    calls before = eachOnce n reply ∧ calls after = []
  failed : ∀ error reply, .resolved (.error error) ∈ events →
    ∀ call ∈ calls events, call.2 ≠ .askSuccess reply

/-- The same for a call of `ask`, which may also fail at once. -/
def AskObserved (n : Nat) (result : Except ActorSendError (List (ReplyEvent R))) : Prop :=
  ∀ events, result = .ok events → ReplyObserved n events

/-! ### Local references -/

/-- A reference to an actor in this process. -/
structure LocalRef (σ M R : Type) where
  interceptors : List (ReplyInterceptor σ M R)
  dropObserver : Bool
  targetId : ActorId
  targetName : String

/-- A call of `ask`, and what comes of it: how the mailbox takes the
envelope, and what arrives on the reply channel; `none` when it is dropped.
The interceptors' states are those at the send and at the reply. -/
structure LocalAsk (σ M R : Type) where
  messageType : String
  msg : M
  sendHeaders : RuntimeHeaders
  replyHeaders : RuntimeHeaders
  sendState : σ
  replyState : σ
  mailbox : Except ActorSendError Unit
  arrived : Option (Except RuntimeError R)

namespace LocalRef

variable (r : LocalRef σ M R) (c : LocalAsk σ M R)

def pipeline : OutboundPipeline σ M :=
  ⟨r.interceptors.map (·.toOutboundInterceptor), r.dropObserver, r.targetId, r.targetName⟩

def gate : Gate RuntimeError :=
  r.pipeline.askGate c.messageType c.msg c.sendHeaders c.sendState

/-- `run_on_reply`. -/
def runOnReply (outcome : Outcome R) : List (ReplyEvent R) × Bool :=
  onReplyLoop ⟨r.targetId, r.targetName, c.messageType, .ask, false⟩ c.replyHeaders Headers.new
    outcome r.interceptors 0 c.replyState

/-- The task that `TestActorRef::ask` spawns. -/
def relay : List (ReplyEvent R) :=
  match c.arrived with
  | some (.ok reply) => shownThen (r.runOnReply c (.askSuccess reply)) (.ok reply)
  | some (.error e) => [.resolved (.error e)]
  | none => [.resolved (.error (.actorNotFound "reply channel closed"))]

/-- `TestActorRef::ask`. -/
def testAsk : Except ActorSendError (List (ReplyEvent R)) :=
  match r.gate c with
  | .returned e => .ok [.resolved (.error e)]
  | .passed _ =>
    match c.mailbox with
    | .error e => .error e
    | .ok () =>
      -- without interceptors the caller waits on the actor's own channel
      if r.interceptors.isEmpty then
        .ok [.resolved (c.arrived.getD (.error replyChannelClosed))]
      else .ok (r.relay c)

/-- `RactorActorRef::ask`. -/
def ractorAsk : Except ActorSendError (List (ReplyEvent R)) :=
  match r.gate c with
  | .returned e => .ok [.resolved (.error e)]
  | .passed _ =>
    match c.mailbox with
    | .error e => .error e
    | .ok () => .ok [.resolved (c.arrived.getD (.error replyChannelClosed))]

/-- The ask is delivered, and the actor replies. -/
def Answered (reply : R) : Prop :=
  (r.gate c).passes = true ∧ c.mailbox = .ok () ∧ c.arrived = some (.ok reply)

/-- No `on_reply` panics on the reply. -/
def Returns (reply : R) : Prop :=
  AllReturn ⟨r.targetId, r.targetName, c.messageType, .ask, false⟩ c.replyHeaders Headers.new
    (.askSuccess reply) r.interceptors c.replyState

end LocalRef

/-! ### Remote references -/

/-- How an ask is encoded and its reply decoded; `D` is a value of any
type. -/
structure AskEntry (M D : Type) where
  serialize : SerializeFn M
  deserializeReply : Bytes → Except String D

structure RemoteAsker (σ M R D : Type) where
  id : ActorId
  name : String
  interceptors : List (ReplyInterceptor σ M R)
  askEntries : TypeId → Option (AskEntry M D)

/-- How the race of `send_request` against the token ends. -/
inductive RemoteOutcome
  | cancelled
  | failed (error : String)
  | replied (body : Bytes)
  deriving DecidableEq, Repr

/-- A call of `ask` on a remote reference, and what comes of it.  `downcast`
is the cast to the reply type of the message. -/
structure RemoteAsk (σ M R D : Type) where
  messageType : String
  typeId : TypeId
  msg : M
  sendHeaders : RuntimeHeaders
  replyHeaders : RuntimeHeaders
  sendState : σ
  replyState : σ
  outcome : RemoteOutcome
  downcast : D → Option R

namespace RemoteAsker

variable (r : RemoteAsker σ M R D) (c : RemoteAsk σ M R D)

def sender : RemoteActorRef σ M :=
  ⟨r.id, r.name, fun _ => none, r.interceptors.map (·.toOutboundInterceptor)⟩

/-- `notify_interceptors`, with the headers of the request. -/
def notifyInterceptors (headers : Headers) (outcome : Outcome R) : List (ReplyEvent R) × Bool :=
  onReplyLoop ⟨r.id, r.name, c.messageType, .ask, true⟩ c.replyHeaders headers outcome
    r.interceptors 0 c.replyState

/-- A failure: the interceptors see it as an error of the handler. -/
def failWith (headers : Headers) (errorMsg : String) : List (ReplyEvent R) :=
  shownThen (r.notifyInterceptors c headers (.handlerError (.internal errorMsg)))
    (.error (.send errorMsg))

/-- The task that `ask` spawns. -/
def task (entry : AskEntry M D) (headers : Headers) : List (ReplyEvent R) :=
  match c.outcome with
  -- the task returns before it gets to the interceptors
  | .cancelled => [.resolved (.error .cancelled)]
  | .failed error => r.failWith c headers ("remote ask failed: " ++ error)
  | .replied body =>
    match entry.deserializeReply body with
    | .error message => r.failWith c headers ("reply deserialization failed: " ++ message)
    | .ok anyReply =>
      match c.downcast anyReply with
      -- the one failure that is not shown
      | none => [.resolved (.error (.send "reply type mismatch"))]
      | some reply => shownThen (r.notifyInterceptors c headers (.askSuccess reply)) (.ok reply)

/-- `RemoteActorRef::ask`. -/
def ask : Except ActorSendError (List (ReplyEvent R)) :=
  let (result, headers, _) :=
    r.sender.runOutboundPipeline c.messageType .ask Headers.new c.msg c.sendHeaders c.sendState
  match remoteAskGate result with
  | .returned e => .error e
  | .passed _ =>
    match r.askEntries c.typeId with
    | none =>
      .error ⟨"ask message type '" ++ c.messageType ++ "' not registered for remote send to " ++
        r.id.display⟩
    | some entry =>
      match entry.serialize c.msg with
      | .error message => .error ⟨"serialization failed: " ++ message⟩
      | .ok _ => .ok (r.task c entry headers)

/-- The headers of the request, as `on_send` left them. -/
def requestHeaders : Headers :=
  (r.sender.runOutboundPipeline c.messageType .ask Headers.new c.msg c.sendHeaders c.sendState).2.1

/-- The reply that comes back, if it decodes to the reply type. -/
def decoded (c : RemoteAsk σ M R D) (entry : AskEntry M D) : Option R :=
  match c.outcome with
  | .cancelled | .failed _ => none
  | .replied body => (entry.deserializeReply body).toOption.bind c.downcast

/-- The ask is sent, and a reply comes back. -/
def Answered (reply : R) : Prop :=
  (r.sender.askGate c.messageType c.msg c.sendHeaders c.sendState).passes = true ∧
    ∃ entry, r.askEntries c.typeId = some entry ∧ (entry.serialize c.msg).toBool = true ∧
      decoded c entry = some reply

/-- No `on_reply` panics on the reply. -/
def Returns (reply : R) : Prop :=
  AllReturn ⟨r.id, r.name, c.messageType, .ask, true⟩ c.replyHeaders (r.requestHeaders c)
    (.askSuccess reply) r.interceptors c.replyState

end RemoteAsker

/-! ### The loop over the interceptors -/

section Loop

variable (ctx : OutboundContext) (rh : RuntimeHeaders) (headers : Headers)

theorem calls_append (events more : List (ReplyEvent R)) :
    calls (events ++ more) = calls events ++ calls more :=
  List.filterMap_append

/-- Every call of the loop shows the one outcome. -/
theorem calls_onReplyLoop_outcome (outcome : Outcome R) (is : List (ReplyInterceptor σ M R))
    (n : Nat) (s : σ) :
    ∀ call ∈ calls (onReplyLoop ctx rh headers outcome is n s).1, call.2 = outcome := by
  induction is generalizing n s with
  | nil =>
      intro call hmem
      cases hmem
  | cons i is ih =>
      intro call hmem
      cases hi : i.onReply ctx rh headers outcome s with
      | none =>
          simp only [onReplyLoop, hi] at hmem
          rw [List.mem_singleton.mp hmem]
      | some s' =>
          simp only [onReplyLoop, hi] at hmem
          rcases List.mem_cons.mp hmem with rfl | hmem
          · rfl
          · exact ih (n + 1) s' call hmem

/-- No call of the loop resolves the ask. -/
theorem resolved_notMem_onReplyLoop (outcome : Outcome R) (is : List (ReplyInterceptor σ M R))
    (n : Nat) (s : σ) (result : Except RuntimeError R) :
    .resolved result ∉ (onReplyLoop ctx rh headers outcome is n s).1 := by
  induction is generalizing n s with
  | nil => exact List.not_mem_nil
  | cons i is ih =>
      intro hmem
      cases hi : i.onReply ctx rh headers outcome s with
      | none =>
          simp only [onReplyLoop, hi] at hmem
          cases List.mem_singleton.mp hmem
      | some s' =>
          simp only [onReplyLoop, hi] at hmem
          rcases List.mem_cons.mp hmem with heq | hmem
          · cases heq
          · exact ih (n + 1) s' hmem

theorem onReplyLoop_returns_iff (outcome : Outcome R) (is : List (ReplyInterceptor σ M R))
    (n : Nat) (s : σ) :
    (onReplyLoop ctx rh headers outcome is n s).2 = true ↔
      AllReturn ctx rh headers outcome is s := by
  induction is generalizing n s with
  | nil => exact iff_of_true rfl trivial
  | cons i is ih =>
      cases hi : i.onReply ctx rh headers outcome s with
      | none => simp [onReplyLoop, AllReturn, hi]
      | some s' =>
          simp only [onReplyLoop, AllReturn, hi, Option.some.injEq, exists_eq_left']
          exact ih (n + 1) s'

variable {ctx rh headers} in
/-- When all return, each has been called once, in list order. -/
theorem calls_onReplyLoop {outcome : Outcome R} {is : List (ReplyInterceptor σ M R)}
    {s : σ} (h : AllReturn ctx rh headers outcome is s) (n : Nat) :
    calls (onReplyLoop ctx rh headers outcome is n s).1
      = (List.range' n is.length).map fun position => (position, outcome) := by
  induction is generalizing n s with
  | nil => rfl
  | cons i is ih =>
      obtain ⟨s', hi, hrest⟩ := h
      simp only [onReplyLoop, hi]
      rw [List.length_cons, List.range'_succ, List.map_cons, ← ih hrest (n + 1)]
      rfl

/-- The first interceptor is called in any case. -/
theorem calls_onReplyLoop_ne_nil {is : List (ReplyInterceptor σ M R)} (his : is ≠ [])
    (outcome : Outcome R) (n : Nat) (s : σ) :
    calls (onReplyLoop ctx rh headers outcome is n s).1 ≠ [] := by
  obtain ⟨i, is, rfl⟩ := List.exists_cons_of_ne_nil his
  cases hi : i.onReply ctx rh headers outcome s with
  | none => simp [onReplyLoop, hi, calls, ReplyEvent.call]
  | some s' => simp [onReplyLoop, hi, calls, ReplyEvent.call]

end Loop

/-! ### The ends of a task -/

section Ends

variable {shown : List (ReplyEvent R)}

/-- A task that shows no reply and ends in an error. -/
theorem observed_of_error {e : RuntimeError} (n : Nat)
    (hresolved : ∀ result, .resolved result ∉ shown)
    (hcalls : ∀ call ∈ calls shown, ∀ reply, call.2 ≠ .askSuccess reply) :
    ReplyObserved n (shown ++ [.resolved (.error e)]) := by
  refine ⟨?_, ?_⟩
  · intro before after reply heq
    have hmem : ReplyEvent.resolved (.ok reply) ∈ shown ++ [.resolved (.error e)] := by
      rw [heq]
      exact List.mem_append_right before List.mem_cons_self
    rcases List.mem_append.mp hmem with hmem | hmem
    · exact absurd hmem (hresolved _)
    · cases List.mem_singleton.mp hmem
  · intro error reply _ call hmem
    rw [calls_append] at hmem
    rcases List.mem_append.mp hmem with hmem | hmem
    · exact hcalls call hmem reply
    · cases hmem

theorem observed_error (n : Nat) (e : RuntimeError) :
    ReplyObserved n ([.resolved (.error e)] : List (ReplyEvent R)) :=
  observed_of_error n (fun _ => List.not_mem_nil) (fun _ h => absurd h List.not_mem_nil)

/-- A task that ends in a reply must have shown it to everyone before. -/
theorem observed_ok_iff {n : Nat} {reply : R} (hresolved : ∀ result, .resolved result ∉ shown) :
    ReplyObserved n (shown ++ [.resolved (.ok reply)]) ↔ calls shown = eachOnce n reply := by
  constructor
  · intro h
    exact (h.answered shown [] reply rfl).1
  · intro h
    refine ⟨?_, ?_⟩
    · intro before after reply' heq
      rcases List.eq_nil_or_concat after with rfl | ⟨init, last, rfl⟩
      · obtain ⟨hshown, hlast⟩ := List.append_inj' heq rfl
        cases hlast
        rw [← hshown]
        exact ⟨h, rfl⟩
      · -- an earlier event would resolve the ask
        have heq' : shown ++ [.resolved (.ok reply)]
            = (before ++ .resolved (.ok reply') :: init) ++ [last] := by
          rw [heq, List.concat_eq_append, List.append_assoc, List.cons_append]
        obtain ⟨hshown, -⟩ := List.append_inj' heq' rfl
        refine absurd ?_ (hresolved (.ok reply'))
        rw [hshown]
        exact List.mem_append_right before List.mem_cons_self
    · intro error reply' hmem
      rcases List.mem_append.mp hmem with hmem | hmem
      · exact absurd hmem (hresolved _)
      · cases List.mem_singleton.mp hmem

variable {ctx : OutboundContext} {rh : RuntimeHeaders} {headers : Headers}
  {is : List (ReplyInterceptor σ M R)} {s : σ}

/-- A task that shows a failure does its part, whether or not a call panics. -/
theorem observed_shown_failure (n : Nat) (error : ActorError) (e : RuntimeError) :
    ReplyObserved n
      (shownThen (onReplyLoop ctx rh headers (.handlerError error : Outcome R) is 0 s)
        (.error e)) := by
  have hresolved :=
    resolved_notMem_onReplyLoop ctx rh headers (.handlerError error : Outcome R) is 0 s
  have hcalls := calls_onReplyLoop_outcome ctx rh headers (.handlerError error : Outcome R) is 0 s
  unfold shownThen
  split
  all_goals
    refine observed_of_error n hresolved ?_
    intro call hmem reply
    rw [hcalls call hmem]
    intro heq
    cases heq

/-- A task that shows a reply does its part iff no call panics. -/
theorem observed_shown_iff (his : is ≠ []) (reply : R) :
    ReplyObserved is.length
        (shownThen (onReplyLoop ctx rh headers (.askSuccess reply) is 0 s) (.ok reply)) ↔
      AllReturn ctx rh headers (.askSuccess reply) is s := by
  have hresolved := resolved_notMem_onReplyLoop ctx rh headers (.askSuccess reply) is 0 s
  rw [← onReplyLoop_returns_iff ctx rh headers (.askSuccess reply) is 0 s, shownThen]
  constructor
  · intro h
    by_contra hpanic
    rw [if_neg hpanic] at h
    -- the first interceptor has seen the reply, and the caller gets an error
    obtain ⟨call, hcall⟩ := List.exists_mem_of_ne_nil _
      (calls_onReplyLoop_ne_nil ctx rh headers his (.askSuccess reply) 0 s)
    refine h.failed replyChannelClosed reply ?_ call ?_ ?_
    · exact List.mem_append_right _ (List.mem_singleton_self _)
    · rw [calls_append]
      exact List.mem_append_left _ hcall
    · exact calls_onReplyLoop_outcome ctx rh headers _ is 0 s call hcall
  · intro hreturns
    rw [if_pos hreturns, observed_ok_iff hresolved,
      calls_onReplyLoop ((onReplyLoop_returns_iff ctx rh headers _ is 0 s).mp hreturns) 0, eachOnce,
      List.range_eq_range']

end Ends

/-! ### The asks -/

theorem askObserved_error (n : Nat) (e : ActorSendError) :
    AskObserved n (.error e : Except ActorSendError (List (ReplyEvent R))) := by
  intro events heq
  cases heq

theorem askObserved_ok_iff {n : Nat} {events : List (ReplyEvent R)} :
    AskObserved n (.ok events) ↔ ReplyObserved n events := by
  constructor
  · intro h
    exact h events rfl
  · intro h events' heq
    cases heq
    exact h

namespace LocalRef

variable (r : LocalRef σ M R) (c : LocalAsk σ M R)

theorem relay_observed_iff (hi : r.interceptors ≠ []) :
    ReplyObserved r.interceptors.length (r.relay c) ↔
      ∀ reply, c.arrived = some (.ok reply) → r.Returns c reply := by
  unfold relay
  split
  · next reply harrived =>
      rw [runOnReply, observed_shown_iff hi reply]
      simp [harrived, Returns]
  · next e harrived => simp [harrived, observed_error]
  · next harrived => simp [harrived, observed_error]

theorem testAsk_observed_iff (hi : r.interceptors ≠ []) :
    AskObserved r.interceptors.length (r.testAsk c) ↔
      ∀ reply, r.Answered c reply → r.Returns c reply := by
  unfold testAsk Answered
  cases hgate : r.gate c with
  | returned e => simp [Gate.passes, askObserved_ok_iff, observed_error]
  | passed delay =>
      cases hmail : c.mailbox with
      | error e => simp [askObserved_error]
      | ok u => simp [Gate.passes, hi, askObserved_ok_iff, relay_observed_iff]

/-- The reply passes by the interceptors. -/
theorem ractorAsk_observed_iff (hi : r.interceptors ≠ []) :
    AskObserved r.interceptors.length (r.ractorAsk c) ↔ ∀ reply, ¬ r.Answered c reply := by
  unfold ractorAsk Answered
  cases hgate : r.gate c with
  | returned e => simp [Gate.passes, askObserved_ok_iff, observed_error]
  | passed delay =>
      cases hmail : c.mailbox with
      | error e => simp [askObserved_error]
      | ok u =>
          rw [askObserved_ok_iff]
          rcases harrived : c.arrived with - | (e | reply)
          · simp [observed_error]
          · simp [observed_error]
          · have hnone : ¬ ReplyObserved r.interceptors.length
                ([] ++ [.resolved (.ok reply)] : List (ReplyEvent R)) := by
              rw [observed_ok_iff (fun _ => List.not_mem_nil)]
              intro h
              have hlength : r.interceptors.length = 0 := by
                simpa [calls, eachOnce] using (congrArg List.length h).symm
              exact hi (List.length_eq_zero_iff.mp hlength)
            exact iff_of_false hnone (by simp [Gate.passes])

end LocalRef

namespace RemoteAsker

variable (r : RemoteAsker σ M R D) (c : RemoteAsk σ M R D)

theorem task_observed_iff (hi : r.interceptors ≠ []) (entry : AskEntry M D) (headers : Headers) :
    ReplyObserved r.interceptors.length (r.task c entry headers) ↔
      ∀ reply, decoded c entry = some reply →
        AllReturn ⟨r.id, r.name, c.messageType, .ask, true⟩ c.replyHeaders headers
          (.askSuccess reply) r.interceptors c.replyState := by
  unfold task decoded failWith notifyInterceptors
  cases c.outcome with
  | cancelled => simp [observed_error]
  | failed error => simp [observed_shown_failure]
  | replied body =>
      cases hdecode : entry.deserializeReply body with
      | error message => simp [Except.toOption, hdecode, observed_shown_failure]
      | ok anyReply =>
          cases hcast : c.downcast anyReply with
          | none => simp [Except.toOption, hdecode, hcast, observed_error]
          | some reply => simp [Except.toOption, hdecode, hcast, observed_shown_iff hi]

theorem ask_observed_iff (hi : r.interceptors ≠ []) :
    AskObserved r.interceptors.length (r.ask c) ↔
      ∀ reply, r.Answered c reply → r.Returns c reply := by
  unfold ask Answered Returns RemoteActorRef.askGate
  cases hgate : remoteAskGate (r.sender.runOutboundPipeline c.messageType .ask Headers.new c.msg
      c.sendHeaders c.sendState).1 with
  | returned e => simp [hgate, Gate.passes, askObserved_error]
  | passed delay =>
      cases hentry : r.askEntries c.typeId with
      | none => simp [hgate, askObserved_error]
      | some entry =>
          cases hbytes : entry.serialize c.msg with
          | error message => simp [hgate, hbytes, askObserved_error, Except.toBool]
          | ok bytes =>
              simp only [hgate, hbytes, askObserved_ok_iff, r.task_observed_iff c hi entry]
              simp [Gate.passes, hbytes, Except.toBool, requestHeaders]

end RemoteAsker

/-! ### Main result -/

/-- **Main result: what the interceptors see of the replies.**  Behind a
`TestActorRef` or a `RemoteActorRef` every interceptor sees the reply before
the caller does, and sees no reply when the caller gets an error, unless an
`on_reply` panics on it.  Behind a `RactorActorRef` no interceptor sees the
reply of any answered ask. -/
theorem onReply_observes_iff :
    (∀ (r : LocalRef σ M R) (c : LocalAsk σ M R), r.interceptors ≠ [] →
      (AskObserved r.interceptors.length (r.testAsk c) ↔
        ∀ reply, r.Answered c reply → r.Returns c reply) ∧
      (AskObserved r.interceptors.length (r.ractorAsk c) ↔ ∀ reply, ¬ r.Answered c reply)) ∧
    (∀ (r : RemoteAsker σ M R D) (c : RemoteAsk σ M R D), r.interceptors ≠ [] →
      (AskObserved r.interceptors.length (r.ask c) ↔
        ∀ reply, r.Answered c reply → r.Returns c reply)) := by
  refine ⟨?_, ?_⟩
  · intro r c hi
    exact ⟨r.testAsk_observed_iff c hi, r.ractorAsk_observed_iff c hi⟩
  · intro r c hi
    exact r.ask_observed_iff c hi

/-- An interceptor that counts the replies. -/
def replyCounter (M R : Type) : ReplyInterceptor Nat M R where
  name := "counter"
  onSend _ _ headers _ n := (.continued, headers, n)
  onExpandItem _ _ _ _ n := (.continued, n)
  onReply _ _ _ _ n := some (n + 1)

/-- Two of them before an actor in this process, or on another node. -/
def countedRef : LocalRef Nat String Nat where
  interceptors := [replyCounter String Nat, replyCounter String Nat]
  dropObserver := false
  targetId := ⟨⟨"node-1"⟩, 1⟩
  targetName := "worker"

def countedRemote : RemoteAsker Nat String Nat Nat where
  id := ⟨⟨"node-2"⟩, 7⟩
  name := "worker"
  interceptors := [replyCounter String Nat, replyCounter String Nat]
  askEntries _ := some ⟨fun msg => .ok (msg, []), fun body => .ok body.length⟩

/-- An ask that the actor answers with 42. -/
def answeredAsk : LocalAsk Nat String Nat where
  messageType := "Count"
  msg := "how many"
  sendHeaders := ⟨1, 0⟩
  replyHeaders := ⟨2, 0⟩
  sendState := 0
  replyState := 0
  mailbox := .ok ()
  arrived := some (.ok 42)

/-- An ask that the other node answers with two bytes. -/
def answeredRemoteAsk : RemoteAsk Nat String Nat Nat where
  messageType := "Count"
  typeId := "Count"
  msg := "how many"
  sendHeaders := ⟨1, 0⟩
  replyHeaders := ⟨2, 0⟩
  sendState := 0
  replyState := 0
  outcome := .replied [1, 2]
  downcast := some

theorem onReply_observes_counted :
    (AskObserved 2 (countedRef.testAsk answeredAsk) ∧
      ¬ AskObserved 2 (countedRef.ractorAsk answeredAsk)) ∧
    AskObserved 2 (countedRemote.ask answeredRemoteAsk) := by
  have h := onReply_observes_iff (σ := Nat) (M := String) (R := Nat) (D := Nat)
  obtain ⟨htest, hractor⟩ := h.1 countedRef answeredAsk (List.cons_ne_nil _ _)
  have hremote := h.2 countedRemote answeredRemoteAsk (List.cons_ne_nil _ _)
  refine ⟨⟨htest.mpr ?_, ?_⟩, hremote.mpr ?_⟩
  · intro reply _
    exact ⟨1, rfl, 2, rfl, trivial⟩
  · intro hobserved
    exact hractor.mp hobserved 42 ⟨rfl, rfl, rfl⟩
  · intro reply _
    exact ⟨1, rfl, 2, rfl, trivial⟩

/-- An interceptor before a `RactorActorRef`, and an ask that is answered:
the caller gets the reply, and `on_reply` is never called. -/
theorem ractor_onReply_never_called :
    ∃ (r : LocalRef Nat String Nat) (c : LocalAsk Nat String Nat) (reply : Nat),
      r.interceptors ≠ [] ∧ r.ractorAsk c = .ok [.resolved (.ok reply)] ∧
        ¬ AskObserved r.interceptors.length (r.ractorAsk c) := by
  refine ⟨countedRef, answeredAsk, 42, List.cons_ne_nil _ _, rfl, ?_⟩
  intro h
  have hcalls := ((h _ rfl).answered [] [] 42 rfl).1
  cases hcalls

end Dactor
