/-
Dactor/Onlookers.lean

Inbound interceptors that only look on: they let every message pass, change no
headers and wrap no handler.

Put in front of a pipeline, such an interceptor leaves it to run as it would
alone, one position on: `lift` is the pipeline on a state that has the
onlooker's part beside it, and the stages of a message are those of the
pipeline, with the two calls of the onlooker among the events
(`body_watched`).  `sameTask_step` says so of the whole message loop.
-/
import Dactor.MessageLoop

namespace Dactor

open Runs

variable {H σ A M R : Type}

/-! ### Interceptors that look on -/

/-- An interceptor over its own part of the state, which it does not share. -/
def InboundInterceptor.lift (i : InboundInterceptor σ M R) :
    InboundInterceptor (H × σ) M R where
  name := i.name
  onReceive ctx runtimeHeaders headers message now s :=
    let r := i.onReceive ctx runtimeHeaders headers message now s.2
    (r.1, r.2.1, s.1, r.2.2)
  onComplete ctx runtimeHeaders headers outcome now s :=
    (s.1, i.onComplete ctx runtimeHeaders headers outcome now s.2)
  wrapHandler ctx headers s :=
    let r := i.wrapHandler ctx headers s.2
    (r.1, s.1, r.2)

/-- An interceptor that lets everything pass, by what it keeps of it. -/
structure Onlooker (H R : Type) where
  name : String
  onReceive : InboundContext → Nat → H → H
  onComplete : RuntimeHeaders → Outcome R → Nat → H → H

def Onlooker.interceptor (o : Onlooker H R) : InboundInterceptor (H × σ) M R where
  name := o.name
  onReceive ctx _ headers _ now s := (.continued, headers, o.onReceive ctx now s.1, s.2)
  onComplete _ runtimeHeaders _ outcome now s := (o.onComplete runtimeHeaders outcome now s.1, s.2)
  wrapHandler _ _ s := (none, s)

/-- The interceptor goes in front of the others. -/
def Spawn.watched (sp : Spawn σ A M R) (o : Onlooker H R) : Spawn (H × σ) A M R where
  interceptors := o.interceptor :: sp.interceptors.map InboundInterceptor.lift
  deadLetterHandler := sp.deadLetterHandler
  hooks := sp.hooks

/-- The message as the others find it: they are one position further on, and
read the clock there. -/
def Incoming.behind (m : Incoming A M R) : Incoming A M R :=
  { m with
    recvAt := fun n => m.recvAt (n + 1)
    doneAt := fun n => m.doneAt (n + 1) }

/-- An actor without the part of the one that looks on. -/
def Core.alone (s : Core (H × σ) A) : Core σ A := ⟨s.actor, s.ctx, s.istate.2, s.stopReason⟩

/-- An event one position further on. -/
def Event.behind : Event R → Event R
  | .onReceive position ctx runtimeHeaders headers disposition =>
    .onReceive (position + 1) ctx runtimeHeaders headers disposition
  | .onComplete position ctx runtimeHeaders headers outcome =>
    .onComplete (position + 1) ctx runtimeHeaders headers outcome
  | e => e

/-- A call of the first interceptor. -/
def Event.ofFirst : Event R → Bool
  | .onReceive position _ _ _ _ => position == 0
  | .onComplete position _ _ _ _ => position == 0
  | _ => false

/-- The calls of the first interceptor, and the events of the others. -/
def firsts (events : List (Event R)) : List (Event R) := events.filter Event.ofFirst

def others (events : List (Event R)) : List (Event R) := events.filter fun e => !e.ofFirst

/-! ### The stages of a message -/

@[simp] theorem firsts_append (events more : List (Event R)) :
    firsts (events ++ more) = firsts events ++ firsts more := List.filter_append ..

@[simp] theorem others_append (events more : List (Event R)) :
    others (events ++ more) = others events ++ others more := List.filter_append ..

theorem ofFirst_behind (e : Event R) : e.behind.ofFirst = false := by
  cases e with
  | onReceive position _ _ _ _ => rfl
  | onComplete position _ _ _ _ => rfl
  | deadLetter _ => rfl
  | callerError _ => rfl
  | slept _ => rfl
  | handlerStarted _ _ => rfl
  | replied _ => rfl

theorem others_behind (events : List (Event R)) :
    others (events.map Event.behind) = events.map Event.behind := by
  rw [others, List.filter_eq_self]
  intro e he
  obtain ⟨e', -, rfl⟩ := List.mem_map.mp he
  rw [ofFirst_behind]
  rfl

theorem firsts_behind (events : List (Event R)) : firsts (events.map Event.behind) = [] := by
  rw [firsts, List.filter_eq_nil_iff]
  intro e he
  obtain ⟨e', -, rfl⟩ := List.mem_map.mp he
  rw [ofFirst_behind]
  exact Bool.false_ne_true

/-- Events that have no position. -/
def Plain (events : List (Event R)) : Prop :=
  events.map Event.behind = events

theorem Plain.others_eq {events : List (Event R)} (h : Plain events) : others events = events := by
  rw [← h]
  exact others_behind events

theorem Plain.firsts_eq {events : List (Event R)} (h : Plain events) : firsts events = [] := by
  rw [← h]
  exact firsts_behind events

theorem plain_reject (d : Dispatch A M R) (disposition : Disposition) (name : String) :
    Plain (d.reject disposition name) := by
  unfold Plain Dispatch.reject
  split
  · split <;> rfl
  · split <;> rfl
  all_goals rfl

theorem plain_rejectEvents (sp : Spawn σ A M R) (ctx : ActorContext) (d : Dispatch A M R)
    (name : String) (disposition : Disposition) :
    Plain (sp.rejectEvents ctx d name disposition) := by
  rw [Plain, Spawn.rejectEvents, List.map_append, plain_reject]
  split <;> rfl

theorem plain_cancel (d : Dispatch A M R) : Plain d.cancel := by
  unfold Plain Dispatch.cancel
  split <;> rfl

theorem plain_sendReply (d : Dispatch A M R) (reply : R) : Plain (d.sendReply reply) := by
  unfold Plain Dispatch.sendReply
  split <;> rfl

theorem plain_sleepEvents (totalDelay : Nat) : Plain (sleepEvents totalDelay : List (Event R)) := by
  unfold Plain sleepEvents
  split <;> rfl

theorem plain_startedEvents (d : Dispatch A M R) (ctx : ActorContext) (polls : Nat) :
    Plain (startedEvents d ctx polls) := by
  unfold Plain startedEvents
  split <;> rfl

/-! #### The loops over the others -/

section Loops

variable (ictx : InboundContext) (m : Incoming A M R) (is : List (InboundInterceptor σ M R)) (h : H)

theorem receiveLoop_lift (n : Nat) (headers : Headers) (delay : Nat) (s : σ) :
    receiveLoop ictx m (is.map InboundInterceptor.lift) (n + 1) headers delay (h, s) =
      let r := receiveLoop ictx m.behind is n headers delay s
      ⟨r.headers, r.totalDelay, r.rejection, (h, r.istate), r.events.map Event.behind⟩ := by
  induction is generalizing n headers delay s with
  | nil => rfl
  | cons i is ih =>
      have hcall : (i.onReceive ictx m.behind.runtimeHeaders headers m.behind.messageAny
          (m.behind.recvAt n) s) = i.onReceive ictx m.runtimeHeaders headers m.messageAny
            (m.recvAt (n + 1)) s := rfl
      rw [List.map_cons]
      rcases hr : i.onReceive ictx m.runtimeHeaders headers m.messageAny (m.recvAt (n + 1)) s
        with ⟨disposition, headers', s'⟩
      rcases disposition with - | d | - | reason | after <;>
        simp only [receiveLoop, InboundInterceptor.lift, hcall, hr, ih, List.map_cons,
          List.map_nil] <;> rfl

theorem collectHandlerWrappers_lift (headers : Headers) (s : σ) :
    collectHandlerWrappers ictx headers (is.map InboundInterceptor.lift : List
        (InboundInterceptor (H × σ) M R)) (h, s) =
      ((collectHandlerWrappers ictx headers is s).1, h,
        (collectHandlerWrappers ictx headers is s).2) := by
  induction is generalizing s with
  | nil => rfl
  | cons i is ih =>
      rw [List.map_cons, collectHandlerWrappers, collectHandlerWrappers]
      simp only [InboundInterceptor.lift, ih]

theorem completeLoop_lift (headers : Headers) (outcome : Outcome R) (n : Nat) (s : σ) :
    completeLoop ictx m headers outcome (is.map InboundInterceptor.lift) (n + 1) (h, s) =
      let r := completeLoop ictx m.behind headers outcome is n s
      ((h, r.1), r.2.map Event.behind) := by
  induction is generalizing n s with
  | nil => rfl
  | cons i is ih =>
      rw [List.map_cons]
      simp only [completeLoop, InboundInterceptor.lift, ih]
      rfl

end Loops

/-! #### One message -/

section Stages

variable (sp : Spawn σ A M R) (o : Onlooker H R) (m : Incoming A M R) (s : Core (H × σ) A)

/-- What the first interceptor has seen when the message is taken. -/
def Onlooker.seen : H :=
  o.onReceive (inboundContext (messageContext m s) m.toDispatch) (m.recvAt 0) s.istate.1

/-- Its own call. -/
def firstReceive : Event R :=
  .onReceive 0 (inboundContext (messageContext m s) m.toDispatch) m.runtimeHeaders Headers.new
    .continued

theorem received_watched :
    received (sp.watched o) m s =
      let r := received sp m.behind s.alone
      ⟨r.headers, r.totalDelay, r.rejection, (o.seen m s, r.istate),
        firstReceive m s :: r.events.map Event.behind⟩ := by
  have hloop := receiveLoop_lift (inboundContext (messageContext m s) m.toDispatch) m
    sp.interceptors (o.seen m s) 0 Headers.new 0 s.istate.2
  rw [received, Spawn.watched, receiveLoop]
  simp only [Onlooker.interceptor]
  rw [Onlooker.seen] at hloop
  rw [hloop]
  rfl

theorem wrappers_watched :
    wrappers (sp.watched o) m s =
      (none :: (wrappers sp m.behind s.alone).1, o.seen m s, (wrappers sp m.behind s.alone).2) := by
  rw [wrappers, received_watched, Spawn.watched, collectHandlerWrappers]
  simp only [Onlooker.interceptor, collectHandlerWrappers_lift]
  rfl

theorem needsWrap_watched : needsWrap (sp.watched o) m s = needsWrap sp m.behind s.alone := by
  rw [needsWrap, wrappers_watched]
  rfl

theorem handlerContext_watched :
    handlerContext (sp.watched o) m s = handlerContext sp m.behind s.alone := by
  rw [handlerContext, received_watched]
  rfl

/-- A wrapper that is not there does nothing. -/
theorem applyHandlerWrappers_none (ws : List (Option HandlerWrapper)) (inner : Fut) :
    applyHandlerWrappers (none :: ws) inner = applyHandlerWrappers ws inner := by
  simp only [applyHandlerWrappers, List.reverse_cons, List.foldl_append, List.foldl_cons,
    List.foldl_nil]

theorem dispatched_watched : dispatched (sp.watched o) m s = dispatched sp m.behind s.alone := by
  rw [dispatched, dispatched, needsWrap_watched, handlerContext_watched, wrappers_watched]
  simp only [dispatchWrapped, applyHandlerWrappers_none]
  rfl

theorem clearedContext_watched :
    clearedContext (sp.watched o) m s = clearedContext sp m.behind s.alone := by
  rw [clearedContext, dispatched_watched]
  rfl

/-- Its own call when the handler is done. -/
def firstComplete (outcome : Outcome R) : Event R :=
  .onComplete 0 (inboundContext (clearedContext sp m.behind s.alone) m.toDispatch)
    m.runtimeHeaders (clearedContext sp m.behind s.alone).headers outcome

theorem completed_watched (outcome : Outcome R) :
    completed (sp.watched o) m s outcome =
      let r := completed sp m.behind s.alone outcome
      ((o.onComplete m.runtimeHeaders outcome (m.doneAt 0) (o.seen m s), r.1),
        firstComplete sp m s outcome :: r.2.map Event.behind) := by
  rw [completed, clearedContext_watched, wrappers_watched, Spawn.watched, completeLoop]
  simp only [Onlooker.interceptor, completeLoop_lift]
  rfl

/-- What a message comes to with the first interceptor and without: the actor,
the others and the flow are the same, the events of the others are one position
on, and the first interceptor is called when the message is taken and, if its
handler is heard of at all, when that is done. -/
structure Watched (r : Core (H × σ) A × List (Event R) × Flow)
    (r' : Core σ A × List (Event R) × Flow) (outcome : Option (Outcome R)) : Prop where
  core : r.1.alone = r'.1
  flow : r.2.2 = r'.2.2
  others : others r.2.1 = r'.2.1.map Event.behind
  firsts : firsts r.2.1 = firstReceive m s :: (outcome.map (firstComplete sp m s)).toList
  kept : r.1.istate.1 = outcome.elim (o.seen m s) fun outcome =>
    o.onComplete m.runtimeHeaders outcome (m.doneAt 0) (o.seen m s)

theorem others_firstReceive (events : List (Event R)) :
    Dactor.others (firstReceive m s :: events) = Dactor.others events := rfl

theorem firsts_firstReceive (events : List (Event R)) :
    Dactor.firsts (firstReceive m s :: events) = firstReceive m s :: Dactor.firsts events := rfl

theorem others_intakeEvents : Dactor.others (intakeEvents (sp.watched o) m s)
    = (intakeEvents sp m.behind s.alone).map Event.behind := by
  have hplain : Plain (sleepEvents (received sp m.behind s.alone).totalDelay : List (Event R)) :=
    plain_sleepEvents _
  rw [intakeEvents, received_watched, others_append, others_firstReceive, others_behind,
    intakeEvents, List.map_append]
  exact congrArg _ (hplain.others_eq.trans hplain.symm)

theorem firsts_intakeEvents :
    Dactor.firsts (intakeEvents (sp.watched o) m s) = [firstReceive m s] := by
  rw [intakeEvents, received_watched, firsts_append, firsts_firstReceive, firsts_behind,
    (plain_sleepEvents _).firsts_eq]
  rfl

theorem plain_dispatched (sp : Spawn σ A M R) (m : Incoming A M R) (s : Core σ A) :
    Plain (dispatched sp m s).events := by
  rw [(dispatched_eq sp m s).1]
  exact plain_startedEvents _ _ _

theorem others_completed (outcome : Outcome R) :
    Dactor.others (completed (sp.watched o) m s outcome).2
      = (completed sp m.behind s.alone outcome).2.map Event.behind := by
  rw [completed_watched]
  exact others_behind _

theorem firsts_completed (outcome : Outcome R) :
    Dactor.firsts (completed (sp.watched o) m s outcome).2 = [firstComplete sp m s outcome] := by
  rw [completed_watched]
  exact congrArg _ (firsts_behind _)

theorem body_watched : ∃ outcome, Watched sp o m s (spawnInternalBody (sp.watched o) m s)
    (spawnInternalBody sp m.behind s.alone) outcome := by
  have hreceived := received_watched sp o m s
  rcases hr : (received sp m.behind s.alone).rejection with - | ⟨name, disposition⟩
  · have hr' : (received (sp.watched o) m s).rejection = none := by
      rw [hreceived]
      exact hr
    have hplain := plain_dispatched sp m.behind s.alone
    have hstate := wrappers_watched sp o m s
    have hdispatched := dispatched_watched sp o m s
    have hcleared := clearedContext_watched sp o m s
    rcases hc : alreadyCancelled m with - | -
    · rcases hd : (dispatched sp m.behind s.alone).result with - | (reply | -)
      · rw [body_of_cancelled hr' hc (hdispatched ▸ hd), body_of_cancelled hr hc hd, hdispatched,
          hcleared, hstate]
        refine ⟨none, rfl, rfl, ?_, ?_, rfl⟩
        · rw [others_append, others_intakeEvents, hplain.others_eq, List.map_append, hplain]
        · rw [firsts_append, firsts_intakeEvents, hplain.firsts_eq]
          rfl
      · have hreply := plain_sendReply m.toDispatch reply
        rw [body_of_returned hr' hc (hdispatched ▸ hd), body_of_returned hr hc hd, hdispatched,
          hcleared]
        refine ⟨some (m.successOutcome reply), ?_, rfl, ?_, ?_, ?_⟩
        · rw [completed_watched]
          rfl
        · rw [others_append, others_append, others_append, others_intakeEvents, hplain.others_eq,
            others_completed, hreply.others_eq, List.map_append, List.map_append, List.map_append,
            hplain]
          exact congrArg _ hreply.symm
        · rw [firsts_append, firsts_append, firsts_append, firsts_intakeEvents, hplain.firsts_eq,
            firsts_completed, hreply.firsts_eq]
          rfl
        · rw [completed_watched]
          rfl
      · rw [body_of_panicked hr' hc (hdispatched ▸ hd), body_of_panicked hr hc hd, hdispatched,
          hcleared]
        refine ⟨some (.handlerError handlerPanicked), ?_, rfl, ?_, ?_, ?_⟩
        · rw [completed_watched]
          rfl
        · rw [others_append, others_append, others_intakeEvents, hplain.others_eq,
            others_completed, List.map_append, List.map_append, hplain]
        · rw [firsts_append, firsts_append, firsts_intakeEvents, hplain.firsts_eq,
            firsts_completed]
          rfl
        · rw [completed_watched]
          rfl
    · have hcancel := plain_cancel m.toDispatch
      rw [body_of_alreadyCancelled hr' hc, body_of_alreadyCancelled hr hc,
        handlerContext_watched, hstate]
      refine ⟨none, rfl, rfl, ?_, ?_, rfl⟩
      · rw [others_append, others_intakeEvents, hcancel.others_eq, List.map_append]
        exact congrArg _ hcancel.symm
      · rw [firsts_append, firsts_intakeEvents, hcancel.firsts_eq]
        rfl
  · have hr' : (received (sp.watched o) m s).rejection = some (name, disposition) := by
      rw [hreceived]
      exact hr
    have hplain := plain_rejectEvents sp (messageContext m s) m.toDispatch name disposition
    rw [body_of_rejection hr', body_of_rejection hr, hreceived]
    refine ⟨none, rfl, rfl, ?_, ?_, rfl⟩
    · rw [List.map_append, others_append, others_firstReceive, others_behind]
      exact congrArg _ (hplain.others_eq.trans hplain.symm)
    · rw [firsts_append, firsts_firstReceive, firsts_behind]
      exact congrArg _ hplain.firsts_eq

end Stages

/-! ### Runs -/

/-- An actor with the interceptor in front and one without. -/
structure SameTask (t : Task (H × σ) A R) (t' : Task σ A R) : Prop where
  core : t.core.alone = t'.core
  running : t.running = t'.running
  log : t.log.map others = t'.log.map (List.map Event.behind)

theorem sameTask_step (sp : Spawn σ A M R) (o : Onlooker H R) (t : Task (H × σ) A R)
    (t' : Task σ A R) (mail : Option (Incoming A M R)) (h : SameTask t t') :
    SameTask (t.step (sp.watched o) mail) (t'.step sp (mail.map Incoming.behind)) := by
  rcases hrun : t.running with - | -
  · have hrun' := h.running.symm.trans hrun
    simp only [Task.step, hrun, hrun']
    exact h
  · have hrun' := h.running.symm.trans hrun
    cases mail with
    | none =>
        simp only [Task.step, hrun, hrun', Option.map_none]
        exact ⟨h.core, rfl, h.log⟩
    | some m =>
        obtain ⟨outcome, hbody⟩ := body_watched sp o m t.core
        rw [h.core] at hbody
        rw [Option.map_some, Task.step_some m hrun, Task.step_some m.behind hrun']
        refine ⟨hbody.core, by rw [hbody.flow], ?_⟩
        show (t.log ++ [_]).map others = (t'.log ++ [_]).map (List.map Event.behind)
        rw [List.map_append, List.map_append, h.log]
        exact congrArg _ (congrArg (· :: []) hbody.others)

end Dactor
