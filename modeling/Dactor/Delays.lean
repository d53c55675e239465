/-
Dactor/Delays.lean

What the four interceptor pipelines make of several delays.

The documentation has delays add up.  The inbound loop does that.  The
remote outbound pipeline takes the largest, the local one takes none, and
the interception of stream items stops at the first.  `delays_cumulative_iff`
says, for any interceptors none of which vetoes the message, when each of
the three applies the sum all the same.

Interceptors may keep state and change headers.  Their answers are those of
one pass over all of them, each called as the one before it left things;
a loop that stops early has asked only the first of them.
-/
import Dactor.Pipeline
import Dactor.ReduceDrain

namespace Dactor

variable {σ A M R : Type}

/-! ### Answers and their delays -/

def Disposition.delayOf : Disposition → Option Nat
  | .delay d => some d
  | .continued | .drop | .reject _ | .retry _ => none

/-- The delays among the answers, in order. -/
def delaysOf (answers : List Disposition) : List Nat := answers.filterMap Disposition.delayOf

/-- No interceptor vetoes the message. -/
def Unvetoed (answers : List Disposition) : Prop := ∀ d ∈ answers, d.vetoes = false

instance Unvetoed.decidable (answers : List Disposition) : Decidable (Unvetoed answers) :=
  inferInstanceAs (Decidable (∀ d ∈ answers, d.vetoes = false))

theorem Unvetoed.tail {d : Disposition} {answers : List Disposition}
    (h : Unvetoed (d :: answers)) : Unvetoed answers :=
  fun e he => h e (List.mem_cons_of_mem d he)

/-- An answer that does not veto goes on at once or after a delay. -/
theorem Unvetoed.head {d : Disposition} {answers : List Disposition}
    (h : Unvetoed (d :: answers)) : d = .continued ∨ ∃ t, d = .delay t := by
  have hd := h d List.mem_cons_self
  cases d with
  | continued => exact .inl rfl
  | delay t => exact .inr ⟨t, rfl⟩
  | drop => cases hd
  | reject reason => cases hd
  | retry after => cases hd

/-- Without a veto the first decision is the first delay, if there is one. -/
theorem Unvetoed.firstDecision {answers : List Disposition} (h : Unvetoed answers) :
    (Dactor.firstDecision answers = .continued ∧ delaysOf answers = []) ∨
      ∃ t rest, Dactor.firstDecision answers = .delay t ∧ delaysOf answers = t :: rest := by
  induction answers with
  | nil => exact .inl ⟨rfl, rfl⟩
  | cons d answers ih =>
      rcases h.head with rfl | ⟨t, rfl⟩
      · exact ih h.tail
      · exact .inr ⟨t, delaysOf answers, rfl, rfl⟩

/-- The largest of the delays. -/
def largest (delays : List Nat) : Nat := delays.foldr max 0

theorem largest_le_sum (delays : List Nat) : largest delays ≤ delays.sum := by
  induction delays with
  | nil => exact Nat.le_refl 0
  | cons d delays ih =>
      have hcons : largest (d :: delays) = max d (largest delays) := rfl
      rw [hcons, List.sum_cons]
      omega

/-- The largest delay is the sum exactly if at most one is non-zero. -/
theorem largest_eq_sum_iff (delays : List Nat) :
    largest delays = delays.sum ↔ (delays.filter (· ≠ 0)).length ≤ 1 := by
  induction delays with
  | nil => exact iff_of_true rfl (Nat.zero_le 1)
  | cons d delays ih =>
      have hcons : largest (d :: delays) = max d (largest delays) := rfl
      have hle := largest_le_sum delays
      rw [hcons, List.sum_cons]
      by_cases hd : d = 0
      · subst hd
        rw [Nat.zero_max, Nat.zero_add, ih, List.filter_cons_of_neg (by simp)]
      · -- the first is non-zero: all others have to be zero
        have hzero : delays.sum = 0 ↔ (delays.filter (· ≠ 0)).length = 0 := by
          rw [List.sum_eq_zero_iff_forall_eq_nat, List.length_eq_zero_iff, List.filter_eq_nil_iff]
          simp
        rw [List.filter_cons_of_pos (by simpa using hd), List.length_cons]
        omega

/-! ### The inbound loop -/

/-- The answers of the inbound interceptors, each asked in turn. -/
def receiveAnswers (ictx : InboundContext) (m : Incoming A M R) :
    List (InboundInterceptor σ M R) → Nat → Headers → σ → List Disposition
  | [], _, _, _ => []
  | i :: is, n, headers, s =>
    let r := i.onReceive ictx m.runtimeHeaders headers m.messageAny (m.recvAt n) s
    r.1 :: receiveAnswers ictx m is (n + 1) r.2.1 r.2.2

/-- The answers to a message that arrives at an actor. -/
def inboundAnswers (sp : Spawn σ A M R) (m : Incoming A M R) (s : Core σ A) : List Disposition :=
  receiveAnswers (inboundContext (messageContext m s) m.toDispatch) m sp.interceptors 0
    Headers.new s.istate

/-- The time an event takes the task to sleep. -/
def Event.sleep : Event R → Nat
  | .slept d => d
  | _ => 0

/-- The time slept through a list of events. -/
def sleepTime (events : List (Event R)) : Nat := (events.map Event.sleep).sum

theorem receiveLoop_delays (ictx : InboundContext) (m : Incoming A M R)
    (is : List (InboundInterceptor σ M R)) (n : Nat) (headers : Headers) (delay : Nat) (s : σ)
    (h : Unvetoed (receiveAnswers ictx m is n headers s)) :
    let r := receiveLoop ictx m is n headers delay s
    r.rejection = none ∧ sleepTime r.events = 0 ∧
      r.totalDelay = delay + (delaysOf (receiveAnswers ictx m is n headers s)).sum := by
  induction is generalizing n headers delay s with
  | nil => exact ⟨rfl, rfl, rfl⟩
  | cons i is ih =>
      rw [receiveAnswers] at h ⊢
      rcases h.head with hd | ⟨t, hd⟩
      · obtain ⟨hrej, hslept, htotal⟩ := ih (n + 1) _ delay _ h.tail
        simp only [receiveLoop, hd]
        exact ⟨hrej, by simpa [sleepTime, Event.sleep] using hslept, htotal⟩
      · obtain ⟨hrej, hslept, htotal⟩ := ih (n + 1) _ (delay + t) _ h.tail
        simp only [receiveLoop, hd]
        refine ⟨hrej, by simpa [sleepTime, Event.sleep] using hslept, ?_⟩
        rw [htotal, Nat.add_assoc]
        rfl

/-- The task sleeps for the sum of the delays before it dispatches. -/
theorem sleepTime_intakeEvents (sp : Spawn σ A M R) (m : Incoming A M R) (s : Core σ A)
    (h : Unvetoed (inboundAnswers sp m s)) :
    (received sp m s).rejection = none ∧
      sleepTime (intakeEvents sp m s) = (delaysOf (inboundAnswers sp m s)).sum := by
  obtain ⟨hrej, hslept, htotal⟩ := receiveLoop_delays
    (inboundContext (messageContext m s) m.toDispatch) m sp.interceptors 0 Headers.new 0 s.istate h
  refine ⟨hrej, ?_⟩
  have hsleep : sleepTime (sleepEvents (R := R) (received sp m s).totalDelay)
      = (received sp m s).totalDelay := by
    by_cases hzero : (received sp m s).totalDelay = 0
    · simp [sleepEvents, hzero, sleepTime]
    · simp [sleepEvents, hzero, sleepTime, Event.sleep]
  have hsum : sleepTime (intakeEvents sp m s) = sleepTime (received sp m s).events
      + sleepTime (sleepEvents (R := R) (received sp m s).totalDelay) := by
    simp [sleepTime, intakeEvents]
  rw [hsum, hsleep]
  calc sleepTime (received sp m s).events + (received sp m s).totalDelay
      = 0 + (0 + (delaysOf (inboundAnswers sp m s)).sum) := congrArg₂ (· + ·) hslept htotal
    _ = (delaysOf (inboundAnswers sp m s)).sum := by rw [Nat.zero_add, Nat.zero_add]

/-- The loop with its `total_delay += d` as it is: `none` when the sum exceeds
`Duration::MAX`, and the task panics. -/
def receiveLoopChecked (ictx : InboundContext) (m : Incoming A M R) :
    List (InboundInterceptor σ M R) → Nat → Headers → Nat → σ → Option (Received σ R)
  | [], _, headers, delay, s => some ⟨headers, delay, none, s, []⟩
  | i :: is, n, headers, delay, s =>
    let r := i.onReceive ictx m.runtimeHeaders headers m.messageAny (m.recvAt n) s
    let call := Event.onReceive n ictx m.runtimeHeaders headers r.1
    match r.1 with
    | .continued =>
      (receiveLoopChecked ictx m is (n + 1) r.2.1 delay r.2.2).map fun rest =>
        { rest with events := call :: rest.events }
    | .delay d =>
      match addDuration delay d with
      | none => none
      | some delay =>
        (receiveLoopChecked ictx m is (n + 1) r.2.1 delay r.2.2).map fun rest =>
          { rest with events := call :: rest.events }
    | .drop | .reject _ | .retry _ => some ⟨r.2.1, delay, some (i.name, r.1), r.2.2, [call]⟩

/-- Without a veto the loop is the one with unbounded sums as long as the whole sum is a
`Duration`, and panics if it is not. -/
theorem receiveLoopChecked_eq (ictx : InboundContext) (m : Incoming A M R)
    (is : List (InboundInterceptor σ M R)) (n : Nat) (headers : Headers) (delay : Nat) (s : σ)
    (hdelay : delay ≤ durationMax) (h : Unvetoed (receiveAnswers ictx m is n headers s)) :
    receiveLoopChecked ictx m is n headers delay s =
      if delay + (delaysOf (receiveAnswers ictx m is n headers s)).sum ≤ durationMax then
        some (receiveLoop ictx m is n headers delay s)
      else none := by
  induction is generalizing n headers delay s with
  | nil =>
      rw [receiveAnswers, delaysOf, List.filterMap_nil, List.sum_nil, Nat.add_zero, if_pos hdelay]
      rfl
  | cons i is ih =>
      rw [receiveAnswers] at h ⊢
      rcases h.head with hd | ⟨t, hd⟩
      · have hrest := ih (n + 1) _ delay _ hdelay h.tail
        simp only [receiveLoopChecked, receiveLoop, hd, hrest]
        rw [show delaysOf (.continued :: receiveAnswers ictx m is (n + 1) _ _) =
          delaysOf (receiveAnswers ictx m is (n + 1) _ _) from rfl]
        split <;> rfl
      · simp only [receiveLoopChecked, receiveLoop, hd]
        rw [show delaysOf (.delay t :: receiveAnswers ictx m is (n + 1) _ _) =
          t :: delaysOf (receiveAnswers ictx m is (n + 1) _ _) from rfl, List.sum_cons,
          ← Nat.add_assoc]
        by_cases hfits : delay + t ≤ durationMax
        · have hrest := ih (n + 1) _ (delay + t) _ hfits h.tail
          simp only [addDuration, if_pos hfits, hrest]
          split <;> rfl
        · -- the sum so far is too large, and so is the whole sum
          simp only [addDuration, if_neg hfits]
          rw [if_neg (fun hle => hfits (Nat.le_trans (Nat.le_add_right _ _) hle))]

/-- The time that the task sleeps for a message that passes, or `none` when it panics. -/
def intakeSleep (sp : Spawn σ A M R) (m : Incoming A M R) (s : Core σ A) : Option Nat :=
  (receiveLoopChecked (inboundContext (messageContext m s) m.toDispatch) m sp.interceptors 0
    Headers.new 0 s.istate).map fun r => sleepTime (r.events ++ sleepEvents r.totalDelay)

/-- The task sleeps for the sum of the delays exactly if this is a `Duration`. -/
theorem intakeSleep_iff (sp : Spawn σ A M R) (m : Incoming A M R) (s : Core σ A)
    (h : Unvetoed (inboundAnswers sp m s)) :
    intakeSleep sp m s = some (delaysOf (inboundAnswers sp m s)).sum ↔
      (delaysOf (inboundAnswers sp m s)).sum ≤ durationMax := by
  have heq := receiveLoopChecked_eq (inboundContext (messageContext m s) m.toDispatch) m
    sp.interceptors 0 Headers.new 0 s.istate (Nat.zero_le _) h
  rw [Nat.zero_add] at heq
  rw [intakeSleep, heq]
  change (if (delaysOf (inboundAnswers sp m s)).sum ≤ durationMax then _ else none).map _ = _ ↔ _
  by_cases hfits : (delaysOf (inboundAnswers sp m s)).sum ≤ durationMax
  · rw [if_pos hfits]
    exact iff_of_true (congrArg some (sleepTime_intakeEvents sp m s h).2) hfits
  · rw [if_neg hfits]
    exact iff_of_false (by simp) hfits

/-! ### The outbound pipelines -/

/-- The answers to a message sent through a local reference. -/
def OutboundPipeline.answers (p : OutboundPipeline σ M) (sendMode : SendMode)
    (messageType : String) (msg : M) (rh : RuntimeHeaders) (s : σ) : List Disposition :=
  sendAnswers ⟨p.targetId, p.targetName, messageType, sendMode, false⟩ rh msg p.interceptors
    Headers.new s

/-- The answers to a message sent through a remote reference. -/
def RemoteActorRef.answers (r : RemoteActorRef σ M) (sendMode : SendMode) (messageType : String)
    (msg : M) (rh : RuntimeHeaders) (s : σ) : List Disposition :=
  sendAnswers ⟨r.id, r.name, messageType, sendMode, true⟩ rh msg r.outboundInterceptors
    Headers.new s

/-- The delay before the delivery of a message that passes. -/
def Gate.delay {ρ : Type} : Gate ρ → Option Nat
  | .returned _ => none
  | .passed delay => some (delay.getD 0)

theorem OutboundPipeline.runOnSend_firstDecision (p : OutboundPipeline σ M) (mode : SendMode)
    (messageType : String) (msg : M) (rh : RuntimeHeaders) (s : σ) :
    (p.runOnSend mode messageType msg rh s).1.disposition
      = firstDecision (p.answers mode messageType msg rh s) :=
  sendLoop_firstDecision ..

/-- A local message is delivered at once, whatever the delays. -/
theorem OutboundPipeline.tellGate_delay {p : OutboundPipeline σ M} {messageType : String} {msg : M}
    {rh : RuntimeHeaders} {s : σ} (h : Unvetoed (p.answers .tell messageType msg rh s)) :
    (p.tellGate messageType msg rh s).delay = some 0 := by
  have hrun := p.runOnSend_firstDecision .tell messageType msg rh s
  rcases h.firstDecision with ⟨hd, -⟩ | ⟨t, rest, hd, -⟩
  · simp only [OutboundPipeline.tellGate, hrun, hd, Gate.delay, Option.getD_none]
  · simp only [OutboundPipeline.tellGate, hrun, hd, Gate.delay, Option.getD_none]

theorem OutboundPipeline.askGate_delay {p : OutboundPipeline σ M} {messageType : String} {msg : M}
    {rh : RuntimeHeaders} {s : σ} (h : Unvetoed (p.answers .ask messageType msg rh s)) :
    (p.askGate messageType msg rh s).delay = some 0 := by
  have hrun := p.runOnSend_firstDecision .ask messageType msg rh s
  rcases h.firstDecision with ⟨hd, -⟩ | ⟨t, rest, hd, -⟩
  · simp only [OutboundPipeline.askGate, hrun, hd, Gate.delay, Option.getD_none]
  · simp only [OutboundPipeline.askGate, hrun, hd, Gate.delay, Option.getD_none]

/-- The result of a remote pipeline that lets the message through. -/
def PipelineResult.ofDelay : Option Nat → PipelineResult
  | some d => .delay d
  | none => .continued

/-- The remote loop keeps the largest delay. -/
theorem pipelineLoop_delay (ctx : OutboundContext) (rh : RuntimeHeaders) (msg : M)
    (is : List (OutboundInterceptor σ M)) (delay : Option Nat) (headers : Headers) (s : σ)
    (h : Unvetoed (sendAnswers ctx rh msg is headers s)) :
    ∃ applied, (pipelineLoop ctx rh msg is delay headers s).1 = .ok (.ofDelay applied) ∧
      applied.getD 0
        = max (delay.getD 0) (largest (delaysOf (sendAnswers ctx rh msg is headers s))) := by
  induction is generalizing delay headers s with
  | nil =>
      refine ⟨delay, ?_, (Nat.max_zero _).symm⟩
      cases delay <;> rfl
  | cons i is ih =>
      rw [sendAnswers] at h ⊢
      rcases h.head with hd | ⟨t, hd⟩
      · obtain ⟨applied, hloop, hmax⟩ := ih delay _ _ h.tail
        refine ⟨applied, ?_, ?_⟩
        · simp only [pipelineLoop, hd]
          exact hloop
        · simp only [hd]
          exact hmax
      · -- one more delay is combined with the largest so far, if there is one
        have hstep : ∃ longest, longest = max (delay.getD 0) t ∧
            (pipelineLoop ctx rh msg (i :: is) delay headers s).1
              = (pipelineLoop ctx rh msg is (some longest) (i.onSend ctx rh headers msg s).2.1
                  (i.onSend ctx rh headers msg s).2.2).1 := by
          cases delay with
          | none => exact ⟨t, (Nat.zero_max t).symm, by simp only [pipelineLoop, hd]⟩
          | some existing =>
              refine ⟨if existing > t then existing else t, ?_, by simp only [pipelineLoop, hd]⟩
              show (if existing > t then existing else t) = max existing t
              split <;> omega
        obtain ⟨longest, hlongest, hstep⟩ := hstep
        obtain ⟨applied, hloop, hmax⟩ := ih (some longest) _ _ h.tail
        refine ⟨applied, hstep.trans hloop, ?_⟩
        simp only [hd]
        rw [hmax, Option.getD_some, hlongest, Nat.max_assoc]
        rfl

theorem RemoteActorRef.runOutboundPipeline_delay {r : RemoteActorRef σ M} {mode : SendMode}
    {messageType : String} {msg : M} {rh : RuntimeHeaders} {s : σ}
    (h : Unvetoed (r.answers mode messageType msg rh s)) :
    ∃ applied, (r.runOutboundPipeline messageType mode Headers.new msg rh s).1
        = .ok (.ofDelay applied) ∧
      applied.getD 0 = largest (delaysOf (r.answers mode messageType msg rh s)) := by
  rcases his : r.outboundInterceptors with - | ⟨i, is⟩
  · -- without interceptors the loop is skipped
    refine ⟨none, ?_, ?_⟩
    · simp [RemoteActorRef.runOutboundPipeline, his, PipelineResult.ofDelay]
    · simp [RemoteActorRef.answers, his, sendAnswers, delaysOf, largest]
  · obtain ⟨applied, hloop, hmax⟩ := pipelineLoop_delay _ rh msg _ none Headers.new s h
    refine ⟨applied, ?_, hmax.trans (Nat.zero_max _)⟩
    rw [RemoteActorRef.runOutboundPipeline, if_neg (by simp [his])]
    exact hloop

/-- A remote message is delivered after the largest delay. -/
theorem RemoteActorRef.tellGate_delay {r : RemoteActorRef σ M} {messageType : String} {msg : M}
    {rh : RuntimeHeaders} {s : σ} (h : Unvetoed (r.answers .tell messageType msg rh s)) :
    (r.tellGate messageType msg rh s).delay
      = some (largest (delaysOf (r.answers .tell messageType msg rh s))) := by
  obtain ⟨applied, hrun, hmax⟩ := RemoteActorRef.runOutboundPipeline_delay h
  rw [RemoteActorRef.tellGate, hrun, ← hmax]
  cases applied <;> rfl

theorem RemoteActorRef.askGate_delay {r : RemoteActorRef σ M} {messageType : String} {msg : M}
    {rh : RuntimeHeaders} {s : σ} (h : Unvetoed (r.answers .ask messageType msg rh s)) :
    (r.askGate messageType msg rh s).delay
      = some (largest (delaysOf (r.answers .ask messageType msg rh s))) := by
  obtain ⟨applied, hrun, hmax⟩ := RemoteActorRef.runOutboundPipeline_delay h
  rw [RemoteActorRef.askGate, hrun, ← hmax]
  cases applied <;> rfl

/-! ### Stream items -/

/-- What the task of a wrapped stream does, in order. -/
inductive StreamEvent (M : Type)
  | slept (delay : Nat)
  | sent (item : M)
  | dropped (notice : DropNotice)
  deriving DecidableEq

/-- `wrap_stream_with_interception`: the task over the items of the inner
stream, from the item number `seq` on.  The consumer takes `accepts` items
before it goes away; a send after that ends the task. -/
def OutboundPipeline.wrapStreamWithInterception (p : OutboundPipeline σ M) (messageType : String)
    (sendMode : SendMode) : List M → UInt64 → Nat → σ → List (StreamEvent M)
  | [], _, _, _ => []
  | item :: items, seq, accepts, s =>
    let octx := ⟨p.targetId, p.targetName, messageType, sendMode, false⟩
    let r := interceptOutboundStreamItem octx Headers.new seq item p.interceptors s
    match r.1.disposition with
    | .continued =>
      match accepts with
      | 0 => [] -- the consumer is gone
      | accepts + 1 =>
        .sent item ::
          p.wrapStreamWithInterception messageType sendMode items (seq + 1) accepts r.2
    | .drop | .retry _ =>
      (p.notifyItemDrop messageType .expand "stream reply" r.1.interceptorName seq).map .dropped ++
        p.wrapStreamWithInterception messageType sendMode items (seq + 1) accepts r.2
    | .delay d =>
      -- the task sleeps before it learns whether the consumer is still there
      .slept d ::
        match accepts with
        | 0 => []
        | accepts + 1 =>
          .sent item ::
            p.wrapStreamWithInterception messageType sendMode items (seq + 1) accepts r.2
    | .reject _ => []

/-- The time the task sleeps before it sends the next item. -/
def delayBefore : List (StreamEvent M) → Nat
  | .slept d :: events => d + delayBefore events
  | .dropped _ :: events => delayBefore events
  | .sent _ :: _ => 0
  | [] => 0

/-- The answers to an item of a wrapped stream. -/
def OutboundPipeline.itemAnswers (p : OutboundPipeline σ M) (messageType : String)
    (sendMode : SendMode) (seq : UInt64) (item : M) (s : σ) : List Disposition :=
  Dactor.itemAnswers ⟨p.targetId, p.targetName, messageType, sendMode, false⟩ Headers.new seq
    item p.interceptors s

/-- An item that the consumer takes is sent after the first of its delays. -/
theorem OutboundPipeline.wrapStream_item {p : OutboundPipeline σ M} {messageType : String}
    {sendMode : SendMode} {seq : UInt64} {item : M} {s : σ}
    (h : Unvetoed (p.itemAnswers messageType sendMode seq item s)) (items : List M)
    (accepts : Nat) :
    ∃ rest, p.wrapStreamWithInterception messageType sendMode (item :: items) seq (accepts + 1) s
        = ((delaysOf (p.itemAnswers messageType sendMode seq item s)).take 1).map .slept
          ++ .sent item :: rest := by
  have hitem := interceptItem_firstDecision
    ⟨p.targetId, p.targetName, messageType, sendMode, false⟩ Headers.new seq item p.interceptors s
  rcases h.firstDecision with ⟨hd, hdelays⟩ | ⟨t, rest, hd, hdelays⟩
  · replace hitem := hitem.trans hd
    simp only [OutboundPipeline.wrapStreamWithInterception, hitem, hdelays]
    exact ⟨_, rfl⟩
  · replace hitem := hitem.trans hd
    simp only [OutboundPipeline.wrapStreamWithInterception, hitem, hdelays]
    exact ⟨_, rfl⟩

theorem delayBefore_append (delays : List Nat) (item : M) (rest : List (StreamEvent M)) :
    delayBefore (delays.map .slept ++ .sent item :: rest) = delays.sum := by
  induction delays with
  | nil => rfl
  | cons d delays ih =>
      rw [List.map_cons, List.cons_append, delayBefore, ih, List.sum_cons]

/-- The first delay is the sum exactly if all others are zero. -/
theorem take_one_sum_iff (delays : List Nat) :
    (delays.take 1).sum = delays.sum ↔ ∀ d ∈ delays.tail, d = 0 := by
  cases delays with
  | nil => simp
  | cons d delays =>
      rw [← List.sum_eq_zero_iff_forall_eq_nat, List.tail_cons]
      simp

theorem zero_eq_sum_iff (delays : List Nat) :
    some 0 = some delays.sum ↔ ∀ d ∈ delays, d = 0 := by
  rw [Option.some.injEq, eq_comm, List.sum_eq_zero_iff_forall_eq_nat]

theorem some_largest_eq_iff (delays : List Nat) :
    some (largest delays) = some delays.sum ↔ (delays.filter (· ≠ 0)).length ≤ 1 := by
  rw [Option.some.injEq, largest_eq_sum_iff]

/-! ### All four -/

/-- **When delays are cumulative**, for a message or a stream item that no
interceptor vetoes: on arrival exactly if their sum is a `Duration`; on a
remote tell or ask exactly if at most one delay is non-zero; on a local one
exactly if all are zero; for a stream item that the consumer takes exactly if
all but the first are zero. -/
theorem delays_cumulative_iff :
    (∀ (sp : Spawn σ A M R) (m : Incoming A M R) (s : Core σ A),
      Unvetoed (inboundAnswers sp m s) →
        (received sp m s).rejection = none ∧
        sleepTime (intakeEvents sp m s) = (delaysOf (inboundAnswers sp m s)).sum ∧
        (intakeSleep sp m s = some (delaysOf (inboundAnswers sp m s)).sum ↔
          (delaysOf (inboundAnswers sp m s)).sum ≤ durationMax)) ∧
    (∀ (r : RemoteActorRef σ M) (messageType : String) (msg : M) (rh : RuntimeHeaders) (s : σ),
      (Unvetoed (r.answers .tell messageType msg rh s) →
        ((r.tellGate messageType msg rh s).delay
            = some (delaysOf (r.answers .tell messageType msg rh s)).sum ↔
          ((delaysOf (r.answers .tell messageType msg rh s)).filter (· ≠ 0)).length ≤ 1)) ∧
      (Unvetoed (r.answers .ask messageType msg rh s) →
        ((r.askGate messageType msg rh s).delay
            = some (delaysOf (r.answers .ask messageType msg rh s)).sum ↔
          ((delaysOf (r.answers .ask messageType msg rh s)).filter (· ≠ 0)).length ≤ 1))) ∧
    (∀ (p : OutboundPipeline σ M) (messageType : String) (msg : M) (rh : RuntimeHeaders) (s : σ),
      (Unvetoed (p.answers .tell messageType msg rh s) →
        ((p.tellGate messageType msg rh s).delay
            = some (delaysOf (p.answers .tell messageType msg rh s)).sum ↔
          ∀ d ∈ delaysOf (p.answers .tell messageType msg rh s), d = 0)) ∧
      (Unvetoed (p.answers .ask messageType msg rh s) →
        ((p.askGate messageType msg rh s).delay
            = some (delaysOf (p.answers .ask messageType msg rh s)).sum ↔
          ∀ d ∈ delaysOf (p.answers .ask messageType msg rh s), d = 0))) ∧
    (∀ (p : OutboundPipeline σ M) (messageType : String) (sendMode : SendMode) (item : M)
        (items : List M) (seq : UInt64) (accepts : Nat) (s : σ),
      Unvetoed (p.itemAnswers messageType sendMode seq item s) →
        (delayBefore (p.wrapStreamWithInterception messageType sendMode (item :: items) seq
            (accepts + 1) s)
            = (delaysOf (p.itemAnswers messageType sendMode seq item s)).sum ↔
          ∀ d ∈ (delaysOf (p.itemAnswers messageType sendMode seq item s)).tail, d = 0)) := by
  refine ⟨fun sp m s h => ?_, ?_, ?_, ?_⟩
  · obtain ⟨hrejection, hslept⟩ := sleepTime_intakeEvents sp m s h
    exact ⟨hrejection, hslept, intakeSleep_iff sp m s h⟩
  · intro r messageType msg rh s
    refine ⟨fun h => ?_, fun h => ?_⟩
    · rw [RemoteActorRef.tellGate_delay h]
      exact some_largest_eq_iff _
    · rw [RemoteActorRef.askGate_delay h]
      exact some_largest_eq_iff _
  · intro p messageType msg rh s
    refine ⟨fun h => ?_, fun h => ?_⟩
    · rw [OutboundPipeline.tellGate_delay h]
      exact zero_eq_sum_iff _
    · rw [OutboundPipeline.askGate_delay h]
      exact zero_eq_sum_iff _
  · intro p messageType sendMode item items seq accepts s h
    obtain ⟨rest, hevents⟩ := OutboundPipeline.wrapStream_item h items accepts
    rw [hevents, delayBefore_append]
    exact take_one_sum_iff _

/-- A reference with one interceptor that delays by a millisecond and one
that delays by `d` nanoseconds. -/
def twiceDelayed (d : Nat) : BothRefs Unit Unit where
  interceptors := [constantInterceptor Unit "slow" (.delay 1000000),
    constantInterceptor Unit "slower" (.delay d)]
  dropObserver := false
  targetId := ⟨⟨"node-1"⟩, 1⟩
  targetName := "worker"
  tellSerializers _ := none

theorem delays_cumulative_second_zero :
    ((twiceDelayed 0).remoteRef.tellGate "Ping" () ⟨0, 0⟩ ()).delay = some 1000000 :=
  ((delays_cumulative_iff (A := Unit) (R := Unit)).2.1 (twiceDelayed 0).remoteRef "Ping" ()
    ⟨0, 0⟩ ()).1 (by decide) |>.mpr (by decide)

/-- With a second delay of two milliseconds no outbound path waits for the
sum of three. -/
theorem delays_not_cumulative :
    let refs := twiceDelayed 2000000
    ¬ (Unvetoed (refs.remoteRef.answers .tell "Ping" () ⟨0, 0⟩ ()) →
        (refs.remoteRef.tellGate "Ping" () ⟨0, 0⟩ ()).delay
          = some (delaysOf (refs.remoteRef.answers .tell "Ping" () ⟨0, 0⟩ ())).sum) ∧
      ¬ (Unvetoed (refs.localPipeline.answers .tell "Ping" () ⟨0, 0⟩ ()) →
        (refs.localPipeline.tellGate "Ping" () ⟨0, 0⟩ ()).delay
          = some (delaysOf (refs.localPipeline.answers .tell "Ping" () ⟨0, 0⟩ ())).sum) ∧
      ¬ (Unvetoed (refs.localPipeline.itemAnswers "Ping" .expand 0 () ()) →
        delayBefore (refs.localPipeline.wrapStreamWithInterception "Ping" .expand [()] 0 1 ())
          = (delaysOf (refs.localPipeline.itemAnswers "Ping" .expand 0 () ())).sum) := by
  decide

end Dactor
