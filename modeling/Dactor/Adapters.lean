/-
Dactor/Adapters.lean

The wrapper actors of the ractor, kameo and coerce adapters, and their
agreement with the message loop of the test runtime.

The frameworks themselves are not modelled beyond what the adapters rely
on: they hand over mailbox messages one at a time, and a stop takes effect
before the next of them — one asked for from outside (`none` in the mailbox,
as for the test runtime), one requested by the wrapper through its context
(ractor, coerce), or the one kameo makes of a handler that unwinds.

`Simulates` relates a wrapper to the loop of the test runtime; each wrapper
keeps it message by message, and `runtimes_agree` follows for whole runs.
-/
import Dactor.MessageLoop

namespace Dactor

open Runs

variable {σ A M R : Type}

/-! ### Ractor -/

/-- A ractor actor: its state, whether `myself.stop(None)` or a stop from
outside is in effect, and the segments so far. -/
structure RactorCell (σ A R : Type) where
  state : Core σ A
  stopped : Bool
  log : List (List (Event R))

/-- `RactorDactorActor::handle`; the last component tells whether it called
`myself.stop(None)`. -/
def ractorHandle (sp : Spawn σ A M R) (m : Incoming A M R) (state : Core σ A) :
    Core σ A × List (Event R) × Bool :=
  match (received sp m state).rejection with
  | some (interceptorName, disposition) =>
    ({ state with ctx := messageContext m state, istate := (received sp m state).istate },
      (received sp m state).events ++
        sp.rejectEvents (messageContext m state) m.toDispatch interceptorName disposition,
      false)
  | none =>
    if alreadyCancelled m then
      ({ state with ctx := { handlerContext sp m state with cancellationToken := none },
                    istate := (wrappers sp m state).2 },
        intakeEvents sp m state ++ m.cancel, false)
    else
      let run := dispatched sp m state
      match run.result with
      | .cancelled =>
        ({ state with actor := run.actor, ctx := clearedContext sp m state,
                      istate := (wrappers sp m state).2 },
          intakeEvents sp m state ++ run.events, false)
      | .finished (.returned reply) =>
        let done := completed sp m state (m.successOutcome reply)
        ({ state with actor := run.actor, ctx := clearedContext sp m state, istate := done.1 },
          intakeEvents sp m state ++ run.events ++ done.2 ++ m.sendReply reply, false)
      | .finished .panicked =>
        let (action, actor) := sp.hooks.onError run.actor handlerPanicked
        let done := completed sp m state (.handlerError handlerPanicked)
        let state' := { state with actor, ctx := clearedContext sp m state, istate := done.1 }
        let events := intakeEvents sp m state ++ run.events ++ done.2
        match action with
        | .resume => (state', events, false)
        | .stop | .escalate =>
          ({ state' with stopReason := some "handler panicked" }, events, true)
        | .restart => (state', events, false)

def RactorCell.step (sp : Spawn σ A M R) (c : RactorCell σ A R)
    (mail : Option (Incoming A M R)) : RactorCell σ A R :=
  if c.stopped then c
  else
    match mail with
    | none => { c with stopped := true }
    | some m =>
      let r := ractorHandle sp m c.state
      ⟨r.1, r.2.2, c.log ++ [r.2.1]⟩

def RactorCell.start (core : Core σ A) : RactorCell σ A R := ⟨core, false, []⟩

/-! ### Kameo -/

/-- How `handle` ends: by returning, or by `resume_unwind`. -/
inductive KameoEnd
  | returned | unwound
  deriving DecidableEq, Repr

structure KameoCell (σ A R : Type) where
  state : Core σ A
  alive : Bool
  log : List (List (Event R))

/-- `KameoDactorActor`'s `Message::handle`.  A stop after a panic is asked
for by unwinding again, which kameo answers by stopping the actor. -/
def kameoHandle (sp : Spawn σ A M R) (m : Incoming A M R) (self : Core σ A) :
    Core σ A × List (Event R) × KameoEnd :=
  match (received sp m self).rejection with
  | some (interceptorName, disposition) =>
    ({ self with ctx := messageContext m self, istate := (received sp m self).istate },
      (received sp m self).events ++
        sp.rejectEvents (messageContext m self) m.toDispatch interceptorName disposition,
      .returned)
  | none =>
    if alreadyCancelled m then
      ({ self with ctx := { handlerContext sp m self with cancellationToken := none },
                   istate := (wrappers sp m self).2 },
        intakeEvents sp m self ++ m.cancel, .returned)
    else
      let run := dispatched sp m self
      match run.result with
      | .cancelled =>
        ({ self with actor := run.actor, ctx := clearedContext sp m self,
                     istate := (wrappers sp m self).2 },
          intakeEvents sp m self ++ run.events, .returned)
      | .finished (.returned reply) =>
        let done := completed sp m self (m.successOutcome reply)
        ({ self with actor := run.actor, ctx := clearedContext sp m self, istate := done.1 },
          intakeEvents sp m self ++ run.events ++ done.2 ++ m.sendReply reply, .returned)
      | .finished .panicked =>
        let (action, actor) := sp.hooks.onError run.actor handlerPanicked
        let done := completed sp m self (.handlerError handlerPanicked)
        let self' := { self with actor, ctx := clearedContext sp m self, istate := done.1 }
        let events := intakeEvents sp m self ++ run.events ++ done.2
        match action with
        | .resume => (self', events, .returned)
        | .stop | .escalate =>
          ({ self' with stopReason := some "handler panicked" }, events, .unwound)
        | .restart => (self', events, .returned)

def KameoCell.step (sp : Spawn σ A M R) (c : KameoCell σ A R)
    (mail : Option (Incoming A M R)) : KameoCell σ A R :=
  match c.alive, mail with
  | false, _ => c
  | true, none => { c with alive := false }
  | true, some m =>
    match kameoHandle sp m c.state with
    | (state, events, .returned) => ⟨state, true, c.log ++ [events]⟩
    | (state, events, .unwound) => ⟨state, false, c.log ++ [events]⟩

def KameoCell.start (core : Core σ A) : KameoCell σ A R := ⟨core, true, []⟩

/-! ### Coerce -/

/-- `DactorMsg`: a slot the handler takes the dispatch out of. -/
structure CoerceMsg (A M R : Type) where
  slot : Option (Incoming A M R)

def CoerceMsg.new (m : Incoming A M R) : CoerceMsg A M R := ⟨some m⟩

structure CoerceCell (σ A R : Type) where
  state : Core σ A
  stopped : Bool
  log : List (List (Event R))

/-- `CoerceDactorActor`'s `Handler::handle`; the last component tells
whether it called `coerce_ctx.stop(None)`. -/
def coerceHandle (sp : Spawn σ A M R) (msg : CoerceMsg A M R) (self : Core σ A) :
    Core σ A × List (Event R) × Bool :=
  match msg.slot with
  | none => (self, [], false)
  | some m =>
    match (received sp m self).rejection with
    | some (interceptorName, disposition) =>
      ({ self with ctx := messageContext m self, istate := (received sp m self).istate },
        (received sp m self).events ++
          sp.rejectEvents (messageContext m self) m.toDispatch interceptorName disposition,
        false)
    | none =>
      if alreadyCancelled m then
        ({ self with ctx := { handlerContext sp m self with cancellationToken := none },
                     istate := (wrappers sp m self).2 },
          intakeEvents sp m self ++ m.cancel, false)
      else
        let run := dispatched sp m self
        match run.result with
        | .cancelled =>
          ({ self with actor := run.actor, ctx := clearedContext sp m self,
                       istate := (wrappers sp m self).2 },
            intakeEvents sp m self ++ run.events, false)
        | .finished (.returned reply) =>
          let done := completed sp m self (m.successOutcome reply)
          ({ self with actor := run.actor, ctx := clearedContext sp m self, istate := done.1 },
            intakeEvents sp m self ++ run.events ++ done.2 ++ m.sendReply reply, false)
        | .finished .panicked =>
          let (action, actor) := sp.hooks.onError run.actor handlerPanicked
          let done := completed sp m self (.handlerError handlerPanicked)
          let self' := { self with actor, ctx := clearedContext sp m self, istate := done.1 }
          let events := intakeEvents sp m self ++ run.events ++ done.2
          match action with
          | .resume => (self', events, false)
          | .stop | .escalate =>
            ({ self' with stopReason := some "handler panicked" }, events, true)
          | .restart => (self', events, false)

def CoerceCell.step (sp : Spawn σ A M R) (c : CoerceCell σ A R)
    (mail : Option (Incoming A M R)) : CoerceCell σ A R :=
  if c.stopped then c
  else
    match mail with
    | none => { c with stopped := true }
    | some m =>
      let r := coerceHandle sp (.new m) c.state
      ⟨r.1, r.2.2, c.log ++ [r.2.1]⟩

def CoerceCell.start (core : Core σ A) : CoerceCell σ A R := ⟨core, false, []⟩

/-! ### The wrappers against the loop, one message -/

section OneMessage

variable (sp : Spawn σ A M R) (m : Incoming A M R) (s : Core σ A)

/-- `ractorHandle` asks for a stop where the loop breaks, and agrees with it
in everything else. -/
theorem ractorHandle_eq :
    ractorHandle sp m s =
      ((spawnInternalBody sp m s).1, (spawnInternalBody sp m s).2.1,
        (spawnInternalBody sp m s).2.2.isExit) := by
  rcases hr : (received sp m s).rejection with - | ⟨name, disposition⟩
  · rcases hc : alreadyCancelled m with - | -
    · rcases hd : (dispatched sp m s).result with - | (reply | -)
      · rw [body_of_cancelled hr hc hd]
        simp only [ractorHandle, hr, hc, hd, Bool.false_eq_true, if_false]
        rfl
      · rw [body_of_returned hr hc hd]
        simp only [ractorHandle, hr, hc, hd, Bool.false_eq_true, if_false]
        rfl
      · rw [body_of_panicked hr hc hd]
        simp only [ractorHandle, hr, hc, hd, Bool.false_eq_true, if_false]
        rcases (sp.hooks.onError (dispatched sp m s).actor handlerPanicked).1 with
          - | - | - | - <;> rfl
    · rw [body_of_alreadyCancelled hr hc]
      simp only [ractorHandle, hr, hc, if_true]
      rfl
  · rw [body_of_rejection hr]
    simp only [ractorHandle, hr]
    rfl

/-- `kameoHandle` unwinds where the loop breaks. -/
theorem kameoHandle_eq :
    kameoHandle sp m s =
      ((spawnInternalBody sp m s).1, (spawnInternalBody sp m s).2.1,
        if (spawnInternalBody sp m s).2.2.isExit then .unwound else .returned) := by
  rcases hr : (received sp m s).rejection with - | ⟨name, disposition⟩
  · rcases hc : alreadyCancelled m with - | -
    · rcases hd : (dispatched sp m s).result with - | (reply | -)
      · rw [body_of_cancelled hr hc hd]
        simp only [kameoHandle, hr, hc, hd, Bool.false_eq_true, if_false]
        rfl
      · rw [body_of_returned hr hc hd]
        simp only [kameoHandle, hr, hc, hd, Bool.false_eq_true, if_false]
        rfl
      · rw [body_of_panicked hr hc hd]
        simp only [kameoHandle, hr, hc, hd, Bool.false_eq_true, if_false]
        rcases (sp.hooks.onError (dispatched sp m s).actor handlerPanicked).1 with
          - | - | - | - <;> rfl
    · rw [body_of_alreadyCancelled hr hc]
      simp only [kameoHandle, hr, hc, if_true]
      rfl
  · rw [body_of_rejection hr]
    simp only [kameoHandle, hr]
    rfl

/-- `coerceHandle` finds its slot filled, and then does what the loop does. -/
theorem coerceHandle_eq :
    coerceHandle sp (.new m) s =
      ((spawnInternalBody sp m s).1, (spawnInternalBody sp m s).2.1,
        (spawnInternalBody sp m s).2.2.isExit) := by
  rcases hr : (received sp m s).rejection with - | ⟨name, disposition⟩
  · rcases hc : alreadyCancelled m with - | -
    · rcases hd : (dispatched sp m s).result with - | (reply | -)
      · rw [body_of_cancelled hr hc hd]
        simp only [coerceHandle, CoerceMsg.new, hr, hc, hd, Bool.false_eq_true, if_false]
        rfl
      · rw [body_of_returned hr hc hd]
        simp only [coerceHandle, CoerceMsg.new, hr, hc, hd, Bool.false_eq_true, if_false]
        rfl
      · rw [body_of_panicked hr hc hd]
        simp only [coerceHandle, CoerceMsg.new, hr, hc, hd, Bool.false_eq_true, if_false]
        rcases (sp.hooks.onError (dispatched sp m s).actor handlerPanicked).1 with
          - | - | - | - <;> rfl
    · rw [body_of_alreadyCancelled hr hc]
      simp only [coerceHandle, CoerceMsg.new, hr, hc, if_true]
      rfl
  · rw [body_of_rejection hr]
    simp only [coerceHandle, CoerceMsg.new, hr]
    rfl

end OneMessage

/-! ### Whole runs -/

/-- A wrapper in step with the loop of the test runtime: the same actor,
context, interceptors and stop reason, the same segments, and stopped
exactly if the loop is. -/
structure Simulates (t : Task σ A R) (state : Core σ A) (stopped : Bool)
    (log : List (List (Event R))) : Prop where
  state_eq : state = t.core
  stopped_eq : stopped = !t.running
  log_eq : log = t.log

variable {sp : Spawn σ A M R} {t : Task σ A R}

theorem Simulates.ractor {c : RactorCell σ A R} (mail : Option (Incoming A M R))
    (h : Simulates t c.state c.stopped c.log) :
    Simulates (t.step sp mail) (c.step sp mail).state (c.step sp mail).stopped
      (c.step sp mail).log := by
  obtain ⟨state, stopped, log⟩ := c
  obtain ⟨rfl, rfl, rfl⟩ := h
  rcases hrun : t.running with - | -
  · simp only [RactorCell.step, Task.step, hrun]
    exact ⟨rfl, by simp [hrun], rfl⟩
  · cases mail with
    | none =>
        simp only [RactorCell.step, Task.step, hrun]
        exact ⟨rfl, rfl, rfl⟩
    | some m =>
        -- the wrapper's request to stop is the loop's exit
        rw [Task.step_some m hrun]
        simp only [RactorCell.step, Bool.not_true, Bool.false_eq_true, if_false,
          ractorHandle_eq]
        exact ⟨rfl, (Bool.not_not _).symm, rfl⟩

theorem Simulates.kameo {c : KameoCell σ A R} (mail : Option (Incoming A M R))
    (h : Simulates t c.state (!c.alive) c.log) :
    Simulates (t.step sp mail) (c.step sp mail).state (!(c.step sp mail).alive)
      (c.step sp mail).log := by
  obtain ⟨state, alive, log⟩ := c
  obtain ⟨rfl, halive, rfl⟩ := h
  obtain rfl : alive = t.running := by simpa using halive
  rcases hrun : t.running with - | -
  · simp only [KameoCell.step, Task.step, hrun]
    exact ⟨rfl, by rw [hrun], rfl⟩
  · cases mail with
    | none =>
        simp only [KameoCell.step, Task.step, hrun]
        exact ⟨rfl, rfl, rfl⟩
    | some m =>
        rw [Task.step_some m hrun]
        simp only [KameoCell.step, kameoHandle_eq]
        rcases (spawnInternalBody sp m t.core).2.2 with - | - <;> exact ⟨rfl, rfl, rfl⟩

theorem Simulates.coerce {c : CoerceCell σ A R} (mail : Option (Incoming A M R))
    (h : Simulates t c.state c.stopped c.log) :
    Simulates (t.step sp mail) (c.step sp mail).state (c.step sp mail).stopped
      (c.step sp mail).log := by
  obtain ⟨state, stopped, log⟩ := c
  obtain ⟨rfl, rfl, rfl⟩ := h
  rcases hrun : t.running with - | -
  · simp only [CoerceCell.step, Task.step, hrun]
    exact ⟨rfl, by simp [hrun], rfl⟩
  · cases mail with
    | none =>
        simp only [CoerceCell.step, Task.step, hrun]
        exact ⟨rfl, rfl, rfl⟩
    | some m =>
        rw [Task.step_some m hrun]
        simp only [CoerceCell.step, Bool.not_true, Bool.false_eq_true, if_false,
          coerceHandle_eq]
        exact ⟨rfl, (Bool.not_not _).symm, rfl⟩

section Run

variable (sp : Spawn σ A M R) (core : Core σ A) (mails : List (Option (Incoming A M R)))

theorem simulates_run_ractor :
    Simulates (run (Task.step sp) (.start core) mails)
      (run (RactorCell.step sp) (.start core) mails).state
      (run (RactorCell.step sp) (.start core) mails).stopped
      (run (RactorCell.step sp) (.start core) mails).log :=
  run_sim (fun t (c : RactorCell σ A R) => Simulates t c.state c.stopped c.log)
    (fun _ _ mail h => h.ractor mail) mails ⟨rfl, rfl, rfl⟩

theorem simulates_run_kameo :
    Simulates (run (Task.step sp) (.start core) mails)
      (run (KameoCell.step sp) (.start core) mails).state
      (!(run (KameoCell.step sp) (.start core) mails).alive)
      (run (KameoCell.step sp) (.start core) mails).log :=
  run_sim (fun t (c : KameoCell σ A R) => Simulates t c.state (!c.alive) c.log)
    (fun _ _ mail h => h.kameo mail) mails ⟨rfl, rfl, rfl⟩

theorem simulates_run_coerce :
    Simulates (run (Task.step sp) (.start core) mails)
      (run (CoerceCell.step sp) (.start core) mails).state
      (run (CoerceCell.step sp) (.start core) mails).stopped
      (run (CoerceCell.step sp) (.start core) mails).log :=
  run_sim (fun t (c : CoerceCell σ A R) => Simulates t c.state c.stopped c.log)
    (fun _ _ mail h => h.coerce mail) mails ⟨rfl, rfl, rfl⟩

end Run

/-! ### Replies -/

/-- What the processing of the message sends through the reply channel. -/
def Event.answer : Event R → Option (Except RuntimeError R)
  | .callerError error => some (.error error)
  | .replied reply => some (.ok reply)
  | _ => none

/-- The channel takes one answer. -/
def answer (events : List (Event R)) : Option (Except RuntimeError R) :=
  events.findSome? Event.answer

def Event.isReply : Event R → Bool
  | .replied _ => true
  | _ => false

/-- Only the last event of a message may be its reply, so that every
`on_complete` comes before it. -/
def RepliesLast (events : List (Event R)) : Prop := events.dropLast.any Event.isReply = false

section Replies

variable {sp : Spawn σ A M R} {m : Incoming A M R} {s : Core σ A}

theorem answer_append (l l' : List (Event R)) : answer (l ++ l') = (answer l).or (answer l') :=
  List.findSome?_append

theorem answer_receiveLoop (ictx : InboundContext) (m : Incoming A M R)
    (is : List (InboundInterceptor σ M R)) (n : Nat) (headers : Headers) (delay : Nat) (s : σ) :
    answer (receiveLoop ictx m is n headers delay s).events = none := by
  induction is generalizing n headers delay s with
  | nil => rfl
  | cons i is ih =>
      rcases hr : (i.onReceive ictx m.runtimeHeaders headers m.messageAny (m.recvAt n) s).1
        with - | d | - | reason | after
      · simp only [receiveLoop, hr]
        exact ih ..
      · simp only [receiveLoop, hr]
        exact ih ..
      all_goals
        simp only [receiveLoop, hr]
        rfl

theorem answer_intakeEvents : answer (intakeEvents sp m s) = none := by
  rw [intakeEvents, answer_append, received, answer_receiveLoop, sleepEvents]
  split <;> rfl

theorem answer_dispatched : answer (dispatched sp m s).events = none := by
  rw [(dispatched_eq sp m s).1, startedEvents]
  split <;> rfl

theorem answer_completed (outcome : Outcome R) : answer (completed sp m s outcome).2 = none := by
  rw [completed]
  generalize (wrappers sp m s).2 = st
  generalize 0 = n
  induction sp.interceptors generalizing n st with
  | nil => rfl
  | cons i is ih => exact ih ..

/-- Where nothing is answered there is no reply. -/
theorem noReply_of_answer {events : List (Event R)} (h : answer events = none) :
    events.any Event.isReply = false := by
  rw [answer, List.findSome?_eq_none_iff] at h
  rw [List.any_eq_false]
  intro e he hreply
  have hnone := h e he
  cases e with
  | replied reply => cases hnone
  | _ => cases hreply

theorem repliesLast_of_none {events : List (Event R)} (h : events.any Event.isReply = false) :
    RepliesLast events := by
  rw [List.any_eq_false] at h
  rw [RepliesLast, List.any_eq_false]
  exact fun e he => h e (List.mem_of_mem_dropLast he)

theorem repliesLast_append_sendReply {events : List (Event R)}
    (h : events.any Event.isReply = false) (d : Dispatch A M R) (reply : R) :
    RepliesLast (events ++ d.sendReply reply) := by
  unfold Dispatch.sendReply
  split
  · rw [RepliesLast, List.dropLast_concat]
    exact h
  · rw [List.append_nil]
    exact repliesLast_of_none h

theorem noReply_rejectEvents (ctx : ActorContext) (name : String) (disposition : Disposition) :
    (sp.rejectEvents ctx m.toDispatch name disposition).any Event.isReply = false := by
  have hreject : (m.reject disposition name : List (Event R)).any Event.isReply = false := by
    unfold Dispatch.reject
    split
    · split <;> rfl
    · split <;> rfl
    all_goals rfl
  rw [Spawn.rejectEvents, List.any_append, hreject]
  split <;> rfl

theorem noReply_cancel : (m.cancel : List (Event R)).any Event.isReply = false := by
  unfold Dispatch.cancel
  split <;> rfl

theorem repliesLast_body (sp : Spawn σ A M R) (m : Incoming A M R) (s : Core σ A) :
    RepliesLast (spawnInternalBody sp m s).2.1 := by
  rcases hr : (received sp m s).rejection with - | ⟨name, disposition⟩
  · rcases hc : alreadyCancelled m with - | -
    · rcases hd : (dispatched sp m s).result with - | (reply | -)
      · rw [body_of_cancelled hr hc hd]
        refine repliesLast_of_none (noReply_of_answer ?_)
        rw [answer_append, answer_intakeEvents, answer_dispatched, Option.or_self]
      · rw [body_of_returned hr hc hd]
        refine repliesLast_append_sendReply (noReply_of_answer ?_) _ reply
        rw [answer_append, answer_append, answer_intakeEvents, answer_dispatched,
          answer_completed, Option.or_self, Option.or_self]
      · rw [body_of_panicked hr hc hd]
        refine repliesLast_of_none (noReply_of_answer ?_)
        rw [answer_append, answer_append, answer_intakeEvents, answer_dispatched,
          answer_completed, Option.or_self, Option.or_self]
    · rw [body_of_alreadyCancelled hr hc]
      refine repliesLast_of_none ?_
      rw [List.any_append, noReply_of_answer answer_intakeEvents, noReply_cancel, Bool.or_self]
  · rw [body_of_rejection hr]
    refine repliesLast_of_none ?_
    rw [List.any_append, received, noReply_of_answer (answer_receiveLoop ..),
      noReply_rejectEvents, Bool.or_self]

theorem repliesLast_step (sp : Spawn σ A M R) (t : Task σ A R)
    (mail : Option (Incoming A M R)) (h : ∀ segment ∈ t.log, RepliesLast segment) :
    ∀ segment ∈ (t.step sp mail).log, RepliesLast segment := by
  refine (Task.step_iff (P := fun t : Task σ A R => ∀ segment ∈ t.log, RepliesLast segment)
    (Q := fun _ => True) mail h h fun hrun m => ?_).mpr fun _ _ _ => trivial
  rw [Task.step_some m hrun]
  refine iff_of_true (fun segment hseg => ?_) trivial
  rcases List.mem_append.mp hseg with hseg | hseg
  · exact h segment hseg
  · rw [List.mem_singleton.mp hseg]
    exact repliesLast_body sp m t.core

end Replies

/-- **Swapping the runtime does not change message processing**: over any
mailbox sequence the wrappers produce the segments of the test runtime's
loop, end in the same state with the same stop reason, and have stopped
exactly if the loop has.  A reply is the last event of its segment. -/
theorem runtimes_agree (sp : Spawn σ A M R) (core : Core σ A)
    (mails : List (Option (Incoming A M R))) :
    let t := run (Task.step sp) (.start core) mails
    let r := run (RactorCell.step sp) (.start core) mails
    let k := run (KameoCell.step sp) (.start core) mails
    let c := run (CoerceCell.step sp) (.start core) mails
    (r.log = t.log ∧ r.state = t.core ∧ r.stopped = !t.running) ∧
      (k.log = t.log ∧ k.state = t.core ∧ k.alive = t.running) ∧
      (c.log = t.log ∧ c.state = t.core ∧ c.stopped = !t.running) ∧
      ∀ segment ∈ t.log, RepliesLast segment := by
  intro t r k c
  have hr := simulates_run_ractor sp core mails
  have hk := simulates_run_kameo sp core mails
  have hc := simulates_run_coerce sp core mails
  refine ⟨⟨hr.log_eq, hr.state_eq, hr.stopped_eq⟩, ⟨hk.log_eq, hk.state_eq, ?_⟩,
    ⟨hc.log_eq, hc.state_eq, hc.stopped_eq⟩, ?_⟩
  · simpa using hk.stopped_eq
  · exact run_induction (repliesLast_step sp) mails fun _ hseg => absurd hseg List.not_mem_nil

end Dactor
