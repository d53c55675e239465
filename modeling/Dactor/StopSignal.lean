/-
Dactor/StopSignal.lean

A test-runtime actor with its mailbox, and what becomes of a stop request.

`stop` sends `None` through the same channel as the messages, with
`force_send`, and the loop leaves at the first `None` it takes.  A mailbox
that holds nothing ends the loop only when no sender is left, and the name
registry keeps one.  So a stop request counts when it finds room, or another
one before it: `stop_honoured` says that it is then obeyed on every run, and
`stop_honoured_fails` is a run in which it is lost.
-/
import Mathlib.Data.List.ReduceOption
import Dactor.MessageLoop
import Dactor.Mailbox

namespace Dactor

open Runs Channels

variable {σ A M R : Type}

/-! ### The actor and its senders -/

/-- An actor of the test runtime.  `refs` counts the clones of its sender in
references and watch entries, `registered` says that the name registry holds
one.  The last three fields only observe: the messages that entered the
mailbox, those the loop has taken, and how many had entered at the first
`stop`. -/
structure Hosted (σ A M R : Type) where
  task : Task σ A R
  mailbox : Mailbox (Option (Incoming A M R))
  alive : Bool
  refs : Nat
  registered : Bool
  accepted : List (Incoming A M R)
  begun : List (Incoming A M R)
  acceptedAtStop : Option Nat

inductive HostedOp (A M R : Type)
  | send (m : Incoming A M R)
  | stop
  | recv
  | cloneRef
  | dropRef
  | lookup
  | unregister
  | finish

namespace Hosted

/-- `spawn_internal`: the caller gets one reference, the registry another. -/
def spawn (config : MailboxConfig) (core : Core σ A) : Hosted σ A M R where
  task := .start core
  mailbox := .new config
  alive := true
  refs := 1
  registered := true
  accepted := []
  begun := []
  acceptedAtStop := none

/-- Somebody still holds a sender. -/
def hasSender (s : Hosted σ A M R) : Bool := 0 < s.refs || s.registered

/-- The end of `tell` and `ask`: `self.sender.send(Some(dispatch))`. -/
def send (s : Hosted σ A M R) (m : Incoming A M R) : Hosted σ A M R :=
  { s with
    mailbox := (s.mailbox.send (some m)).2
    accepted := if s.mailbox.Admits then s.accepted ++ [m] else s.accepted }

/-- `TestActorRef::stop`. -/
def stop (s : Hosted σ A M R) : Hosted σ A M R :=
  { s with
    alive := false
    mailbox := s.mailbox.forceSend none
    acceptedAtStop := s.acceptedAtStop.or (some s.accepted.length) }

/-- The loop takes `mail`, which leaves `mailbox`. -/
def take (sp : Spawn σ A M R) (s : Hosted σ A M R) (mail : Option (Incoming A M R))
    (mailbox : Mailbox (Option (Incoming A M R))) : Hosted σ A M R :=
  let task := s.task.step sp mail
  { s with
    task, mailbox
    alive := s.alive && task.running
    begun := s.begun ++ mail.toList }

/-- One iteration of `while let Some(msg) = rx.recv().await`.  On an empty
mailbox the loop waits for the senders, and leaves when there is none. -/
def recv (sp : Spawn σ A M R) (s : Hosted σ A M R) : Hosted σ A M R :=
  if s.task.running then
    match s.mailbox.recv with
    | some (mail, mailbox) => s.take sp mail mailbox
    | none =>
      if s.hasSender then s
      else { s with task := { s.task with running := false }, alive := false }
  else s

/-- The end of the task: the name is unregistered and the receiver dropped. -/
def finish (s : Hosted σ A M R) : Hosted σ A M R :=
  if s.task.running then s
  else { s with registered := false, mailbox := s.mailbox.close }

/-- One step of the actor or of the holders of its senders; a reference can
be used only while there is one. -/
def step (sp : Spawn σ A M R) (s : Hosted σ A M R) : HostedOp A M R → Hosted σ A M R
  | .send m => if 0 < s.refs then s.send m else s
  | .stop => if 0 < s.refs then s.stop else s
  | .recv => s.recv sp
  | .cloneRef => if 0 < s.refs then { s with refs := s.refs + 1 } else s
  | .dropRef => { s with refs := s.refs - 1 }
  | .lookup => if s.registered then { s with refs := s.refs + 1 } else s
  | .unregister => { s with registered := false }
  | .finish => s.finish

/-! #### Who holds a sender does not touch the mailbox -/

theorem mailbox_cloneRef (sp : Spawn σ A M R) (s : Hosted σ A M R) :
    (s.step sp .cloneRef).mailbox = s.mailbox := by
  rw [step]
  split <;> rfl

theorem mailbox_lookup (sp : Spawn σ A M R) (s : Hosted σ A M R) :
    (s.step sp .lookup).mailbox = s.mailbox := by
  rw [step]
  split <;> rfl

/-! ### What a stop request asks for -/

/-- The loop runs on an empty mailbox and waits for whoever holds a sender. -/
def Waits (s : Hosted σ A M R) : Prop :=
  s.task.running = true ∧ s.mailbox.channel.queue = [] ∧ s.hasSender = true

instance (s : Hosted σ A M R) : Decidable s.Waits :=
  match h : s.mailbox.channel.queue with
  | [] =>
    decidable_of_iff (s.task.running = true ∧ s.hasSender = true)
      ⟨fun hw => ⟨hw.1, h, hw.2⟩, fun hw => ⟨hw.1, hw.2.2⟩⟩
  | _ :: _ => isFalse fun hw => nomatch h.symm.trans hw.2.1

/-- After a stop the loop takes only messages accepted before it, and it does
not wait for others. -/
def StopHonoured (s : Hosted σ A M R) : Prop :=
  ∀ k, s.acceptedAtStop = some k → s.begun <+: s.accepted.take k ∧ ¬ s.Waits

/-- A stop request that reaches a running actor finds its mailbox unbounded
or not full, or an earlier stop signal in it. -/
def StopFits (s : Hosted σ A M R) : HostedOp A M R → Prop
  | .stop => s.task.running = true → s.mailbox.channel.HasRoom ∨ none ∈ s.mailbox.channel.queue
  | _ => True

/-! ### What entered the mailbox is there or was taken -/

/-- Until the receiver is dropped, the accepted messages are those the loop
has taken, followed by those in the mailbox. -/
structure Accounted (s : Hosted σ A M R) : Prop where
  opened : s.task.running = true → s.mailbox.channel.closed = false
  pending : s.mailbox.channel.closed = false →
    s.accepted = s.begun ++ s.mailbox.channel.queue.reduceOption
  taken : s.begun <+: s.accepted

variable {s : Hosted σ A M R}

theorem send_of_admits (hadm : s.mailbox.Admits) (m : Incoming A M R) :
    (s.send m).mailbox.channel.queue = s.mailbox.channel.queue ++ [some m] ∧
      (s.send m).accepted = s.accepted ++ [m] := by
  refine ⟨?_, if_pos hadm⟩
  show (s.mailbox.send (some m)).2.channel.queue = _
  rw [Mailbox.send_queue, if_pos hadm]

theorem send_of_not_admits (hadm : ¬ s.mailbox.Admits) (m : Incoming A M R) :
    (s.send m).mailbox.channel.queue = s.mailbox.channel.queue ∧
      (s.send m).accepted = s.accepted := by
  refine ⟨?_, if_neg hadm⟩
  show (s.mailbox.send (some m)).2.channel.queue = _
  rw [Mailbox.send_queue, if_neg hadm]

theorem send_closed (m : Incoming A M R) :
    (s.send m).mailbox.channel.closed = s.mailbox.channel.closed :=
  Mailbox.send_closed s.mailbox (some m)

theorem Accounted.send (h : s.Accounted) (m : Incoming A M R) : (s.send m).Accounted := by
  by_cases hadm : s.mailbox.Admits
  · obtain ⟨hq, hacc⟩ := send_of_admits hadm m
    refine ⟨fun hrun => (send_closed m).trans (h.opened hrun), fun _ => ?_, ?_⟩
    · rw [hacc, hq, List.reduceOption_append, ← List.append_assoc]
      show s.accepted ++ [m] = (s.begun ++ s.mailbox.channel.queue.reduceOption) ++ [m]
      rw [h.pending hadm.1]
    · rw [hacc]
      exact h.taken.trans (List.prefix_append _ _)
  · -- a message that does not fit changes nothing
    obtain ⟨hq, hacc⟩ := send_of_not_admits hadm m
    refine ⟨fun hrun => (send_closed m).trans (h.opened hrun), fun hopen => ?_, ?_⟩
    · rw [hacc, hq]
      exact h.pending ((send_closed m).symm.trans hopen)
    · rw [hacc]
      exact h.taken

theorem stop_queue (s : Hosted σ A M R) :
    s.stop.mailbox.channel.queue =
      if s.mailbox.Admits then s.mailbox.channel.queue ++ [none] else s.mailbox.channel.queue :=
  Mailbox.forceSend_queue s.mailbox none

theorem stop_closed (s : Hosted σ A M R) :
    s.stop.mailbox.channel.closed = s.mailbox.channel.closed :=
  Mailbox.forceSend_closed s.mailbox none

theorem Accounted.stop (h : s.Accounted) : s.stop.Accounted := by
  refine ⟨fun hrun => (stop_closed s).trans (h.opened hrun), fun hopen => ?_, h.taken⟩
  have hpending := h.pending ((stop_closed s).symm.trans hopen)
  rw [stop_queue]
  split
  · rw [List.reduceOption_append]
    show s.accepted = s.begun ++ (s.mailbox.channel.queue.reduceOption ++ [])
    rw [List.append_nil]
    exact hpending
  · exact hpending

/-- The loop takes the oldest item of the mailbox. -/
theorem Accounted.take (h : s.Accounted) (sp : Spawn σ A M R) (hrun : s.task.running = true)
    {mail : Option (Incoming A M R)} {mb : Mailbox (Option (Incoming A M R))}
    (hmb : s.mailbox.recv = some (mail, mb)) : (s.take sp mail mb).Accounted := by
  obtain ⟨hq, hclosed⟩ := Mailbox.recv_eq_some hmb
  have hpending : s.accepted = (s.begun ++ mail.toList) ++ mb.channel.queue.reduceOption := by
    rw [h.pending (h.opened hrun), hq, List.append_assoc]
    cases mail <;> rfl
  refine ⟨fun _ => hclosed.trans (h.opened hrun), fun _ => hpending, ?_⟩
  show s.begun ++ mail.toList <+: s.accepted
  rw [hpending]
  exact List.prefix_append _ _

theorem Accounted.recv (h : s.Accounted) (sp : Spawn σ A M R) : (s.recv sp).Accounted := by
  rw [Hosted.recv]
  split
  · next hrun =>
      split
      · next mail mb hmb => exact h.take sp hrun hmb
      · split
        · exact h
        · exact ⟨fun hr => absurd hr Bool.false_ne_true, h.pending, h.taken⟩
  · exact h

theorem Accounted.finish (h : s.Accounted) : s.finish.Accounted := by
  rw [Hosted.finish]
  split
  · exact h
  · next hstopped =>
      exact ⟨fun hr => absurd hr hstopped, fun hr => absurd hr.symm Bool.false_ne_true, h.taken⟩

/-- Who holds a sender does not matter. -/
theorem Accounted.senders (h : s.Accounted) (refs : Nat) (registered : Bool) :
    { s with refs, registered }.Accounted :=
  ⟨h.opened, h.pending, h.taken⟩

/-- A property that the mailbox steps keep, and that ignores who holds a
sender, is kept by every step. -/
theorem step_induction {P : Hosted σ A M R → Prop} (sp : Spawn σ A M R) {op : HostedOp A M R}
    (h : P s) (hsend : ∀ m, P (s.send m)) (hstop : op = .stop → P s.stop)
    (hrecv : P (s.recv sp)) (hfinish : P s.finish)
    (hsenders : ∀ refs registered, P { s with refs, registered }) : P (s.step sp op) := by
  cases op with
  | send m =>
      rw [Hosted.step]
      split
      · exact hsend m
      · exact h
  | stop =>
      rw [Hosted.step]
      split
      · exact hstop rfl
      · exact h
  | recv => exact hrecv
  | cloneRef =>
      rw [Hosted.step]
      split
      · exact hsenders _ _
      · exact h
  | dropRef => exact hsenders _ _
  | lookup =>
      rw [Hosted.step]
      split
      · exact hsenders _ _
      · exact h
  | unregister => exact hsenders _ _
  | finish => exact hfinish

theorem accounted_step (sp : Spawn σ A M R) (s : Hosted σ A M R) (op : HostedOp A M R)
    (h : s.Accounted) : (s.step sp op).Accounted :=
  step_induction sp h h.send (fun _ => h.stop) (h.recv sp) h.finish h.senders

theorem accounted_spawn (config : MailboxConfig) (core : Core σ A) :
    (spawn config core : Hosted σ A M R).Accounted where
  opened _ := rfl
  pending _ := rfl
  taken := List.prefix_rfl

/-! ### A stop signal stays in front -/

/-- After a stop, and only then, a running actor has a stop signal in its
mailbox, with at most the messages accepted before the stop in front. -/
structure Obeys (s : Hosted σ A M R) : Prop extends s.Accounted where
  asked : s.task.running = true → none ∈ s.mailbox.channel.queue → s.acceptedAtStop ≠ none
  bound : ∀ k, s.acceptedAtStop = some k → s.begun.length ≤ k
  signal : ∀ k, s.acceptedAtStop = some k → s.task.running = true →
    ∃ before after, s.mailbox.channel.queue = before ++ none :: after ∧
      s.begun.length + before.reduceOption.length ≤ k

theorem Obeys.stopHonoured (h : s.Obeys) : s.StopHonoured := by
  intro k hk
  refine ⟨List.prefix_take_iff.mpr ⟨h.taken, h.bound k hk⟩, ?_⟩
  rintro ⟨hrun, hempty, -⟩
  obtain ⟨before, after, hq, -⟩ := h.signal k hk hrun
  rw [hempty] at hq
  cases before <;> cases hq

theorem Obeys.send (h : s.Obeys) (m : Incoming A M R) : (s.send m).Obeys := by
  have haccounted := h.toAccounted.send m
  by_cases hadm : s.mailbox.Admits
  · obtain ⟨hq, -⟩ := send_of_admits hadm m
    refine ⟨haccounted, fun hrun hmem => ?_, h.bound, fun k hk hrun => ?_⟩
    · rw [hq, List.mem_append, List.mem_singleton] at hmem
      exact h.asked hrun (hmem.resolve_right fun heq => nomatch heq)
    · obtain ⟨before, after, hsplit, hlen⟩ := h.signal k hk hrun
      refine ⟨before, after ++ [some m], ?_, hlen⟩
      rw [hq, hsplit, List.append_assoc, List.cons_append]
  · obtain ⟨hq, -⟩ := send_of_not_admits hadm m
    refine ⟨haccounted, fun hrun hmem => ?_, h.bound, fun k hk hrun => ?_⟩
    · rw [hq] at hmem
      exact h.asked hrun hmem
    · rw [hq]
      exact h.signal k hk hrun

/-- The messages a stop lets through: those of the first one stand. -/
theorem acceptedAtStop_stop {k : Nat} (hk : s.stop.acceptedAtStop = some k) :
    s.acceptedAtStop = some k ∨ s.acceptedAtStop = none ∧ s.accepted.length = k := by
  have hor : s.acceptedAtStop.or (some s.accepted.length) = some k := hk
  cases hstop : s.acceptedAtStop with
  | none =>
      rw [hstop, Option.none_or] at hor
      exact .inr ⟨rfl, Option.some.inj hor⟩
  | some k₀ =>
      rw [hstop, Option.some_or] at hor
      exact .inl hor

theorem asked_stop : s.stop.acceptedAtStop ≠ none := by
  show s.acceptedAtStop.or (some s.accepted.length) ≠ none
  cases s.acceptedAtStop <;> exact Option.some_ne_none _

/-- A stop request that fits, or finds another, leaves a stop signal behind
the messages accepted before. -/
theorem Obeys.stop (h : s.Obeys) (hfits : s.StopFits .stop) : s.stop.Obeys := by
  refine ⟨h.toAccounted.stop, fun _ _ => asked_stop, fun k hk => ?_, fun k hk hrun => ?_⟩
  · rcases acceptedAtStop_stop hk with hold | ⟨-, rfl⟩
    · exact h.bound k hold
    · exact h.taken.length_le
  · by_cases hadm : s.mailbox.Admits
    · rw [stop_queue, if_pos hadm]
      rcases acceptedAtStop_stop hk with hold | ⟨-, rfl⟩
      · obtain ⟨before, after, hsplit, hlen⟩ := h.signal k hold hrun
        refine ⟨before, after ++ [none], ?_, hlen⟩
        rw [hsplit, List.append_assoc, List.cons_append]
      · -- the first stop: everything accepted so far is in front of it
        refine ⟨s.mailbox.channel.queue, [], rfl, ?_⟩
        rw [h.pending hadm.1, List.length_append]
        exact Nat.le_refl _
    · -- the request is dropped, so there was one before
      rw [stop_queue, if_neg hadm]
      have hmem : none ∈ s.mailbox.channel.queue :=
        (hfits hrun).resolve_left fun hroom => hadm ⟨h.opened hrun, hroom⟩
      rcases acceptedAtStop_stop hk with hold | ⟨hnone, -⟩
      · exact h.signal k hold hrun
      · exact absurd hnone (h.asked hrun hmem)

theorem Obeys.take_some (h : s.Obeys) (sp : Spawn σ A M R) (hrun : s.task.running = true)
    {m : Incoming A M R} {mb : Mailbox (Option (Incoming A M R))}
    (hmb : s.mailbox.recv = some (some m, mb)) : (s.take sp (some m) mb).Obeys := by
  obtain ⟨hq, -⟩ := Mailbox.recv_eq_some hmb
  -- the stop signal is not the head, so it is behind the message
  have hsignal : ∀ k, s.acceptedAtStop = some k →
      ∃ before after, mb.channel.queue = before ++ none :: after ∧
        (s.begun ++ [m]).length + before.reduceOption.length ≤ k := by
    intro k hk
    obtain ⟨before, after, hsplit, hlen⟩ := h.signal k hk hrun
    rw [hq] at hsplit
    cases before with
    | nil => cases hsplit
    | cons first before =>
        obtain ⟨rfl, hrest⟩ := List.cons.inj hsplit
        refine ⟨before, after, hrest, ?_⟩
        rw [List.reduceOption_cons_of_some, List.length_cons] at hlen
        rw [List.length_append, List.length_singleton]
        omega
  refine ⟨h.toAccounted.take sp hrun hmb, fun _ hmem => ?_, fun k hk => ?_, fun k hk _ => ?_⟩
  · apply h.asked hrun
    rw [hq]
    exact List.mem_cons_of_mem _ hmem
  · obtain ⟨before, after, -, hlen⟩ := hsignal k hk
    exact Nat.le_of_add_right_le hlen
  · exact hsignal k hk

/-- The loop takes a stop signal, and leaves. -/
theorem Obeys.take_none (h : s.Obeys) (sp : Spawn σ A M R) (hrun : s.task.running = true)
    {mb : Mailbox (Option (Incoming A M R))} (hmb : s.mailbox.recv = some (none, mb)) :
    (s.take sp none mb).Obeys := by
  have hstopped : (s.take sp none mb).task.running ≠ true := by
    show (s.task.step sp none).running ≠ true
    simp only [Task.step, hrun]
    exact Bool.false_ne_true
  have hbegun : (s.take sp none mb).begun = s.begun := List.append_nil _
  refine ⟨h.toAccounted.take sp hrun hmb, fun hr => absurd hr hstopped, ?_,
    fun _ _ hr => absurd hr hstopped⟩
  rw [hbegun]
  exact h.bound

theorem Obeys.recv (h : s.Obeys) (sp : Spawn σ A M R) : (s.recv sp).Obeys := by
  rw [Hosted.recv]
  split
  · next hrun =>
      split
      · next mail mb hmb =>
          cases mail with
          | none => exact h.take_none sp hrun hmb
          | some m => exact h.take_some sp hrun hmb
      · split
        · exact h
        · exact ⟨⟨fun hr => absurd hr Bool.false_ne_true, h.pending, h.taken⟩,
            fun hr => absurd hr Bool.false_ne_true, h.bound,
            fun _ _ hr => absurd hr Bool.false_ne_true⟩
  · exact h

theorem Obeys.finish (h : s.Obeys) : s.finish.Obeys := by
  rw [Hosted.finish]
  split
  · exact h
  · next hstopped =>
      exact ⟨⟨fun hr => absurd hr hstopped, fun hr => absurd hr.symm Bool.false_ne_true, h.taken⟩,
        fun hr => absurd hr hstopped, h.bound, fun _ _ hr => absurd hr hstopped⟩

theorem Obeys.senders (h : s.Obeys) (refs : Nat) (registered : Bool) :
    { s with refs, registered }.Obeys :=
  ⟨h.toAccounted.senders refs registered, h.asked, h.bound, h.signal⟩

theorem obeys_step (sp : Spawn σ A M R) (s : Hosted σ A M R) (op : HostedOp A M R)
    (hfits : s.StopFits op) (h : s.Obeys) : (s.step sp op).Obeys := by
  refine step_induction sp h h.send (fun hop => ?_) (h.recv sp) h.finish h.senders
  rw [hop] at hfits
  exact h.stop hfits

theorem obeys_spawn (config : MailboxConfig) (core : Core σ A) :
    (spawn config core : Hosted σ A M R).Obeys where
  toAccounted := accounted_spawn config core
  asked _ hmem := absurd hmem List.not_mem_nil
  bound _ hk := nomatch hk
  signal _ hk := nomatch hk

end Hosted

/-- **A stop request that fits is obeyed.**  On every run in which each stop
of a running actor finds its mailbox unbounded or not full, or another stop
signal in it, the loop takes, after the first stop, only messages accepted
before it, and never waits for others. -/
theorem stop_honoured (sp : Spawn σ A M R) (config : MailboxConfig) (core : Core σ A)
    (ops : List (HostedOp A M R))
    (h : Admissible (Hosted.step sp) Hosted.StopFits (.spawn config core) ops) :
    Always (Hosted.step sp) Hosted.StopHonoured (.spawn config core) ops := by
  have hobeys := always_of_admissible (Hosted.obeys_step sp) (Hosted.obeys_spawn config core) h
  exact hobeys.mono fun s hs => hs.stopHonoured

/-- A message, a stop, and two turns of the loop. -/
def stoppedRun : List (HostedOp Unit Unit Unit) :=
  [.send (incomingAt .typed (idleHandler 0 (.returned ())) 0), .stop, .recv, .recv]

def quietSpawn : Spawn Unit Unit Unit Unit :=
  ⟨[passInterceptor Unit Unit Unit], false, plainHooks Unit⟩

theorem stop_honoured_unbounded :
    Admissible (Hosted.step quietSpawn) Hosted.StopFits
        (.spawn .unbounded ⟨(), freshContext, (), none⟩) stoppedRun ∧
      Always (Hosted.step quietSpawn) Hosted.StopHonoured
        (.spawn .unbounded ⟨(), freshContext, (), none⟩) stoppedRun := by
  have hfits : Admissible (Hosted.step quietSpawn) Hosted.StopFits
      (.spawn .unbounded ⟨(), freshContext, (), none⟩) stoppedRun :=
    ⟨trivial, fun _ => .inl (Channel.hasRoom_of_unbounded rfl), trivial, trivial, trivial⟩
  exact ⟨hfits, stop_honoured quietSpawn .unbounded _ stoppedRun hfits⟩

/-- With room for one message, the stop is lost behind it: the loop takes the
message and waits. -/
theorem stop_honoured_fails :
    ¬ ∀ (sp : Spawn Unit Unit Unit Unit) (config : MailboxConfig) (core : Core Unit Unit)
      (ops : List (HostedOp Unit Unit Unit)),
      Always (Hosted.step sp) Hosted.StopHonoured (.spawn config core) ops := by
  intro h
  have hall := h quietSpawn (.bounded 1 .rejectWithError) ⟨(), freshContext, (), none⟩ stoppedRun
  obtain ⟨-, hwaits⟩ := hall.last 1 (by decide)
  exact hwaits (by decide)

end Dactor
