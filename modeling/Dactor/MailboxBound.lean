/-
Dactor/MailboxBound.lean

How many messages a bounded mailbox holds.

In the test runtime the actor reads from the bounded channel itself.  In the
adapters a forwarding task drains that channel into the mailbox of the
framework, which stays unbounded; a message then waits in one of three
places before the actor begins it.

Main result: `mailbox_bound`.  The capacity bounds the test runtime's
mailbox and, up to the message in the forwarder's hand, the adapters' front
buffer; `mailbox_bound_fails` shows that it does not bound what waits
behind.
-/
import Dactor.StopSignal

namespace Dactor

open Runs Channels

variable {σ A M R T : Type} {capacity : Nat}

/-! ### The pipeline of the adapters -/

/-- An adapter actor spawned with a bounded mailbox: the front buffer, the
message in the hand of the forwarding task, and the framework's mailbox.
`begun` observes what the actor has taken. -/
structure Fronted (T : Type) (capacity : Nat) where
  sender : BoundedMailboxSender
  front : Channel T
  forwarding : Bool
  held : Option T
  inner : Channel T
  accepted : List T
  begun : List T
  bounded : front.capacity = some capacity
  unbounded : inner.capacity = none

inductive FrontedOp (T : Type)
  | send (msg : T)
  | forward
  | cast
  | beginNext
  | stop

namespace Fronted

/-- `spawn_internal` with `MailboxConfig::Bounded`. -/
def spawn (capacity : Nat) (overflow : OverflowStrategy) : Fronted T capacity where
  sender := ⟨overflow⟩
  front := .new (some capacity)
  forwarding := true
  held := none
  inner := .new none
  accepted := []
  begun := []
  bounded := rfl
  unbounded := rfl

/-- `send_dispatch`, through the front buffer. -/
def send (s : Fronted T capacity) (msg : T) : Fronted T capacity :=
  { s with
    front := (s.sender.trySend msg s.front).2
    accepted := if s.front.Admits then s.accepted ++ [msg] else s.accepted
    bounded := by
      rw [BoundedMailboxSender.trySend_snd, Channel.offer_capacity]
      exact s.bounded }

/-- The forwarding task: `brx.recv().await`. -/
def forward (s : Fronted T capacity) : Fronted T capacity :=
  match s.forwarding, s.held, h : s.front.recv with
  | true, none, some (msg, front) =>
    { s with
      held := some msg
      front
      bounded := (Channel.recv_eq_some h).2.1.trans s.bounded }
  | _, _, _ => s

/-- The forwarding task: `fwd_ref.cast(msg)` in ractor and
`fwd_ref.tell(msg).try_send()` in kameo.  It fails when the actor is gone;
then the task ends and its receiver is dropped. -/
def cast (s : Fronted T capacity) : Fronted T capacity :=
  match s.held with
  | none => s
  | some msg =>
    if s.inner.closed then
      { s with held := none, forwarding := false, front := s.front.close, bounded := s.bounded }
    else
      { s with
        held := none
        inner := s.inner.enqueue msg (Channel.hasRoom_of_unbounded s.unbounded)
        unbounded := s.unbounded }

/-- The actor takes the next message of the framework's mailbox. -/
def beginNext (s : Fronted T capacity) : Fronted T capacity :=
  match h : s.inner.recv with
  | none => s
  | some (msg, inner) =>
    { s with
      inner
      begun := s.begun ++ [msg]
      unbounded := (Channel.recv_eq_some h).2.1.trans s.unbounded }

/-- The actor ends, and its mailbox with it. -/
def stop (s : Fronted T capacity) : Fronted T capacity :=
  { s with inner := s.inner.close, unbounded := s.unbounded }

def step (s : Fronted T capacity) : FrontedOp T → Fronted T capacity
  | .send msg => s.send msg
  | .forward => s.forward
  | .cast => s.cast
  | .beginNext => s.beginNext
  | .stop => s.stop

/-- The messages that wait, oldest first. -/
def waiting (s : Fronted T capacity) : List T :=
  s.inner.queue ++ s.held.toList ++ s.front.queue

/-- The forwarding task takes a message only when the framework's mailbox is
empty. -/
def ForwardsIntoEmpty (s : Fronted T capacity) : FrontedOp T → Prop
  | .forward => s.inner.queue = []
  | _ => True

/-! ### Nothing is lost while the actor lives -/

/-- The accepted messages are those begun followed by those that wait, while
neither mailbox is closed. -/
def Accounted (s : Fronted T capacity) : Prop :=
  s.inner.closed = false → s.front.closed = false → s.accepted = s.begun ++ s.waiting

theorem accounted_send {s : Fronted T capacity} (h : s.Accounted) (msg : T) :
    (s.send msg).Accounted := by
  intro hinner hfront
  have hq : (s.send msg).front = s.front.offer msg :=
    BoundedMailboxSender.trySend_snd s.sender msg s.front
  have hopen : s.front.closed = false := by
    rw [hq, Channel.offer_closed] at hfront
    exact hfront
  have hold : s.accepted = s.begun ++ s.waiting := h hinner hopen
  show (if s.front.Admits then s.accepted ++ [msg] else s.accepted) =
    s.begun ++ (s.inner.queue ++ s.held.toList ++ (s.send msg).front.queue)
  rw [hq, Channel.offer_queue, hold, waiting]
  split <;> simp only [List.append_assoc]

theorem accounted_forward {s : Fronted T capacity} (h : s.Accounted) : s.forward.Accounted := by
  rw [forward]
  split
  · next msg front hforw hheld hrecv =>
      obtain ⟨hq, -, hclosed⟩ := Channel.recv_eq_some hrecv
      intro hinner hfront
      have hold : s.accepted = s.begun ++ s.waiting := h hinner (hclosed.symm.trans hfront)
      rw [hold, waiting, hheld, hq]
      simp [waiting]
  · exact h

theorem accounted_cast {s : Fronted T capacity} (h : s.Accounted) : s.cast.Accounted := by
  rw [cast]
  split
  · exact h
  · next msg hheld =>
      split
      · intro _ hfront
        cases hfront
      · next hopen =>
          intro _ hfront
          have hold : s.accepted = s.begun ++ s.waiting :=
            h (Bool.eq_false_iff.mpr hopen) hfront
          rw [hold, waiting, hheld]
          simp [waiting, Channel.enqueue]

theorem accounted_beginNext {s : Fronted T capacity} (h : s.Accounted) :
    s.beginNext.Accounted := by
  rw [beginNext]
  split
  · exact h
  · next msg inner hrecv =>
      obtain ⟨hq, -, hclosed⟩ := Channel.recv_eq_some hrecv
      intro hinner hfront
      have hold : s.accepted = s.begun ++ s.waiting := h (hclosed.symm.trans hinner) hfront
      rw [hold, waiting, hq]
      simp [waiting]

theorem accounted_step (s : Fronted T capacity) (op : FrontedOp T) (h : s.Accounted) :
    (s.step op).Accounted := by
  cases op with
  | send msg => exact accounted_send h msg
  | forward => exact accounted_forward h
  | cast => exact accounted_cast h
  | beginNext => exact accounted_beginNext h
  | stop =>
      intro hinner
      cases hinner

theorem accounted_spawn (capacity : Nat) (overflow : OverflowStrategy) :
    (spawn capacity overflow : Fronted T capacity).Accounted :=
  fun _ _ => rfl

/-! ### What the capacity bounds -/

/-- The front buffer and the hand of the forwarding task, in any state. -/
theorem front_length_le (s : Fronted T capacity) :
    s.front.queue.length + s.held.toList.length ≤ capacity + 1 := by
  have hfront : s.front.queue.length ≤ capacity := s.front.fits capacity s.bounded
  have hheld : s.held.toList.length ≤ 1 := by cases s.held <;> simp
  omega

/-- At most one message is past the front buffer. -/
def Narrow (s : Fronted T capacity) : Prop :=
  s.inner.queue.length + s.held.toList.length ≤ 1

theorem Narrow.waiting_length_le {s : Fronted T capacity} (h : s.Narrow) :
    s.waiting.length ≤ capacity + 1 := by
  have hfront : s.front.queue.length ≤ capacity := s.front.fits capacity s.bounded
  have hpast : s.inner.queue.length + s.held.toList.length ≤ 1 := h
  rw [waiting, List.length_append, List.length_append]
  omega

theorem narrow_step (s : Fronted T capacity) (op : FrontedOp T) (hop : s.ForwardsIntoEmpty op)
    (h : s.Narrow) : (s.step op).Narrow := by
  cases op with
  | send msg => exact h
  | forward =>
      show s.forward.Narrow
      rw [forward]
      split
      · have hempty : s.inner.queue = [] := hop
        show s.inner.queue.length + 1 ≤ 1
        rw [hempty]
        exact Nat.le_refl 1
      · exact h
  | cast =>
      show s.cast.Narrow
      rw [Narrow] at h
      rw [cast]
      split
      · exact h
      · next msg hheld =>
          rw [hheld] at h
          split
          · exact Nat.le_of_add_right_le h
          · show (s.inner.queue ++ [msg]).length + 0 ≤ 1
            rw [List.length_append]
            exact h
  | beginNext =>
      show s.beginNext.Narrow
      rw [Narrow] at h
      rw [beginNext]
      split
      · exact h
      · next msg inner hrecv =>
          obtain ⟨hq, -, -⟩ := Channel.recv_eq_some hrecv
          rw [hq, List.length_cons] at h
          show inner.queue.length + s.held.toList.length ≤ 1
          omega
  | stop =>
      show 0 + s.held.toList.length ≤ 1
      rw [Narrow] at h
      omega

end Fronted

/-! ### The test runtime -/

namespace Hosted

/-- At most `capacity` messages were accepted and not begun. -/
structure Bounded (capacity : Nat) (s : Hosted σ A M R) : Prop extends s.Accounted where
  capacity_eq : s.mailbox.config.capacity = some capacity
  bound : s.accepted.length ≤ s.begun.length + capacity

theorem Accounted.bound_of_open {s : Hosted σ A M R} (h : s.Accounted)
    (hcap : s.mailbox.config.capacity = some capacity)
    (hopen : s.mailbox.channel.closed = false) :
    s.accepted.length ≤ s.begun.length + capacity := by
  have hfits : s.mailbox.channel.queue.length ≤ capacity :=
    s.mailbox.channel.fits capacity (s.mailbox.capacity_eq.trans hcap)
  have hmsgs := List.reduceOption_length_le s.mailbox.channel.queue
  rw [h.pending hopen, List.length_append]
  omega

theorem bounded_step (sp : Spawn σ A M R) (s : Hosted σ A M R) (op : HostedOp A M R)
    (h : s.Bounded capacity) : (s.step sp op).Bounded capacity := by
  have haccounted := h.toAccounted
  refine step_induction sp h (fun m => ?_) (fun _ => ?_) ?_ ?_ (fun refs registered => ?_)
  · -- only a send adds to the accepted messages, and it needs room
    refine ⟨haccounted.send m, h.capacity_eq, ?_⟩
    by_cases hadm : s.mailbox.Admits
    · apply (haccounted.send m).bound_of_open h.capacity_eq
      exact (send_closed m).trans hadm.1
    · rw [(send_of_not_admits hadm m).2]
      exact h.bound
  · exact ⟨haccounted.stop, h.capacity_eq, h.bound⟩
  · rw [Hosted.recv]
    split
    · next hrun =>
        split
        · next mail mb hmb =>
            refine ⟨haccounted.take sp hrun hmb, ?_, ?_⟩
            · exact (congrArg MailboxConfig.capacity (Mailbox.recv_config hmb)).trans h.capacity_eq
            · show s.accepted.length ≤ (s.begun ++ mail.toList).length + capacity
              have hbound := h.bound
              rw [List.length_append]
              omega
        · split
          · exact h
          · exact ⟨⟨fun hr => absurd hr Bool.false_ne_true, haccounted.pending,
              haccounted.taken⟩, h.capacity_eq, h.bound⟩
    · exact h
  · have hfinish := haccounted.finish
    rw [Hosted.finish] at hfinish ⊢
    split
    · exact h
    · next hstopped =>
        rw [if_neg hstopped] at hfinish
        exact ⟨hfinish, h.capacity_eq, h.bound⟩
  · exact ⟨haccounted.senders refs registered, h.capacity_eq, h.bound⟩

theorem bounded_spawn (capacity : Nat) (overflow : OverflowStrategy) (core : Core σ A) :
    (spawn (.bounded capacity overflow) core : Hosted σ A M R).Bounded capacity where
  toAccounted := accounted_spawn (.bounded capacity overflow) core
  capacity_eq := rfl
  bound := Nat.zero_le _

end Hosted

/-- **What a mailbox bound bounds.**  In the test runtime the messages
accepted and not begun are at most `capacity`.  In the adapters those that
the forwarding task has not passed on are at most `capacity + 1`; and so are
all that wait, as long as it takes its next message only when the framework's
mailbox is empty.  While the actor lives, what waits is what was accepted
and not begun, in order. -/
theorem mailbox_bound (capacity : Nat) (overflow : OverflowStrategy) :
    (∀ (sp : Spawn σ A M R) (core : Core σ A) (ops : List (HostedOp A M R)),
      Always (Hosted.step sp) (fun s => s.accepted.length ≤ s.begun.length + capacity)
        (.spawn (.bounded capacity overflow) core) ops) ∧
    (∀ ops : List (FrontedOp T),
      Always Fronted.step
        (fun s => s.Accounted ∧ s.front.queue.length + s.held.toList.length ≤ capacity + 1)
        (.spawn capacity overflow) ops) ∧
    ∀ ops : List (FrontedOp T),
      Admissible Fronted.step Fronted.ForwardsIntoEmpty (.spawn capacity overflow) ops →
      Always Fronted.step (fun s => s.waiting.length ≤ capacity + 1)
        (.spawn capacity overflow) ops := by
  refine ⟨fun sp core ops => ?_, fun ops => ?_, fun ops hops => ?_⟩
  · have hbounded := always_induction (Hosted.bounded_step sp) ops
      (Hosted.bounded_spawn capacity overflow core)
    exact hbounded.mono fun s hs => hs.bound
  · have haccounted := always_induction Fronted.accounted_step ops
      (Fronted.accounted_spawn (T := T) capacity overflow)
    exact haccounted.mono fun s hs => ⟨hs, s.front_length_le⟩
  · have hstart : (Fronted.spawn capacity overflow : Fronted T capacity).Narrow := Nat.zero_le 1
    have hnarrow := always_of_admissible Fronted.narrow_step hstart hops
    exact hnarrow.mono fun s hs => hs.waiting_length_le

/-- Room for one message, and a forwarding task that runs ahead of the
actor. -/
def eagerForwarder : List (FrontedOp Unit) :=
  [.send (), .forward, .cast, .send (), .forward, .cast, .send ()]

theorem mailbox_bound_fails :
    ¬ ∀ (capacity : Nat) (overflow : OverflowStrategy) (ops : List (FrontedOp Unit)),
      Always Fronted.step (fun s => s.waiting.length ≤ capacity + 1)
        (.spawn capacity overflow) ops := by
  intro h
  have hlast := (h 1 .rejectWithError eagerForwarder).last
  exact absurd hlast (by decide)

/-- A forwarding task that waits for the actor. -/
def patientForwarder : List (FrontedOp Unit) :=
  [.send (), .forward, .cast, .send (), .beginNext, .forward, .send (), .cast]

theorem mailbox_bound_patientForwarder :
    Admissible Fronted.step Fronted.ForwardsIntoEmpty (.spawn 1 .rejectWithError)
        patientForwarder ∧
      (run Fronted.step (.spawn 1 .rejectWithError) patientForwarder).waiting.length ≤ 2 := by
  have hops : Admissible Fronted.step Fronted.ForwardsIntoEmpty (.spawn 1 .rejectWithError)
      patientForwarder :=
    ⟨trivial, rfl, trivial, trivial, trivial, rfl, trivial, trivial, trivial⟩
  obtain ⟨-, -, hall⟩ := mailbox_bound (σ := Unit) (A := Unit) (M := Unit) (R := Unit) (T := Unit)
    1 .rejectWithError
  exact ⟨hops, (hall patientForwarder hops).last⟩

end Dactor
