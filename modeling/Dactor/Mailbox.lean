/-
Dactor/Mailbox.lean

Mailboxes and their senders.

A spawned actor reads from a channel whose capacity comes from its
`MailboxConfig`.  The test runtime sends through `MailboxSender`, with
`send` for messages and `force_send` for stop signals; the adapters put a
`BoundedMailboxSender` in front of the framework's own mailbox.  It answers
like the first (`BoundedMailboxSender.trySend_eq_send`), and all of them add a
message in the same case: `MailboxSender.send_snd`,
`MailboxSender.forceSend_eq` and `BoundedMailboxSender.trySend_snd` say that
each leaves `Channel.offer`.
-/
import Dactor.Basic
import Dactor.Channels

namespace Dactor

open Channels

variable {T : Type}

/-- What happens when a bounded mailbox is full. -/
inductive OverflowStrategy
  | block | rejectWithError | dropNewest
  deriving DecidableEq, Repr

/-- Mailbox capacity configuration. -/
inductive MailboxConfig
  | unbounded
  | bounded (capacity : Nat) (overflow : OverflowStrategy)
  deriving DecidableEq, Repr

def MailboxConfig.capacity : MailboxConfig → Option Nat
  | .unbounded => none
  | .bounded capacity _ => some capacity

structure ActorSendError where
  message : String
  deriving DecidableEq, Repr

/-! ### The sender of the test runtime -/

/-- The sending half of a mailbox; the channel is passed separately. -/
inductive MailboxSender
  | unbounded
  | bounded (overflow : OverflowStrategy)
  deriving DecidableEq, Repr

def MailboxConfig.sender : MailboxConfig → MailboxSender
  | .unbounded => .unbounded
  | .bounded _ overflow => .bounded overflow

/-- The outcome of a send and the channel it leaves. -/
def MailboxSender.send (s : MailboxSender) (msg : T) (ch : Channel T) :
    Except ActorSendError Unit × Channel T :=
  match s with
  | .unbounded =>
    match ch.trySend msg with
    | .ok ch' => (.ok (), ch')
    | .error _ => (.error ⟨"actor stopped"⟩, ch)
  | .bounded .rejectWithError =>
    match ch.trySend msg with
    | .ok ch' => (.ok (), ch')
    | .error .full => (.error ⟨"mailbox full"⟩, ch)
    | .error .closed => (.error ⟨"actor stopped"⟩, ch)
  | .bounded .dropNewest =>
    match ch.trySend msg with
    | .ok ch' => (.ok (), ch')
    -- silently drop
    | .error .full => (.ok (), ch)
    | .error .closed => (.error ⟨"actor stopped"⟩, ch)
  | .bounded .block =>
    match ch.trySend msg with
    | .ok ch' => (.ok (), ch')
    | .error .full => (.error ⟨"mailbox full (Block not supported in sync tell)"⟩, ch)
    | .error .closed => (.error ⟨"actor stopped"⟩, ch)

/-- `force_send`: like the sends above it gives up when the channel is full,
and it discards the outcome. -/
def MailboxSender.forceSend (s : MailboxSender) (msg : T) (ch : Channel T) : Channel T :=
  match s with
  | .unbounded =>
    match ch.trySend msg with
    | .ok ch' => ch'
    | .error _ => ch
  | .bounded _ =>
    match ch.trySend msg with
    | .ok ch' => ch'
    | .error _ => ch

theorem MailboxSender.send_snd (s : MailboxSender) (msg : T) (ch : Channel T) :
    (s.send msg ch).2 = ch.offer msg := by
  rw [Channel.offer]
  rcases s with - | (- | - | -) <;>
    rcases h : ch.trySend msg with (- | -) | ch' <;> simp only [MailboxSender.send, h]

theorem MailboxSender.forceSend_eq (s : MailboxSender) (msg : T) (ch : Channel T) :
    s.forceSend msg ch = ch.offer msg := by
  cases s <;> rfl

/-! ### The front buffer of the adapters -/

structure BoundedMailboxSender where
  overflow : OverflowStrategy
  deriving DecidableEq, Repr

def BoundedMailboxSender.trySend (s : BoundedMailboxSender) (msg : T) (ch : Channel T) :
    Except ActorSendError Unit × Channel T :=
  match ch.trySend msg with
  | .ok ch' => (.ok (), ch')
  | .error .full =>
    match s.overflow with
    | .rejectWithError => (.error ⟨"mailbox full"⟩, ch)
    | .dropNewest => (.ok (), ch)
    | .block => (.error ⟨"mailbox full (Block not supported in sync tell)"⟩, ch)
  | .error .closed => (.error ⟨"actor stopped"⟩, ch)

/-- The front buffer and the test runtime's sender answer alike. -/
theorem BoundedMailboxSender.trySend_eq_send (overflow : OverflowStrategy) (msg : T)
    (ch : Channel T) :
    BoundedMailboxSender.trySend ⟨overflow⟩ msg ch =
      MailboxSender.send (.bounded overflow) msg ch := by
  cases overflow <;> rcases h : ch.trySend msg with (- | -) | ch' <;>
    simp only [BoundedMailboxSender.trySend, MailboxSender.send, h]

theorem BoundedMailboxSender.trySend_snd (s : BoundedMailboxSender) (msg : T) (ch : Channel T) :
    (s.trySend msg ch).2 = ch.offer msg := by
  obtain ⟨overflow⟩ := s
  rw [trySend_eq_send, MailboxSender.send_snd]

/-! ### Mailboxes -/

/-- The mailbox of a spawned actor: a channel of the configured capacity. -/
structure Mailbox (T : Type) where
  config : MailboxConfig
  channel : Channel T
  capacity_eq : channel.capacity = config.capacity

namespace Mailbox

def new (config : MailboxConfig) : Mailbox T := ⟨config, .new config.capacity, rfl⟩

/-- A message sent now gets into the mailbox. -/
def Admits (mb : Mailbox T) : Prop := mb.channel.Admits

instance (mb : Mailbox T) : Decidable mb.Admits := inferInstanceAs (Decidable mb.channel.Admits)

/-- `send`, as it leaves the mailbox. -/
def send (mb : Mailbox T) (msg : T) : Except ActorSendError Unit × Mailbox T :=
  let sent := mb.config.sender.send msg mb.channel
  (sent.1, { mb with
    channel := sent.2
    capacity_eq := by
      rw [MailboxSender.send_snd, Channel.offer_capacity]
      exact mb.capacity_eq })

/-- `force_send`, as it leaves the mailbox. -/
def forceSend (mb : Mailbox T) (msg : T) : Mailbox T :=
  { mb with
    channel := mb.config.sender.forceSend msg mb.channel
    capacity_eq := by
      rw [MailboxSender.forceSend_eq, Channel.offer_capacity]
      exact mb.capacity_eq }

/-- `rx.recv()` on a non-empty mailbox. -/
def recv (mb : Mailbox T) : Option (T × Mailbox T) :=
  match h : mb.channel.recv with
  | none => none
  | some (x, channel) =>
    some (x, ⟨mb.config, channel, (Channel.recv_eq_some h).2.1.trans mb.capacity_eq⟩)

/-- The receiver is dropped. -/
def close (mb : Mailbox T) : Mailbox T := ⟨mb.config, mb.channel.close, mb.capacity_eq⟩

theorem send_queue (mb : Mailbox T) (msg : T) :
    (mb.send msg).2.channel.queue =
      if mb.Admits then mb.channel.queue ++ [msg] else mb.channel.queue := by
  show (mb.config.sender.send msg mb.channel).2.queue = _
  rw [MailboxSender.send_snd, Channel.offer_queue]
  rfl

theorem forceSend_queue (mb : Mailbox T) (msg : T) :
    (mb.forceSend msg).channel.queue =
      if mb.Admits then mb.channel.queue ++ [msg] else mb.channel.queue := by
  show (mb.config.sender.forceSend msg mb.channel).queue = _
  rw [MailboxSender.forceSend_eq, Channel.offer_queue]
  rfl

theorem send_closed (mb : Mailbox T) (msg : T) :
    (mb.send msg).2.channel.closed = mb.channel.closed := by
  show (mb.config.sender.send msg mb.channel).2.closed = _
  rw [MailboxSender.send_snd, Channel.offer_closed]

theorem forceSend_closed (mb : Mailbox T) (msg : T) :
    (mb.forceSend msg).channel.closed = mb.channel.closed := by
  show (mb.config.sender.forceSend msg mb.channel).closed = _
  rw [MailboxSender.forceSend_eq, Channel.offer_closed]

theorem recv_eq_some {mb mb' : Mailbox T} {x : T} (h : mb.recv = some (x, mb')) :
    mb.channel.queue = x :: mb'.channel.queue ∧ mb'.channel.closed = mb.channel.closed := by
  rw [recv] at h
  split at h
  · cases h
  · next y channel hch =>
      obtain ⟨rfl, rfl⟩ := Prod.mk.inj (Option.some.inj h)
      obtain ⟨hq, -, hclosed⟩ := Channel.recv_eq_some hch
      exact ⟨hq, hclosed⟩

theorem recv_config {mb mb' : Mailbox T} {x : T} (h : mb.recv = some (x, mb')) :
    mb'.config = mb.config := by
  rw [recv] at h
  split at h
  · cases h
  · obtain ⟨-, rfl⟩ := Prod.mk.inj (Option.some.inj h)
    rfl

end Mailbox

end Dactor
