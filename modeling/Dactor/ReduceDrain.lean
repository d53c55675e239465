/-
Dactor/ReduceDrain.lean

The drain of a `reduce` call: it takes the items of the input stream, runs
the outbound interceptors on each, and sends what passes to a channel.

`spawn_reduce_drain` and the first stage of `spawn_reduce_batched_drain` are
the same loop; they differ in the channel and in the text of their drop
notices.  `DrainLoop` holds the variables of the loop, `drained` says what it
has decided after so many turns, and `Intake` adds the item on its way to the
channel.  The second part of the file is the plain drain, where the channel
is the actor's.

Main result: `PlainDrain.always_exact`, the plain drain on every schedule.
-/
import Dactor.Channels
import Dactor.Outbound
import Dactor.Runs

namespace Dactor

open Runs Channels

variable {σ T : Type}

/-! ### The loop -/

/-- What `reduce` passes to a drain.  `input n` is what the `n`-th call of
`input.next()` returns, `none` at the end of the stream. -/
structure ReduceCall (σ T : Type) where
  pipeline : OutboundPipeline σ T
  messageType : String
  itemSize : Nat
  input : Nat → Option T

/-- The variables of the loop between two turns, with the items it let
through and the notices it gave. -/
structure DrainLoop (σ T : Type) where
  turns : Nat
  seq : UInt64
  istate : σ
  forwarded : List T
  notices : List DropNotice
  done : Bool

def DrainLoop.start (istate : σ) : DrainLoop σ T := ⟨0, 0, istate, [], [], false⟩

/-- `notify_item_drop`: the notices a drop observer gets. -/
def OutboundPipeline.notifyItemDrop (p : OutboundPipeline σ T) (messageType : String)
    (sendMode : SendMode) (context interceptorName : String) (seq : UInt64) : List DropNotice :=
  if p.dropObserver then
    [⟨p.targetName, messageType, interceptorName, sendMode, context, some seq⟩]
  else []

/-- One turn: the next item is intercepted and passed on, possibly after a
delay, or dropped, or it ends the loop.  A loop that has ended takes no
turn. -/
def ReduceCall.turn (c : ReduceCall σ T) (context : String) (l : DrainLoop σ T) :
    DrainLoop σ T × Option (T × Nat) :=
  if l.done then (l, none)
  else
    match c.input l.turns with
    | none => ({ l with turns := l.turns + 1, done := true }, none)
    | some item =>
      let octx := ⟨c.pipeline.targetId, c.pipeline.targetName, c.messageType, .reduce, false⟩
      let (result, istate) := interceptOutboundStreamItem octx Headers.new l.seq item
        c.pipeline.interceptors l.istate
      let l := { l with turns := l.turns + 1, seq := l.seq + 1, istate }
      match result.disposition with
      | .continued => ({ l with forwarded := l.forwarded ++ [item] }, some (item, 0))
      | .drop | .retry _ =>
        let notices := c.pipeline.notifyItemDrop c.messageType .reduce context
          result.interceptorName (l.seq - 1)
        ({ l with notices := l.notices ++ notices }, none)
      | .delay d => ({ l with forwarded := l.forwarded ++ [item] }, some (item, d))
      | .reject _ => ({ l with done := true }, none)

/-- The loop after `n` turns. -/
def ReduceCall.drained (c : ReduceCall σ T) (context : String) (istate : σ) :
    Nat → DrainLoop σ T
  | 0 => .start istate
  | n + 1 => (c.turn context (c.drained context istate n)).1

/-! ### What a turn does -/

section Loop

variable {c : ReduceCall σ T} {context : String} {istate : σ} {l : DrainLoop σ T}

theorem ReduceCall.turn_of_done (h : l.done = true) : c.turn context l = (l, none) := by
  rw [ReduceCall.turn, if_pos h]

/-- What a turn lets through, the notices it gives, and when the loop still
runs after it. -/
structure TurnSpec (l : DrainLoop σ T) (r : DrainLoop σ T × Option (T × Nat)) : Prop where
  forwarded : r.1.forwarded = l.forwarded ++ (r.2.map Prod.fst).toList
  notices : l.notices <+: r.1.notices
  turns : l.done = false → r.1.turns = l.turns + 1
  running : r.2.isSome → r.1.done = false

theorem ReduceCall.turn_spec (c : ReduceCall σ T) (context : String) (l : DrainLoop σ T) :
    TurnSpec l (c.turn context l) := by
  by_cases hdone : l.done = true
  · rw [turn_of_done hdone]
    refine ⟨(List.append_nil _).symm, List.prefix_rfl, ?_, ?_⟩
    · intro h
      rw [h] at hdone
      cases hdone
    · intro h
      cases h
  · rw [Bool.not_eq_true] at hdone
    rw [ReduceCall.turn, if_neg (by rw [hdone]; exact Bool.false_ne_true)]
    have hnil : l.forwarded = l.forwarded ++ [] := (List.append_nil _).symm
    split
    · exact ⟨hnil, List.prefix_rfl, fun _ => rfl, fun h => by cases h⟩
    · dsimp only
      split
      · exact ⟨rfl, List.prefix_rfl, fun _ => rfl, fun _ => hdone⟩
      · exact ⟨hnil, List.prefix_append _ _, fun _ => rfl, fun h => by cases h⟩
      · exact ⟨hnil, List.prefix_append _ _, fun _ => rfl, fun h => by cases h⟩
      · exact ⟨rfl, List.prefix_rfl, fun _ => rfl, fun _ => hdone⟩
      · exact ⟨hnil, List.prefix_rfl, fun _ => rfl, fun h => by cases h⟩

/-! ### After so many turns -/

theorem ReduceCall.drained_succ (n : Nat) :
    c.drained context istate (n + 1) = (c.turn context (c.drained context istate n)).1 := rfl

/-- An ended loop stays as it is. -/
theorem ReduceCall.drained_of_done {n m : Nat}
    (h : (c.drained context istate n).done = true) (hnm : n ≤ m) :
    c.drained context istate m = c.drained context istate n := by
  induction m, hnm using Nat.le_induction with
  | base => rfl
  | succ m _ ih => rw [drained_succ, ih, turn_of_done h]

theorem ReduceCall.forwarded_mono {n m : Nat} (hnm : n ≤ m) :
    (c.drained context istate n).forwarded <+: (c.drained context istate m).forwarded := by
  induction m, hnm using Nat.le_induction with
  | base => exact List.prefix_rfl
  | succ m _ ih =>
      rw [drained_succ, (c.turn_spec context _).forwarded]
      exact ih.trans (List.prefix_append _ _)

theorem ReduceCall.notices_mono {n m : Nat} (hnm : n ≤ m) :
    (c.drained context istate n).notices <+: (c.drained context istate m).notices := by
  induction m, hnm using Nat.le_induction with
  | base => exact List.prefix_rfl
  | succ m _ ih => exact ih.trans (c.turn_spec context _).notices

/-- While the loop runs, it counts its turns. -/
theorem ReduceCall.drained_turns {n : Nat} (h : (c.drained context istate n).done = false) :
    (c.drained context istate n).turns = n := by
  induction n with
  | zero => rfl
  | succ n ih =>
      cases hdone : (c.drained context istate n).done with
      | true =>
          rw [drained_of_done hdone (Nat.le_succ n), hdone] at h
          cases h
      | false => rw [drained_succ, (c.turn_spec context _).turns hdone, ih hdone]

/-- The loop is determined by the turns it counts. -/
theorem ReduceCall.drained_eq_turns (n : Nat) :
    c.drained context istate (c.drained context istate n).turns = c.drained context istate n := by
  induction n with
  | zero => rfl
  | succ n ih =>
      cases hdone : (c.drained context istate n).done with
      | true =>
          rw [drained_of_done hdone (Nat.le_succ n)]
          exact ih
      | false =>
          have hturns : (c.drained context istate (n + 1)).turns = n + 1 := by
            rw [drained_succ, (c.turn_spec context _).turns hdone, drained_turns hdone]
          rw [hturns]

/-! ### The text of the notices -/

/-- A notice without its text. -/
def DropNotice.sansContext (n : DropNotice) : DropNotice := { n with context := "" }

def DrainLoop.sansContext (l : DrainLoop σ T) : DrainLoop σ T :=
  { l with notices := l.notices.map DropNotice.sansContext }

theorem OutboundPipeline.notifyItemDrop_sansContext (p : OutboundPipeline σ T)
    (messageType : String) (sendMode : SendMode) (context context' name : String) (seq : UInt64) :
    (p.notifyItemDrop messageType sendMode context name seq).map DropNotice.sansContext =
      (p.notifyItemDrop messageType sendMode context' name seq).map DropNotice.sansContext := by
  rw [OutboundPipeline.notifyItemDrop, OutboundPipeline.notifyItemDrop]
  split <;> rfl

/-- Nothing but the notices depends on the text. -/
theorem ReduceCall.turn_sansContext (c : ReduceCall σ T) (context context' : String)
    {l l' : DrainLoop σ T} (h : l.sansContext = l'.sansContext) :
    (c.turn context l).1.sansContext = (c.turn context' l').1.sansContext := by
  obtain ⟨turns, seq, istate, forwarded, notices, done⟩ := l
  obtain ⟨turns', seq', istate', forwarded', notices', done'⟩ := l'
  simp only [DrainLoop.sansContext, DrainLoop.mk.injEq] at h
  obtain ⟨rfl, rfl, rfl, rfl, hnotices, rfl⟩ := h
  rw [ReduceCall.turn, ReduceCall.turn]
  split
  · simp only [DrainLoop.sansContext, hnotices]
  · dsimp only
    split
    · simp only [DrainLoop.sansContext, hnotices]
    · split
      · simp only [DrainLoop.sansContext, hnotices]
      · simp only [DrainLoop.sansContext, List.map_append, hnotices,
          c.pipeline.notifyItemDrop_sansContext _ _ context context']
      · simp only [DrainLoop.sansContext, List.map_append, hnotices,
          c.pipeline.notifyItemDrop_sansContext _ _ context context']
      · simp only [DrainLoop.sansContext, hnotices]
      · simp only [DrainLoop.sansContext, hnotices]

theorem ReduceCall.drained_sansContext (c : ReduceCall σ T) (context context' : String)
    (istate : σ) (n : Nat) :
    (c.drained context istate n).sansContext = (c.drained context' istate n).sansContext := by
  induction n with
  | zero => rfl
  | succ n ih => exact c.turn_sansContext context context' ih

end Loop

/-! ### The item on its way -/

/-- The loop with the item it is about to send and the instant its delay is
over. -/
structure Intake (σ T : Type) where
  loop : DrainLoop σ T
  held : Option (T × Nat)

namespace Intake

def start (istate : σ) : Intake σ T := ⟨.start istate, none⟩

/-- The input yields.  A cancelled drain ends instead. -/
def next (c : ReduceCall σ T) (context : String) (clock : Nat) (cancelled : Bool)
    (k : Intake σ T) : Intake σ T :=
  if k.held.isSome then k
  else if cancelled then { k with loop := { k.loop with done := true } }
  else
    let (loop, item) := c.turn context k.loop
    ⟨loop, item.map fun x => (x.1, clock + x.2)⟩

/-- `tx.send(item).await` after the delay; the drain ends when the channel is
closed. -/
def forward (clock : Nat) (k : Intake σ T) (ch : Channel T) : Intake σ T × Channel T :=
  match k.held with
  | none => (k, ch)
  | some (item, readyAt) =>
    if readyAt ≤ clock then
      match ch.trySend item with
      | .ok ch' => ({ k with held := none }, ch')
      | .error .full => (k, ch)
      | .error .closed => (⟨{ k.loop with done := true }, none⟩, ch)
    else (k, ch)

/-- The held item, if any. -/
def heldItems (k : Intake σ T) : List T := (k.held.map Prod.fst).toList

/-- The intake of an undisturbed drain: the loop is where its turns lead, and
it holds no item when it has ended. -/
structure Faithful (c : ReduceCall σ T) (context : String) (istate : σ) (k : Intake σ T) :
    Prop where
  loop : k.loop = c.drained context istate k.loop.turns
  held : k.loop.done = true → k.held = none

variable {c : ReduceCall σ T} {context : String} {istate : σ} {k : Intake σ T}

theorem Faithful.start : (start istate : Intake σ T).Faithful c context istate :=
  ⟨rfl, fun h => by cases h⟩

/-- The input moves the loop on by one turn, and nothing is lost of what it
lets through. -/
theorem Faithful.next (h : k.Faithful c context istate) (clock : Nat) :
    (k.next c context clock false).Faithful c context istate ∧
      ∀ before, before ++ k.heldItems = k.loop.forwarded →
        before ++ (k.next c context clock false).heldItems =
          (k.next c context clock false).loop.forwarded := by
  rw [Intake.next]
  split
  · exact ⟨h, fun _ hb => hb⟩
  · next hnone =>
      have hheld : k.held = none := by
        cases hk : k.held with
        | none => rfl
        | some x => exact absurd (by rw [hk]; rfl) hnone
      have hspec := c.turn_spec context k.loop
      have hloop : (c.turn context k.loop).1 =
          c.drained context istate (k.loop.turns + 1) := by
        rw [ReduceCall.drained_succ, ← h.loop]
      rw [if_neg Bool.false_ne_true]
      refine ⟨⟨?_, fun hdone => ?_⟩, fun before hb => ?_⟩
      · show (c.turn context k.loop).1 = c.drained context istate (c.turn context k.loop).1.turns
        rw [hloop, ReduceCall.drained_eq_turns]
      · show (c.turn context k.loop).2.map _ = none
        have hdone' : (c.turn context k.loop).1.done = true := hdone
        cases hitem : (c.turn context k.loop).2 with
        | none => rfl
        | some x =>
            have hrun := hspec.running (by rw [hitem]; rfl)
            rw [hrun] at hdone'
            cases hdone'
      · have hbefore : before = k.loop.forwarded := by
          rw [heldItems, hheld] at hb
          simpa using hb
        show before ++ (((c.turn context k.loop).2.map _).map Prod.fst).toList =
          (c.turn context k.loop).1.forwarded
        rw [hspec.forwarded, hbefore, Option.map_map]
        rfl

/-- An ended loop takes nothing more from the input. -/
theorem Faithful.next_of_done (h : k.Faithful c context istate) (hdone : k.loop.done = true)
    (clock : Nat) : k.next c context clock false = k := by
  have hheld := h.held hdone
  have hturn : c.turn context k.loop = (k.loop, none) := ReduceCall.turn_of_done hdone
  rw [Intake.next, hheld, if_neg (by exact Bool.false_ne_true), if_neg Bool.false_ne_true, hturn]
  show (⟨k.loop, none⟩ : Intake σ T) = k
  rw [← hheld]

/-- On an open channel, the held item is sent on or stays. -/
theorem forward_cases (clock : Nat) (k : Intake σ T) {ch : Channel T} (hopen : ch.closed = false) :
    k.forward clock ch = (k, ch) ∨
      ∃ item readyAt, ∃ hroom : ch.HasRoom, k.held = some (item, readyAt) ∧
        k.forward clock ch = ({ k with held := none }, ch.enqueue item hroom) := by
  rw [forward]
  split
  · exact .inl rfl
  · next item readyAt hheld =>
      split
      · by_cases hroom : ch.HasRoom
        · rw [Channel.trySend_of_admits ⟨hopen, hroom⟩]
          exact .inr ⟨item, readyAt, hroom, hheld, rfl⟩
        · rw [Channel.trySend_of_full hopen hroom]
          exact .inl rfl
      · exact .inl rfl

/-- An item whose delay is over goes into a channel with room. -/
theorem forward_of_admits {clock : Nat} {ch : Channel T} {item : T} {readyAt : Nat}
    (hheld : k.held = some (item, readyAt)) (hready : readyAt ≤ clock) (h : ch.Admits) :
    k.forward clock ch = ({ k with held := none }, ch.enqueue item h.2) := by
  rw [forward, hheld]
  dsimp only
  rw [if_pos hready, Channel.trySend_of_admits h]

end Intake

/-! ### The plain drain -/

/-- `spawn_reduce_drain`: the loop sends to the actor's item channel.
`received` is what the actor has taken out of it. -/
structure PlainDrain (σ T : Type) where
  intake : Intake σ T
  items : Channel T
  received : List T
  clock : Nat
  cancelled : Bool

/-- A step: the input yields, the drain sends, the actor receives, time
passes, the call is cancelled, or the actor drops its end. -/
inductive DrainOp
  | next
  | forward
  | recv
  | wait (d : Nat)
  | cancel
  | close

/-- The context of a plain drain's notices. -/
def feedItem : String := "feed item"

namespace PlainDrain

/-- `reduce` makes the channel with room for at least one item. -/
def start (buffer : Nat) (istate : σ) : PlainDrain σ T :=
  ⟨.start istate, .new (some (max buffer 1)), [], 0, false⟩

def step (c : ReduceCall σ T) (s : PlainDrain σ T) : DrainOp → PlainDrain σ T
  | .next => { s with intake := s.intake.next c feedItem s.clock s.cancelled }
  | .forward =>
    let (intake, items) := s.intake.forward s.clock s.items
    { s with intake, items }
  | .recv =>
    match s.items.recv with
    | none => s
    | some (item, items) => { s with items, received := s.received ++ [item] }
  | .wait d => { s with clock := s.clock + d }
  | .cancel => { s with cancelled := true }
  | .close => { s with items := s.items.close }

/-- The actor keeps its channel open and nobody cancels. -/
def Undisturbed (_ : PlainDrain σ T) : DrainOp → Prop
  | .cancel | .close => False
  | _ => True

/-- What has reached the actor's channel. -/
def delivered (s : PlainDrain σ T) : List T := s.received ++ s.items.queue

/-- The drain is over, and its end of the channel dropped. -/
def closed (s : PlainDrain σ T) : Bool := s.intake.loop.done

/-- What has been delivered, and the held item, are what the loop has let
through so far. -/
structure Exact (c : ReduceCall σ T) (istate : σ) (s : PlainDrain σ T) : Prop where
  intake : s.intake.Faithful c feedItem istate
  flow : s.delivered ++ s.intake.heldItems = s.intake.loop.forwarded
  itemsOpen : s.items.closed = false
  notCancelled : s.cancelled = false

variable {c : ReduceCall σ T} {istate : σ} {s : PlainDrain σ T}

theorem Exact.next (h : s.Exact c istate) : (s.step c .next).Exact c istate := by
  obtain ⟨hfaithful, hflow⟩ := h.intake.next s.clock
  simp only [step, h.notCancelled]
  exact ⟨hfaithful, hflow _ h.flow, h.itemsOpen, rfl⟩

theorem Exact.forward (h : s.Exact c istate) : (s.step c .forward).Exact c istate := by
  rcases s.intake.forward_cases s.clock h.itemsOpen with heq | ⟨item, readyAt, hroom, hheld, heq⟩
  · simp only [step, heq]
    exact h
  · simp only [step, heq]
    refine ⟨⟨h.intake.loop, fun _ => rfl⟩, ?_, h.itemsOpen, h.notCancelled⟩
    have hitem : s.intake.heldItems = [item] := by rw [Intake.heldItems, hheld]; rfl
    rw [← h.flow, hitem]
    show (s.received ++ (s.items.queue ++ [item])) ++ [] = (s.received ++ s.items.queue) ++ [item]
    rw [List.append_nil, List.append_assoc]

theorem Exact.recv (h : s.Exact c istate) : (s.step c .recv).Exact c istate := by
  rw [step]
  split
  · exact h
  · next item items hrecv =>
      obtain ⟨hq, -, hclosed⟩ := Channel.recv_eq_some hrecv
      refine ⟨h.intake, ?_, hclosed.trans h.itemsOpen, h.notCancelled⟩
      rw [← h.flow]
      show (s.received ++ [item]) ++ items.queue ++ _ = s.received ++ s.items.queue ++ _
      rw [hq, List.append_assoc s.received, List.singleton_append]

theorem exact_step (s : PlainDrain σ T) (op : DrainOp) (hop : s.Undisturbed op)
    (h : s.Exact c istate) : (s.step c op).Exact c istate := by
  cases op with
  | next => exact h.next
  | forward => exact h.forward
  | recv => exact h.recv
  | wait d => exact ⟨h.intake, h.flow, h.itemsOpen, h.notCancelled⟩
  | cancel => exact hop.elim
  | close => exact hop.elim

/-- **The plain drain delivers what its loop lets through**, in order, on
every undisturbed schedule. -/
theorem always_exact (c : ReduceCall σ T) (istate : σ) (buffer : Nat) {ops : List DrainOp}
    (hops : Admissible (step c) Undisturbed (start buffer istate) ops) :
    Always (step c) (Exact c istate) (start buffer istate) ops :=
  always_of_admissible exact_step ⟨.start, rfl, rfl, rfl⟩ hops

theorem Exact.delivered_prefix (h : s.Exact c istate) :
    s.delivered <+: s.intake.loop.forwarded := by
  rw [← h.flow]
  exact List.prefix_append _ _

theorem Exact.delivered_eq (h : s.Exact c istate) (hclosed : s.closed = true) :
    s.delivered = s.intake.loop.forwarded := by
  rw [← h.flow, Intake.heldItems, h.intake.held hclosed]
  exact (List.append_nil _).symm

end PlainDrain

end Dactor
