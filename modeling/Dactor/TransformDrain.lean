/-
Dactor/TransformDrain.lean

When an actor is told that the input of a transform has ended.

Two tasks share the item channel and the token.  The drain
(`spawn_transform_drain`) looks at the token before each poll of the input,
sends what the interceptors let through, and drops its sender when it ends,
for whatever reason.  The dispatch (`TransformDispatch::dispatch`) looks at
the token when it has received an item, and takes the end of the channel for
the end of the input.  The runtime polls the dispatch first and looks at the
token only when the dispatch is pending.

So nothing looks at the token between the end of the channel and
`on_transform_complete`: a drain that the token has stopped, or that has
panicked, passes for one that has reached the end of its input.

Main result: `transform_complete_iff`, on every interleaving.
-/
import Dactor.ReduceDrain

namespace Dactor

open Runs Channels

variable {σ T : Type}

/-! ### The drain -/

/-- What `transform` passes to the drain.  `input n` is what the `n`-th item
of the input stream is, `none` at its end. -/
structure TransformCall (σ T : Type) where
  pipeline : OutboundPipeline σ T
  messageType : String
  input : Nat → Option T
  token : Bool

/-- Why the drain ended. -/
inductive DrainEnd
  | inputEnd
  | rejected
  | cancelled
  | receiverGone
  | panicked
  deriving DecidableEq, Repr

/-- Where the drain is: at the top of its loop; past its look at the token,
polling the input; with an item that passes and the instant its delay is
over; or at its end, and whether the token was cancelled by then. -/
inductive DrainPhase (T : Type)
  | idle
  | polling
  | holding (item : T) (readyAt : Nat)
  | ended (why : DrainEnd) (afterCancel : Bool)

structure TransformDrain (σ T : Type) where
  turns : Nat
  seq : UInt64
  istate : σ
  notices : List DropNotice
  phase : DrainPhase T

/-- The input is ready: the next item is intercepted, or the input ends. -/
def TransformCall.next (c : TransformCall σ T) (clock : Nat) (cancelled : Bool)
    (d : TransformDrain σ T) : TransformDrain σ T :=
  match c.input d.turns with
  | none => { d with turns := d.turns + 1, phase := .ended .inputEnd cancelled }
  | some item =>
    let octx := ⟨c.pipeline.targetId, c.pipeline.targetName, c.messageType, .transform, false⟩
    let (result, istate) := interceptOutboundStreamItem octx Headers.new d.seq item
      c.pipeline.interceptors d.istate
    let d := { d with turns := d.turns + 1, seq := d.seq + 1, istate }
    match result.disposition with
    -- what passes is on its way, at once or after a delay
    | .continued => { d with phase := .holding item clock }
    | .drop | .retry _ =>
      let notices := c.pipeline.notifyItemDrop c.messageType .transform "transform input item"
        result.interceptorName (d.seq - 1)
      { d with notices := d.notices ++ notices, phase := .idle }
    | .delay t => { d with phase := .holding item (clock + t) }
    | .reject _ => { d with phase := .ended .rejected cancelled }

/-! ### The two tasks -/

/-- The calls that the actor gets. -/
inductive TransformEvent (T : Type)
  | handleTransform (item : T)
  | onTransformComplete
  deriving DecidableEq, Repr

/-- Where the dispatch is: in the mailbox; at `receiver.recv()`; in
`handle_transform`; in `on_transform_complete`; or gone, and the receiver
with it. -/
inductive DispatchPhase
  | queued
  | receiving
  | handling
  | completing
  | finished
  deriving DecidableEq, Repr

/-- The dispatch may still receive. -/
def DispatchPhase.underWay : DispatchPhase → Bool
  | .queued | .receiving | .handling => true
  | .completing | .finished => false

/-- The actor has taken the envelope, and the dispatch may still receive. -/
def DispatchPhase.begun : DispatchPhase → Bool
  | .receiving | .handling => true
  | .queued | .completing | .finished => false

theorem DispatchPhase.underWay_of_begun {phase : DispatchPhase} (h : phase.begun = true) :
    phase.underWay = true := by
  cases phase with
  | receiving => rfl
  | handling => rfl
  | queued | completing | finished => cases h

structure Transform (σ T : Type) where
  drain : TransformDrain σ T
  items : Channel T
  dispatch : DispatchPhase
  events : List (TransformEvent T)
  clock : Nat
  cancelled : Bool

/-- A step of the drain: it looks at the token; the input is pending, or
ready; the input or an interceptor panics; the item it holds is sent. -/
inductive DrainMove
  | check
  | inputPending
  | inputReady
  | panic
  | forward
  deriving DecidableEq, Repr

/-- A step of the dispatch: the actor takes the envelope; `recv` is polled;
the handler is pending, or returns; the envelope is dropped, by a veto, a
panic of the handler or the end of the actor. -/
inductive DispatchMove
  | begin
  | recv
  | pending
  | returned
  | drop
  deriving DecidableEq, Repr

inductive TransformOp
  | drain (move : DrainMove)
  | dispatch (move : DispatchMove)
  | cancel
  | wait (d : Nat)
  deriving DecidableEq, Repr

namespace Transform

/-- `transform` makes the channel with room for at least one item. -/
def start (buffer : Nat) (istate : σ) : Transform σ T where
  drain := ⟨0, 0, istate, [], .idle⟩
  items := .new (some (max buffer 1))
  dispatch := .queued
  events := []
  clock := 0
  cancelled := false

variable (c : TransformCall σ T) (s : Transform σ T)

/-- The drain ends. -/
def drainEnds (why : DrainEnd) : Transform σ T :=
  { s with drain := { s.drain with phase := .ended why s.cancelled } }

def drainAt (phase : DrainPhase T) : Transform σ T := { s with drain := { s.drain with phase } }

/-- `item_tx.send(item).await`, after the delay. -/
def forward : Transform σ T :=
  match s.drain.phase with
  | .holding item readyAt =>
    if readyAt ≤ s.clock then
      match s.items.trySend item with
      | .ok items => { s with items, drain := { s.drain with phase := .idle } }
      -- the send waits for room, and does not look at the token meanwhile
      | .error .full => s
      | .error .closed => s.drainEnds .receiverGone
    else s
  | _ => s

def drainStep : DrainMove → Transform σ T
  -- `biased`: the token comes before the input
  | .check =>
    match s.drain.phase with
    | .idle => if s.cancelled then s.drainEnds .cancelled else s.drainAt .polling
    | _ => s
  -- the next poll of the select begins with the token again
  | .inputPending =>
    match s.drain.phase with
    | .polling => s.drainAt .idle
    | _ => s
  | .inputReady =>
    match s.drain.phase with
    | .polling => { s with drain := c.next s.clock s.cancelled s.drain }
    | _ => s
  -- `catch_unwind`: the task ends like any other
  | .panic =>
    match s.drain.phase with
    | .polling => s.drainEnds .panicked
    | _ => s
  | .forward => s.forward

/-- The dispatch is gone, and its receiver dropped. -/
def dispatchEnds : Transform σ T := { s with dispatch := .finished, items := s.items.close }

/-- The dispatch is pending, and the runtime looks at the token. -/
def race : Transform σ T := if s.cancelled then s.dispatchEnds else s

/-- The drain has dropped its sender. -/
def senderGone : Bool :=
  match s.drain.phase with
  | .ended _ _ => true
  | _ => false

/-- `while let Some(item) = receiver.recv().await`. -/
def recv : Transform σ T :=
  match s.items.recv with
  | some (item, items) =>
    if s.cancelled then s.dispatchEnds
    else { s with items, dispatch := .handling, events := s.events ++ [.handleTransform item] }
  | none =>
    -- `recv` returns `None`, and `cancelled` is still false
    if s.senderGone then
      { s with dispatch := .completing, events := s.events ++ [.onTransformComplete] }
    else s.race

def dispatchStep : DispatchMove → Transform σ T
  -- the check before the dispatch
  | .begin =>
    match s.dispatch with
    | .queued => if s.cancelled then s.dispatchEnds else { s with dispatch := .receiving }
    | _ => s
  | .recv =>
    match s.dispatch with
    | .receiving => s.recv
    | _ => s
  | .pending =>
    match s.dispatch with
    | .handling | .completing => s.race
    | _ => s
  | .returned =>
    match s.dispatch with
    | .handling => { s with dispatch := .receiving }
    | .completing => s.dispatchEnds
    | _ => s
  | .drop => s.dispatchEnds

/-- Without a token nothing is cancelled. -/
def step : TransformOp → Transform σ T
  | .drain move => s.drainStep c move
  | .dispatch move => s.dispatchStep move
  | .cancel => if c.token then { s with cancelled := true } else s
  | .wait d => { s with clock := s.clock + d }

/-! ### The contract -/

/-- The drain has reached the end of the input, or an item was rejected, and
the token was not cancelled before. -/
def EndedNormally : Prop :=
  s.drain.phase = .ended .inputEnd false ∨ s.drain.phase = .ended .rejected false

/-- The calls of `handle_transform` for these items. -/
def handled (items : List T) : List (TransformEvent T) := items.map .handleTransform

/-- `on_transform_complete` is called at most once, after the last
`handle_transform`, and only when the drain has ended normally. -/
def CompletesAtEnd : Prop :=
  ∃ items, s.events = handled items ∨
    s.events = handled items ++ [.onTransformComplete] ∧ s.EndedNormally

/-- `recv` finds the channel empty and the sender gone. -/
def FindsEnd (move : DispatchMove) : Prop :=
  move = .recv ∧ s.dispatch = .receiving ∧ s.items.queue = [] ∧ s.senderGone = true

/-- When the dispatch finds its channel empty and the sender gone, the token
was not cancelled before the drain came to the end of its input, and the drain
has not panicked. -/
def FindsNormalEnd : TransformOp → Prop
  | .dispatch move => s.FindsEnd move → s.EndedNormally
  | _ => True

/-- Once the dispatch has begun, the token is not cancelled before the drain
has ended; and nothing in the drain panics while the dispatch is under way. -/
def Undisturbed : TransformOp → Prop
  | .cancel => s.dispatch.begun = true → s.senderGone = true
  | .drain .panic => s.dispatch.underWay = false
  | _ => True

/-! ### What a step does -/

/-- A step of the drain that nothing disturbs. -/
def Quiet (move : DrainMove) : Prop :=
  s.cancelled = false ∧ s.items.closed = false ∧ move ≠ .panic

/-- What a step of the drain can do. -/
structure DrainSpec (move : DrainMove) (s s' : Transform σ T) : Prop where
  dispatch : s'.dispatch = s.dispatch
  events : s'.events = s.events
  cancelled : s'.cancelled = s.cancelled
  closed : s'.items.closed = s.items.closed
  ended : s.senderGone = true → s' = s
  ends : s.Quiet move → s.senderGone = false → s'.senderGone = true → s'.EndedNormally

variable {c s}

theorem DrainSpec.refl (move : DrainMove) (s : Transform σ T) : DrainSpec move s s := by
  refine ⟨rfl, rfl, rfl, rfl, fun _ => rfl, ?_⟩
  intro _ hrunning hgone
  rw [hrunning] at hgone
  cases hgone

/-- The drain goes on. -/
theorem DrainSpec.of_running {move : DrainMove} {drain : TransformDrain σ T} {items : Channel T}
    (hclosed : items.closed = s.items.closed) (hbefore : s.senderGone = false)
    (hafter : ({ s with drain, items } : Transform σ T).senderGone = false) :
    DrainSpec move s { s with drain, items } := by
  refine ⟨rfl, rfl, rfl, hclosed, ?_, ?_⟩
  · intro hgone
    rw [hbefore] at hgone
    cases hgone
  · intro _ _ hgone
    rw [hafter] at hgone
    cases hgone

/-- The drain ends. -/
theorem DrainSpec.of_ended {move : DrainMove} {drain : TransformDrain σ T}
    (hbefore : s.senderGone = false)
    (hends : s.Quiet move → ({ s with drain } : Transform σ T).EndedNormally) :
    DrainSpec move s { s with drain } := by
  refine ⟨rfl, rfl, rfl, rfl, ?_, fun hquiet _ _ => hends hquiet⟩
  intro hgone
  rw [hbefore] at hgone
  cases hgone

theorem forward_spec (s : Transform σ T) : DrainSpec .forward s s.forward := by
  unfold forward
  split
  · next item readyAt hphase =>
      have hrunning : s.senderGone = false := by rw [senderGone, hphase]
      split
      · by_cases hclosed : s.items.closed = true
        · rw [Channel.trySend_of_closed hclosed]
          refine .of_ended hrunning ?_
          rintro ⟨-, hopen, -⟩
          rw [hclosed] at hopen
          cases hopen
        · rw [Bool.not_eq_true] at hclosed
          by_cases hroom : s.items.HasRoom
          · rw [Channel.trySend_of_admits ⟨hclosed, hroom⟩]
            exact .of_running rfl hrunning rfl
          · rw [Channel.trySend_of_full hclosed hroom]
            exact .refl _ s
      · exact .refl _ s
  · exact .refl _ s

/-- The input is ready: the drain ends at its end, or at a rejected item. -/
theorem inputReady_spec (c : TransformCall σ T) (hphase : s.drain.phase = .polling) :
    DrainSpec .inputReady s { s with drain := c.next s.clock s.cancelled s.drain } := by
  have hrunning : s.senderGone = false := by rw [senderGone, hphase]
  unfold TransformCall.next
  split
  · refine .of_ended hrunning ?_
    rintro ⟨hcancel, -, -⟩
    exact .inl (congrArg _ hcancel)
  · dsimp only
    split
    · exact .of_running rfl hrunning rfl
    · exact .of_running rfl hrunning rfl
    · exact .of_running rfl hrunning rfl
    · exact .of_running rfl hrunning rfl
    · refine .of_ended hrunning ?_
      rintro ⟨hcancel, -, -⟩
      exact .inr (congrArg _ hcancel)

theorem drainStep_spec (c : TransformCall σ T) (s : Transform σ T) (move : DrainMove) :
    DrainSpec move s (s.drainStep c move) := by
  cases move with
  | check =>
      rw [drainStep]
      split
      · next hphase =>
          have hrunning : s.senderGone = false := by rw [senderGone, hphase]
          split
          · next hcancel =>
              refine .of_ended hrunning ?_
              rintro ⟨hnot, -, -⟩
              rw [hcancel] at hnot
              cases hnot
          · exact .of_running rfl hrunning rfl
      · exact .refl _ s
  | inputPending =>
      rw [drainStep]
      split
      · next hphase => exact .of_running rfl (by rw [senderGone, hphase]) rfl
      · exact .refl _ s
  | inputReady =>
      rw [drainStep]
      split
      · next hphase => exact inputReady_spec c hphase
      · exact .refl _ s
  | panic =>
      rw [drainStep]
      split
      · next hphase =>
          refine .of_ended (by rw [senderGone, hphase]) ?_
          rintro ⟨-, -, hpanic⟩
          exact absurd rfl hpanic
      · exact .refl _ s
  | forward => exact forward_spec s

/-- The dispatch takes the end of the channel for the end of the input. -/
def completes (s : Transform σ T) : Transform σ T :=
  { s with dispatch := .completing, events := s.events ++ [.onTransformComplete] }

/-- What a step of the dispatch can do when it does not find the end. -/
inductive DispatchSpec (s : Transform σ T) : Transform σ T → Prop
  | stays : DispatchSpec s s
  | ends : DispatchSpec s s.dispatchEnds
  | begins (hqueued : s.dispatch = .queued) (hcancel : s.cancelled = false) :
      DispatchSpec s { s with dispatch := .receiving }
  | handles (item : T) (items : Channel T) (hreceiving : s.dispatch = .receiving)
      (hclosed : items.closed = s.items.closed) :
      DispatchSpec s { s with items, dispatch := .handling,
                              events := s.events ++ [.handleTransform item] }
  | receives (hhandling : s.dispatch = .handling) :
      DispatchSpec s { s with dispatch := .receiving }

theorem DispatchSpec.race (s : Transform σ T) : DispatchSpec s s.race := by
  unfold Transform.race
  split
  · exact .ends
  · exact .stays

theorem dispatchStep_of_findsEnd {move : DispatchMove} (h : s.FindsEnd move) :
    s.dispatchStep move = s.completes := by
  obtain ⟨rfl, hreceiving, hempty, hgone⟩ := h
  simp only [dispatchStep, hreceiving, recv, Channel.recv_eq_none.mpr hempty, hgone, if_true,
    completes]

theorem recv_spec (hreceiving : s.dispatch = .receiving) (h : ¬ s.FindsEnd .recv) :
    DispatchSpec s s.recv := by
  unfold recv
  split
  · next item items hitem =>
      split
      · exact .ends
      · exact .handles item items hreceiving (Channel.recv_eq_some hitem).2.2
  · next hnone =>
      split
      · next hgone => exact absurd ⟨rfl, hreceiving, Channel.recv_eq_none.mp hnone, hgone⟩ h
      · exact .race s

theorem dispatchStep_spec {move : DispatchMove} (h : ¬ s.FindsEnd move) :
    DispatchSpec s (s.dispatchStep move) := by
  cases move with
  | begin =>
      rw [dispatchStep]
      split
      · next hqueued =>
          split
          · exact .ends
          · next hcancel => exact .begins hqueued (Bool.not_eq_true _ ▸ hcancel)
      · exact .stays
  | recv =>
      rw [dispatchStep]
      split
      · next hreceiving => exact recv_spec hreceiving h
      · exact .stays
  | pending =>
      rw [dispatchStep]
      split
      · exact .race s
      · exact .race s
      · exact .stays
  | returned =>
      rw [dispatchStep]
      split
      · next hhandling => exact .receives hhandling
      · exact .ends
      · exact .stays
  | drop => exact .ends

/-! ### The exact condition -/

/-- While the dispatch is under way, the calls so far are all for items, and
the receiver is there. -/
def Coherent (s : Transform σ T) : Prop :=
  s.dispatch.underWay = true → (∃ items, s.events = handled items) ∧ s.items.closed = false

theorem Coherent.dispatch (h : s.Coherent) (move : DispatchMove) :
    (s.dispatchStep move).Coherent := by
  intro hway
  by_cases hend : s.FindsEnd move
  · rw [dispatchStep_of_findsEnd hend] at hway
    cases hway
  · have hspec := dispatchStep_spec hend
    generalize s.dispatchStep move = s' at hspec hway ⊢
    cases hspec with
    | stays => exact h hway
    | ends => cases hway
    | begins hqueued _ => exact h (by rw [hqueued]; rfl)
    | handles item items hreceiving hclosed =>
        obtain ⟨⟨before, hevents⟩, hopen⟩ := h (by rw [hreceiving]; rfl)
        refine ⟨⟨before ++ [item], ?_⟩, hclosed.trans hopen⟩
        rw [handled, List.map_append, ← handled, ← hevents]
        rfl
    | receives hhandling => exact h (by rw [hhandling]; rfl)

theorem Coherent.step (h : s.Coherent) (o : TransformOp) : (s.step c o).Coherent := by
  cases o with
  | drain move =>
      intro hway
      have hspec := drainStep_spec c s move
      rw [Transform.step, hspec.dispatch] at hway
      rw [Transform.step, hspec.events, hspec.closed]
      exact h hway
  | dispatch move => exact h.dispatch move
  | cancel =>
      rw [Transform.step]
      split
      · exact h
      · exact h
  | wait d => exact h

theorem Coherent.start (buffer : Nat) (istate : σ) :
    (start buffer istate : Transform σ T).Coherent :=
  fun _ => ⟨⟨[], rfl⟩, rfl⟩

theorem EndedNormally.senderGone (h : s.EndedNormally) : s.senderGone = true := by
  unfold Transform.senderGone
  rcases h with h | h
  · rw [h]
  · rw [h]

/-- A drain that has ended stays as it is. -/
theorem EndedNormally.drain (h : s.EndedNormally) (move : DrainMove) :
    (s.drainStep c move).EndedNormally := by
  rw [(drainStep_spec c s move).ended h.senderGone]
  exact h

theorem CompletesAtEnd.of_events {s' : Transform σ T} (h : s.CompletesAtEnd)
    (hevents : s'.events = s.events) (hend : s.EndedNormally → s'.EndedNormally) :
    s'.CompletesAtEnd := by
  obtain ⟨items, h | ⟨h, hnormal⟩⟩ := h
  · exact ⟨items, .inl (hevents.trans h)⟩
  · exact ⟨items, .inr ⟨hevents.trans h, hend hnormal⟩⟩

theorem onTransformComplete_notMem_handled (items : List T) :
    .onTransformComplete ∉ handled items := by
  simp [handled]

theorem completesAtEnd_completes_iff {items : List T} (hevents : s.events = handled items) :
    s.completes.CompletesAtEnd ↔ s.EndedNormally := by
  constructor
  · rintro ⟨items', h | ⟨-, h⟩⟩
    · refine absurd ?_ (onTransformComplete_notMem_handled items')
      rw [← h]
      exact List.mem_append_right _ (List.mem_singleton_self _)
    · exact h
  · intro h
    exact ⟨items, .inr ⟨congrArg (· ++ [_]) hevents, h⟩⟩

theorem CompletesAtEnd.dispatch_iff (h : s.CompletesAtEnd) (hs : s.Coherent)
    (move : DispatchMove) :
    (s.dispatchStep move).CompletesAtEnd ↔ (s.FindsEnd move → s.EndedNormally) := by
  by_cases hend : s.FindsEnd move
  · obtain ⟨⟨items, hevents⟩, -⟩ := hs (by rw [hend.2.1]; rfl)
    rw [dispatchStep_of_findsEnd hend, completesAtEnd_completes_iff hevents]
    exact ⟨fun hnormal _ => hnormal, fun hnormal => hnormal hend⟩
  · refine iff_of_true ?_ (fun h => absurd h hend)
    have hspec := dispatchStep_spec hend
    have hway := hs.dispatch move
    generalize s.dispatchStep move = s' at hspec hway
    cases hspec with
    | stays => exact h
    | ends => exact h.of_events rfl id
    | begins _ _ => exact h.of_events rfl id
    | handles _ _ _ _ =>
        obtain ⟨⟨items, hevents⟩, -⟩ := hway rfl
        exact ⟨items, .inl hevents⟩
    | receives _ => exact h.of_events rfl id

/-- One step keeps the contract iff, when it finds the end, the end is a
normal one. -/
theorem CompletesAtEnd.step_iff (h : s.CompletesAtEnd) (hs : s.Coherent) (o : TransformOp) :
    (s.step c o).CompletesAtEnd ↔ s.FindsNormalEnd o := by
  cases o with
  | drain move =>
      refine iff_of_true ?_ trivial
      exact h.of_events (drainStep_spec c s move).events (fun hend => hend.drain move)
  | dispatch move => exact h.dispatch_iff hs move
  | cancel =>
      refine iff_of_true ?_ trivial
      rw [step]
      split
      · exact h.of_events rfl id
      · exact h
  | wait d => exact iff_of_true (h.of_events rfl id) trivial

/-! ### Without a disturbance -/

/-- While the dispatch is under way, an uncancelled token means that the drain
runs or has ended normally; and once the dispatch has begun, a cancelled one
means that the drain had ended before. -/
structure Settled (s : Transform σ T) : Prop where
  coherent : s.Coherent
  uncancelled : s.dispatch.underWay = true → s.cancelled = false → s.senderGone = true →
    s.EndedNormally
  cancelled : s.dispatch.begun = true → s.cancelled = true → s.EndedNormally

theorem Settled.start (buffer : Nat) (istate : σ) :
    (start buffer istate : Transform σ T).Settled := by
  refine ⟨.start buffer istate, ?_, ?_⟩
  · intro _ _ h
    cases h
  · rintro _ h
    cases h

theorem Settled.drain (h : s.Settled) {move : DrainMove} (hop : s.Undisturbed (.drain move)) :
    (s.drainStep c move).Settled := by
  have hspec := drainStep_spec c s move
  refine ⟨h.coherent.step (.drain move), ?_, ?_⟩
  · rw [hspec.dispatch, hspec.cancelled]
    intro hway hcancel hgone
    by_cases hbefore : s.senderGone = true
    · exact (h.uncancelled hway hcancel hbefore).drain move
    · refine hspec.ends ⟨hcancel, (h.coherent hway).2, ?_⟩ (Bool.not_eq_true _ ▸ hbefore) hgone
      rintro rfl
      exact absurd ((show s.dispatch.underWay = false from hop).symm.trans hway)
        Bool.false_ne_true
  · rw [hspec.dispatch, hspec.cancelled]
    intro hbegun hcancel
    exact (h.cancelled hbegun hcancel).drain move

theorem Settled.dispatch (h : s.Settled) (move : DispatchMove) : (s.dispatchStep move).Settled := by
  have hcoherent : (s.dispatchStep move).Coherent := h.coherent.dispatch move
  by_cases hend : s.FindsEnd move
  · rw [dispatchStep_of_findsEnd hend] at hcoherent ⊢
    refine ⟨hcoherent, ?_, ?_⟩
    · intro hway
      cases hway
    · intro hbegun
      cases hbegun
  · have hspec := dispatchStep_spec hend
    generalize s.dispatchStep move = s' at hspec hcoherent ⊢
    cases hspec with
    | stays => exact h
    | ends =>
        refine ⟨hcoherent, ?_, ?_⟩
        · intro hway
          cases hway
        · intro hbegun
          cases hbegun
    | begins hqueued hcancel =>
        refine ⟨hcoherent, fun _ => h.uncancelled (by rw [hqueued]; rfl), ?_⟩
        -- the actor has just looked at the token
        intro _ hcancelled
        exact absurd (hcancel.symm.trans hcancelled) Bool.false_ne_true
    | handles _ _ hreceiving _ =>
        exact ⟨hcoherent, fun _ => h.uncancelled (by rw [hreceiving]; rfl),
          fun _ => h.cancelled (by rw [hreceiving]; rfl)⟩
    | receives hhandling =>
        exact ⟨hcoherent, fun _ => h.uncancelled (by rw [hhandling]; rfl),
          fun _ => h.cancelled (by rw [hhandling]; rfl)⟩

theorem Settled.cancel (h : s.Settled) (hop : s.Undisturbed .cancel) :
    ({ s with cancelled := true } : Transform σ T).Settled := by
  refine ⟨h.coherent, ?_, ?_⟩
  · intro _ hcancel
    cases hcancel
  · intro hbegun _
    cases hcancel : s.cancelled with
    | false => exact h.uncancelled (DispatchPhase.underWay_of_begun hbegun) hcancel (hop hbegun)
    | true => exact h.cancelled hbegun hcancel

theorem Settled.step (h : s.Settled) {o : TransformOp} (ho : s.Undisturbed o) :
    (s.step c o).Settled := by
  cases o with
  | drain move => exact h.drain ho
  | dispatch move => exact h.dispatch move
  | cancel =>
      rw [Transform.step]
      split
      · exact h.cancel ho
      · exact h
  | wait d => exact ⟨h.coherent, h.uncancelled, h.cancelled⟩

/-- A settled transform finds no other end than a normal one. -/
theorem Settled.findsNormalEnd (h : s.Settled) (o : TransformOp) : s.FindsNormalEnd o := by
  cases o with
  | dispatch move =>
      rintro ⟨-, hreceiving, -, hgone⟩
      cases hcancel : s.cancelled with
      | false => exact h.uncancelled (by rw [hreceiving]; rfl) hcancel hgone
      | true => exact h.cancelled (by rw [hreceiving]; rfl) hcancel
  | drain move => exact trivial
  | cancel => exact trivial
  | wait d => exact trivial

end Transform

/-! ### Main result -/

open Transform in
/-- **Main result: completion means the end of the input.**  On every
interleaving, `on_transform_complete` is called at most once, after the last
`handle_transform`, and only after a drain that has reached the end of its
input uncancelled, iff the dispatch never finds its channel at an end that is
not a normal one.  That is so whenever nothing in the drain panics and the
token is not cancelled between the begin of the dispatch and the end of the
drain. -/
theorem transform_complete_iff (c : TransformCall σ T) (buffer : Nat) (istate : σ)
    (ops : List TransformOp) :
    (Always (step c) CompletesAtEnd (start buffer istate) ops ↔
      Admissible (step c) FindsNormalEnd (start buffer istate) ops) ∧
    (Admissible (step c) Undisturbed (start buffer istate) ops →
      Always (step c) CompletesAtEnd (start buffer istate) ops) := by
  have hstart : (start buffer istate : Transform σ T).CompletesAtEnd := ⟨[], .inl rfl⟩
  refine ⟨?_, ?_⟩
  · have hinv : ∀ (s : Transform σ T) (o : TransformOp), True → s.Coherent →
        (s.step c o).Coherent := by
      intro s o _ hs
      exact hs.step o
    refine always_iff_of_inv hinv ?_ (.start buffer istate) hstart
      (admissible_of_forall (fun _ _ => trivial) _ ops)
    intro s o _ hs h
    exact h.step_iff hs o
  · intro hops
    have hinv : ∀ (s : Transform σ T) (o : TransformOp), s.Undisturbed o →
        s.Settled ∧ s.CompletesAtEnd → (s.step c o).Settled ∧ (s.step c o).CompletesAtEnd := by
      rintro s o ho ⟨hsettled, hcompletes⟩
      exact ⟨hsettled.step ho,
        (hcompletes.step_iff hsettled.coherent o).mpr (hsettled.findsNormalEnd o)⟩
    refine Always.mono ?_ (always_of_admissible hinv ⟨.start buffer istate, hstart⟩ hops)
    intro s h
    exact h.2

/-- The numbers up to `n`, with a token and no interceptors. -/
def countTo (n : Nat) : TransformCall Unit Nat where
  pipeline := ⟨[], false, ⟨⟨"node-1"⟩, 1⟩, "worker"⟩
  messageType := "Count"
  input i := if i < n then some i else none
  token := true

/-- The drain sends an item, and the actor handles it. -/
def handleOne : List TransformOp :=
  [.drain .check, .drain .inputReady, .drain .forward, .dispatch .recv, .dispatch .returned]

theorem transform_complete_countTo :
    Always (Transform.step (countTo 1)) Transform.CompletesAtEnd (Transform.start 1 ())
      (.dispatch .begin :: handleOne ++
        [.drain .check, .drain .inputReady, .cancel, .dispatch .recv, .dispatch .returned]) := by
  refine (transform_complete_iff (countTo 1) 1 () _).2 ?_
  exact ⟨trivial, trivial, trivial, trivial, trivial, trivial, trivial, trivial, fun _ => rfl,
    trivial, trivial, trivial⟩

/-- The token is cancelled after the first item, while the input has more to
give.  The drain sees the token and stops; the actor, polled next, finds the
channel empty and closed, and is told that the input is complete. -/
theorem transform_completes_cancelled :
    ∃ ops, let s := run (Transform.step (countTo 5)) (.start 1 ()) ops
      s.drain.phase = .ended .cancelled true ∧
        s.events = [.handleTransform 0, .onTransformComplete] ∧
        ¬ Always (Transform.step (countTo 5)) Transform.CompletesAtEnd (.start 1 ()) ops := by
  refine ⟨.dispatch .begin :: handleOne ++
    [.dispatch .recv, .cancel, .drain .check, .dispatch .recv], rfl, rfl, ?_⟩
  intro h
  obtain ⟨items, hevents | ⟨-, hnormal | hnormal⟩⟩ := h.last
  · refine absurd ?_ (Transform.onTransformComplete_notMem_handled items)
    rw [← hevents]
    exact List.mem_cons_of_mem _ List.mem_cons_self
  · cases hnormal
  · cases hnormal

end Dactor
