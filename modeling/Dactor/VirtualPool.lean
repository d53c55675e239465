/-
Dactor/VirtualPool.lean

`VirtualPoolRef` (`virtual_pool.rs`): the callers hold clones of a reference
with the sending end of a bounded channel, and one router task takes commands
from it: an operation goes to the worker that the routing strategy selects, a
`Stop` tells every worker to stop and ends the task.

`stop()` clears the liveness flag and posts the `Stop` with `try_send`, whose
outcome it ignores.  The flag is read by `is_alive` only, so the two effects
are one step here.  When the channel is full the `Stop` is lost, and when the
loads change during a selection the router may panic, which drops the channel
(`virtualPool_loses_stop`); as long as every `stop()` finds room, or a `Stop`
that is already on its way, and no turn panics, the pool does stop
(`virtualPool_stops`).
-/
import Dactor.Runs
import Dactor.Channels
import Dactor.LoadReadings

namespace Dactor

open Runs Channels

variable {R α : Type}

/-- A command for the router; `α` stands for the closures that the calls box. -/
inductive RouterCommand (α : Type)
  | op (x : α)
  | stop
deriving DecidableEq, Repr

/-- Where the router task is: in its loop, past it, or gone with the channel, at its end or
by a panic. -/
inductive RouterPhase
  | looping
  | leaving
  | ended
  | panicked
deriving DecidableEq, Repr

/-- The shared state of the clones and of the router task.  `released` means that the
last clone was dropped.  `accepted`, `executed` and `told` are histories: the commands the
channel took, the operations with the index of their worker, the workers told to stop. -/
structure VirtualPool (R α : Type) where
  workers : Workers R
  routing : PoolRouting
  ops : Channel (RouterCommand α)
  alive : Bool
  counter : UInt64
  phase : RouterPhase
  released : Bool
  stopCalled : Bool
  accepted : List (RouterCommand α)
  executed : List (ℕ × α)
  told : List R

namespace VirtualPool

/-- `with_capacity`; a capacity of zero panics. -/
def withCapacity (workers : Workers R) (routing : PoolRouting) (capacity : ℕ) :
    VirtualPool R α where
  workers
  routing
  ops := .new (some capacity)
  alive := true
  counter := 0
  phase := .looping
  released := false
  stopCalled := false
  accepted := []
  executed := []
  told := []

/-- `ops_tx.try_send(cmd)`. -/
def trySend (s : VirtualPool R α) (cmd : RouterCommand α) :
    Except TrySendError Unit × VirtualPool R α :=
  match s.ops.trySend cmd with
  | .ok ops => (.ok (), { s with ops, accepted := s.accepted ++ [cmd] })
  | .error e => (.error e, s)

/-- `tell` and `ask` post their closure; the bridge of an `ask` is inside the closure. -/
def submit (s : VirtualPool R α) (x : α) : Except String Unit × VirtualPool R α :=
  ((s.trySend (.op x)).1.mapError fun _ => "virtual pool router stopped or full",
    (s.trySend (.op x)).2)

def stop (s : VirtualPool R α) : VirtualPool R α :=
  { (s.trySend .stop).2 with alive := false, stopCalled := true }

/-- One turn of `router_loop`, with the loads that the workers report to its two scans. -/
def routerTurn (s : VirtualPool R α) (loads : LoadReadings) : VirtualPool R α :=
  match s.ops.recv with
  | none => if s.released then { s with phase := .leaving } else s
  | some (.op x, ops) =>
    match selectWorkerIndexRead s.workers s.routing s.counter loads with
    | (.ok i, counter) => { s with ops, counter, executed := s.executed ++ [(i, x)] }
    -- the task unwinds: the closure it took is dropped, and the receiver with what is left
    | (.error _, counter) => { s with ops := ops.close, counter, phase := .panicked }
  | some (.stop, ops) => { s with ops, told := s.told ++ s.workers.refs, phase := .leaving }

/-- The end of `router_loop`: the flag, and with the receiver what is left in the queue. -/
def routerEnd (s : VirtualPool R α) : VirtualPool R α :=
  { s with alive := false, ops := s.ops.close, phase := .ended }

inductive Call (R α : Type)
  | tell (x : α)
  | ask (x : α)
  | stop
  | release
  | route (loads : LoadReadings)
  | finish

def step (s : VirtualPool R α) : Call R α → VirtualPool R α
  | .tell x | .ask x => if s.released then s else (s.submit x).2
  | .stop => if s.released then s else s.stop
  | .release => { s with released := true }
  | .route loads => if s.phase = .looping then s.routerTurn loads else s
  | .finish => if s.phase = .leaving then s.routerEnd else s

/-! ### What stopping owes -/

/-- The operations before the first `Stop`. -/
def beforeStop : List (RouterCommand α) → List α
  | [] => []
  | .op x :: rest => x :: beforeStop rest
  | .stop :: _ => []

/-- Once `stop()` was called and the queue is empty every worker has been told to stop,
and the operations executed were accepted before the `Stop`. -/
def Stops (s : VirtualPool R α) : Prop :=
  (s.stopCalled = true → s.ops.queue = [] → ∀ w ∈ s.workers.refs, w ∈ s.told) ∧
    s.executed.map Prod.snd <+: beforeStop s.accepted

/-- A `stop()` that reaches a running router finds room in its queue, or a `Stop` that
is already there; and a turn that looks for the least loaded worker finds one at the minimum
in its second scan. -/
def Safe (s : VirtualPool R α) : Call R α → Prop
  | .stop => s.released = false → s.phase = .looping → s.ops.HasRoom ∨ .stop ∈ s.ops.queue
  | .route loads => s.phase = .looping → s.routing = .leastLoaded →
      (∃ x, s.ops.queue.head? = some (.op x)) →
        ∃ i < s.workers.refs.length, loads.second i = loads.minLoad s.workers.refs.length
  | _ => True

/-- So does every turn during which the loads are stable. -/
theorem safe_of_stable (s : VirtualPool R α) (pending : R → ℕ) :
    s.Safe (.route (.stable pending s.workers.refs)) := by
  intro _ _ _
  obtain ⟨i, -, hsel⟩ := selectWorkerIndex_lt s.workers .leastLoaded s.counter pending
  have hstable := selectWorkerIndexRead_stable s.workers .leastLoaded s.counter pending
  have hselected := (congrArg Prod.fst hstable).trans hsel
  rcases selectWorkerIndexRead_cases s.workers s.counter
    (.stable pending s.workers.refs) with ⟨-, hpanic⟩ | ⟨j, hj, -⟩
  · rw [hpanic] at hselected
    cases hselected
  · exact ⟨j, LoadReadings.mem_candidates.mp hj⟩

/-! ### Commands before the first `Stop` -/

theorem prefix_beforeStop (cmds more : List (RouterCommand α)) :
    beforeStop cmds <+: beforeStop (cmds ++ more) := by
  induction cmds with
  | nil => exact List.nil_prefix
  | cons cmd cmds ih =>
    cases cmd with
    | op x => exact (List.prefix_cons_inj x).mpr ih
    | stop => exact List.nil_prefix

theorem beforeStop_ops (xs : List α) (cmds : List (RouterCommand α)) :
    beforeStop (xs.map .op ++ cmds) = xs ++ beforeStop cmds := by
  induction xs with
  | nil => rfl
  | cons x xs ih => exact congrArg (x :: ·) ih

/-! ### One step -/

/-- A command is appended to the queue, or it leaves the pool as it was. -/
theorem trySend_cases (s : VirtualPool R α) (cmd : RouterCommand α) :
    (∃ h : s.ops.Admits, (s.trySend cmd).2 =
        { s with ops := s.ops.enqueue cmd h.2, accepted := s.accepted ++ [cmd] }) ∨
      (¬ s.ops.Admits ∧ (s.trySend cmd).2 = s) := by
  by_cases h : s.ops.Admits
  · exact Or.inl ⟨h, by rw [trySend, Channel.trySend_of_admits h]⟩
  · refine Or.inr ⟨h, ?_⟩
    rcases Channel.not_admits_iff.mp h with hclosed | ⟨hopen, hfull⟩
    · rw [trySend, Channel.trySend_of_closed hclosed]
    · rw [trySend, Channel.trySend_of_full hopen hfull]

/-- What a turn does. -/
theorem routerTurn_cases (s : VirtualPool R α) (loads : LoadReadings) :
    (s.ops.queue = [] ∧ s.released = true ∧
        s.routerTurn loads = { s with phase := .leaving }) ∨
      (s.ops.queue = [] ∧ s.routerTurn loads = s) ∨
      (∃ x ops i counter, s.ops.recv = some (.op x, ops) ∧
        (selectWorkerIndexRead s.workers s.routing s.counter loads).1 = .ok i ∧
        i < s.workers.refs.length ∧ s.routerTurn loads =
          { s with ops, counter, executed := s.executed ++ [(i, x)] }) ∨
      (∃ x ops counter, s.ops.recv = some (.op x, ops) ∧ s.routing = .leastLoaded ∧
        (selectWorkerIndexRead s.workers s.routing s.counter loads).1 = .error .remainderByZero ∧
        loads.candidates s.workers.refs.length = [] ∧ s.routerTurn loads =
          { s with ops := ops.close, counter, phase := .panicked }) ∨
      ∃ ops, s.ops.recv = some (.stop, ops) ∧ s.routerTurn loads =
        { s with ops, told := s.told ++ s.workers.refs, phase := .leaving } := by
  rw [routerTurn]
  rcases hrecv : s.ops.recv with - | ⟨x | -, ops⟩
  · have hempty := Channel.recv_eq_none.mp hrecv
    by_cases hreleased : s.released = true
    · exact .inl ⟨hempty, hreleased, if_pos hreleased⟩
    · exact .inr (.inl ⟨hempty, if_neg hreleased⟩)
  · have hspec := selectWorkerIndexRead_spec s.workers s.routing s.counter loads
    rcases hsel : selectWorkerIndexRead s.workers s.routing s.counter loads with ⟨sel, counter⟩
    rw [hsel] at hspec
    rcases hspec with ⟨i, hi, rfl⟩ | ⟨hrouting, hnil, rfl⟩
    · exact .inr (.inr (.inl ⟨x, ops, i, counter, rfl, rfl, hi, rfl⟩))
    · exact .inr (.inr (.inr (.inl ⟨x, ops, counter, rfl, hrouting, rfl, hnil, rfl⟩)))
  · exact .inr (.inr (.inr (.inr ⟨ops, rfl, rfl⟩)))

/-- What holds of a pool whose `stop()` calls all found room: while the router loops, the
channel holds what was accepted and not executed, with a `Stop` as soon as one was asked
for; when it has left its loop the workers were told, unless the last clone was dropped
without a `stop()`. -/
structure Obedient (s : VirtualPool R α) : Prop where
  waiting : s.phase = .looping → s.accepted = (s.executed.map Prod.snd).map .op ++ s.ops.queue
  opened : s.phase = .looping → s.ops.closed = false
  posted : s.phase = .looping → s.stopCalled = true → .stop ∈ s.ops.queue
  told : s.phase ≠ .looping →
    (∀ w ∈ s.workers.refs, w ∈ s.told) ∨ (s.released = true ∧ s.stopCalled = false)
  order : s.executed.map Prod.snd <+: beforeStop s.accepted

theorem Obedient.start (workers : Workers R) (routing : PoolRouting) (capacity : ℕ) :
    (withCapacity workers routing capacity : VirtualPool R α).Obedient where
  waiting _ := rfl
  opened _ := rfl
  posted _ h := by cases h
  told h := absurd rfl h
  order := List.nil_prefix

theorem Obedient.stops {s : VirtualPool R α} (h : s.Obedient) : s.Stops := by
  refine ⟨?_, h.order⟩
  intro hcalled hempty
  by_cases hphase : s.phase = .looping
  · have hmem := h.posted hphase hcalled
    rw [hempty] at hmem
    cases hmem
  · rcases h.told hphase with htold | ⟨-, hnot⟩
    · exact htold
    · rw [hcalled] at hnot
      cases hnot

/-- Posting a command keeps everything, whether it is accepted or not. -/
theorem Obedient.trySend {s : VirtualPool R α} (h : s.Obedient) (cmd : RouterCommand α) :
    (s.trySend cmd).2.Obedient := by
  rcases trySend_cases s cmd with ⟨hroom, heq⟩ | ⟨-, heq⟩
  · rw [heq]
    exact
      { waiting := fun hphase => by
          show s.accepted ++ [cmd] = _ ++ (s.ops.queue ++ [cmd])
          rw [h.waiting hphase, List.append_assoc]
        opened := h.opened
        posted := fun hphase hcalled => List.mem_append_left _ (h.posted hphase hcalled)
        told := h.told
        order := h.order.trans (prefix_beforeStop _ _) }
  · rw [heq]
    exact h

theorem Obedient.stop {s : VirtualPool R α} (h : s.Obedient) (hlive : s.released = false)
    (hfits : s.phase = .looping → s.ops.HasRoom ∨ .stop ∈ s.ops.queue) : s.stop.Obedient := by
  have hpost := h.trySend .stop
  rcases trySend_cases s .stop with ⟨hroom, heq⟩ | ⟨hfull, heq⟩
  · rw [heq] at hpost
    rw [VirtualPool.stop, heq]
    exact
      { waiting := hpost.waiting
        opened := hpost.opened
        posted := fun _ _ => List.mem_append_right _ List.mem_cons_self
        told := fun hphase => (hpost.told hphase).imp_right fun hr => by
          rw [show s.released = true from hr.1] at hlive
          cases hlive
        order := hpost.order }
  · rw [VirtualPool.stop, heq]
    exact
      { waiting := h.waiting
        opened := h.opened
        posted := fun hphase _ => by
          -- no room in the queue of a running router: a `Stop` is already there
          rcases hfits hphase with hroom | hmem
          · exact absurd ⟨h.opened hphase, hroom⟩ hfull
          · exact hmem
        told := fun hphase => (h.told hphase).imp_right fun hr => by
          rw [hr.1] at hlive
          cases hlive
        order := h.order }

theorem Obedient.routerTurn {s : VirtualPool R α} (h : s.Obedient)
    (hphase : s.phase = .looping) {loads : LoadReadings} (hsafe : s.Safe (.route loads)) :
    (s.routerTurn loads).Obedient := by
  rcases s.routerTurn_cases loads with ⟨hempty, hreleased, heq⟩ | ⟨-, heq⟩ |
    ⟨x, ops, i, counter, hrecv, -, -, heq⟩ | ⟨x, ops, counter, hrecv, hrouting, -, hnil, -⟩ |
    ⟨ops, hrecv, heq⟩
  · -- an empty queue: the loop is left only when the last clone is gone
    rw [heq]
    exact
      { waiting := fun h' => by cases h'
        opened := fun h' => by cases h'
        posted := fun h' => by cases h'
        told := fun _ => by
          refine Or.inr ⟨hreleased, ?_⟩
          by_contra hcalled
          have hmem := h.posted hphase (Bool.eq_true_of_not_eq_false hcalled)
          rw [hempty] at hmem
          cases hmem
        order := h.order }
  · rw [heq]
    exact h
  · -- an operation moves from the queue to those executed
    obtain ⟨hqueue, -, hclosed⟩ := Channel.recv_eq_some hrecv
    have hacc := h.waiting hphase
    rw [hqueue] at hacc
    rw [heq]
    exact
      { waiting := fun _ => by
          show s.accepted = ((s.executed ++ [_]).map Prod.snd).map .op ++ ops.queue
          rw [hacc, List.map_append, List.map_append, List.append_assoc]
          rfl
        opened := fun _ => hclosed.trans (h.opened hphase)
        posted := fun _ hcalled => by
          have hmem := h.posted hphase hcalled
          rw [hqueue] at hmem
          rcases List.mem_cons.mp hmem with hx | hmem
          · cases hx
          · exact hmem
        told := fun h' => absurd hphase h'
        order := by
          show (s.executed ++ [_]).map Prod.snd <+: beforeStop s.accepted
          rw [hacc, beforeStop_ops, List.map_append]
          exact (List.prefix_append_right_inj _).mpr
            ((List.prefix_cons_inj x).mpr List.nil_prefix) }
  · -- a safe turn does not panic
    obtain ⟨hqueue, -, -⟩ := Channel.recv_eq_some hrecv
    have hhead : s.ops.queue.head? = some (.op x) := by rw [hqueue, List.head?_cons]
    exact absurd hnil (LoadReadings.candidates_ne_nil_iff.mpr (hsafe hphase hrouting ⟨x, hhead⟩))
  · -- a `Stop`: what waits behind it is never executed
    rw [heq]
    exact
      { waiting := fun h' => by cases h'
        opened := fun h' => by cases h'
        posted := fun h' => by cases h'
        told := fun _ => Or.inl fun w hw => List.mem_append_right _ hw
        order := h.order }

theorem Obedient.routerEnd {s : VirtualPool R α} (h : s.Obedient) (hphase : s.phase = .leaving) :
    s.routerEnd.Obedient where
  waiting h' := by cases h'
  opened h' := by cases h'
  posted h' := by cases h'
  told _ := h.told (by rw [hphase]; decide)
  order := h.order

theorem Obedient.step {s : VirtualPool R α} (c : Call R α) (hsafe : s.Safe c)
    (h : s.Obedient) : (s.step c).Obedient := by
  have hsubmit : ∀ x, (if s.released then s else (s.submit x).2).Obedient := by
    intro x
    split
    · exact h
    · exact h.trySend (.op x)
  cases c with
  | tell x => exact hsubmit x
  | ask x => exact hsubmit x
  | stop =>
    show (if s.released then s else s.stop).Obedient
    split
    · exact h
    · rename_i hlive
      have hlive := Bool.eq_false_of_not_eq_true hlive
      exact h.stop hlive (hsafe hlive)
  | release =>
    exact
      { waiting := h.waiting
        opened := h.opened
        posted := h.posted
        told := fun hphase => (h.told hphase).imp_right fun hr => ⟨rfl, hr.2⟩
        order := h.order }
  | route loads =>
    show (if s.phase = .looping then s.routerTurn loads else s).Obedient
    split
    · rename_i hphase
      exact h.routerTurn hphase hsafe
    · exact h
  | finish =>
    show (if s.phase = .leaving then s.routerEnd else s).Obedient
    split
    · rename_i hphase
      exact h.routerEnd hphase
    · exact h

/-! ### Runs -/

/-- **A pool whose `stop()` calls find room, and whose router does not panic, stops its
workers**, for every capacity, strategy and interleaving of calls and router turns. -/
theorem virtualPool_stops (workers : Workers R) (routing : PoolRouting) (capacity : ℕ)
    (calls : List (Call R α))
    (hcalls : Admissible step Safe (withCapacity workers routing capacity) calls) :
    Always step Stops (withCapacity workers routing capacity) calls :=
  (always_of_admissible (fun _ c hc h => h.step c hc) (Obedient.start workers routing capacity)
    hcalls).mono fun _ h => h.stops

/-- A pool of three workers with room for two commands: an operation, a `stop()`, and an
operation that is refused. -/
theorem virtualPool_stops_three :
    let loads : LoadReadings := .stable (fun _ => 0) threeWorkers.refs
    let calls := [.tell 7, .stop, .ask 8, .route loads, .route loads, .finish]
    let s := run step (withCapacity threeWorkers .leastLoaded 2) calls
    s.stopCalled = true ∧ s.ops.queue = [] ∧ s.told = [10, 20, 30] ∧ s.executed = [(0, 7)] ∧
      Always step Stops (withCapacity threeWorkers .leastLoaded 2) calls := by
  intro loads calls s
  have h : Admissible step Safe (withCapacity threeWorkers .leastLoaded 2) calls := by
    refine ⟨trivial, ?_, trivial, safe_of_stable _ _, safe_of_stable _ _, trivial, trivial⟩
    intro _ _
    refine Or.inl ?_
    decide
  exact ⟨rfl, rfl, rfl, rfl, virtualPool_stops threeWorkers .leastLoaded 2 _ h⟩

/-- With room for one command the `Stop` is lost behind an operation: the router executes
the operation and goes on, and no worker is told to stop.  And with all the room there is,
when every worker handles a message between the two scans of the router. -/
theorem virtualPool_loses_stop :
    ¬ Always step Stops (withCapacity threeWorkers .roundRobin 1)
        [.tell 7, .stop, .route ⟨fun _ => 0, fun _ => 0⟩] ∧
      ¬ Always step Stops (withCapacity threeWorkers .leastLoaded 2)
        [.tell 7, .route ⟨fun _ => 1, fun _ => 0⟩, .stop] := by
  constructor
  · intro h
    have htold := h.last.1 rfl rfl 10 List.mem_cons_self
    cases htold
  · intro h
    have htold := h.last.1 rfl rfl 10 List.mem_cons_self
    cases htold

end VirtualPool

end Dactor
