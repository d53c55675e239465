/-
Dactor/MetricsInterceptor.lean

Metrics of running actors (`metrics.rs`, `TestRuntime::enable_metrics`).

`spawn_internal` puts a `MetricsInterceptor` in front of the interceptors of
every actor and registers its handle.  The interceptor only looks on, so the
actor runs as it would without it, and its handle counts what the actor takes
from its mailbox; the registry sums the handles up.  All of this holds while no
snapshot of the handle has panicked: one that does leaves the lock poisoned, and
the interceptor would panic at the next message (see `Metrics.lean`).

Main results: `metrics_transparent`, `registry_totals_exact`.
-/
import Dactor.Onlookers
import Dactor.Metrics
import Dactor.Slots

namespace Dactor

open Runs

variable {σ A M R : Type}

/-! ### The metrics interceptor -/

/-- `MetricsInterceptor`. -/
def metricsInterceptor : Onlooker ActorMetricsHandle R where
  name := "metrics"
  onReceive ctx now h := h.recordMessage ctx.messageType now
  onComplete runtimeHeaders outcome now h :=
    let h := h.recordLatency (now - runtimeHeaders.timestamp) now
    if outcome.isError then h.recordError now else h

def Event.isFailure : Event R → Bool
  | .onComplete _ _ _ _ outcome => outcome.isError
  | _ => false

/-- The first interceptor was told that the handler had failed. -/
def failed (events : List (Event R)) : Bool := (firsts events).any Event.isFailure

/-- The counters of the handle count what the actor has done. -/
structure Counted (t : Task (ActorMetricsHandle × σ) A R) : Prop where
  messages : t.core.istate.1.messageCount = UInt64.ofNat t.log.length
  errors : t.core.istate.1.errorCount = UInt64.ofNat (t.log.countP failed)

theorem messageCount_onComplete (runtimeHeaders : RuntimeHeaders) (outcome : Outcome R) (now : Nat)
    (h : ActorMetricsHandle) :
    (metricsInterceptor.onComplete runtimeHeaders outcome now h).messageCount = h.messageCount := by
  rw [metricsInterceptor]
  dsimp only
  split <;> rfl

theorem errorCount_onComplete (runtimeHeaders : RuntimeHeaders) (outcome : Outcome R) (now : Nat)
    (h : ActorMetricsHandle) :
    (metricsInterceptor.onComplete runtimeHeaders outcome now h).errorCount =
      h.errorCount + if outcome.isError then 1 else 0 := by
  rw [metricsInterceptor]
  dsimp only
  split
  · rfl
  · exact (UInt64.add_zero _).symm

theorem counted_step (sp : Spawn σ A M R) (t : Task (ActorMetricsHandle × σ) A R)
    (mail : Option (Incoming A M R)) (h : Counted t) :
    Counted (t.step (sp.watched metricsInterceptor) mail) := by
  rcases hrun : t.running with - | -
  · simp only [Task.step, hrun]
    exact h
  · cases mail with
    | none =>
        simp only [Task.step, hrun]
        exact ⟨h.messages, h.errors⟩
    | some m =>
        obtain ⟨outcome, hbody⟩ := body_watched sp metricsInterceptor m t.core
        rw [Task.step_some m hrun]
        have hfailed : failed (spawnInternalBody (sp.watched metricsInterceptor) m t.core).2.1
            = outcome.any Outcome.isError := by
          rw [failed, hbody.firsts]
          cases outcome with
          | none => rfl
          | some outcome => exact Bool.or_false _
        constructor
        · show (spawnInternalBody (sp.watched metricsInterceptor) m t.core).1.istate.1.messageCount
            = UInt64.ofNat (t.log ++ [_]).length
          have hseen : (metricsInterceptor.seen (R := R) m t.core).messageCount
              = UInt64.ofNat t.log.length + 1 := congrArg (· + 1) h.messages
          rw [hbody.kept, List.length_append, UInt64.ofNat_add]
          cases outcome with
          | none => exact hseen
          | some outcome => exact (messageCount_onComplete ..).trans hseen
        · show (spawnInternalBody (sp.watched metricsInterceptor) m t.core).1.istate.1.errorCount
            = UInt64.ofNat ((t.log ++ [_]).countP failed)
          have hseen : (metricsInterceptor.seen (R := R) m t.core).errorCount
              = UInt64.ofNat (t.log.countP failed) := h.errors
          rw [hbody.kept, List.countP_append, List.countP_singleton, hfailed, UInt64.ofNat_add]
          cases outcome with
          | none => exact hseen.trans (UInt64.add_zero _).symm
          | some outcome =>
              rw [Option.elim_some, errorCount_onComplete, hseen]
              cases h : outcome.isError with
              | true => simp [h]
              | false => simp [h]

/-- An actor that has just been spawned with metrics. -/
def Core.metered (core : Core σ A) (window bucketDuration : Nat) :
    Core (ActorMetricsHandle × σ) A :=
  ⟨core.actor, core.ctx, (.new window bucketDuration, core.istate), core.stopReason⟩

theorem counted_start (core : Core σ A) (window bucketDuration : Nat) :
    Counted (Task.start (core.metered window bucketDuration) : Task _ A R) := ⟨rfl, rfl⟩

/-- **Metrics are transparent and exact.**  For every actor, every list of
interceptors and every sequence of messages, the actor that is spawned with
metrics does what it would do without them: its state, its interceptors', what
they are called with and everything that callers see are the same, save that the
interceptors are one position on.  Its handle counts every message the actor has
taken, those that an interceptor vetoes and those that are cancelled included,
and as errors those of which the interceptors were told that the handler
failed. -/
theorem metrics_transparent (sp : Spawn σ A M R) (core : Core σ A) (window bucketDuration : Nat)
    (mails : List (Option (Incoming A M R))) :
    let t := run (Task.step (sp.watched metricsInterceptor))
      (Task.start (core.metered window bucketDuration)) mails
    let t' := run (Task.step sp) (Task.start core) (mails.map (Option.map Incoming.behind))
    SameTask t t' ∧ t.core.istate.1.messageCount = UInt64.ofNat t'.log.length ∧
      t.core.istate.1.errorCount = UInt64.ofNat (t.log.countP failed) := by
  intro t t'
  have hsame : SameTask t t' := by
    have hsim := run_sim SameTask (sameTask_step sp metricsInterceptor) mails
      (s := Task.start (core.metered window bucketDuration)) (t := Task.start core)
      ⟨rfl, rfl, rfl⟩
    show SameTask _ (run (Task.step sp) (Task.start core) (mails.map (Option.map Incoming.behind)))
    rw [run, List.foldl_map]
    exact hsim
  have hcounted : Counted t :=
    run_induction (counted_step sp) mails (counted_start core window bucketDuration)
  have hlength : t.log.length = t'.log.length := by
    have hlog := congrArg List.length hsame.log
    rwa [List.length_map, List.length_map] at hlog
  exact ⟨hsame, hlength ▸ hcounted.messages, hcounted.errors⟩

/-! ### The registry -/

/-- A `MetricsRegistry`: a handle is shared with the actor that it is made for,
and stands here as the number of that actor. -/
structure MetricsRegistry where
  handles : List (ActorId × ℕ)
  window : Nat
  bucketDuration : Nat

structure RuntimeMetrics where
  actorCount : ℕ
  totalMessages : UInt64
  totalErrors : UInt64

namespace MetricsRegistry

def new (window bucketDuration : Nat) : MetricsRegistry := ⟨[], window, bucketDuration⟩

/-- `register_handle`, and the insertion of `register`. -/
def registerHandle (r : MetricsRegistry) (id : ActorId) (handle : ℕ) : MetricsRegistry :=
  { r with handles := r.handles.filter (fun e => e.1 ≠ id) ++ [(id, handle)] }

def unregister (r : MetricsRegistry) (id : ActorId) : MetricsRegistry :=
  { r with handles := r.handles.filter fun e => e.1 ≠ id }

/-- `total_messages`, `total_errors` and `actor_count`, over the handles as they
are now. -/
def runtimeMetrics (r : MetricsRegistry) (heap : ℕ → ActorMetricsHandle) : RuntimeMetrics where
  actorCount := r.handles.length
  totalMessages := (r.handles.map fun e => (heap e.2).messageCount).sum
  totalErrors := (r.handles.map fun e => (heap e.2).errorCount).sum

end MetricsRegistry

/-- A runtime with metrics enabled, and all actors it has spawned. -/
structure MeteredRuntime (σ A M R : Type) where
  nodeId : NodeId
  nextLocal : UInt64
  registry : MetricsRegistry
  actors : List (Spawn σ A M R × Task (ActorMetricsHandle × σ) A R)

inductive MeteredOp (σ A M R : Type)
  | spawn (sp : Spawn σ A M R) (name : String) (actor : A) (istate : σ)
  /-- The actor at this place takes its next message, or the stop signal. -/
  | deliver (k : ℕ) (mail : Option (Incoming A M R))
  | registerHandle (id : ActorId) (k : ℕ)
  | unregister (id : ActorId)

namespace MeteredRuntime

def new (nodeId : NodeId) (window bucketDuration : Nat) : MeteredRuntime σ A M R :=
  ⟨nodeId, 1, .new window bucketDuration, []⟩

/-- `spawn_internal`, as far as metrics go. -/
def spawn (s : MeteredRuntime σ A M R) (sp : Spawn σ A M R) (name : String) (actor : A)
    (istate : σ) : MeteredRuntime σ A M R :=
  let actorId : ActorId := ⟨s.nodeId, s.nextLocal⟩
  let core : Core σ A := ⟨actor, ⟨actorId, name, none, Headers.new, none⟩, istate, none⟩
  { s with
    nextLocal := s.nextLocal + 1
    registry := s.registry.registerHandle actorId s.actors.length
    actors := s.actors ++
      [(sp, .start (core.metered s.registry.window s.registry.bucketDuration))] }

def deliver (s : MeteredRuntime σ A M R) (k : ℕ) (mail : Option (Incoming A M R)) :
    MeteredRuntime σ A M R :=
  match s.actors[k]? with
  | none => s
  | some (sp, t) =>
    { s with actors := s.actors.set k (sp, t.step (sp.watched metricsInterceptor) mail) }

def step (s : MeteredRuntime σ A M R) : MeteredOp σ A M R → MeteredRuntime σ A M R
  | .spawn sp name actor istate => s.spawn sp name actor istate
  | .deliver k mail => s.deliver k mail
  | .registerHandle id k => { s with registry := s.registry.registerHandle id k }
  | .unregister id => { s with registry := s.registry.unregister id }

/-- The handles, as the actors have left them. -/
def heap (s : MeteredRuntime σ A M R) (k : ℕ) : ActorMetricsHandle :=
  (s.actors[k]?.map fun e => e.2.core.istate.1).getD
    (.new s.registry.window s.registry.bucketDuration)

def runtimeMetrics (s : MeteredRuntime σ A M R) : RuntimeMetrics :=
  s.registry.runtimeMetrics s.heap

/-- The messages that an actor has taken, and those that failed. -/
def taken (s : MeteredRuntime σ A M R) (k : ℕ) : ℕ :=
  (s.actors[k]?.map fun e => e.2.log.length).getD 0

def failures (s : MeteredRuntime σ A M R) (k : ℕ) : ℕ :=
  (s.actors[k]?.map fun e => e.2.log.countP failed).getD 0

/-- The runs in which the registrations are those of the runtime: nobody else
registers or unregisters a handle, and the numbers of the actors do not start
again. -/
def Undisturbed (s : MeteredRuntime σ A M R) : MeteredOp σ A M R → Prop
  | .spawn .. => s.actors.length < 2 ^ 64
  | .deliver .. => True
  | .registerHandle .. | .unregister _ => False

def AllCounted (s : MeteredRuntime σ A M R) : Prop := ∀ e ∈ s.actors, Counted e.2

theorem allCounted_step (s : MeteredRuntime σ A M R) (op : MeteredOp σ A M R)
    (h : s.AllCounted) : (s.step op).AllCounted := by
  cases op with
  | spawn sp name actor istate =>
      intro e he
      rcases List.mem_append.mp he with he | he
      · exact h e he
      · obtain rfl := List.mem_singleton.mp he
        exact counted_start _ _ _
  | deliver k mail =>
      rw [step, deliver]
      split
      · exact h
      · next sp t hk =>
          exact Slots.forall_mem_set h
            (counted_step sp t mail (h (sp, t) (List.mem_of_getElem? hk)))
  | registerHandle id k => exact h
  | unregister id => exact h

theorem sum_ofNat {α : Type} {l : List α} {f : α → UInt64} {g : α → ℕ}
    (h : ∀ x ∈ l, f x = UInt64.ofNat (g x)) : (l.map f).sum = UInt64.ofNat (l.map g).sum := by
  induction l with
  | nil => rfl
  | cons x l ih =>
      rw [List.map_cons, List.sum_cons, List.map_cons, List.sum_cons, UInt64.ofNat_add,
        h x List.mem_cons_self, ih fun y hy => h y (List.mem_cons_of_mem x hy)]

theorem AllCounted.heap {s : MeteredRuntime σ A M R} (h : s.AllCounted) (k : ℕ) :
    (s.heap k).messageCount = UInt64.ofNat (s.taken k) ∧
      (s.heap k).errorCount = UInt64.ofNat (s.failures k) := by
  rw [MeteredRuntime.heap, taken, failures]
  cases hk : s.actors[k]? with
  | none => exact ⟨rfl, rfl⟩
  | some e =>
      have hcounted := h e (List.mem_of_getElem? hk)
      exact ⟨hcounted.messages, hcounted.errors⟩

/-- Every actor is registered under its own id. -/
structure Registered (nodeId : NodeId) (s : MeteredRuntime σ A M R) : Prop where
  node : s.nodeId = nodeId
  next : s.nextLocal = UInt64.ofNat (s.actors.length + 1)
  handles : s.registry.handles =
    (List.range s.actors.length).map fun k => (⟨nodeId, UInt64.ofNat (k + 1)⟩, k)

/-- A number is given out once. -/
theorem ofNat_succ_ne {k n : ℕ} (hk : k < n) (hn : n < 2 ^ 64) :
    UInt64.ofNat (k + 1) ≠ UInt64.ofNat (n + 1) := by
  intro h
  have heq := congrArg UInt64.toNat h
  rw [UInt64.toNat_ofNat', UInt64.toNat_ofNat'] at heq
  omega

theorem registered_step (nodeId : NodeId) (s : MeteredRuntime σ A M R) (op : MeteredOp σ A M R)
    (hop : s.Undisturbed op) (h : s.Registered nodeId) : (s.step op).Registered nodeId := by
  cases op with
  | spawn sp name actor istate =>
      have hlength : (s.spawn sp name actor istate).actors.length = s.actors.length + 1 :=
        List.length_append
      refine ⟨h.node, ?_, ?_⟩
      · show s.nextLocal + 1 = _
        rw [step, hlength, h.next, UInt64.ofNat_add (s.actors.length + 1)]
        rfl
      · show s.registry.handles.filter (fun e => e.1 ≠ ⟨s.nodeId, s.nextLocal⟩) ++ [_] = _
        rw [step, hlength, List.range_succ, List.map_append, h.node, h.next]
        have hkeep : s.registry.handles.filter
            (fun e => e.1 ≠ ⟨nodeId, UInt64.ofNat (s.actors.length + 1)⟩)
              = s.registry.handles := by
          rw [List.filter_eq_self]
          intro e he
          rw [h.handles] at he
          obtain ⟨k, hk, rfl⟩ := List.mem_map.mp he
          have hne := ofNat_succ_ne (List.mem_range.mp hk) hop
          exact decide_eq_true fun heq => hne (congrArg ActorId.local heq)
        rw [hkeep, h.handles]
        rfl
  | deliver k mail =>
      rw [step, deliver]
      split
      · exact h
      · refine ⟨h.node, ?_, ?_⟩
        · rw [List.length_set]
          exact h.next
        · rw [List.length_set]
          exact h.handles
  | registerHandle id k => exact hop.elim
  | unregister id => exact hop.elim

theorem map_range_getD {α β : Type} (l : List α) (f : α → β) (d : β) :
    (List.range l.length).map (fun k => (l[k]?.map f).getD d) = l.map f := by
  apply List.ext_getElem
  · simp
  · intro k hk hk'
    have hlt : k < l.length := by simpa using hk'
    simp [hlt]

/-- **The totals of the registry are exact.**  Whatever is registered and
unregistered, and wherever the actors are, `total_messages` and `total_errors`
sum up, over the ids that are registered, the messages which the actor behind
each id has taken and those that failed, so that a handle under two ids counts
twice and one that was replaced or removed not at all.  When only the runtime
registers, up to 2^64 actors, these are all actors it has ever spawned, whether
they still run or not. -/
theorem registry_totals_exact (nodeId : NodeId) (window bucketDuration : Nat)
    (ops : List (MeteredOp σ A M R)) :
    let s := run step (new nodeId window bucketDuration) ops
    s.runtimeMetrics.totalMessages
        = UInt64.ofNat (s.registry.handles.map fun e => s.taken e.2).sum ∧
    s.runtimeMetrics.totalErrors
        = UInt64.ofNat (s.registry.handles.map fun e => s.failures e.2).sum ∧
    (Admissible step Undisturbed (new nodeId window bucketDuration) ops →
      s.runtimeMetrics = ⟨s.actors.length,
        UInt64.ofNat (s.actors.map fun e => e.2.log.length).sum,
        UInt64.ofNat (s.actors.map fun e => e.2.log.countP failed).sum⟩) := by
  intro s
  have hcounted : s.AllCounted := run_induction allCounted_step ops (by rintro e ⟨⟩)
  have hmessages : s.runtimeMetrics.totalMessages
      = UInt64.ofNat (s.registry.handles.map fun e => s.taken e.2).sum :=
    sum_ofNat fun e _ => (hcounted.heap e.2).1
  have herrors : s.runtimeMetrics.totalErrors
      = UInt64.ofNat (s.registry.handles.map fun e => s.failures e.2).sum :=
    sum_ofNat fun e _ => (hcounted.heap e.2).2
  refine ⟨hmessages, herrors, fun hops => ?_⟩
  have hregistered : s.Registered nodeId :=
    (always_of_admissible (registered_step nodeId)
      (s := new nodeId window bucketDuration) ⟨rfl, rfl, rfl⟩ hops).last
  have hall : ∀ f : ℕ → ℕ, s.registry.handles.map (fun e => f e.2)
      = (List.range s.actors.length).map f := fun f => by
    rw [hregistered.handles, List.map_map]
    rfl
  have htaken : s.registry.handles.map (fun e => s.taken e.2)
      = s.actors.map fun e => e.2.log.length := (hall s.taken).trans (map_range_getD ..)
  have hfailures : s.registry.handles.map (fun e => s.failures e.2)
      = s.actors.map fun e => e.2.log.countP failed := (hall s.failures).trans (map_range_getD ..)
  have hcount : s.runtimeMetrics.actorCount = s.actors.length := by
    show s.registry.handles.length = _
    rw [hregistered.handles, List.length_map, List.length_range]
  rw [htaken] at hmessages
  rw [hfailures] at herrors
  calc s.runtimeMetrics
      = ⟨s.runtimeMetrics.actorCount, s.runtimeMetrics.totalMessages,
          s.runtimeMetrics.totalErrors⟩ := rfl
    _ = _ := by rw [hcount, hmessages, herrors]

/-- Two actors take a message each, and the second one fails on it and stops. -/
def twoActors : List (MeteredOp Unit Unit Unit Unit) :=
  [.spawn ⟨[], false, plainHooks Unit⟩ "reader" () (),
    .spawn ⟨[], false, plainHooks Unit⟩ "writer" () (),
    .deliver 0 (some (incomingAt .typed (idleHandler 0 (.returned ())) 5)),
    .deliver 1 (some (incomingAt .typed (idleHandler 0 .panicked) 6))]

theorem registry_totals_exact_twoActors :
    (run step (new ⟨"node-1"⟩ 60 10) twoActors).runtimeMetrics = ⟨2, 2, 1⟩ :=
  (registry_totals_exact ⟨"node-1"⟩ 60 10 twoActors).2.2
    ⟨Nat.two_pow_pos 64, Nat.one_lt_two_pow (by decide), trivial, trivial, trivial⟩

end MeteredRuntime

end Dactor
