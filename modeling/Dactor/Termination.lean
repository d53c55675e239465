/-
Dactor/Termination.lean

The shutdown sequences of the four runtimes, and what they tell watchers.

Each runtime keeps its own sequence: it runs `on_stop`, takes the entries
registered for the actor out of the watcher map, and sends each of them a
`ChildTerminated` with its stop reason.  The ractor adapter also turns a
panic in `on_stop` into a reason if there is none yet; the others do not.

Main result: `termination_reports_iff`, over every run that ends in
termination.
-/
import Mathlib.Logic.Function.Basic
import Dactor.Adapters

namespace Dactor

open Runs

variable {σ A M R : Type}

/-! ### Watchers -/

/-- An entry of the watcher map.  Its `notify` closure delivers to the
watcher. -/
structure WatchEntry where
  watcherId : ActorId
  deriving DecidableEq, Repr

/-- From a watched actor to the entries of its watchers. -/
abbrev WatcherMap := ActorId → Option (List WatchEntry)

structure ChildTerminated where
  childId : ActorId
  childName : String
  reason : Option String
  deriving DecidableEq, Repr

/-- `watchers.remove(&id).unwrap_or_default()`. -/
def WatcherMap.remove (w : WatcherMap) (id : ActorId) : List WatchEntry × WatcherMap :=
  ((w id).getD [], Function.update w id none)

/-- `retain(|e| e.watcher_id != id)` in every list, then drop the lists that
are empty. -/
def WatcherMap.forget (w : WatcherMap) (id : ActorId) : WatcherMap := fun target =>
  match w target with
  | none => none
  | some entries =>
    match entries.filter fun e => e.watcherId ≠ id with
    | [] => none
    | entry :: rest => some (entry :: rest)

/-- One notification per entry. -/
def notifyAll (entries : List WatchEntry) (n : ChildTerminated) :
    List (ActorId × ChildTerminated) :=
  entries.map fun e => (e.watcherId, n)

/-! ### The four shutdown sequences -/

/-- What a shutdown leaves behind: the actor's last state, the watcher map,
the notifications sent, the result for `await_stop`, and the name taken out
of the registry. -/
structure Shutdown (σ A : Type) where
  core : Core σ A
  watchers : WatcherMap
  notifications : List (ActorId × ChildTerminated)
  awaitStop : Except String Unit
  unregistered : Option String

def onStopPanicked : String := "actor panicked in on_stop"

/-- The end of `spawn_internal`. -/
def spawnInternalShutdown (hooks : ActorHooks A) (s : Core σ A) (w : WatcherMap) :
    Shutdown σ A :=
  let ctx := { s.ctx with sendMode := none, headers := Headers.new }
  let (panicked, actor) := hooks.onStop s.actor
  let stopErr := if panicked then some onStopPanicked else none
  let (entries, w) := w.remove ctx.actorId
  { core := { s with actor, ctx }
    watchers := w
    notifications := notifyAll entries ⟨ctx.actorId, ctx.actorName, s.stopReason⟩
    awaitStop := match stopErr with
      | some e => .error e
      | none => .ok ()
    unregistered := some ctx.actorName }

/-- `RactorDactorActor::post_stop`. -/
def ractorPostStop (hooks : ActorHooks A) (s : Core σ A) (w : WatcherMap) : Shutdown σ A :=
  let ctx := { s.ctx with sendMode := none, headers := Headers.new, cancellationToken := none }
  let (panicked, actor) := hooks.onStop s.actor
  -- a handler panic keeps its reason
  let stopReason :=
    if panicked && s.stopReason.isNone then some onStopPanicked else s.stopReason
  let (entries, w) := w.remove ctx.actorId
  { core := { s with actor, ctx, stopReason }
    watchers := w.forget ctx.actorId
    notifications := notifyAll entries ⟨ctx.actorId, ctx.actorName, stopReason⟩
    awaitStop := if panicked then .error onStopPanicked else .ok ()
    unregistered := none }

/-- `KameoDactorActor::on_stop`. -/
def kameoOnStop (hooks : ActorHooks A) (s : Core σ A) (w : WatcherMap) : Shutdown σ A :=
  let ctx := { s.ctx with sendMode := none, headers := Headers.new, cancellationToken := none }
  let (panicked, actor) := hooks.onStop s.actor
  let stopErr := if panicked then some onStopPanicked else none
  let (entries, w) := w.remove ctx.actorId
  { core := { s with actor, ctx }
    watchers := w.forget ctx.actorId
    notifications := notifyAll entries ⟨ctx.actorId, ctx.actorName, s.stopReason⟩
    awaitStop := match stopErr with
      | some e => .error e
      | none => .ok ()
    unregistered := none }

/-- `CoerceDactorActor::stopped`. -/
def coerceStopped (hooks : ActorHooks A) (s : Core σ A) (w : WatcherMap) : Shutdown σ A :=
  let ctx := { s.ctx with sendMode := none, headers := Headers.new, cancellationToken := none }
  let (panicked, actor) := hooks.onStop s.actor
  let stopErr := if panicked then some onStopPanicked else none
  let (entries, w) := w.remove ctx.actorId
  { core := { s with actor, ctx }
    watchers := w.forget ctx.actorId
    notifications := notifyAll entries ⟨ctx.actorId, ctx.actorName, s.stopReason⟩
    awaitStop := match stopErr with
      | some e => .error e
      | none => .ok ()
    unregistered := none }

/-! ### The stop reason of a run -/

/-- The handler is started, it panics, and `on_error` answers with `Stop` or
`Escalate`. -/
def panicStops (sp : Spawn σ A M R) (m : Incoming A M R) (s : Core σ A) : Bool :=
  (received sp m s).rejection.isNone && !alreadyCancelled m &&
    match (dispatched sp m s).result with
    | .finished .panicked =>
      (sp.hooks.onError (dispatched sp m s).actor handlerPanicked).1.stops
    | _ => false

/-- This mailbox item stops a running actor by a handler panic. -/
def breaksLoop (sp : Spawn σ A M R) (t : Task σ A R) : Option (Incoming A M R) → Bool
  | none => false
  | some m => t.running && panicStops sp m t.core

/-- Some item of the run does. -/
def stoppedByPanic (sp : Spawn σ A M R) : Task σ A R → List (Option (Incoming A M R)) → Bool
  | _, [] => false
  | t, mail :: mails => breaksLoop sp t mail || stoppedByPanic sp (t.step sp mail) mails

/-- A message sets the stop reason exactly if its handler's panic stops the
actor. -/
theorem stopReason_body (sp : Spawn σ A M R) (m : Incoming A M R) (s : Core σ A) :
    (spawnInternalBody sp m s).1.stopReason =
      if panicStops sp m s then some "handler panicked" else s.stopReason := by
  rcases hr : (received sp m s).rejection with - | ⟨name, disposition⟩
  · rcases hc : alreadyCancelled m with - | -
    · rcases hd : (dispatched sp m s).result with - | (reply | -)
      · simp [body_of_cancelled hr hc hd, panicStops, hd]
      · simp [body_of_returned hr hc hd, panicStops, hd]
      · simp [body_of_panicked hr hc hd, panicStops, hr, hc, hd]
    · simp [body_of_alreadyCancelled hr hc, panicStops, hc]
  · simp [body_of_rejection hr, panicStops, hr]

theorem stopReason_step (sp : Spawn σ A M R) (t : Task σ A R)
    (mail : Option (Incoming A M R)) :
    (t.step sp mail).core.stopReason =
      if breaksLoop sp t mail then some "handler panicked" else t.core.stopReason := by
  rcases hrun : t.running with - | -
  · cases mail <;> simp [Task.step, breaksLoop, hrun]
  · cases mail with
    | none => simp [Task.step, breaksLoop, hrun]
    | some m =>
        rw [Task.step_some m hrun, breaksLoop, hrun, Bool.true_and]
        exact stopReason_body sp m t.core

/-- The stop reason of a run: set exactly if a panic stopped it. -/
theorem stopReason_run (sp : Spawn σ A M R) (t : Task σ A R)
    (mails : List (Option (Incoming A M R))) :
    (run (Task.step sp) t mails).core.stopReason =
      if stoppedByPanic sp t mails then some "handler panicked" else t.core.stopReason := by
  induction mails generalizing t with
  | nil => rfl
  | cons mail mails ih =>
      rw [run_cons, ih, stopReason_step, stoppedByPanic]
      rcases breaksLoop sp t mail with - | - <;> simp

/-! ### What the watchers are told -/

/-- The reason the ractor adapter reports. -/
def ractorReason (panicked : Bool) (stopReason : Option String) : Option String :=
  if panicked && stopReason.isNone then some onStopPanicked else stopReason

/-- The entries registered for an actor. -/
def WatcherMap.watchersOf (w : WatcherMap) (id : ActorId) : List WatchEntry := (w id).getD []

theorem reason_of_mem_notifyAll {entries : List WatchEntry} {n : ChildTerminated}
    {x : ActorId × ChildTerminated} (h : x ∈ notifyAll entries n) : x.2 = n := by
  obtain ⟨e, -, rfl⟩ := List.mem_map.mp h
  rfl

/-- To a non-empty list of watchers, different notifications are different
reports. -/
theorem notifyAll_inj {entries : List WatchEntry} {n n' : ChildTerminated}
    (hne : entries ≠ []) (h : notifyAll entries n = notifyAll entries n') : n = n' := by
  obtain ⟨e, rest, rfl⟩ := List.exists_cons_of_ne_nil hne
  simp only [notifyAll, List.map_cons, List.cons.injEq, Prod.mk.injEq, true_and] at h
  exact h.1

/-- Two reports to the same watchers, one with the stop reason and one with
the reason ractor gives, are truthful and alike exactly if nobody watches or
the two reasons are the same and say whether the shutdown was graceful. -/
theorem reports_iff (entries : List WatchEntry) (id : ActorId) (name : String)
    (reason reason' : Option String) (graceful : Prop) :
    ((∀ x ∈ notifyAll entries ⟨id, name, reason⟩ ++ notifyAll entries ⟨id, name, reason'⟩,
        (x.2.reason = none ↔ graceful)) ∧
      notifyAll entries ⟨id, name, reason'⟩ = notifyAll entries ⟨id, name, reason⟩) ↔
      entries = [] ∨ reason' = reason ∧ (reason = none ↔ graceful) := by
  constructor
  · rintro ⟨htrue, halike⟩
    by_cases he : entries = []
    · exact .inl he
    · right
      have hreason : reason' = reason :=
        congrArg ChildTerminated.reason (notifyAll_inj he halike)
      obtain ⟨e, rest, rfl⟩ := List.exists_cons_of_ne_nil he
      exact ⟨hreason, htrue (e.watcherId, ⟨id, name, reason⟩) (by simp [notifyAll])⟩
  · rintro (rfl | ⟨rfl, hgraceful⟩)
    · exact ⟨fun x hx => by simp [notifyAll] at hx, rfl⟩
    · refine ⟨fun x hx => ?_, rfl⟩
      have hx2 : x.2 = ⟨id, name, reason'⟩ := by
        rcases List.mem_append.mp hx with hx | hx <;> exact reason_of_mem_notifyAll hx
      rw [hx2]
      exact hgraceful

/-! ### The reports of a run -/

/-- The notifications of each runtime at the end of the same run. -/
structure Reports where
  test : List (ActorId × ChildTerminated)
  ractor : List (ActorId × ChildTerminated)
  kameo : List (ActorId × ChildTerminated)
  coerce : List (ActorId × ChildTerminated)

/-- An actor spawned in each runtime, run over the same mailbox and shut
down at its end: a stop signal or a panic ends the run where it occurs, a
closed mailbox after the last message. -/
def reportsOf (sp : Spawn σ A M R) (start : Core σ A) (mails : List (Option (Incoming A M R)))
    (w : WatcherMap) : Reports where
  test := (spawnInternalShutdown sp.hooks
    (run (Task.step sp) (.start start) mails).core w).notifications
  ractor := (ractorPostStop sp.hooks
    (run (RactorCell.step sp) (.start start) mails).state w).notifications
  kameo := (kameoOnStop sp.hooks
    (run (KameoCell.step sp) (.start start) mails).state w).notifications
  coerce := (coerceStopped sp.hooks
    (run (CoerceCell.step sp) (.start start) mails).state w).notifications

/-- The actor's `on_stop` panics at the end of the run. -/
def onStopPanics (sp : Spawn σ A M R) (start : Core σ A)
    (mails : List (Option (Incoming A M R))) : Bool :=
  (sp.hooks.onStop (run (Task.step sp) (Task.start start) mails).core.actor).1

/-- No handler panic caused the stop and `on_stop` did not panic. -/
def Graceful (sp : Spawn σ A M R) (start : Core σ A)
    (mails : List (Option (Incoming A M R))) : Prop :=
  stoppedByPanic sp (.start start) mails = false ∧ onStopPanics sp start mails = false

/-- Every watcher learns `None` exactly for a graceful shutdown, and all
runtimes tell the same. -/
def Reports.TruthfulAndAlike (r : Reports) (graceful : Prop) : Prop :=
  (∀ x ∈ r.test ++ r.ractor ++ r.kameo ++ r.coerce, (x.2.reason = none ↔ graceful)) ∧
    r.ractor = r.test ∧ r.kameo = r.test ∧ r.coerce = r.test

/-- The kameo and coerce reports repeat the one of the test runtime, so only
the ractor one is left to compare. -/
theorem Reports.truthfulAndAlike_iff {r : Reports} {graceful : Prop} (hkameo : r.kameo = r.test)
    (hcoerce : r.coerce = r.test) :
    r.TruthfulAndAlike graceful ↔
      (∀ x ∈ r.test ++ r.ractor, (x.2.reason = none ↔ graceful)) ∧ r.ractor = r.test := by
  simp only [Reports.TruthfulAndAlike, hkameo, hcoerce, and_true, List.mem_append]
  refine and_congr_left fun _ => ⟨fun h x hx => h x (.inl (.inl hx)), fun h x hx => h x ?_⟩
  rcases hx with (hx | hx) | hx
  · exact hx
  · exact .inl hx
  · exact .inl hx

section Reports

variable (sp : Spawn σ A M R) (start : Core σ A) (mails : List (Option (Incoming A M R)))
  (w : WatcherMap)

theorem reportsOf_test :
    let core := (run (Task.step sp) (Task.start start) mails).core
    (reportsOf sp start mails w).test = notifyAll (w.watchersOf core.ctx.actorId)
      ⟨core.ctx.actorId, core.ctx.actorName, core.stopReason⟩ := rfl

theorem reportsOf_ractor :
    let core := (run (Task.step sp) (Task.start start) mails).core
    (reportsOf sp start mails w).ractor = notifyAll (w.watchersOf core.ctx.actorId)
      ⟨core.ctx.actorId, core.ctx.actorName,
        ractorReason (onStopPanics sp start mails) core.stopReason⟩ := by
  show (ractorPostStop sp.hooks _ w).notifications = _
  rw [(simulates_run_ractor sp start mails).state_eq]
  rfl

theorem reportsOf_kameo :
    (reportsOf sp start mails w).kameo = (reportsOf sp start mails w).test := by
  show (kameoOnStop sp.hooks _ w).notifications = _
  rw [(simulates_run_kameo sp start mails).state_eq]
  rfl

theorem reportsOf_coerce :
    (reportsOf sp start mails w).coerce = (reportsOf sp start mails w).test := by
  show (coerceStopped sp.hooks _ w).notifications = _
  rw [(simulates_run_coerce sp start mails).state_eq]
  rfl

end Reports

/-- **Termination is reported truthfully and alike by every runtime**,
whenever a run ends — by a stop signal, a closed mailbox or a panic —
exactly if the actor has no watcher, its `on_stop` does not panic, or a
handler panic had stopped it before. -/
theorem termination_reports_iff (sp : Spawn σ A M R) (actor : A) (ctx : ActorContext)
    (istate : σ) (mails : List (Option (Incoming A M R))) (w : WatcherMap) :
    let start : Core σ A := ⟨actor, ctx, istate, none⟩
    (reportsOf sp start mails w).TruthfulAndAlike (Graceful sp start mails) ↔
      w.watchersOf (run (Task.step sp) (Task.start start) mails).core.ctx.actorId = [] ∨
        onStopPanics sp start mails = false ∨
        stoppedByPanic sp (.start start) mails = true := by
  intro start
  have hreason : (run (Task.step sp) (Task.start start) mails).core.stopReason =
      if stoppedByPanic sp (.start start) mails then some "handler panicked" else none :=
    stopReason_run sp (.start start) mails
  rw [Reports.truthfulAndAlike_iff (reportsOf_kameo sp start mails w)
    (reportsOf_coerce sp start mails w), reportsOf_ractor, reportsOf_test, reports_iff]
  apply or_congr Iff.rfl
  -- whether the two reasons agree is a matter of the two panics
  rw [hreason, Graceful]
  cases stoppedByPanic sp (.start start) mails <;> cases onStopPanics sp start mails <;>
    simp [ractorReason, onStopPanicked]

/-- An actor whose `on_stop` panics. -/
def panickyStop : ActorHooks Unit where
  onError actor _ := (.stop, actor)
  onStop actor := (true, actor)

/-- Stopped on request, with one watcher: only ractor reports the panic in
`on_stop`. -/
theorem termination_reports_fails :
    ¬ ∀ (sp : Spawn Unit Unit Unit Unit) (ctx : ActorContext)
      (mails : List (Option (Incoming Unit Unit Unit))) (w : WatcherMap),
      (reportsOf sp ⟨(), ctx, (), none⟩ mails w).TruthfulAndAlike
        (Graceful sp ⟨(), ctx, (), none⟩ mails) := by
  intro h
  have hall := h ⟨[], false, panickyStop⟩ freshContext [none]
    (Function.update (fun _ => none) freshContext.actorId (some [⟨⟨⟨"node-1"⟩, 2⟩⟩]))
  obtain ⟨-, hractor, -⟩ := hall
  exact absurd hractor (by decide)

end Dactor
