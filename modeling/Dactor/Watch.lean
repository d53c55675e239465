/-
Dactor/Watch.lean

The watch registry of the adapters.

The ractor, kameo and coerce adapters keep a map from each watched actor to
the entries of its watchers.  `watch` appends an entry, `unwatch` takes out
all entries of one watcher, and a terminating actor leaves the map in both
roles: its own list is removed and told, and its entries in the lists of
others are dropped.  Every update is made under one lock, so a run is any
sequence of such steps.

`outstanding` says from the history alone which registrations are still
open.  Main result: `watch_semantics`, for every adapter and every run in
which the parties of each `watch` are alive.
-/
import Dactor.Termination

namespace Dactor

open Runs

/-! ### The map -/

/-- `watchers.entry(target_id).or_default().push(entry)`. -/
def WatcherMap.watch (m : WatcherMap) (watcher target : ActorId) : WatcherMap :=
  Function.update m target (some (m.watchersOf target ++ [⟨watcher⟩]))

/-- `unwatch`: keep the other watchers of the target, and remove the list if
that leaves it empty. -/
def WatcherMap.unwatch (m : WatcherMap) (watcher target : ActorId) : WatcherMap :=
  match m target with
  | none => m
  | some entries =>
    let kept := entries.filter fun e => e.watcherId ≠ watcher
    if kept.isEmpty then Function.update m target none
    else Function.update m target (some kept)

/-- No list of the map is empty. -/
def WatcherMap.NoEmptyList (m : WatcherMap) : Prop := ∀ t, m t ≠ some []

theorem WatcherMap.watchersOf_update (m : WatcherMap) (target t : ActorId)
    (v : Option (List WatchEntry)) :
    WatcherMap.watchersOf (Function.update m target v) t =
      if t = target then v.getD [] else m.watchersOf t := by
  rw [WatcherMap.watchersOf, Function.update_apply]
  split <;> rfl

theorem WatcherMap.watchersOf_watch (m : WatcherMap) (watcher target t : ActorId) :
    (m.watch watcher target).watchersOf t =
      if t = target then m.watchersOf t ++ [⟨watcher⟩] else m.watchersOf t := by
  rw [WatcherMap.watch, WatcherMap.watchersOf_update]
  split
  · next h => rw [h]; rfl
  · rfl

theorem WatcherMap.watchersOf_unwatch (m : WatcherMap) (watcher target t : ActorId) :
    (m.unwatch watcher target).watchersOf t =
      if t = target then (m.watchersOf t).filter fun e => e.watcherId ≠ watcher
      else m.watchersOf t := by
  cases hm : m target with
  | none =>
      have hnone : m.watchersOf target = [] := by rw [WatcherMap.watchersOf, hm]; rfl
      simp only [WatcherMap.unwatch, hm]
      split
      · next h => rw [h, hnone, List.filter_nil]
      · rfl
  | some entries =>
      have hsome : m.watchersOf target = entries := by rw [WatcherMap.watchersOf, hm]; rfl
      simp only [WatcherMap.unwatch, hm]
      by_cases hempty : (entries.filter fun e => e.watcherId ≠ watcher).isEmpty
      · rw [if_pos hempty, WatcherMap.watchersOf_update]
        split
        · next h => rw [h, hsome, List.isEmpty_iff.mp hempty]; rfl
        · rfl
      · rw [if_neg hempty, WatcherMap.watchersOf_update]
        split
        · next h => rw [h, hsome]; rfl
        · rfl

theorem WatcherMap.watchersOf_remove (m : WatcherMap) (id t : ActorId) :
    (m.remove id).2.watchersOf t = if t = id then [] else m.watchersOf t := by
  show WatcherMap.watchersOf (Function.update m id none) t = _
  rw [WatcherMap.watchersOf_update]
  rfl

theorem WatcherMap.watchersOf_forget (m : WatcherMap) (id t : ActorId) :
    (m.forget id).watchersOf t = (m.watchersOf t).filter fun e => e.watcherId ≠ id := by
  simp only [WatcherMap.watchersOf, WatcherMap.forget]
  cases m t with
  | none => rfl
  | some entries =>
      simp only [Option.getD_some]
      cases entries.filter fun e => e.watcherId ≠ id <;> rfl

/-! #### No list is left empty -/

theorem WatcherMap.noEmptyList_update {m : WatcherMap} (hm : m.NoEmptyList) (target : ActorId)
    {v : Option (List WatchEntry)} (hv : v ≠ some []) :
    WatcherMap.NoEmptyList (Function.update m target v) := by
  intro t
  rw [Function.update_apply]
  split
  · exact hv
  · exact hm t

theorem WatcherMap.noEmptyList_watch {m : WatcherMap} (hm : m.NoEmptyList)
    (watcher target : ActorId) : (m.watch watcher target).NoEmptyList := by
  apply WatcherMap.noEmptyList_update hm
  simp

theorem WatcherMap.noEmptyList_unwatch {m : WatcherMap} (hm : m.NoEmptyList)
    (watcher target : ActorId) : (m.unwatch watcher target).NoEmptyList := by
  rw [WatcherMap.unwatch]
  split
  · exact hm
  · dsimp only
    split
    · exact WatcherMap.noEmptyList_update hm target (by simp)
    · next hne =>
        apply WatcherMap.noEmptyList_update hm target
        intro h
        rw [Option.some.injEq] at h
        exact hne (List.isEmpty_iff.mpr h)

theorem WatcherMap.noEmptyList_forget (m : WatcherMap) (id : ActorId) :
    (m.forget id).NoEmptyList := by
  intro t
  simp only [WatcherMap.forget]
  split
  · simp
  · split <;> simp

/-! ### The adapters -/

inductive Adapter
  | ractor | kameo | coerce
  deriving DecidableEq, Repr

/-- The shutdown sequence of each adapter. -/
def Adapter.shutdown {σ A : Type} : Adapter → ActorHooks A → Core σ A → WatcherMap → Shutdown σ A
  | .ractor => ractorPostStop
  | .kameo => kameoOnStop
  | .coerce => coerceStopped

/-- The reason each adapter reports for the end of an actor. -/
def Adapter.reason {σ A : Type} (a : Adapter) (hooks : ActorHooks A) (core : Core σ A) :
    Option String :=
  match a with
  | .ractor => ractorReason (hooks.onStop core.actor).1 core.stopReason
  | .kameo | .coerce => core.stopReason

/-- What an actor's watchers are told when it ends. -/
def Adapter.notice {σ A : Type} (a : Adapter) (hooks : ActorHooks A) (core : Core σ A) :
    ChildTerminated :=
  ⟨core.ctx.actorId, core.ctx.actorName, a.reason hooks core⟩

theorem Adapter.shutdown_notifications {σ A : Type} (a : Adapter) (hooks : ActorHooks A)
    (core : Core σ A) (m : WatcherMap) :
    (a.shutdown hooks core m).notifications =
      notifyAll (m.watchersOf core.ctx.actorId) (a.notice hooks core) := by
  cases a <;> rfl

/-- Each adapter drops the terminated actor in both of its roles. -/
theorem Adapter.shutdown_watchers {σ A : Type} (a : Adapter) (hooks : ActorHooks A)
    (core : Core σ A) (m : WatcherMap) :
    (a.shutdown hooks core m).watchers =
      (m.remove core.ctx.actorId).2.forget core.ctx.actorId := by
  cases a <;> rfl

/-! ### Runs of the registry -/

/-- The steps that touch the map. -/
inductive WatchOp : Type 1
  | watch (watcher target : ActorId)
  | unwatch (watcher target : ActorId)
  | terminate {σ A : Type} (hooks : ActorHooks A) (core : Core σ A)

/-- The map, with the actors that have executed their termination step. -/
structure Registry where
  watchers : WatcherMap
  terminated : List ActorId

def Registry.empty : Registry := ⟨fun _ => none, []⟩

def Registry.step (a : Adapter) (r : Registry) : WatchOp → Registry
  | .watch w t => { r with watchers := r.watchers.watch w t }
  | .unwatch w t => { r with watchers := r.watchers.unwatch w t }
  | .terminate hooks core =>
      ⟨(a.shutdown hooks core r.watchers).watchers, core.ctx.actorId :: r.terminated⟩

/-- The notifications a step sends. -/
def Registry.sent (a : Adapter) (r : Registry) : WatchOp → List (ActorId × ChildTerminated)
  | .watch _ _ | .unwatch _ _ => []
  | .terminate hooks core => (a.shutdown hooks core r.watchers).notifications

/-- At a `watch`, neither the watcher nor the target has terminated. -/
def Registry.AliveAtWatch (r : Registry) : WatchOp → Prop
  | .watch w t => w ∉ r.terminated ∧ t ∉ r.terminated
  | .unwatch _ _ | .terminate _ _ => True

instance Registry.decidableAliveAtWatch (r : Registry) :
    (op : WatchOp) → Decidable (r.AliveAtWatch op)
  | .watch w t => inferInstanceAs (Decidable (w ∉ r.terminated ∧ t ∉ r.terminated))
  | .unwatch _ _ => isTrue trivial
  | .terminate _ _ => isTrue trivial

/-- The map holds no empty list, and no terminated actor in either role. -/
structure Registry.Clean (r : Registry) : Prop where
  noEmptyList : r.watchers.NoEmptyList
  targets : ∀ t ∈ r.terminated, r.watchers t = none
  watchers : ∀ t, ∀ e ∈ r.watchers.watchersOf t, e.watcherId ∉ r.terminated

/-! ### Open registrations, from the history -/

/-- The step ends every earlier registration of `w` with `t`: it withdraws
them, or one of the two terminates. -/
def WatchOp.ends (w t : ActorId) : WatchOp → Bool
  | .watch _ _ => false
  | .unwatch w' t' => w' = w && t' = t
  | .terminate _ core => core.ctx.actorId = w || core.ctx.actorId = t

/-- The watchers of `t` in the order of their registrations, one for each
`watch` that no later step has ended. -/
def outstanding (t : ActorId) : List WatchOp → List ActorId
  | [] => []
  | .watch w t' :: later =>
      if t' = t && !later.any (WatchOp.ends w t) then w :: outstanding t later
      else outstanding t later
  | _ :: later => outstanding t later

/-- The registration a step makes with `t`. -/
def WatchOp.opens (t : ActorId) : WatchOp → List ActorId
  | .watch w t' => if t' = t then [w] else []
  | .unwatch _ _ | .terminate _ _ => []

/-- One more step: it ends some registrations and may open one. -/
theorem outstanding_snoc (t : ActorId) (past : List WatchOp) (op : WatchOp) :
    outstanding t (past ++ [op]) =
      (outstanding t past).filter (fun w => !op.ends w t) ++ op.opens t := by
  induction past with
  | nil =>
      cases op with
      | watch w t' => by_cases h : t' = t <;> simp [outstanding, WatchOp.opens, h]
      | unwatch w t' => rfl
      | terminate hooks core => rfl
  | cons first past ih =>
      cases first with
      | watch w t' =>
          -- the first registration stays open iff it was and `op` does not end it
          simp only [List.cons_append, outstanding, List.any_append, List.any_cons, List.any_nil,
            Bool.or_false, ih]
          cases ht : decide (t' = t) <;> cases hp : past.any (WatchOp.ends w t) <;>
            cases ho : op.ends w t <;> simp [ho]
      | unwatch w t' => exact ih
      | terminate hooks core => exact ih

/-! ### One step -/

/-- What a step does to the entries of an actor is what it does to its open
registrations. -/
theorem Registry.watchersOf_step (a : Adapter) (r : Registry) (op : WatchOp) (t : ActorId) :
    (r.step a op).watchers.watchersOf t =
      (r.watchers.watchersOf t).filter (fun e => !op.ends e.watcherId t) ++
        (op.opens t).map WatchEntry.mk := by
  cases op with
  | watch w t' =>
      show (r.watchers.watch w t').watchersOf t = _
      rw [WatcherMap.watchersOf_watch]
      by_cases h : t = t'
      · simp [WatchOp.ends, WatchOp.opens, h]
      · simp [WatchOp.ends, WatchOp.opens, h, Ne.symm h]
  | unwatch w t' =>
      show (r.watchers.unwatch w t').watchersOf t = _
      rw [WatcherMap.watchersOf_unwatch]
      by_cases h : t = t'
      · simp [WatchOp.ends, WatchOp.opens, h, eq_comm]
      · simp [WatchOp.ends, WatchOp.opens, h, Ne.symm h]
  | terminate hooks core =>
      show (a.shutdown hooks core r.watchers).watchers.watchersOf t = _
      rw [Adapter.shutdown_watchers, WatcherMap.watchersOf_forget, WatcherMap.watchersOf_remove]
      by_cases h : t = core.ctx.actorId
      · simp [WatchOp.ends, WatchOp.opens, h]
      · simp [WatchOp.ends, WatchOp.opens, h, Ne.symm h, eq_comm]

theorem Registry.noEmptyList_step (a : Adapter) {r : Registry} (h : r.watchers.NoEmptyList)
    (op : WatchOp) : (r.step a op).watchers.NoEmptyList := by
  cases op with
  | watch w t => exact WatcherMap.noEmptyList_watch h w t
  | unwatch w t => exact WatcherMap.noEmptyList_unwatch h w t
  | terminate hooks core =>
      show (a.shutdown hooks core r.watchers).watchers.NoEmptyList
      rw [Adapter.shutdown_watchers]
      exact WatcherMap.noEmptyList_forget _ _

/-! ### Invariants of a run -/

/-- A target without entries has no list. -/
theorem WatcherMap.NoEmptyList.eq_none {m : WatcherMap} (h : m.NoEmptyList) {t : ActorId}
    (hnil : m.watchersOf t = []) : m t = none := by
  rw [WatcherMap.watchersOf] at hnil
  cases hm : m t with
  | none => rfl
  | some entries =>
      rw [hm, Option.getD_some] at hnil
      exact absurd (hm.trans (congrArg some hnil)) (h t)

theorem Registry.Clean.watchersOf_nil {r : Registry} (h : r.Clean) {t : ActorId}
    (ht : t ∈ r.terminated) : r.watchers.watchersOf t = [] := by
  rw [WatcherMap.watchersOf, h.targets t ht]
  rfl

/-- An entry after a step is an old one that the step does not end, or the
one it opens between two live actors. -/
theorem Registry.mem_step {a : Adapter} {r : Registry} {op : WatchOp} (hop : r.AliveAtWatch op)
    (h : r.Clean) {t : ActorId} {e : WatchEntry} (he : e ∈ (r.step a op).watchers.watchersOf t) :
    t ∉ (r.step a op).terminated ∧ e.watcherId ∉ (r.step a op).terminated := by
  rw [Registry.watchersOf_step, List.mem_append, List.mem_filter] at he
  have hold : e ∈ r.watchers.watchersOf t → t ∉ r.terminated := by
    intro hmem hterm
    rw [h.watchersOf_nil hterm] at hmem
    exact List.not_mem_nil hmem
  cases op with
  | watch w t' =>
      rcases he with ⟨hmem, -⟩ | hnew
      · exact ⟨hold hmem, h.watchers t e hmem⟩
      · simp only [WatchOp.opens, List.mem_map, List.mem_ite_nil_right, List.mem_singleton] at hnew
        obtain ⟨w', ⟨rfl, rfl⟩, rfl⟩ := hnew
        exact ⟨hop.2, hop.1⟩
  | unwatch w t' =>
      rcases he with ⟨hmem, -⟩ | hnew
      · exact ⟨hold hmem, h.watchers t e hmem⟩
      · exact absurd hnew List.not_mem_nil
  | terminate hooks core =>
      rcases he with ⟨hmem, hends⟩ | hnew
      · simp only [WatchOp.ends, Bool.not_eq_true', Bool.or_eq_false_iff,
          decide_eq_false_iff_not] at hends
        simp only [Registry.step, List.mem_cons, not_or]
        exact ⟨⟨Ne.symm hends.2, hold hmem⟩, Ne.symm hends.1, h.watchers t e hmem⟩
      · exact absurd hnew List.not_mem_nil

theorem Registry.clean_step (a : Adapter) (r : Registry) (op : WatchOp)
    (hop : r.AliveAtWatch op) (h : r.Clean) : (r.step a op).Clean := by
  have hne := Registry.noEmptyList_step a h.noEmptyList op
  refine ⟨hne, ?_, ?_⟩
  · intro t ht
    apply hne.eq_none
    rw [List.eq_nil_iff_forall_not_mem]
    intro e he
    exact (Registry.mem_step hop h he).1 ht
  · intro t e he
    exact (Registry.mem_step hop h he).2

theorem Registry.clean_empty : Registry.empty.Clean where
  noEmptyList t := by simp [Registry.empty]
  targets t ht := absurd ht List.not_mem_nil
  watchers t e he := absurd he List.not_mem_nil

/-- The entries of the map are the open registrations. -/
def Registry.Tracks (past : List WatchOp) (r : Registry) : Prop :=
  ∀ t, r.watchers.watchersOf t = (outstanding t past).map WatchEntry.mk

theorem Registry.tracks_step (a : Adapter) (past : List WatchOp) (r : Registry) (op : WatchOp)
    (h : r.Tracks past) : (r.step a op).Tracks (past ++ [op]) := by
  intro t
  rw [Registry.watchersOf_step, h t, outstanding_snoc, List.map_append, List.filter_map]
  rfl

/-- What the adapter's termination step sends, read off the history. -/
theorem Registry.Tracks.sent_terminate {past : List WatchOp} {r : Registry} (h : r.Tracks past)
    (a : Adapter) {σ A : Type} (hooks : ActorHooks A) (core : Core σ A) :
    r.sent a (.terminate hooks core) =
      (outstanding core.ctx.actorId past).map fun w => (w, a.notice hooks core) := by
  rw [Registry.sent, Adapter.shutdown_notifications, h, notifyAll, List.map_map]
  rfl

/-- **Watch semantics of the adapters.**  In every run in which the parties
of each `watch` are alive, the termination of an actor sends one notification
for each of its open registrations, in the order they were made; the other
steps and a second termination send nothing; and the map stays clean. -/
theorem watch_semantics (a : Adapter) (ops : List WatchOp)
    (h : Admissible (Registry.step a) Registry.AliveAtWatch .empty ops) :
    let r := run (Registry.step a) .empty ops
    (∀ {σ A : Type} (hooks : ActorHooks A) (core : Core σ A),
      r.sent a (.terminate hooks core) =
        (outstanding core.ctx.actorId ops).map fun w => (w, a.notice hooks core)) ∧
      (∀ w t, r.sent a (.watch w t) = [] ∧ r.sent a (.unwatch w t) = []) ∧
      (∀ {σ A : Type} (hooks : ActorHooks A) (core : Core σ A),
        core.ctx.actorId ∈ r.terminated → r.sent a (.terminate hooks core) = []) ∧
      Always (Registry.step a) Registry.Clean .empty ops := by
  intro r
  have htracks : r.Tracks ops :=
    history_induction (fun past s op _ => Registry.tracks_step a past s op)
      (fun _ => rfl) h
  have hclean : Always (Registry.step a) Registry.Clean .empty ops :=
    always_of_admissible (Registry.clean_step a) Registry.clean_empty h
  refine ⟨fun hooks core => htracks.sent_terminate a hooks core, fun _ _ => ⟨rfl, rfl⟩, ?_, hclean⟩
  intro σ A hooks core hterm
  rw [Registry.sent, Adapter.shutdown_notifications, hclean.last.watchersOf_nil hterm]
  rfl

/-- An actor that watches itself, one that watches it twice, and one that
changes its mind. -/
def watchedTwice : List WatchOp :=
  let target := freshContext.actorId
  [.watch ⟨⟨"node-1"⟩, 2⟩ target, .watch target target, .watch ⟨⟨"node-1"⟩, 3⟩ target,
    .watch ⟨⟨"node-1"⟩, 2⟩ target, .unwatch ⟨⟨"node-1"⟩, 3⟩ target]

theorem watch_semantics_watchedTwice :
    Admissible (Registry.step .ractor) Registry.AliveAtWatch .empty watchedTwice ∧
      ((run (Registry.step .ractor) .empty watchedTwice).sent .ractor
        (.terminate (plainHooks Unit) (⟨(), freshContext, (), none⟩ : Core Unit Unit))).map
          Prod.fst = [⟨⟨"node-1"⟩, 2⟩, freshContext.actorId, ⟨⟨"node-1"⟩, 2⟩] := by
  have halive : Admissible (Registry.step .ractor) Registry.AliveAtWatch .empty watchedTwice := by
    decide
  obtain ⟨hsent, -⟩ := watch_semantics .ractor watchedTwice halive
  refine ⟨halive, ?_⟩
  rw [hsent]
  rfl

end Dactor
