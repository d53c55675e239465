/-
Dactor/WatchRegistries.lean

The watch registry of the test runtime beside the one of the ractor adapter.

Both runtimes are driven by the same steps.  They differ in three places: a
terminating actor leaves the test runtime's map only as a target, not as a
watcher; the test runtime notifies through the watcher's mailbox, where a
bounded one may be full, while ractor casts past the front buffer; and only
ractor turns a panic in `on_stop` into a reason.

Main result: `parity_iff` — the two registries agree all along a run exactly
if every termination in it meets `Registries.KeepsParity`.
-/
import Dactor.Watch
import Dactor.Mailbox

namespace Dactor

open Runs Channels Channels.Channel

/-! ### Notification through a mailbox -/

/-- A message in a watcher's mailbox. -/
inductive WatcherMail
  | childTerminated (n : ChildTerminated)
  | other
  deriving DecidableEq, Repr

/-- The mailbox of a watcher, stop signals included. -/
abbrev WatcherMailbox := Mailbox (Option WatcherMail)

/-- The `notify` closure of the test runtime, by the notices that it adds to
the mailbox. -/
def notifyThrough (mb : WatcherMailbox) (n : ChildTerminated) : List ChildTerminated :=
  ((mb.send (some (.childTerminated n))).2.channel.queue.drop mb.channel.queue.length).filterMap
    fun
      | some (.childTerminated n') => some n'
      | _ => none

theorem notifyThrough_eq (mb : WatcherMailbox) (n : ChildTerminated) :
    notifyThrough mb n = if mb.Admits then [n] else [] := by
  rw [notifyThrough, Mailbox.send_queue]
  split
  · rw [List.drop_left]
    rfl
  · rw [List.drop_length]
    rfl

/-- `for entry in &entries { (entry.notify)(notification.clone()) }`, where
`mailboxes k` is the mailbox of the `k`-th watcher when its turn comes. -/
def notifyLoop : List (ActorId × ChildTerminated) → (Nat → WatcherMailbox) →
    List (ActorId × ChildTerminated)
  | [], _ => []
  | (w, n) :: rest, mailboxes =>
      (notifyThrough (mailboxes 0) n).map (fun n' => (w, n')) ++
        notifyLoop rest fun k => mailboxes (k + 1)

section NotifyLoop

variable (live : ActorId → Bool) (n n' : ChildTerminated)

/-- The loop never reaches more live watchers than there are. -/
theorem length_notifyLoop_le (entries : List WatchEntry) (mailboxes : Nat → WatcherMailbox) :
    ((notifyLoop (notifyAll entries n) mailboxes).filter fun x => live x.1).length ≤
      ((notifyAll entries n').filter fun x => live x.1).length := by
  induction entries generalizing mailboxes with
  | nil => exact Nat.le_refl 0
  | cons e rest ih =>
      have hrest := ih fun k => mailboxes (k + 1)
      simp only [notifyAll, List.map_cons, notifyLoop, notifyThrough_eq] at hrest ⊢
      by_cases hadm : (mailboxes 0).Admits <;> by_cases hlive : live e.watcherId <;>
        simp [hadm, hlive] <;> omega

/-- The loop reaches all live watchers with the right notice exactly if each
of their mailboxes admits it and, should there be any, the notice is right. -/
theorem notifyLoop_eq_iff (entries : List WatchEntry) (mailboxes : Nat → WatcherMailbox) :
    ((notifyLoop (notifyAll entries n) mailboxes).filter fun x => live x.1) =
        ((notifyAll entries n').filter fun x => live x.1) ↔
      (∀ k e, entries[k]? = some e → live e.watcherId → (mailboxes k).Admits) ∧
        ((∃ e ∈ entries, live e.watcherId) → n = n') := by
  induction entries generalizing mailboxes with
  | nil => simp [notifyAll, notifyLoop]
  | cons e rest ih =>
      have hrest := ih fun k => mailboxes (k + 1)
      have hle := length_notifyLoop_le live n n' rest fun k => mailboxes (k + 1)
      simp only [notifyAll, List.map_cons, notifyLoop, notifyThrough_eq] at hrest hle ⊢
      cases hlive : live e.watcherId with
      | false =>
          -- a dead watcher counts on neither side
          have hskip : ∀ ns : List ChildTerminated,
              ((ns.map fun n' => (e.watcherId, n')).filter fun x => live x.1) = [] := by
            intro ns
            simp [List.filter_eq_nil_iff, hlive]
          rw [List.filter_append, hskip, List.nil_append,
            List.filter_cons_of_neg (by simp [hlive]), hrest]
          constructor
          · rintro ⟨hadm, heq⟩
            refine ⟨fun k e' hk hlive' => ?_, ?_⟩
            · cases k with
              | zero => cases hk; rw [hlive] at hlive'; cases hlive'
              | succ k => exact hadm k e' hk hlive'
            · rintro ⟨e', he', hlive'⟩
              rcases List.mem_cons.mp he' with rfl | hmem
              · rw [hlive] at hlive'; cases hlive'
              · exact heq ⟨e', hmem, hlive'⟩
          · rintro ⟨hadm, heq⟩
            refine ⟨fun k e' hk => hadm (k + 1) e' hk, ?_⟩
            rintro ⟨e', he', hlive'⟩
            exact heq ⟨e', List.mem_cons_of_mem e he', hlive'⟩
      | true =>
          by_cases hadm : (mailboxes 0).Admits
          · rw [if_pos hadm, List.map_cons, List.map_nil, List.singleton_append,
              List.filter_cons_of_pos (by simp [hlive]),
              List.filter_cons_of_pos (by simp [hlive]), List.cons.injEq, hrest,
              Prod.mk.injEq, and_iff_right rfl]
            constructor
            · rintro ⟨heq, hadm', -⟩
              refine ⟨fun k e' hk hlive' => ?_, fun _ => heq⟩
              cases k with
              | zero => exact hadm
              | succ k => exact hadm' k e' hk hlive'
            · rintro ⟨hadm', heq⟩
              have hn : n = n' := heq ⟨e, List.mem_cons_self, hlive⟩
              exact ⟨hn, fun k e' hk => hadm' (k + 1) e' hk, fun _ => hn⟩
          · -- the notice is lost, and nothing later can make up for it
            rw [if_neg hadm, List.filter_cons_of_pos (by simp [hlive])]
            constructor
            · intro h
              have hlen := congrArg List.length h
              simp only [List.map_nil, List.nil_append, List.length_cons] at hlen
              omega
            · rintro ⟨hadm', -⟩
              exact absurd (hadm' 0 e rfl hlive) hadm

end NotifyLoop

/-! ### The two registries on the same steps -/

/-- The registry of the test runtime.  `watch` and `unwatch` are the same
code as in the adapters. -/
def Registry.testStep (r : Registry) : WatchOp → Registry
  | .watch w t => { r with watchers := r.watchers.watch w t }
  | .unwatch w t => { r with watchers := r.watchers.unwatch w t }
  | .terminate hooks core =>
      ⟨(spawnInternalShutdown hooks core r.watchers).watchers, core.ctx.actorId :: r.terminated⟩

/-- The notifications a step of the test runtime passes to the `notify`
closures. -/
def Registry.testSent (r : Registry) : WatchOp → List (ActorId × ChildTerminated)
  | .watch _ _ | .unwatch _ _ => []
  | .terminate hooks core => (spawnInternalShutdown hooks core r.watchers).notifications

/-- A step, and the mailboxes the watchers have in the test runtime while it
notifies them. -/
structure SharedOp : Type 1 where
  op : WatchOp
  mailboxes : Nat → WatcherMailbox

/-- Both runtimes, with the notifications that reached the mailboxes of live
watchers. -/
structure Registries where
  test : Registry
  ractor : Registry
  testEnqueued : List (ActorId × ChildTerminated)
  ractorEnqueued : List (ActorId × ChildTerminated)

def Registries.empty : Registries := ⟨.empty, .empty, [], []⟩

/-- The actor has not terminated. -/
def Registry.live (r : Registry) (id : ActorId) : Bool := id ∉ r.terminated

def Registries.step (s : Registries) (o : SharedOp) : Registries :=
  let test := s.test.testStep o.op
  let ractor := s.ractor.step .ractor o.op
  { test, ractor
    testEnqueued := s.testEnqueued ++
      (notifyLoop (s.test.testSent o.op) o.mailboxes).filter fun x => test.live x.1
    -- a cast to a live actor succeeds
    ractorEnqueued := s.ractorEnqueued ++
      (s.ractor.sent .ractor o.op).filter fun x => ractor.live x.1 }

def Registries.AliveAtWatch (s : Registries) (o : SharedOp) : Prop := s.test.AliveAtWatch o.op

/-- The same registrations and the same notifications to live watchers, and
no registration of a terminated actor in the test runtime. -/
structure Registries.Parity (s : Registries) : Prop where
  registrations : ∀ t w, (⟨w⟩ : WatchEntry) ∈ s.test.watchers.watchersOf t ↔
    (⟨w⟩ : WatchEntry) ∈ s.ractor.watchers.watchersOf t
  noTerminated : ∀ t, ∀ e ∈ s.test.watchers.watchersOf t,
    t ∉ s.test.terminated ∧ e.watcherId ∉ s.test.terminated
  enqueued : s.testEnqueued = s.ractorEnqueued

/-- What a termination must meet: the actor watches no other one, the
mailboxes of its live watchers admit their notice when it is sent, and if it
has any, a panic in `on_stop` comes only after a handler panic. -/
def Registries.KeepsParity (s : Registries) (o : SharedOp) : Prop :=
  match o.op with
  | .watch _ _ | .unwatch _ _ => True
  | .terminate hooks core =>
      let id := core.ctx.actorId
      let entries := s.test.watchers.watchersOf id
      let live := fun w => w ≠ id ∧ w ∉ s.test.terminated
      (∀ t ≠ id, ∀ e ∈ s.test.watchers.watchersOf t, e.watcherId ≠ id) ∧
        (∀ k e, entries[k]? = some e → live e.watcherId → (o.mailboxes k).Admits) ∧
        ((∃ e ∈ entries, live e.watcherId) →
          (hooks.onStop core.actor).1 = true → core.stopReason ≠ none)

/-! ### The relation between the maps -/

theorem Registry.watchersOf_testStep_terminate (r : Registry) {σ A : Type} (hooks : ActorHooks A)
    (core : Core σ A) (t : ActorId) :
    (r.testStep (.terminate hooks core)).watchers.watchersOf t =
      if t = core.ctx.actorId then [] else r.watchers.watchersOf t := by
  show (r.watchers.remove core.ctx.actorId).2.watchersOf t = _
  exact WatcherMap.watchersOf_remove _ _ _

/-- The ractor map is the test runtime's without the entries of terminated
watchers. -/
structure Registries.Related (s : Registries) : Prop where
  terminated : s.ractor.terminated = s.test.terminated
  entries : ∀ t, s.ractor.watchers.watchersOf t =
    (s.test.watchers.watchersOf t).filter fun e => s.test.live e.watcherId
  targets : ∀ t ∈ s.test.terminated, s.test.watchers.watchersOf t = []

theorem Registries.related_empty : Registries.empty.Related := by
  refine ⟨rfl, fun _ => rfl, fun t ht => ?_⟩
  exact absurd ht List.not_mem_nil

theorem Registries.Related.watch {s : Registries} (h : s.Related) {w t : ActorId}
    {mailboxes : Nat → WatcherMailbox} (halive : s.AliveAtWatch ⟨.watch w t, mailboxes⟩) :
    (s.step ⟨.watch w t, mailboxes⟩).Related := by
  obtain ⟨hw, ht⟩ := halive
  refine ⟨h.terminated, fun t' => ?_, fun t' ht' => ?_⟩
  · show (s.ractor.watchers.watch w t).watchersOf t' =
      ((s.test.watchers.watch w t).watchersOf t').filter fun e => s.test.live e.watcherId
    rw [WatcherMap.watchersOf_watch, WatcherMap.watchersOf_watch, h.entries]
    have hnew : s.test.live w = true := decide_eq_true hw
    split
    · rw [List.filter_append, List.filter_singleton]
      simp only [hnew, cond_true]
    · rfl
  · show (s.test.watchers.watch w t).watchersOf t' = []
    have hne : t' ≠ t := by
      rintro rfl
      exact ht ht'
    rw [WatcherMap.watchersOf_watch, if_neg hne]
    exact h.targets t' ht'

theorem Registries.Related.unwatch {s : Registries} (h : s.Related) (w t : ActorId)
    (mailboxes : Nat → WatcherMailbox) : (s.step ⟨.unwatch w t, mailboxes⟩).Related := by
  refine ⟨h.terminated, fun t' => ?_, fun t' ht' => ?_⟩
  · show (s.ractor.watchers.unwatch w t).watchersOf t' =
      ((s.test.watchers.unwatch w t).watchersOf t').filter fun e => s.test.live e.watcherId
    rw [WatcherMap.watchersOf_unwatch, WatcherMap.watchersOf_unwatch, h.entries]
    split
    · exact List.filter_comm _ _ _
    · rfl
  · show (s.test.watchers.unwatch w t).watchersOf t' = []
    rw [WatcherMap.watchersOf_unwatch, h.targets t' ht', List.filter_nil, ite_self]

theorem Registries.Related.terminate {s : Registries} (h : s.Related) {σ A : Type}
    (hooks : ActorHooks A) (core : Core σ A) (mailboxes : Nat → WatcherMailbox) :
    (s.step ⟨.terminate hooks core, mailboxes⟩).Related := by
  refine ⟨congrArg (core.ctx.actorId :: ·) h.terminated, fun t => ?_, fun t ht => ?_⟩
  · show (s.ractor.step .ractor (.terminate hooks core)).watchers.watchersOf t =
      ((s.test.testStep (.terminate hooks core)).watchers.watchersOf t).filter _
    rw [Registry.watchersOf_step, Registry.watchersOf_testStep_terminate, h.entries]
    by_cases hid : t = core.ctx.actorId
    · simp [WatchOp.ends, WatchOp.opens, hid]
    · -- dropping the entries of one more watcher is filtering by one more terminated actor
      rw [if_neg hid, List.filter_filter]
      show List.filter _ _ ++ [] = _
      rw [List.append_nil]
      apply List.filter_congr
      intro e _
      simp [WatchOp.ends, Registries.step, Registry.testStep, Registry.live, Ne.symm hid, eq_comm]
  · rw [show (s.step ⟨.terminate hooks core, mailboxes⟩).test =
      s.test.testStep (.terminate hooks core) from rfl, Registry.watchersOf_testStep_terminate]
    rcases List.mem_cons.mp ht with rfl | hmem
    · exact if_pos rfl
    · rw [h.targets t hmem, ite_self]

theorem Registries.related_step (s : Registries) (o : SharedOp) (halive : s.AliveAtWatch o)
    (h : s.Related) : (s.step o).Related := by
  obtain ⟨op, mailboxes⟩ := o
  cases op with
  | watch w t => exact h.watch halive
  | unwatch w t => exact h.unwatch w t mailboxes
  | terminate hooks core => exact h.terminate hooks core mailboxes

/-! ### Parity -/

/-- For related maps, parity means that the test runtime holds no entry of a
terminated watcher and has sent the same. -/
theorem Registries.Related.parity_iff_live {s : Registries} (h : s.Related) :
    s.Parity ↔ (∀ t, ∀ e ∈ s.test.watchers.watchersOf t, e.watcherId ∉ s.test.terminated) ∧
      s.testEnqueued = s.ractorEnqueued := by
  constructor
  · intro hp
    exact ⟨fun t e he => (hp.noTerminated t e he).2, hp.enqueued⟩
  · rintro ⟨hlive, henq⟩
    refine ⟨fun t w => ?_, fun t e he => ⟨fun ht => ?_, hlive t e he⟩, henq⟩
    · rw [h.entries, List.mem_filter]
      exact ⟨fun hmem => ⟨hmem, decide_eq_true (hlive t _ hmem)⟩, fun hmem => hmem.1⟩
    · rw [h.targets t ht] at he
      exact List.not_mem_nil he

/-- Under parity the two maps hold the same lists. -/
theorem Registries.Related.watchersOf_eq {s : Registries} (h : s.Related) (hp : s.Parity)
    (t : ActorId) : s.ractor.watchers.watchersOf t = s.test.watchers.watchersOf t := by
  rw [h.entries, List.filter_eq_self]
  intro e he
  exact decide_eq_true (hp.noTerminated t e he).2

/-- The two runtimes put the same reason into the notice unless only the
`on_stop` panic gives one. -/
theorem notice_eq_iff {σ A : Type} (hooks : ActorHooks A) (core : Core σ A) :
    (⟨core.ctx.actorId, core.ctx.actorName, core.stopReason⟩ : ChildTerminated) =
        Adapter.ractor.notice hooks core ↔
      ((hooks.onStop core.actor).1 = true → core.stopReason ≠ none) := by
  rw [Adapter.notice, ChildTerminated.mk.injEq, and_iff_right rfl, and_iff_right rfl]
  show core.stopReason = ractorReason (hooks.onStop core.actor).1 core.stopReason ↔ _
  rw [ractorReason]
  cases (hooks.onStop core.actor).1 <;> cases core.stopReason <;> simp

/-- Between two states in parity, a step to a related state keeps parity
exactly if no entry of a terminated watcher stays and both runtimes enqueue
the same notices in it. -/
theorem Registries.parity_step_iff {s : Registries} {o : SharedOp} (hr : (s.step o).Related)
    (hp : s.Parity) :
    (s.step o).Parity ↔
      (∀ t, ∀ e ∈ (s.test.testStep o.op).watchers.watchersOf t,
        e.watcherId ∉ (s.test.testStep o.op).terminated) ∧
      (notifyLoop (s.test.testSent o.op) o.mailboxes).filter
          (fun x => (s.test.testStep o.op).live x.1) =
        (s.ractor.sent .ractor o.op).filter fun x => (s.ractor.step .ractor o.op).live x.1 := by
  rw [hr.parity_iff_live]
  apply and_congr Iff.rfl
  show s.testEnqueued ++ _ = s.ractorEnqueued ++ _ ↔ _
  rw [hp.enqueued, List.append_right_inj]

theorem Registries.parity_watch {s : Registries} {w t : ActorId}
    {mailboxes : Nat → WatcherMailbox} (halive : s.AliveAtWatch ⟨.watch w t, mailboxes⟩)
    (h : s.Related) (hp : s.Parity) : (s.step ⟨.watch w t, mailboxes⟩).Parity := by
  rw [Registries.parity_step_iff (h.watch halive) hp]
  refine ⟨fun t' e he => ?_, rfl⟩
  have he' : e ∈ (s.test.watchers.watch w t).watchersOf t' := he
  rw [WatcherMap.watchersOf_watch] at he'
  split at he'
  · rcases List.mem_append.mp he' with hold | hnew
    · exact (hp.noTerminated t' e hold).2
    · rw [List.mem_singleton.mp hnew]
      exact halive.1
  · exact (hp.noTerminated t' e he').2

theorem Registries.parity_unwatch {s : Registries} {w t : ActorId}
    {mailboxes : Nat → WatcherMailbox} (h : s.Related) (hp : s.Parity) :
    (s.step ⟨.unwatch w t, mailboxes⟩).Parity := by
  rw [Registries.parity_step_iff (h.unwatch w t mailboxes) hp]
  refine ⟨fun t' e he => ?_, rfl⟩
  have he' : e ∈ (s.test.watchers.unwatch w t).watchersOf t' := he
  rw [WatcherMap.watchersOf_unwatch] at he'
  split at he'
  · exact (hp.noTerminated t' e (List.mem_of_mem_filter he')).2
  · exact (hp.noTerminated t' e he').2

/-- No entry of the terminating actor stays in the test runtime exactly if
it was registered with no other actor. -/
theorem Registries.noTerminated_terminate_iff {s : Registries} (hp : s.Parity) {σ A : Type}
    (hooks : ActorHooks A) (core : Core σ A) :
    (∀ t, ∀ e ∈ (s.test.testStep (.terminate hooks core)).watchers.watchersOf t,
        e.watcherId ∉ (s.test.testStep (.terminate hooks core)).terminated) ↔
      ∀ t ≠ core.ctx.actorId, ∀ e ∈ s.test.watchers.watchersOf t,
        e.watcherId ≠ core.ctx.actorId := by
  constructor
  · intro h t ht e he heq
    refine h t e ?_ (heq ▸ List.mem_cons_self)
    rw [Registry.watchersOf_testStep_terminate, if_neg ht]
    exact he
  · intro h t e he hterm
    rw [Registry.watchersOf_testStep_terminate] at he
    split at he
    · exact List.not_mem_nil he
    · next ht =>
        rcases List.mem_cons.mp hterm with heq | hmem
        · exact h t ht e he heq
        · exact (hp.noTerminated t e he).2 hmem

theorem Registries.parity_terminate_iff {s : Registries} (h : s.Related) (hp : s.Parity)
    {σ A : Type} (hooks : ActorHooks A) (core : Core σ A) (mailboxes : Nat → WatcherMailbox) :
    (s.step ⟨.terminate hooks core, mailboxes⟩).Parity ↔
      s.KeepsParity ⟨.terminate hooks core, mailboxes⟩ := by
  have hlive : ∀ w, (s.test.testStep (.terminate hooks core)).live w = true ↔
      w ≠ core.ctx.actorId ∧ w ∉ s.test.terminated := by
    intro w
    simp [Registry.testStep, Registry.live]
  have hterm : (s.ractor.step .ractor (.terminate hooks core)).terminated =
      (s.test.testStep (.terminate hooks core)).terminated :=
    congrArg (core.ctx.actorId :: ·) h.terminated
  have hsame : (s.ractor.step .ractor (.terminate hooks core)).live =
      (s.test.testStep (.terminate hooks core)).live := by
    funext w
    rw [Registry.live, Registry.live, hterm]
  rw [Registries.parity_step_iff (h.terminate hooks core mailboxes) hp]
  apply and_congr (Registries.noTerminated_terminate_iff hp hooks core)
  show (notifyLoop (notifyAll (s.test.watchers.watchersOf core.ctx.actorId)
      ⟨core.ctx.actorId, core.ctx.actorName, core.stopReason⟩) mailboxes).filter _ = _ ↔ _
  rw [Registry.sent, Adapter.shutdown_notifications, h.watchersOf_eq hp, hsame,
    notifyLoop_eq_iff, notice_eq_iff]
  simp only [hlive]

/-- **When the test runtime's registry matches ractor's.**  In every run in
which the parties of each `watch` are alive, the two registries hold the same
registrations and have notified the same live watchers all along exactly if
each termination meets `KeepsParity`. -/
theorem parity_iff (ops : List SharedOp)
    (h : Admissible Registries.step Registries.AliveAtWatch .empty ops) :
    Always Registries.step Registries.Parity .empty ops ↔
      Admissible Registries.step Registries.KeepsParity .empty ops := by
  have hstart : Registries.empty.Parity :=
    ⟨fun _ _ => Iff.rfl, fun t e he => absurd he List.not_mem_nil, rfl⟩
  refine always_iff_of_inv Registries.related_step ?_ Registries.related_empty hstart h
  rintro s ⟨op, mailboxes⟩ halive hr hp
  cases op with
  | watch w t => exact iff_of_true (Registries.parity_watch halive hr hp) trivial
  | unwatch w t => exact iff_of_true (Registries.parity_unwatch hr hp) trivial
  | terminate hooks core => exact Registries.parity_terminate_iff hr hp hooks core mailboxes

/-- An actor registers with another, which terminates. -/
def targetEndsFirst : List SharedOp :=
  let mailboxes := fun _ => Mailbox.new .unbounded
  [⟨.watch ⟨⟨"node-1"⟩, 2⟩ freshContext.actorId, mailboxes⟩,
    ⟨.terminate (plainHooks Unit) (⟨(), freshContext, (), none⟩ : Core Unit Unit), mailboxes⟩]

theorem parity_iff_targetEndsFirst :
    Admissible Registries.step Registries.AliveAtWatch .empty targetEndsFirst ∧
      Always Registries.step Registries.Parity .empty targetEndsFirst := by
  have halive : Admissible Registries.step Registries.AliveAtWatch .empty targetEndsFirst :=
    ⟨⟨List.not_mem_nil, List.not_mem_nil⟩, trivial, trivial⟩
  refine ⟨halive, (parity_iff targetEndsFirst halive).mpr ⟨trivial, ?_, trivial⟩⟩
  refine ⟨fun t ht e he => ?_, fun k e _ _ => ?_, fun _ hpanic => ?_⟩
  · -- nobody is registered with another target
    have he' : e ∈ (Registry.empty.watchers.watch ⟨⟨"node-1"⟩, 2⟩
        freshContext.actorId).watchersOf t := he
    rw [WatcherMap.watchersOf_watch, if_neg ht] at he'
    exact absurd he' List.not_mem_nil
  · exact ⟨rfl, hasRoom_of_unbounded rfl⟩
  · cases hpanic

/-- An actor registers with another and terminates. -/
def watcherEndsFirst : List SharedOp :=
  let mailboxes := fun _ => Mailbox.new .unbounded
  [⟨.watch freshContext.actorId ⟨⟨"node-1"⟩, 2⟩, mailboxes⟩,
    ⟨.terminate (plainHooks Unit) (⟨(), freshContext, (), none⟩ : Core Unit Unit), mailboxes⟩]

/-- The registration of the terminated watcher stays in the test runtime. -/
theorem parity_fails :
    ¬ ∀ ops : List SharedOp, Admissible Registries.step Registries.AliveAtWatch .empty ops →
      Always Registries.step Registries.Parity .empty ops := by
  intro h
  have halive : Admissible Registries.step Registries.AliveAtWatch .empty watcherEndsFirst := by
    exact ⟨⟨List.not_mem_nil, List.not_mem_nil⟩, trivial, trivial⟩
  have hlast := (h watcherEndsFirst halive).last
  have hentry : (⟨freshContext.actorId⟩ : WatchEntry) ∈
      (run Registries.step .empty watcherEndsFirst).test.watchers.watchersOf
        ⟨⟨"node-1"⟩, 2⟩ := by
    decide
  exact (hlast.noTerminated _ _ hentry).2 List.mem_cons_self

end Dactor
