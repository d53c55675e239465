/-
Dactor/StopHandles.lean

Waiting for actors to stop: `await_stop`, `await_all`, `cleanup_finished` and
`active_handle_count`, which are the same in the four runtimes.

A spawn reserves an id, starts the native actor, and stores the receiver of the
actor's stop notice under the id.  The notice may be there before the receiver
is stored.  A wait takes receivers out of the map and then awaits them; other
calls run in between, and a caller may drop a wait.

The receivers are numbered by the spawns they come from.

Main results: `stop_handles_exact` and `cleanup_counts_running`.
-/
import Mathlib.Data.List.Perm.Basic
import Mathlib.Data.List.Flatten
import Dactor.Counters
import Dactor.Runs
import Dactor.Slots
import Dactor.Termination

namespace Dactor

open Runs Slots Counters

/-! ### Notices and waits -/

/-- The channel from the end of an actor to whoever holds its receiver. -/
inductive StopNotice
  | pending
  | sent (result : Except String Unit)
  /-- The notifier is gone without a notice. -/
  | dropped

/-- `try_recv` finds nothing yet. -/
def StopNotice.isPending : StopNotice → Bool
  | .pending => true
  | _ => false

inductive SpawnStatus
  | starting
  | failed
  | stored
  deriving DecidableEq

/-- A spawn; `number` counts the ids reserved before its own. -/
structure Spawned where
  id : ActorId
  number : ℕ
  notice : StopNotice
  status : SpawnStatus

def Spawned.withStatus (a : Spawned) (status : SpawnStatus) : Spawned := { a with status }

inductive Awaited
  | stop (id : ActorId)
  | all

inductive WaitPhase
  | waiting (rest : List ℕ) (firstError : Option String)
  | returned (result : Except String Unit)
  | dropped

/-- A call of `await_stop` or `await_all`, with the receivers it took out of
the map. -/
structure Wait where
  awaited : Awaited
  taken : List ℕ
  phase : WaitPhase

/-- The error for a notifier that is gone; `await_all` quotes the one of the
channel. -/
def Awaited.droppedError : Awaited → String
  | .stop _ => "stop notifier dropped"
  | .all => "stop notifier dropped: channel closed"

def StopNotice.resolved (dropped : String) : StopNotice → Option (Except String Unit)
  | .pending => none
  | .sent result => some result
  | .dropped => some (.error dropped)

/-- The receivers are awaited one after the other, and the first error is
kept.  `await_stop` has at most one. -/
def awaitEach (notice : ℕ → StopNotice) (dropped : String) : List ℕ → Option String → WaitPhase
  | [], none => .returned (.ok ())
  | [], some e => .returned (.error e)
  | g :: rest, firstError =>
    match (notice g).resolved dropped with
    | none => .waiting (g :: rest) firstError
    | some (.ok _) => awaitEach notice dropped rest firstError
    | some (.error e) => awaitEach notice dropped rest (firstError.or (some e))

/-! ### The runtime -/

/-- The part of a runtime that is about stopping.  `issued` counts the ids that
were reserved, `stored` lists the receivers in the order in which they came into
the map, and `cleaned` those that `cleanup_finished` threw away. -/
structure StopHandles where
  nodeId : NodeId
  nextLocal : UInt64
  issued : ℕ
  spawns : List Spawned
  stopReceivers : List (ActorId × ℕ)
  waits : List Wait
  stored : List ℕ
  cleaned : List ℕ

namespace StopHandles

def new (nodeId : NodeId) : StopHandles := ⟨nodeId, 1, 0, [], [], [], [], []⟩

def noticeOf (s : StopHandles) (g : ℕ) : StopNotice :=
  (s.spawns[g]?.map Spawned.notice).getD .pending

/-- `next_local.fetch_add`, which wraps around. -/
def fetchAdd (s : StopHandles) : StopHandles :=
  { s with nextLocal := s.nextLocal + 1, issued := s.issued + 1 }

/-- The first part of `spawn_internal`. -/
def spawn (s : StopHandles) : StopHandles :=
  { s.fetchAdd with
    spawns := s.spawns ++ [⟨⟨s.nodeId, s.nextLocal⟩, s.issued, .pending, .starting⟩] }

/-- The native actor could not be started: `spawn_internal` returns the error
and drops both ends of the channel. -/
def spawnFailed (s : StopHandles) (g : ℕ) : StopHandles :=
  match s.spawns[g]? with
  | some a =>
    if a.status = .starting then { s with spawns := s.spawns.set g (a.withStatus .failed) }
    else s
  | none => s

/-- The last part of `spawn_internal`. -/
def store (s : StopHandles) (g : ℕ) : StopHandles :=
  match s.spawns[g]? with
  | some a =>
    if a.status = .starting then
      { s with
        spawns := s.spawns.set g (a.withStatus .stored)
        stopReceivers := (a.id, g) :: s.stopReceivers.filter (·.1 ≠ a.id)
        stored := s.stored ++ [g] }
    else s
  | none => s

/-- The actor ends: its notifier is used up, or dropped. -/
def notify (s : StopHandles) (g : ℕ) (notice : StopNotice) : StopHandles :=
  match s.spawns[g]? with
  | some a =>
    match a.notice with
    | .pending => { s with spawns := s.spawns.set g { a with notice } }
    | _ => s
  | none => s

/-- The locked part of `await_stop`. -/
def awaitStop (s : StopHandles) (id : ActorId) : StopHandles :=
  let taken := (s.stopReceivers.filter (·.1 = id)).map Prod.snd
  { s with
    stopReceivers := s.stopReceivers.filter (·.1 ≠ id)
    waits := s.waits ++ [⟨.stop id, taken, .waiting taken none⟩] }

/-- The locked part of `await_all`; `order` is the one in which the map is
drained. -/
def awaitAll (s : StopHandles) (order : List (ActorId × ℕ)) : StopHandles :=
  if order.Perm s.stopReceivers then
    let taken := order.map Prod.snd
    { s with stopReceivers := [], waits := s.waits ++ [⟨.all, taken, .waiting taken none⟩] }
  else s

/-- A poll of a wait goes on until a receiver is not ready. -/
def poll (s : StopHandles) (w : ℕ) : StopHandles :=
  match s.waits[w]? with
  | some c =>
    match c.phase with
    | .waiting rest firstError =>
      let phase := awaitEach s.noticeOf c.awaited.droppedError rest firstError
      { s with waits := s.waits.set w { c with phase } }
    | _ => s
  | none => s

def dropWait (s : StopHandles) (w : ℕ) : StopHandles :=
  match s.waits[w]? with
  | some c =>
    match c.phase with
    | .waiting _ _ => { s with waits := s.waits.set w { c with phase := .dropped } }
    | _ => s
  | none => s

def cleanupFinished (s : StopHandles) : StopHandles :=
  { s with
    stopReceivers := s.stopReceivers.filter fun p => (s.noticeOf p.2).isPending
    cleaned := s.cleaned ++
      (s.stopReceivers.filter fun p => !(s.noticeOf p.2).isPending).map Prod.snd }

def activeHandleCount (s : StopHandles) : ℕ := s.stopReceivers.length

inductive Event
  /-- An id is reserved by a remote spawn request, which stores no receiver. -/
  | reserve
  | spawn
  | spawnFailed (g : ℕ)
  | store (g : ℕ)
  | stopped (g : ℕ) (onStopPanics : Bool)
  | notifierDropped (g : ℕ)
  | awaitStop (id : ActorId)
  | awaitAll (order : List (ActorId × ℕ))
  | poll (w : ℕ)
  | dropWait (w : ℕ)
  | cleanupFinished

/-- The notice at the end of a shutdown. -/
def stopResult (onStopPanics : Bool) : Except String Unit :=
  if onStopPanics then .error onStopPanicked else .ok ()

def step (s : StopHandles) : Event → StopHandles
  | .reserve => s.fetchAdd
  | .spawn => s.spawn
  | .spawnFailed g => s.spawnFailed g
  | .store g => s.store g
  | .stopped g onStopPanics => s.notify g (.sent (stopResult onStopPanics))
  | .notifierDropped g => s.notify g .dropped
  | .awaitStop id => s.awaitStop id
  | .awaitAll order => s.awaitAll order
  | .poll w => s.poll w
  | .dropWait w => s.dropWait w
  | .cleanupFinished => s.cleanupFinished

end StopHandles

/-! ### What a wait reports -/

/-- The actor has ended. -/
def Ended (notice : ℕ → StopNotice) (g : ℕ) : Prop := (notice g).isPending = false

/-- The error that an actor ended with. -/
def stopError (notice : ℕ → StopNotice) (dropped : String) (g : ℕ) : Option String :=
  match (notice g).resolved dropped with
  | some (.error e) => some e
  | _ => none

/-- The first error, in the order of the list. -/
def verdict (notice : ℕ → StopNotice) (dropped : String) (gs : List ℕ) : Except String Unit :=
  match gs.findSome? (stopError notice dropped) with
  | some e => .error e
  | none => .ok ()

/-- A wait that has returned has seen the end of every actor it took, and
reports the first error among them. -/
def Wait.Exact (notice : ℕ → StopNotice) (c : Wait) : Prop :=
  match c.phase with
  | .waiting rest firstError => ∃ done, c.taken = done ++ rest ∧ (∀ g ∈ done, Ended notice g) ∧
      firstError = done.findSome? (stopError notice c.awaited.droppedError)
  | .returned result => (∀ g ∈ c.taken, Ended notice g) ∧
      result = verdict notice c.awaited.droppedError c.taken
  | .dropped => True

theorem resolved_eq_none {dropped : String} {notice : StopNotice} :
    notice.resolved dropped = none ↔ notice.isPending = true := by
  cases notice <;> simp [StopNotice.resolved, StopNotice.isPending]

/-- The loop over the receivers that are left, after those in `done`. -/
theorem awaitEach_exact {notice : ℕ → StopNotice} (awaited : Awaited) (rest done : List ℕ)
    (hdone : ∀ g ∈ done, Ended notice g) :
    (Wait.mk awaited (done ++ rest) (awaitEach notice awaited.droppedError rest
      (done.findSome? (stopError notice awaited.droppedError)))).Exact notice := by
  induction rest generalizing done with
  | nil =>
      rw [List.append_nil]
      rcases hfirst : done.findSome? (stopError notice awaited.droppedError) with - | e
      · exact ⟨hdone, by rw [verdict, hfirst]⟩
      · exact ⟨hdone, by rw [verdict, hfirst]⟩
  | cons g rest ih =>
      rcases hnotice : (notice g).resolved awaited.droppedError with - | result
      · -- the loop stops here until the next poll
        rw [awaitEach, hnotice]
        exact ⟨done, rfl, hdone, rfl⟩
      · have hended : ∀ g' ∈ done ++ [g], Ended notice g' := by
          intro g' hg'
          rcases List.mem_append.mp hg' with hg' | hg'
          · exact hdone g' hg'
          · rw [List.mem_singleton.mp hg']
            refine Bool.eq_false_iff.mpr fun hpending => ?_
            rw [resolved_eq_none.mpr hpending] at hnotice
            cases hnotice
        have hnext := ih (done ++ [g]) hended
        rw [List.append_assoc, List.findSome?_append] at hnext
        rw [awaitEach, hnotice]
        have herror : [g].findSome? (stopError notice awaited.droppedError)
            = stopError notice awaited.droppedError g := by
          rw [List.findSome?_singleton]
        rw [herror, stopError, hnotice] at hnext
        cases result with
        | ok u => rwa [Option.or_none] at hnext
        | error e => exact hnext

theorem awaitEach_of_ended {notice : ℕ → StopNotice} (dropped : String) {rest : List ℕ}
    (hrest : ∀ g ∈ rest, Ended notice g) (firstError : Option String) :
    ∃ result, awaitEach notice dropped rest firstError = .returned result := by
  induction rest generalizing firstError with
  | nil => cases firstError <;> exact ⟨_, rfl⟩
  | cons g rest ih =>
      have hlater := ih fun g' hg' => hrest g' (List.mem_cons_of_mem g hg')
      rw [awaitEach]
      rcases hnotice : (notice g).resolved dropped with - | (e | u)
      · have hended := hrest g List.mem_cons_self
        rw [Ended, resolved_eq_none.mp hnotice] at hended
        cases hended
      · exact hlater _
      · exact hlater _

/-- Actors end once. -/
theorem Wait.Exact.mono {notice notice' : ℕ → StopNotice}
    (h : ∀ g, Ended notice g → notice' g = notice g) {c : Wait} (hc : c.Exact notice) :
    c.Exact notice' := by
  have hended : ∀ g, Ended notice g → Ended notice' g := fun g hg => by rw [Ended, h g hg]; exact hg
  have herrors : ∀ gs : List ℕ, (∀ g ∈ gs, Ended notice g) →
      gs.findSome? (stopError notice' c.awaited.droppedError)
        = gs.findSome? (stopError notice c.awaited.droppedError) := by
    intro gs hgs
    induction gs with
    | nil => rfl
    | cons g gs ih =>
        rw [List.findSome?_cons, List.findSome?_cons,
          ih fun g' hg' => hgs g' (List.mem_cons_of_mem g hg')]
        rw [stopError, stopError, h g (hgs g List.mem_cons_self)]
  unfold Wait.Exact at *
  cases hphase : c.phase with
  | waiting rest firstError =>
      rw [hphase] at hc
      obtain ⟨done, htaken, hdone, rfl⟩ := hc
      exact ⟨done, htaken, fun g hg => hended g (hdone g hg), (herrors done hdone).symm⟩
  | returned result =>
      rw [hphase] at hc
      obtain ⟨htaken, rfl⟩ := hc
      exact ⟨fun g hg => hended g (htaken g hg), by rw [verdict, verdict, herrors _ htaken]⟩
  | dropped => trivial

namespace StopHandles

/-! ### Steps -/

/-- What a step can make of a spawn without storing its receiver: the id stays,
and the notice once it is there. -/
structure Later (a b : Spawned) : Prop where
  id : b.id = a.id
  number : b.number = a.number
  notice : a.notice.isPending = false → b.notice = a.notice

/-- What a step can do. -/
inductive Move (s : StopHandles) : StopHandles → Prop
  | idle : Move s s
  | reserve : Move s s.fetchAdd
  | spawn : Move s s.spawn
  | relabel {g : ℕ} {a b : Spawned} (ha : s.spawns[g]? = some a) (hab : Later a b)
      (hstatus : b.status = .stored ↔ a.status = .stored) :
      Move s { s with spawns := s.spawns.set g b }
  | store {g : ℕ} {a : Spawned} (ha : s.spawns[g]? = some a) (hstatus : a.status = .starting) :
      Move s { s with
        spawns := s.spawns.set g (a.withStatus .stored)
        stopReceivers := (a.id, g) :: s.stopReceivers.filter (·.1 ≠ a.id)
        stored := s.stored ++ [g] }
  | awaitStop (id : ActorId) : Move s (s.awaitStop id)
  | awaitAll {order : List (ActorId × ℕ)} (horder : order.Perm s.stopReceivers) :
      Move s { s with
        stopReceivers := []
        waits := s.waits ++ [⟨.all, order.map Prod.snd, .waiting (order.map Prod.snd) none⟩] }
  | rephase {w : ℕ} {c : Wait} {phase : WaitPhase} (hc : s.waits[w]? = some c)
      (hphase : c.Exact s.noticeOf → Wait.Exact s.noticeOf { c with phase }) :
      Move s { s with waits := s.waits.set w { c with phase } }
  | cleanupFinished : Move s s.cleanupFinished

theorem move_notify (s : StopHandles) (g : ℕ) (notice : StopNotice) :
    Move s (s.notify g notice) := by
  rw [notify]
  rcases ha : s.spawns[g]? with - | a
  · exact .idle
  · dsimp only
    split
    · next hpending =>
        refine .relabel ha ⟨rfl, rfl, fun hended => ?_⟩ Iff.rfl
        rw [hpending] at hended
        cases hended
    · exact .idle

theorem move_poll (s : StopHandles) (w : ℕ) : Move s (s.poll w) := by
  rw [poll]
  rcases hc : s.waits[w]? with - | c
  · exact .idle
  · dsimp only
    split
    · next rest firstError hphase =>
        refine .rephase hc fun hexact => ?_
        rw [Wait.Exact, hphase] at hexact
        obtain ⟨done, htaken, hdone, rfl⟩ := hexact
        rw [htaken]
        exact awaitEach_exact c.awaited rest done hdone
    · exact .idle

theorem step_move (s : StopHandles) (e : Event) : Move s (s.step e) := by
  cases e with
  | reserve => exact .reserve
  | spawn => exact .spawn
  | spawnFailed g =>
      rw [step, spawnFailed]
      rcases ha : s.spawns[g]? with - | a
      · exact .idle
      · dsimp only
        split
        · next hstatus =>
            refine .relabel ha ⟨rfl, rfl, fun _ => rfl⟩ ?_
            rw [hstatus]
            exact iff_of_false (fun h => by cases h) (fun h => by cases h)
        · exact .idle
  | store g =>
      rw [step, store]
      rcases ha : s.spawns[g]? with - | a
      · exact .idle
      · dsimp only
        split
        · next hstatus => exact .store ha hstatus
        · exact .idle
  | stopped g onStopPanics => exact move_notify s g _
  | notifierDropped g => exact move_notify s g _
  | awaitStop id => exact .awaitStop id
  | awaitAll order =>
      rw [step, awaitAll]
      split
      · next horder => exact .awaitAll horder
      · exact .idle
  | poll w => exact move_poll s w
  | dropWait w =>
      rw [step, dropWait]
      rcases hc : s.waits[w]? with - | c
      · exact .idle
      · dsimp only
        split
        · exact .rephase hc fun _ => trivial
        · exact .idle
  | cleanupFinished => exact .cleanupFinished

/-! ### Spawns and their notices -/

theorem Later.refl (a : Spawned) : Later a a := ⟨rfl, rfl, fun _ => rfl⟩

theorem later_withStatus (a : Spawned) (status : SpawnStatus) : Later a (a.withStatus status) :=
  ⟨rfl, rfl, fun _ => rfl⟩

theorem Move.later {s t : StopHandles} (h : Move s t) {g : ℕ} {a : Spawned}
    (ha : s.spawns[g]? = some a) : ∃ b, t.spawns[g]? = some b ∧ Later a b := by
  cases h with
  | spawn =>
      refine ⟨a, ?_, .refl a⟩
      rw [StopHandles.spawn, List.getElem?_append_left (List.getElem?_eq_some_iff.mp ha).1]
      exact ha
  | relabel hold hab _ => exact rel_set Later.refl hold hab ha
  | store hold _ => exact rel_set Later.refl hold (later_withStatus _ _) ha
  | _ => exact ⟨a, ha, .refl a⟩

theorem Move.noticeOf {s t : StopHandles} (h : Move s t) (g : ℕ) (hended : Ended s.noticeOf g) :
    t.noticeOf g = s.noticeOf g := by
  rw [Ended, StopHandles.noticeOf] at hended
  rcases ha : s.spawns[g]? with - | a
  · rw [ha] at hended
    cases hended
  · obtain ⟨b, hb, hab⟩ := h.later ha
    rw [ha] at hended
    rw [StopHandles.noticeOf, StopHandles.noticeOf, ha, hb]
    exact hab.notice hended

theorem Move.ended {s t : StopHandles} (h : Move s t) {g : ℕ} (hended : Ended s.noticeOf g) :
    Ended t.noticeOf g := by
  rw [Ended, h.noticeOf g hended]
  exact hended

/-! ### Ids -/

/-- The ids are those of the counter. -/
structure Numbered (s : StopHandles) : Prop where
  nextLocal : s.nextLocal = UInt64.ofNat (1 + s.issued)
  issued : Issued 1 s.issued (s.spawns.map fun a => (a.id.local, a.number))

theorem Numbered.set {s : StopHandles} (hs : s.Numbered) {g : ℕ} {a b : Spawned}
    (ha : s.spawns[g]? = some a) (hab : Later a b) :
    Issued 1 s.issued ((s.spawns.set g b).map fun a => (a.id.local, a.number)) := by
  rw [map_set_of_eq _ ha (by rw [hab.id, hab.number])]
  exact hs.issued

theorem Numbered.move {s t : StopHandles} (hs : s.Numbered) (h : Move s t) : t.Numbered := by
  have hnext : s.nextLocal + 1 = UInt64.ofNat (1 + (s.issued + 1)) := by
    rw [hs.nextLocal, ← Nat.add_assoc, UInt64.ofNat_add (1 + s.issued)]
    rfl
  cases h with
  | reserve => exact ⟨hnext, hs.issued.skip⟩
  | spawn =>
      refine ⟨hnext, ?_⟩
      show Issued 1 (s.issued + 1) ((s.spawns ++ [_]).map _)
      rw [List.map_append, hs.nextLocal]
      exact hs.issued.concat
  | relabel ha hab _ => exact ⟨hs.nextLocal, hs.set ha hab⟩
  | store ha _ => exact ⟨hs.nextLocal, hs.set ha (later_withStatus _ .stored)⟩
  | _ => exact ⟨hs.nextLocal, hs.issued⟩

/-- As long as the counter has not come round, an id belongs to one spawn. -/
theorem Numbered.unique {s : StopHandles} (hs : s.Numbered) (hissued : s.issued ≤ 2 ^ 64)
    {g g' : ℕ} {a a' : Spawned} (ha : s.spawns[g]? = some a) (ha' : s.spawns[g']? = some a')
    (hid : a.id = a'.id) : g = g' := by
  refine hs.issued.unique hissued (p := (a.id.local, a.number)) (q := (a'.id.local, a'.number))
    ?_ ?_ (congrArg ActorId.local hid)
  · rw [List.getElem?_map, ha]
    rfl
  · rw [List.getElem?_map, ha']
    rfl

/-! ### Where the receivers are -/

/-- The receivers of the map belong to the spawns whose ids they are under, and
every receiver that was ever stored is in one place: the map, a wait, or thrown
away by a cleanup. -/
structure Placed (s : StopHandles) : Prop where
  keys : ∀ p ∈ s.stopReceivers, ∃ a, s.spawns[p.2]? = some a ∧ a.id = p.1
  stored : ∀ g ∈ s.stored, ∃ a, s.spawns[g]? = some a ∧ a.status = .stored
  nodup : s.stored.Nodup
  places : s.issued ≤ 2 ^ 64 →
    (s.stopReceivers.map Prod.snd ++ (s.waits.flatMap Wait.taken ++ s.cleaned)).Perm s.stored

theorem Placed.keys_move {s t : StopHandles} (hs : s.Placed) (h : Move s t)
    (hsub : t.stopReceivers ⊆ s.stopReceivers) :
    ∀ p ∈ t.stopReceivers, ∃ a, t.spawns[p.2]? = some a ∧ a.id = p.1 := by
  intro p hp
  obtain ⟨a, ha, hid⟩ := hs.keys p (hsub hp)
  obtain ⟨b, hb, hab⟩ := h.later ha
  exact ⟨b, hb, by rw [hab.id, hid]⟩

theorem Placed.stored_set {s : StopHandles} (hs : s.Placed) {g : ℕ} {a b : Spawned}
    (ha : s.spawns[g]? = some a) (hb : a.status = .stored → b.status = .stored) :
    ∀ g' ∈ s.stored, ∃ a', (s.spawns.set g b)[g']? = some a' ∧ a'.status = .stored := by
  intro g' hg'
  obtain ⟨a', ha', hstored⟩ := hs.stored g' hg'
  obtain ⟨b', hb', hkeeps⟩ := rel_set (R := fun x y : Spawned => x.status = .stored →
    y.status = .stored) (fun _ h => h) ha hb ha'
  exact ⟨b', hb', hkeeps hstored⟩

/-- The numbers in the map are partitioned by a filter. -/
theorem count_filter_map (l : List (ActorId × ℕ)) (q : ActorId × ℕ → Bool) (g : ℕ) :
    (l.map Prod.snd).count g =
      ((l.filter q).map Prod.snd).count g + ((l.filter (!q ·)).map Prod.snd).count g := by
  have hperm := (List.filter_append_perm q l).map Prod.snd
  rw [← hperm.count_eq, List.map_append, List.count_append]

theorem Placed.store {s : StopHandles} (hn : s.Numbered) (hs : s.Placed) {g : ℕ} {a : Spawned}
    (ha : s.spawns[g]? = some a) (hstatus : a.status = .starting) :
    Placed { s with
      spawns := s.spawns.set g (a.withStatus .stored)
      stopReceivers := (a.id, g) :: s.stopReceivers.filter (·.1 ≠ a.id)
      stored := s.stored ++ [g] } := by
  have hnew : g ∉ s.stored := by
    intro hg
    obtain ⟨a', ha', hstored⟩ := hs.stored g hg
    rw [ha] at ha'
    cases ha'
    rw [hstatus] at hstored
    cases hstored
  have hself : (s.spawns.set g (a.withStatus .stored))[g]? = some (a.withStatus .stored) :=
    List.getElem?_set_self (List.getElem?_eq_some_iff.mp ha).1
  refine ⟨?_, ?_, ?_, ?_⟩
  · intro p hp
    rcases List.mem_cons.mp hp with rfl | hp
    · exact ⟨_, hself, rfl⟩
    · obtain ⟨a', ha', hid⟩ := hs.keys p (List.mem_of_mem_filter hp)
      obtain ⟨b, hb, hab⟩ := rel_set Later.refl ha (later_withStatus a .stored) ha'
      exact ⟨b, hb, by rw [hab.id, hid]⟩
  · intro g' hg'
    rcases List.mem_append.mp hg' with hg' | hg'
    · exact hs.stored_set ha (fun _ => rfl) g' hg'
    · rw [List.mem_singleton.mp hg']
      exact ⟨_, hself, rfl⟩
  · exact hs.nodup.append (List.nodup_singleton g)
      (List.disjoint_singleton.mpr hnew)
  · intro hissued
    have hplaces := hs.places hissued
    -- no receiver is under the id yet, so nothing is replaced
    have hkept : s.stopReceivers.filter (·.1 ≠ a.id) = s.stopReceivers := by
      refine List.filter_eq_self.mpr fun p hp => decide_eq_true fun hid => hnew ?_
      obtain ⟨a', ha', hid'⟩ := hs.keys p hp
      rw [hn.unique hissued ha ha' (by rw [hid', hid])]
      exact hplaces.subset (List.mem_append_left _ (List.mem_map_of_mem hp))
    show ((_ :: s.stopReceivers.filter (·.1 ≠ a.id)).map Prod.snd ++ _).Perm _
    rw [hkept, List.map_cons, List.cons_append]
    exact (hplaces.cons g).trans (List.perm_append_singleton g s.stored).symm

theorem Placed.move {s t : StopHandles} (hn : s.Numbered) (hs : s.Placed) (h : Move s t) :
    t.Placed := by
  have hlater := hs.keys_move h
  cases h with
  | idle => exact hs
  | reserve =>
      exact ⟨hs.keys, hs.stored, hs.nodup, fun hissued => hs.places (Nat.le_of_succ_le hissued)⟩
  | spawn =>
      refine ⟨hlater (List.Subset.refl _), ?_, hs.nodup,
        fun hissued => hs.places (Nat.le_of_succ_le hissued)⟩
      intro g hg
      obtain ⟨a, ha, hstored⟩ := hs.stored g hg
      refine ⟨a, ?_, hstored⟩
      rw [StopHandles.spawn, List.getElem?_append_left (List.getElem?_eq_some_iff.mp ha).1]
      exact ha
  | relabel ha hab hstatus =>
      exact ⟨hlater (List.Subset.refl _), hs.stored_set ha hstatus.mpr, hs.nodup, hs.places⟩
  | store ha hstatus => exact hs.store hn ha hstatus
  | awaitStop id =>
      refine ⟨hlater (List.filter_subset_self _), hs.stored, hs.nodup, fun hissued => ?_⟩
      refine List.perm_iff_count.mpr fun g => ?_
      have hcount := (hs.places hissued).count_eq g
      have hsplit := count_filter_map s.stopReceivers (·.1 = id) g
      simp only [StopHandles.awaitStop, List.flatMap_append, List.flatMap_singleton,
        List.count_append, ne_eq, decide_not] at hcount hsplit ⊢
      omega
  | awaitAll horder =>
      refine ⟨hlater (List.nil_subset _), hs.stored, hs.nodup, fun hissued => ?_⟩
      refine List.perm_iff_count.mpr fun g => ?_
      have hcount := (hs.places hissued).count_eq g
      have hdrained := (horder.map Prod.snd).count_eq g
      simp only [List.flatMap_append, List.flatMap_singleton, List.count_append, List.map_nil,
        List.count_nil] at hcount ⊢
      omega
  | @rephase w c phase hc _ =>
      refine ⟨hs.keys, hs.stored, hs.nodup, fun hissued => ?_⟩
      have htaken : (s.waits.set w { c with phase }).map Wait.taken = s.waits.map Wait.taken :=
        map_set_of_eq Wait.taken hc rfl
      show (_ ++ (List.flatMap _ (s.waits.set w { c with phase }) ++ _)).Perm _
      rw [List.flatMap_def, htaken, ← List.flatMap_def]
      exact hs.places hissued
  | cleanupFinished =>
      refine ⟨hlater (List.filter_subset_self _), hs.stored, hs.nodup, fun hissued => ?_⟩
      refine List.perm_iff_count.mpr fun g => ?_
      have hcount := (hs.places hissued).count_eq g
      have hsplit := count_filter_map s.stopReceivers (fun p => (s.noticeOf p.2).isPending) g
      simp only [StopHandles.cleanupFinished, List.count_append] at hcount ⊢
      omega

/-! ### What the waits know -/

structure Served (s : StopHandles) : Prop where
  waits : ∀ c ∈ s.waits, c.Exact s.noticeOf
  named : ∀ c ∈ s.waits, ∀ id, c.awaited = .stop id → ∀ g ∈ c.taken,
    ∃ a, s.spawns[g]? = some a ∧ a.id = id
  cleaned : ∀ g ∈ s.cleaned, Ended s.noticeOf g

theorem exact_fresh (notice : ℕ → StopNotice) (awaited : Awaited) (taken : List ℕ) :
    Wait.Exact notice ⟨awaited, taken, .waiting taken none⟩ :=
  ⟨[], rfl, fun _ h => (by cases h), rfl⟩

theorem Served.move {s t : StopHandles} (hp : s.Placed) (hs : s.Served) (h : Move s t) :
    t.Served := by
  have hwaits : ∀ c ∈ s.waits, c.Exact t.noticeOf := fun c hc => (hs.waits c hc).mono h.noticeOf
  have hnamed : ∀ c ∈ s.waits, ∀ id, c.awaited = .stop id → ∀ g ∈ c.taken,
      ∃ a, t.spawns[g]? = some a ∧ a.id = id := by
    intro c hc id hid g hg
    obtain ⟨a, ha, hname⟩ := hs.named c hc id hid g hg
    obtain ⟨b, hb, hab⟩ := h.later ha
    exact ⟨b, hb, by rw [hab.id, hname]⟩
  have hcleaned : ∀ g ∈ s.cleaned, Ended t.noticeOf g := fun g hg => h.ended (hs.cleaned g hg)
  cases h with
  | awaitStop id =>
      refine ⟨List.forall_mem_append.mpr ⟨hwaits, List.forall_mem_singleton.mpr ?_⟩,
        List.forall_mem_append.mpr ⟨hnamed, List.forall_mem_singleton.mpr ?_⟩, hcleaned⟩
      · exact exact_fresh _ _ _
      · intro id' hid' g hg
        cases hid'
        obtain ⟨p, hpmem, rfl⟩ := List.mem_map.mp hg
        obtain ⟨hpmem, hpid⟩ := List.mem_filter.mp hpmem
        obtain ⟨a, ha, hname⟩ := hp.keys p hpmem
        exact ⟨a, ha, by rw [hname]; exact of_decide_eq_true hpid⟩
  | awaitAll horder =>
      refine ⟨List.forall_mem_append.mpr ⟨hwaits, List.forall_mem_singleton.mpr ?_⟩,
        List.forall_mem_append.mpr ⟨hnamed, List.forall_mem_singleton.mpr ?_⟩, hcleaned⟩
      · exact exact_fresh _ _ _
      · intro id' hid'
        cases hid'
  | @rephase w c phase hc hphase =>
      have hold := List.mem_of_getElem? hc
      exact ⟨forall_mem_set hwaits (hphase (hs.waits c hold)),
        forall_mem_set hnamed (hnamed c hold), hcleaned⟩
  | cleanupFinished =>
      refine ⟨hwaits, hnamed, ?_⟩
      intro g hg
      rcases List.mem_append.mp hg with hg | hg
      · exact hcleaned g hg
      · obtain ⟨p, hpmem, rfl⟩ := List.mem_map.mp hg
        have hended := (List.mem_filter.mp hpmem).2
        rwa [Bool.not_eq_true'] at hended
  | _ => exact ⟨hwaits, hnamed, hcleaned⟩

/-! ### Runs -/

structure Sound (s : StopHandles) : Prop where
  numbered : s.Numbered
  placed : s.Placed
  served : s.Served

theorem sound_new (nodeId : NodeId) : (new nodeId).Sound where
  numbered := ⟨rfl, issued_nil 1 0⟩
  placed := ⟨fun p hp => (by cases hp), fun g hg => (by cases hg), List.nodup_nil, fun _ => .refl _⟩
  served := ⟨fun c hc => (by cases hc), fun c hc => (by cases hc), fun g hg => (by cases hg)⟩

theorem sound_run (nodeId : NodeId) (events : List Event) :
    (run step (new nodeId) events).Sound := by
  refine run_induction ?_ events (sound_new nodeId)
  rintro s e ⟨hn, hp, hs⟩
  have hmove := step_move s e
  exact ⟨hn.move hmove, hp.move hn hmove, hs.move hp hmove⟩

/-- The ids a run reserves. -/
def reservations (events : List Event) : ℕ :=
  (events.filter fun e => e matches .reserve | .spawn).length

theorem step_issued (s : StopHandles) (e : Event) :
    (s.step e).issued = s.issued + reservations [e] := by
  cases e with
  | reserve => rfl
  | spawn => rfl
  | spawnFailed g =>
      simp only [step, spawnFailed]
      repeat' split
      all_goals rfl
  | store g =>
      simp only [step, store]
      repeat' split
      all_goals rfl
  | stopped g onStopPanics =>
      simp only [step, notify]
      repeat' split
      all_goals rfl
  | notifierDropped g =>
      simp only [step, notify]
      repeat' split
      all_goals rfl
  | awaitStop id => rfl
  | awaitAll order =>
      simp only [step, awaitAll]
      split <;> rfl
  | poll w =>
      simp only [step, poll]
      repeat' split
      all_goals rfl
  | dropWait w =>
      simp only [step, dropWait]
      repeat' split
      all_goals rfl
  | cleanupFinished => rfl

theorem issued_run (nodeId : NodeId) (events : List Event) :
    (run step (new nodeId) events).issued = reservations events := by
  induction events using List.reverseRecOn with
  | nil => rfl
  | append_singleton events e ih =>
      rw [run_append]
      show (step _ e).issued = _
      rw [step_issued, ih, reservations, reservations, reservations, List.filter_append,
        List.length_append]

/-! ### What the next call finds -/

/-- `await_stop` takes the receiver of a stored spawn, unless it is gone. -/
theorem taken_of_stored {s : StopHandles} (hn : s.Numbered) (hp : s.Placed)
    (hissued : s.issued ≤ 2 ^ 64) {g : ℕ} {a : Spawned} (hg : g ∈ s.stored)
    (ha : s.spawns[g]? = some a) :
    (s.stopReceivers.filter (·.1 = a.id)).map Prod.snd =
      if g ∈ s.waits.flatMap Wait.taken ++ s.cleaned then [] else [g] := by
  have hall : ∀ p ∈ s.stopReceivers, p.1 = a.id ↔ p.2 = g := by
    intro p hpmem
    obtain ⟨b, hb, hid⟩ := hp.keys p hpmem
    constructor
    · intro h
      exact hn.unique hissued hb ha (by rw [hid, h])
    · rintro rfl
      rw [ha] at hb
      cases hb
      exact hid.symm
  have honly : (s.stopReceivers.filter (·.1 = a.id)).map Prod.snd =
      (s.stopReceivers.map Prod.snd).filter (· = g) := by
    rw [List.filter_map]
    refine congrArg _ (List.filter_congr fun p hpmem => ?_)
    exact decide_eq_decide.mpr (hall p hpmem)
  have hcount := (hp.places hissued).count_eq g
  rw [List.count_append, List.count_eq_one_of_mem hp.nodup hg] at hcount
  rw [honly, List.filter_eq]
  split
  · next hgone =>
      have := List.count_pos_iff.mpr hgone
      rw [show (s.stopReceivers.map Prod.snd).count g = 0 by omega]
      rfl
  · next hgone =>
      rw [List.count_eq_zero_of_not_mem hgone] at hcount
      rw [show (s.stopReceivers.map Prod.snd).count g = 1 by omega]
      rfl

/-- A poll of a wait whose actors have all ended is the last one. -/
theorem poll_of_ended {s : StopHandles} (hs : s.Served) {w : ℕ} {c : Wait} {rest : List ℕ}
    {firstError : Option String} (hc : s.waits[w]? = some c)
    (hphase : c.phase = .waiting rest firstError) (hended : ∀ g ∈ c.taken, Ended s.noticeOf g) :
    (s.poll w).waits[w]? = some { c with
      phase := .returned (verdict s.noticeOf c.awaited.droppedError c.taken) } := by
  have hexact := hs.waits c (List.mem_of_getElem? hc)
  rw [Wait.Exact, hphase] at hexact
  obtain ⟨done, htaken, hdone, rfl⟩ := hexact
  have hafter := awaitEach_exact c.awaited rest done hdone
  obtain ⟨result, hresult⟩ := awaitEach_of_ended c.awaited.droppedError
    (fun g hg => hended g (by rw [htaken]; exact List.mem_append_right _ hg))
    (done.findSome? (stopError s.noticeOf c.awaited.droppedError))
  rw [hresult] at hafter
  obtain ⟨-, hverdict⟩ := hafter
  rw [poll, hc]
  dsimp only
  rw [hphase]
  dsimp only
  rw [List.getElem?_set_self (List.getElem?_eq_some_iff.mp hc).1, hresult, hverdict, ← htaken]

/-- The receivers are accounted for, and the waits are right. -/
structure Exact (s : StopHandles) : Prop where
  /-- Every receiver that was stored is in one place. -/
  places : (s.stopReceivers.map Prod.snd ++ (s.waits.flatMap Wait.taken ++ s.cleaned)).Perm s.stored
  nodup : s.stored.Nodup
  waits : ∀ c ∈ s.waits, c.Exact s.noticeOf
  /-- What `await_stop` took belongs to the actor that was asked for. -/
  named : ∀ c ∈ s.waits, ∀ id, c.awaited = .stop id → ∀ g ∈ c.taken,
    ∃ a, s.spawns[g]? = some a ∧ a.id = id
  cleaned : ∀ g ∈ s.cleaned, Ended s.noticeOf g
  /-- The next `await_stop` takes the receiver of a stored spawn, unless a wait
  or a cleanup has had it. -/
  finds : ∀ g ∈ s.stored, ∀ a, s.spawns[g]? = some a →
    ∃ c, (s.awaitStop a.id).waits = s.waits ++ [c] ∧
      c.taken = if g ∈ s.waits.flatMap Wait.taken ++ s.cleaned then [] else [g]
  /-- A wait returns as soon as it is polled after the end of its actors. -/
  returns : ∀ w c rest firstError, s.waits[w]? = some c → c.phase = .waiting rest firstError →
    (∀ g ∈ c.taken, Ended s.noticeOf g) →
    (s.poll w).waits[w]? = some { c with
      phase := .returned (verdict s.noticeOf c.awaited.droppedError c.taken) }

/-- **Waiting for actors to stop is exact.**  In every interleaving of spawns,
stops, waits, cleanups and dropped futures with at most `2 ^ 64` ids: every stop
receiver that was stored is in the map, with exactly one wait, or was thrown away
after its actor had ended; a wait returns once all the actors it took have ended,
not earlier, and its result is their first error. -/
theorem stop_handles_exact (nodeId : NodeId) (events : List Event)
    (hids : reservations events ≤ 2 ^ 64) : (run step (new nodeId) events).Exact := by
  obtain ⟨hn, hp, hs⟩ := sound_run nodeId events
  rw [← issued_run nodeId] at hids
  exact {
    places := hp.places hids
    nodup := hp.nodup
    waits := hs.waits
    named := hs.named
    cleaned := hs.cleaned
    finds := fun g hg a ha => ⟨_, rfl, taken_of_stored hn hp hids hg ha⟩
    returns := fun w c rest firstError => poll_of_ended hs }

/-- Two waits for one actor: the second finds nothing, and returns at once while
the actor is still running; the first returns its error. -/
theorem stop_handles_exact_twoWaits :
    let id : ActorId := ⟨⟨"node-1"⟩, 1⟩
    let s := run step (new ⟨"node-1"⟩) [.spawn, .store 0, .awaitStop id, .awaitStop id, .poll 0,
      .poll 1, .stopped 0 true, .poll 0]
    s.waits.map Wait.phase = [.returned (.error "actor panicked in on_stop"), .returned (.ok ())] ∧
      s.waits.map Wait.taken = [[0], []] ∧ s.Exact :=
  ⟨rfl, rfl, stop_handles_exact _ _ (by decide)⟩

/-- The spawns that are stored and that nobody waits for. -/
def unawaited (s : StopHandles) : List ℕ := s.stored.filter fun g => g ∉ s.waits.flatMap Wait.taken

/-- **After a cleanup the handles count the running actors.**  In every
interleaving with at most `2 ^ 64` ids, `cleanup_finished` leaves as many handles
as there are stored spawns that have not ended and were not awaited. -/
theorem cleanup_counts_running (nodeId : NodeId) (events : List Event)
    (hids : reservations events ≤ 2 ^ 64) :
    let s := run step (new nodeId) events
    s.cleanupFinished.activeHandleCount =
      (s.unawaited.filter fun g => (s.noticeOf g).isPending).length := by
  intro s
  obtain ⟨-, hp, hs⟩ := sound_run nodeId events
  rw [← issued_run nodeId] at hids
  have hplaces := hp.places hids
  have hnodup := hplaces.nodup_iff.mpr hp.nodup
  obtain ⟨-, -, hdisjoint⟩ := List.nodup_append'.mp hnodup
  let awaited := s.waits.flatMap Wait.taken
  let running : ℕ → Bool := fun g => (s.noticeOf g).isPending && g ∉ awaited
  have hmap : (s.stopReceivers.map Prod.snd).filter running =
      (s.stopReceivers.map Prod.snd).filter fun g => (s.noticeOf g).isPending := by
    refine List.filter_congr fun g hg => ?_
    have hfree : g ∉ awaited :=
      fun h => hdisjoint hg (List.mem_append_left _ h)
    simp [running, hfree]
  have htaken : awaited.filter running = [] :=
    List.filter_eq_nil_iff.mpr fun g hg => by simp [running, hg]
  have hcleaned : s.cleaned.filter running = [] := by
    refine List.filter_eq_nil_iff.mpr fun g hg => ?_
    have hended : (s.noticeOf g).isPending = false := hs.cleaned g hg
    simp [running, hended]
  calc s.cleanupFinished.activeHandleCount
      = ((s.stopReceivers.map Prod.snd).filter fun g => (s.noticeOf g).isPending).length := by
        rw [List.filter_map, List.length_map]
        rfl
    _ = ((s.stopReceivers.map Prod.snd ++
          (s.waits.flatMap Wait.taken ++ s.cleaned)).filter running).length := by
        rw [List.filter_append, List.filter_append, hmap, htaken, hcleaned, List.append_nil,
          List.append_nil]
    _ = (s.stored.filter running).length := (hplaces.filter running).length_eq
    _ = (s.unawaited.filter fun g => (s.noticeOf g).isPending).length := by
        rw [unawaited, List.filter_filter]

/-- Of three actors one has ended and one is awaited. -/
theorem cleanup_counts_running_three :
    let s := run step (new ⟨"node-1"⟩) [.spawn, .store 0, .spawn, .store 1, .spawn, .store 2,
      .stopped 1 true, .awaitStop ⟨⟨"node-1"⟩, 1⟩]
    s.cleanupFinished.activeHandleCount = 1 := by
  intro s
  rw [cleanup_counts_running _ _ (by decide)]
  rfl

end StopHandles

end Dactor
