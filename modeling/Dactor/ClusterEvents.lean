/-
Dactor/ClusterEvents.lean

The subscriptions to membership events (`RactorClusterEvents`; the other
adapters have the same).

`subscribe` takes an id from a shared counter and then inserts the callback
under the lock.  `emit` copies the callbacks under the lock and calls them one
after the other without it; a callback may panic, which is caught, and may
itself subscribe, unsubscribe and emit.  All of it interleaves.

Main result: `cluster_events_exactly_once`.
-/
import Dactor.Counters
import Dactor.Runs
import Dactor.Slots

namespace Dactor

open Runs Slots Counters

/-! ### Subscriptions and emissions -/

inductive SubscriptionStatus
  /-- `subscribe` has its id, and has not inserted the callback yet. -/
  | reserved
  | active
  | removed
  deriving DecidableEq

structure Subscription where
  id : UInt64
  status : SubscriptionStatus

/-- A call of `emit`.  `due` are the subscriptions that are active when the
callbacks are copied, `snapshot` the copies, `rest` those not called yet, and
`overlaps` the emissions that are under way when it starts. -/
structure Emission (E : Type) where
  event : E
  due : List ℕ
  snapshot : List ℕ
  rest : List ℕ
  overlaps : List ℕ

/-- The subscriptions, the map, the emissions, and the calls of callbacks:
a subscription and an emission each, oldest first. -/
structure ClusterEvents (E : Type) where
  nextId : UInt64
  subscribers : List (UInt64 × ℕ)
  subscriptions : List Subscription
  emissions : List (Emission E)
  calls : List (ℕ × ℕ)

namespace ClusterEvents

variable {E : Type}

def new : ClusterEvents E := ⟨1, [], [], [], []⟩

/-- The counter of `subscribe`. -/
def reserve (s : ClusterEvents E) : ClusterEvents E :=
  { s with
    nextId := s.nextId + 1
    subscriptions := s.subscriptions ++ [⟨s.nextId, .reserved⟩] }

/-- The locked part of `subscribe`. -/
def insert (s : ClusterEvents E) (g : ℕ) : ClusterEvents E :=
  match s.subscriptions[g]? with
  | some a =>
    if a.status = .reserved then
      { s with
        subscribers := (a.id, g) :: s.subscribers.filter (·.1 ≠ a.id)
        subscriptions := s.subscriptions.set g ⟨a.id, .active⟩ }
    else s
  | none => s

def unsubscribe (s : ClusterEvents E) (id : UInt64) : ClusterEvents E :=
  { s with
    subscribers := s.subscribers.filter (·.1 ≠ id)
    subscriptions := s.subscriptions.map fun a =>
      if a.id = id ∧ a.status = .active then ⟨id, .removed⟩ else a }

def isActive (s : ClusterEvents E) (g : ℕ) : Bool :=
  match s.subscriptions[g]? with
  | some a => a.status = .active
  | none => false

def active (s : ClusterEvents E) : List ℕ :=
  (List.range s.subscriptions.length).filter s.isActive

def underWay (s : ClusterEvents E) : List ℕ :=
  (List.range s.emissions.length).filter fun k =>
    match s.emissions[k]? with
    | some e => e.rest ≠ []
    | none => false

/-- The locked part of `emit`; `order` is the one in which the map is read. -/
def emit (s : ClusterEvents E) (event : E) (order : List (UInt64 × ℕ)) : ClusterEvents E :=
  if order.Perm s.subscribers then
    let snapshot := order.map Prod.snd
    { s with emissions := s.emissions ++ [⟨event, s.active, snapshot, snapshot, s.underWay⟩] }
  else s

/-- The next callback of an emission is called.  Whether it panics makes no
difference. -/
def call (s : ClusterEvents E) (k : ℕ) (_panics : Bool) : ClusterEvents E :=
  match s.emissions[k]? with
  | some e =>
    match e.rest with
    | g :: rest =>
      { s with emissions := s.emissions.set k { e with rest }, calls := s.calls ++ [(g, k)] }
    | [] => s
  | none => s

def subscriberCount (s : ClusterEvents E) : ℕ := s.subscribers.length

inductive Event (E : Type)
  | reserve
  | insert (g : ℕ)
  | unsubscribe (id : UInt64)
  | emit (event : E) (order : List (UInt64 × ℕ))
  | call (k : ℕ) (panics : Bool)

def step (s : ClusterEvents E) : Event E → ClusterEvents E
  | .reserve => s.reserve
  | .insert g => s.insert g
  | .unsubscribe id => s.unsubscribe id
  | .emit event order => s.emit event order
  | .call k panics => s.call k panics

/-! ### Steps -/

/-- What a step can do. -/
inductive Move (s : ClusterEvents E) : ClusterEvents E → Prop
  | idle : Move s s
  | reserve : Move s s.reserve
  | insert {g : ℕ} {a : Subscription} (ha : s.subscriptions[g]? = some a)
      (hstatus : a.status = .reserved) :
      Move s { s with
        subscribers := (a.id, g) :: s.subscribers.filter (·.1 ≠ a.id)
        subscriptions := s.subscriptions.set g ⟨a.id, .active⟩ }
  | unsubscribe (id : UInt64) : Move s (s.unsubscribe id)
  | emit (event : E) {order : List (UInt64 × ℕ)} (horder : order.Perm s.subscribers) :
      Move s { s with emissions := s.emissions ++
        [⟨event, s.active, order.map Prod.snd, order.map Prod.snd, s.underWay⟩] }
  | call {k g : ℕ} {rest : List ℕ} {e : Emission E} (he : s.emissions[k]? = some e)
      (hrest : e.rest = g :: rest) :
      Move s { s with emissions := s.emissions.set k { e with rest }, calls := s.calls ++ [(g, k)] }

theorem step_move (s : ClusterEvents E) (e : Event E) : Move s (s.step e) := by
  cases e with
  | reserve => exact .reserve
  | insert g =>
      rw [step, ClusterEvents.insert]
      rcases ha : s.subscriptions[g]? with - | a
      · exact .idle
      · dsimp only
        split
        · next hstatus => exact .insert ha hstatus
        · exact .idle
  | unsubscribe id => exact .unsubscribe id
  | emit event order =>
      rw [step, ClusterEvents.emit]
      split
      · next horder => exact .emit event horder
      · exact .idle
  | call k panics =>
      rw [step, ClusterEvents.call]
      rcases he : s.emissions[k]? with - | e
      · exact .idle
      · dsimp only
        split
        · next g rest hrest => exact .call he hrest
        · exact .idle

/-! ### The map -/

/-- The map holds the active subscriptions under their ids, and all of them
before the counter has come round. -/
structure Mapped (s : ClusterEvents E) : Prop where
  nextId : s.nextId = UInt64.ofNat (1 + s.subscriptions.length)
  ids : ∀ (g : ℕ) (a : Subscription), s.subscriptions[g]? = some a → a.id = UInt64.ofNat (1 + g)
  nodup : (s.subscribers.map Prod.snd).Nodup
  keys : ∀ p ∈ s.subscribers,
    ∃ a, s.subscriptions[p.2]? = some a ∧ a.id = p.1 ∧ a.status = .active
  held : s.subscriptions.length ≤ 2 ^ 64 → ∀ g a, s.subscriptions[g]? = some a →
    a.status = .active → (a.id, g) ∈ s.subscribers

theorem lt_of_getElem? {l : List Subscription} {g : ℕ} {a : Subscription} (h : l[g]? = some a) :
    g < l.length :=
  (List.getElem?_eq_some_iff.mp h).1

theorem Mapped.reserve {s : ClusterEvents E} (hs : s.Mapped) : s.reserve.Mapped := by
  have hlen : s.reserve.subscriptions.length = s.subscriptions.length + 1 := List.length_append
  refine ⟨?_, ?_, hs.nodup, ?_, ?_⟩
  · show s.nextId + 1 = _
    rw [hlen, hs.nextId, ← Nat.add_assoc, UInt64.ofNat_add (1 + s.subscriptions.length)]
    rfl
  · intro g a ha
    rcases concat_cases ha with hold | ⟨rfl, rfl⟩
    · exact hs.ids g a hold
    · exact hs.nextId
  · intro p hp
    obtain ⟨a, ha, hid⟩ := hs.keys p hp
    refine ⟨a, ?_, hid⟩
    rw [ClusterEvents.reserve, List.getElem?_append_left (lt_of_getElem? ha)]
    exact ha
  · intro hbound g a ha hactive
    rcases concat_cases ha with hold | ⟨rfl, rfl⟩
    · exact hs.held (by omega) g a hold hactive
    · cases hactive

theorem Mapped.insert {s : ClusterEvents E} (hs : s.Mapped) {g : ℕ} {a : Subscription}
    (ha : s.subscriptions[g]? = some a) (hstatus : a.status = .reserved) :
    Mapped { s with
      subscribers := (a.id, g) :: s.subscribers.filter (·.1 ≠ a.id)
      subscriptions := s.subscriptions.set g ⟨a.id, .active⟩ } := by
  have hself : (s.subscriptions.set g ⟨a.id, .active⟩)[g]? = some ⟨a.id, .active⟩ :=
    List.getElem?_set_self (lt_of_getElem? ha)
  have hfresh : ∀ p ∈ s.subscribers, p.2 ≠ g := by
    rintro p hp rfl
    obtain ⟨b, hb, -, hactive⟩ := hs.keys p hp
    rw [ha] at hb
    cases hb
    rw [hstatus] at hactive
    cases hactive
  refine ⟨?_, ?_, ?_, ?_, ?_⟩
  · show s.nextId = UInt64.ofNat (1 + (s.subscriptions.set g _).length)
    rw [List.length_set]
    exact hs.nextId
  · intro g' b hb
    rcases set_cases hb with ⟨rfl, rfl⟩ | ⟨-, hb⟩
    · exact hs.ids g a ha
    · exact hs.ids g' b hb
  · show (((a.id, g) :: s.subscribers.filter (·.1 ≠ a.id)).map Prod.snd).Nodup
    rw [List.map_cons, List.nodup_cons]
    refine ⟨?_, (List.filter_sublist.map Prod.snd).nodup hs.nodup⟩
    intro hg
    obtain ⟨p, hp, hpg⟩ := List.mem_map.mp hg
    exact hfresh p (List.mem_of_mem_filter hp) hpg
  · intro p hp
    rcases List.mem_cons.mp hp with rfl | hp
    · exact ⟨_, hself, rfl, rfl⟩
    · have hp := List.mem_of_mem_filter hp
      obtain ⟨b, hb, hid⟩ := hs.keys p hp
      refine ⟨b, ?_, hid⟩
      show (s.subscriptions.set g _)[p.2]? = _
      rw [List.getElem?_set_ne (hfresh p hp).symm]
      exact hb
  · intro hbound g' b hb hactive
    rcases set_cases hb with ⟨rfl, rfl⟩ | ⟨hg, hb⟩
    · exact List.mem_cons_self
    · rw [List.length_set] at hbound
      refine List.mem_cons_of_mem _ (List.mem_filter.mpr ⟨hs.held hbound g' b hb hactive, ?_⟩)
      -- the ids of different subscriptions differ
      refine decide_eq_true fun hid => hg ?_
      have hg' := lt_of_getElem? hb
      have hlt := lt_of_getElem? ha
      rw [hs.ids g' b hb, hs.ids g a ha] at hid
      exact (ofNat_add_inj (by omega) (by omega) hid).symm

theorem Mapped.unsubscribe {s : ClusterEvents E} (hs : s.Mapped) (id : UInt64) :
    (s.unsubscribe id).Mapped := by
  have hget : ∀ (g : ℕ) (b : Subscription), (s.unsubscribe id).subscriptions[g]? = some b →
      ∃ a, s.subscriptions[g]? = some a ∧ b.id = a.id ∧
        (b.status = .active → a.status = .active ∧ a.id ≠ id ∧ b = a) := by
    intro g b hb
    rw [ClusterEvents.unsubscribe, List.getElem?_map] at hb
    obtain ⟨a, ha, rfl⟩ := Option.map_eq_some_iff.mp hb
    refine ⟨a, ha, ?_⟩
    split
    · next h => exact ⟨h.1.symm, fun hactive => (by cases hactive)⟩
    · next h => exact ⟨rfl, fun hactive => ⟨hactive, fun hid => h ⟨hid, hactive⟩, rfl⟩⟩
  have hlen : (s.unsubscribe id).subscriptions.length = s.subscriptions.length :=
    List.length_map _
  refine ⟨?_, ?_, (List.filter_sublist.map Prod.snd).nodup hs.nodup, ?_, ?_⟩
  · rw [hlen]
    exact hs.nextId
  · intro g b hb
    obtain ⟨a, ha, hid, -⟩ := hget g b hb
    rw [hid]
    exact hs.ids g a ha
  · intro p hp
    obtain ⟨hp, hne⟩ := List.mem_filter.mp hp
    obtain ⟨a, ha, hid, hactive⟩ := hs.keys p hp
    refine ⟨a, ?_, hid, hactive⟩
    rw [ClusterEvents.unsubscribe, List.getElem?_map, ha, Option.map_some]
    refine congrArg some (if_neg fun h => of_decide_eq_true hne ?_)
    rw [← hid, h.1]
  · intro hbound g b hb hactive
    obtain ⟨a, ha, -, h⟩ := hget g b hb
    obtain ⟨hold, hne, rfl⟩ := h hactive
    rw [hlen] at hbound
    exact List.mem_filter.mpr ⟨hs.held hbound g b ha hold, decide_eq_true hne⟩

theorem Mapped.move {s t : ClusterEvents E} (hs : s.Mapped) (h : Move s t) : t.Mapped := by
  cases h with
  | idle => exact hs
  | reserve => exact hs.reserve
  | insert ha hstatus => exact hs.insert ha hstatus
  | unsubscribe id => exact hs.unsubscribe id
  | _ => exact ⟨hs.nextId, hs.ids, hs.nodup, hs.keys, hs.held⟩

/-- So a copy of the map is one of the active subscriptions. -/
theorem Mapped.perm_active {s : ClusterEvents E} (hs : s.Mapped)
    (hbound : s.subscriptions.length ≤ 2 ^ 64) : (s.subscribers.map Prod.snd).Perm s.active := by
  refine (List.perm_ext_iff_of_nodup hs.nodup (List.nodup_range.filter _)).mpr fun g => ?_
  show _ ↔ g ∈ (List.range s.subscriptions.length).filter s.isActive
  rw [List.mem_filter, List.mem_range, isActive]
  constructor
  · intro hg
    obtain ⟨p, hp, rfl⟩ := List.mem_map.mp hg
    obtain ⟨a, ha, -, hactive⟩ := hs.keys p hp
    rw [ha]
    exact ⟨lt_of_getElem? ha, decide_eq_true hactive⟩
  · rintro ⟨-, hactive⟩
    rcases ha : s.subscriptions[g]? with - | a
    · rw [ha] at hactive
      cases hactive
    · rw [ha] at hactive
      exact List.mem_map.mpr ⟨_, hs.held hbound g a ha (of_decide_eq_true hactive), rfl⟩

/-! ### Emissions -/

/-- Every emission calls the callbacks it has copied, one by one. -/
structure Tracked (s : ClusterEvents E) : Prop where
  snapshots : s.subscriptions.length ≤ 2 ^ 64 → ∀ e ∈ s.emissions, e.snapshot.Perm e.due
  dues : ∀ e ∈ s.emissions, e.due.Nodup
  calls : ∀ (k : ℕ) (e : Emission E), s.emissions[k]? = some e →
    (s.calls.filter (·.2 = k)).map Prod.fst ++ e.rest = e.snapshot
  known : ∀ c ∈ s.calls, c.2 < s.emissions.length
  overlaps : ∀ (j k : ℕ) (e e' : Emission E), k < j → s.emissions[j]? = some e →
    s.emissions[k]? = some e' → e'.rest ≠ [] → k ∈ e.overlaps
  order : s.calls.Pairwise fun x y =>
    x.2 ≤ y.2 ∨ ∃ e, s.emissions[x.2]? = some e ∧ y.2 ∈ e.overlaps

theorem mem_underWay {s : ClusterEvents E} {k : ℕ} {e : Emission E} (he : s.emissions[k]? = some e)
    (hrest : e.rest ≠ []) : k ∈ s.underWay := by
  refine List.mem_filter.mpr ⟨List.mem_range.mpr (List.getElem?_eq_some_iff.mp he).1, ?_⟩
  rw [he]
  exact decide_eq_true hrest

theorem Tracked.emit {s : ClusterEvents E} (hm : s.Mapped) (hs : s.Tracked) (event : E)
    {order : List (UInt64 × ℕ)} (horder : order.Perm s.subscribers) :
    Tracked { s with emissions := s.emissions ++
      [⟨event, s.active, order.map Prod.snd, order.map Prod.snd, s.underWay⟩] } := by
  refine ⟨?_, ?_, ?_, ?_, ?_, ?_⟩
  · intro hbound e he
    rcases List.mem_append.mp he with he | he
    · exact hs.snapshots hbound e he
    · rw [List.mem_singleton.mp he]
      exact (horder.map Prod.snd).trans (hm.perm_active hbound)
  · intro e he
    rcases List.mem_append.mp he with he | he
    · exact hs.dues e he
    · rw [List.mem_singleton.mp he]
      exact List.nodup_range.filter _
  · intro k e he
    rcases concat_cases he with he | ⟨rfl, rfl⟩
    · exact hs.calls k e he
    · -- nobody has been called for it
      have hnone : s.calls.filter (·.2 = s.emissions.length) = [] := by
        refine List.filter_eq_nil_iff.mpr fun c hc => ?_
        simpa using Nat.ne_of_lt (hs.known c hc)
      show (s.calls.filter (·.2 = s.emissions.length)).map Prod.fst ++ _ = _
      rw [hnone]
      rfl
  · intro c hc
    rw [List.length_append]
    exact Nat.lt_succ_of_lt (hs.known c hc)
  · intro j k e e' hlt he he' hrest
    have hk : s.emissions[k]? = some e' := by
      rcases concat_cases he' with he' | ⟨rfl, -⟩
      · exact he'
      · have hj := (List.getElem?_eq_some_iff.mp he).1
        rw [List.length_append] at hj
        exact absurd (Nat.lt_succ_iff.mp hj) (Nat.not_le_of_lt hlt)
    rcases concat_cases he with he | ⟨-, rfl⟩
    · exact hs.overlaps j k e e' hlt he hk hrest
    · exact mem_underWay hk hrest
  · refine hs.order.imp fun h => h.imp_right ?_
    rintro ⟨e, he, hmem⟩
    refine ⟨e, ?_, hmem⟩
    rw [List.getElem?_append_left (List.getElem?_eq_some_iff.mp he).1]
    exact he

theorem Tracked.call {s : ClusterEvents E} (hs : s.Tracked) {k g : ℕ} {rest : List ℕ}
    {e : Emission E} (he : s.emissions[k]? = some e) (hrest : e.rest = g :: rest) :
    Tracked { s with
      emissions := s.emissions.set k { e with rest }
      calls := s.calls ++ [(g, k)] } := by
  have hmem := List.mem_of_getElem? he
  have hkeeps : ∀ (j : ℕ) (x : Emission E), s.emissions[j]? = some x →
      ∃ y, (s.emissions.set k { e with rest })[j]? = some y ∧ y.overlaps = x.overlaps := by
    intro j x hx
    have hsame : ({ e with rest } : Emission E).overlaps = e.overlaps := rfl
    exact rel_set (R := fun x y : Emission E => y.overlaps = x.overlaps) (fun _ => rfl) he hsame hx
  refine ⟨?_, ?_, ?_, ?_, ?_, ?_⟩
  · intro hbound
    exact forall_mem_set (hs.snapshots hbound) (hs.snapshots hbound e hmem)
  · exact forall_mem_set hs.dues (hs.dues e hmem)
  · intro j x hx
    show ((s.calls ++ [(g, k)]).filter (·.2 = j)).map Prod.fst ++ x.rest = x.snapshot
    rcases set_cases hx with ⟨rfl, rfl⟩ | ⟨hne, hx⟩
    · have hcalls := hs.calls k e he
      rw [hrest] at hcalls
      simpa [List.filter_append] using hcalls
    · have hcalls := hs.calls j x hx
      simpa [List.filter_append, hne] using hcalls
  · intro c hc
    rw [List.length_set]
    rcases List.mem_append.mp hc with hc | hc
    · exact hs.known c hc
    · rw [List.mem_singleton.mp hc]
      exact (List.getElem?_eq_some_iff.mp he).1
  · -- the others that are under way were so before
    intro i j x y hlt hx hy hyrest
    obtain ⟨x', hx', hxover⟩ : ∃ x', s.emissions[i]? = some x' ∧ x.overlaps = x'.overlaps := by
      rcases set_cases hx with ⟨rfl, rfl⟩ | ⟨-, hx⟩
      · exact ⟨e, he, rfl⟩
      · exact ⟨x, hx, rfl⟩
    obtain ⟨y', hy', hyrest'⟩ : ∃ y', s.emissions[j]? = some y' ∧ y'.rest ≠ [] := by
      rcases set_cases hy with ⟨rfl, rfl⟩ | ⟨-, hy⟩
      · exact ⟨e, he, by rw [hrest]; exact List.cons_ne_nil _ _⟩
      · exact ⟨y, hy, hyrest⟩
    rw [hxover]
    exact hs.overlaps i j x' y' hlt hx' hy' hyrest'
  · refine List.pairwise_append.mpr ⟨?_, List.pairwise_singleton _ _, ?_⟩
    · refine hs.order.imp fun h => h.imp_right ?_
      rintro ⟨x, hx, hover⟩
      obtain ⟨y, hy, hsame⟩ := hkeeps _ x hx
      exact ⟨y, hy, by rw [hsame]; exact hover⟩
    · intro c hc d hd
      rw [List.mem_singleton.mp hd]
      rcases Nat.lt_or_ge k c.2 with hlt | hle
      · -- the later emission started while this one was under way
        obtain ⟨x, hx⟩ : ∃ x, s.emissions[c.2]? = some x :=
          ⟨_, List.getElem?_eq_getElem (hs.known c hc)⟩
        obtain ⟨y, hy, hsame⟩ := hkeeps _ x hx
        refine .inr ⟨y, hy, ?_⟩
        rw [hsame]
        exact hs.overlaps c.2 k x e hlt hx he (by rw [hrest]; exact List.cons_ne_nil _ _)
      · exact .inl hle

theorem Tracked.move {s t : ClusterEvents E} (hm : s.Mapped) (hs : s.Tracked) (h : Move s t) :
    t.Tracked := by
  cases h with
  | idle => exact hs
  | reserve =>
      refine ⟨fun hbound => hs.snapshots ?_, hs.dues, hs.calls, hs.known, hs.overlaps, hs.order⟩
      rw [ClusterEvents.reserve, List.length_append] at hbound
      exact Nat.le_of_succ_le hbound
  | insert _ _ =>
      refine ⟨fun hbound => hs.snapshots ?_, hs.dues, hs.calls, hs.known, hs.overlaps, hs.order⟩
      rwa [List.length_set] at hbound
  | unsubscribe id =>
      refine ⟨fun hbound => hs.snapshots ?_, hs.dues, hs.calls, hs.known, hs.overlaps, hs.order⟩
      rwa [ClusterEvents.unsubscribe, List.length_map] at hbound
  | emit event horder => exact hs.emit hm event horder
  | call he hrest => exact hs.call he hrest

/-! ### Runs -/

structure Sound (s : ClusterEvents E) : Prop where
  mapped : s.Mapped
  tracked : s.Tracked

theorem sound_new : (new : ClusterEvents E).Sound where
  mapped := ⟨rfl, fun g a ha => (by cases ha), List.nodup_nil, fun p hp => (by cases hp),
    fun _ g a ha => (by cases ha)⟩
  tracked := ⟨fun _ e he => (by cases he), fun e he => (by cases he), fun k e he => (by cases he),
    fun c hc => (by cases hc), fun j k e e' _ he => (by cases he), List.Pairwise.nil⟩

theorem sound_run (events : List (Event E)) : (run step (new : ClusterEvents E) events).Sound := by
  refine run_induction ?_ events sound_new
  rintro s e ⟨hm, ht⟩
  have hmove := step_move s e
  exact ⟨hm.move hmove, ht.move hm hmove⟩

theorem length_subscriptions (events : List (Event E)) :
    (run step (new : ClusterEvents E) events).subscriptions.length
      = (events.filter (· matches .reserve)).length := by
  induction events using List.reverseRecOn with
  | nil => rfl
  | append_singleton events e ih =>
      rw [run_append, List.filter_append, List.length_append, ← ih]
      show (step _ e).subscriptions.length = _
      cases e with
      | reserve => exact List.length_append
      | insert g =>
          rw [step, ClusterEvents.insert]
          split
          · split
            · exact List.length_set
            · rfl
          · rfl
      | unsubscribe id => exact List.length_map _
      | emit event order =>
          rw [step, ClusterEvents.emit]
          split <;> rfl
      | call k panics =>
          rw [step, ClusterEvents.call]
          split
          · split <;> rfl
          · rfl

/-- How often a callback is called for an emission that is over. -/
theorem Tracked.count_calls {s : ClusterEvents E} (hs : s.Tracked)
    (hbound : s.subscriptions.length ≤ 2 ^ 64) {k : ℕ} {e : Emission E}
    (he : s.emissions[k]? = some e) (hover : e.rest = []) (g : ℕ) :
    s.calls.count (g, k) = if g ∈ e.due then 1 else 0 := by
  have hcalls := hs.calls k e he
  rw [hover, List.append_nil] at hcalls
  have hmem := List.mem_of_getElem? he
  have hcount : s.calls.count (g, k) = e.snapshot.count g := by
    rw [← hcalls]
    clear hcalls
    induction s.calls with
    | nil => rfl
    | cons c cs ih =>
        obtain ⟨g', k'⟩ := c
        rw [List.count_cons, ih, List.filter_cons]
        by_cases hk : k' = k
        · simp [hk, List.count_cons]
        · simp [hk]
  rw [hcount, (hs.snapshots hbound e hmem).count_eq]
  split
  · next hdue => exact List.count_eq_one_of_mem (hs.dues e hmem) hdue
  · next hdue => exact List.count_eq_zero_of_not_mem hdue

/-- The promises of the event subsystem. -/
structure Exact (s : ClusterEvents E) : Prop where
  /-- The subscribers are the active subscriptions. -/
  count : s.subscriberCount = s.active.length
  /-- An emission that is over has called every subscription that was active
  when it started once, and no other. -/
  once : ∀ (k : ℕ) (e : Emission E), s.emissions[k]? = some e → e.rest = [] →
    ∀ g, s.calls.count (g, k) = if g ∈ e.due then 1 else 0
  /-- One that is under way has called a part of them, and has the rest to
  call. -/
  progress : ∀ (k : ℕ) (e : Emission E), s.emissions[k]? = some e →
    ((s.calls.filter (·.2 = k)).map Prod.fst ++ e.rest).Perm e.due
  /-- Calls are in the order of the emissions, unless these overlap. -/
  order : s.calls.Pairwise fun x y =>
    x.2 ≤ y.2 ∨ ∃ e, s.emissions[x.2]? = some e ∧ y.2 ∈ e.overlaps

/-- **Cluster events are delivered exactly once.**  In every interleaving of
`subscribe`, `unsubscribe` and `emit`, with callbacks that may panic and with at
most `2 ^ 64` subscriptions: every emission calls each subscription that is
active when it starts once, and no other; two emissions of which one is over
before the other starts are seen in this order. -/
theorem cluster_events_exactly_once (events : List (Event E))
    (hids : (events.filter (· matches .reserve)).length ≤ 2 ^ 64) :
    (run step (new : ClusterEvents E) events).Exact := by
  obtain ⟨hm, ht⟩ := sound_run events
  rw [← length_subscriptions] at hids
  refine ⟨?_, ?_, ?_, ht.order⟩
  · rw [subscriberCount, ← (hm.perm_active hids).length_eq, List.length_map]
  · intro k e he hover
    exact ht.count_calls hids he hover
  · intro k e he
    rw [ht.calls k e he]
    exact ht.snapshots hids e (List.mem_of_getElem? he)

/-- A callback panics, and the other one has unsubscribed in the meantime: it is
called all the same, for this event and not for the next. -/
theorem cluster_events_exactly_once_two :
    let s := run step (new : ClusterEvents Bool) [.reserve, .reserve, .insert 1, .insert 0,
      .emit true [(1, 0), (2, 1)], .call 0 true, .unsubscribe 2, .emit false [(1, 0)],
      .call 0 false, .call 1 false]
    s.calls = [(0, 0), (1, 0), (0, 1)] ∧ s.Exact := by
  refine ⟨by decide, cluster_events_exactly_once _ (by decide)⟩

end ClusterEvents

end Dactor
