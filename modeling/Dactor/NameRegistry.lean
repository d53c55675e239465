/-
Dactor/NameRegistry.lean

The name registry (`registry.rs`) under the spawns and terminations of a
`TestRuntime`.

A spawn registers the new reference under its name, over whatever was there;
the end of an actor's task removes the entry of that name, whosever it is.  An
older namesake that ends removes the registration of a younger one
(`older_namesake_unregisters`), so the registry tracks the live actor exactly in
the runs in which no actor ends while a younger one is alive that is the latest of
its name (`registry_tracks_iff`).

A reference is the number of its spawn: the first actor is `0`.
-/
import Dactor.Runs
import Dactor.Basic

namespace Dactor

open Runs

/-! ### The registry -/

/-- A type-erased reference: `downcast_ref` compares the type. -/
structure RegisteredRef where
  typeId : TypeId
  ref : ℕ
deriving DecidableEq

structure ActorRegistry where
  entries : Finmap fun _ : String => RegisteredRef

namespace ActorRegistry

def new : ActorRegistry := ⟨∅⟩

def register (r : ActorRegistry) (name : String) (ref : RegisteredRef) : ActorRegistry :=
  ⟨r.entries.insert name ref⟩

/-- `None` when the name is not there or the type is another. -/
def lookup (r : ActorRegistry) (typeId : TypeId) (name : String) : Option ℕ :=
  (r.entries.lookup name).bind fun e => if e.typeId = typeId then some e.ref else none

def unregister (r : ActorRegistry) (name : String) : Bool × ActorRegistry :=
  ((r.entries.lookup name).isSome, ⟨r.entries.erase name⟩)

end ActorRegistry

/-! ### Spawns and terminations -/

/-- A spawned actor: the name and the type of its reference. -/
structure SpawnedActor where
  name : String
  typeId : TypeId
deriving DecidableEq

/-- The runtime as far as the registry is concerned: the actors in the order of their
spawns, and those whose task has ended. -/
structure NamedActors where
  registry : ActorRegistry
  spawned : List SpawnedActor
  ended : List ℕ

namespace NamedActors

def new : NamedActors := ⟨.new, [], []⟩

/-- The part of `spawn_internal` that registers the reference. -/
def spawn (s : NamedActors) (actor : SpawnedActor) : NamedActors where
  registry := s.registry.register actor.name ⟨actor.typeId, s.spawned.length⟩
  spawned := s.spawned ++ [actor]
  ended := s.ended

/-- The last statement of an actor's task.  A task ends once. -/
def terminate (s : NamedActors) (i : ℕ) : NamedActors :=
  match s.spawned[i]? with
  | none => s
  | some actor =>
    if i ∈ s.ended then s
    else { s with registry := (s.registry.unregister actor.name).2, ended := s.ended ++ [i] }

inductive Event
  | spawn (actor : SpawnedActor)
  | terminate (i : ℕ)
deriving DecidableEq

def step (s : NamedActors) : Event → NamedActors
  | .spawn actor => s.spawn actor
  | .terminate i => s.terminate i

/-! ### What the registry owes -/

/-- `i` is the most recently spawned actor called `name`. -/
def IsLatest (s : NamedActors) (name : String) (i : ℕ) : Prop :=
  (∃ actor, s.spawned[i]? = some actor ∧ actor.name = name) ∧
    ∀ j actor, s.spawned[j]? = some actor → actor.name = name → j ≤ i

/-- A lookup finds the most recently spawned actor of the name, unless it has ended. -/
def Tracks (s : NamedActors) : Prop :=
  ∀ i actor, s.spawned[i]? = some actor → s.IsLatest actor.name i → i ∉ s.ended →
    s.registry.lookup actor.typeId actor.name = some i

/-- A termination removes no registration but that of the actor that ends. -/
def RemovesOwn (s : NamedActors) : Event → Prop
  | .spawn _ => True
  | .terminate i => ∀ name e, s.registry.entries.lookup name = some e → e.ref ≠ i →
      (s.terminate i).registry.entries.lookup name = some e

/-- The actor that ends is the youngest of its name, or the youngest has ended before. -/
def YoungestFirst (s : NamedActors) : Event → Prop
  | .spawn _ => True
  | .terminate i => ∀ actor, s.spawned[i]? = some actor → i ∉ s.ended →
      ∀ j, s.IsLatest actor.name j → j = i ∨ j ∈ s.ended

/-! ### One step -/

theorem terminate_of_live {s : NamedActors} {i : ℕ} {actor : SpawnedActor}
    (hi : s.spawned[i]? = some actor) (hlive : i ∉ s.ended) :
    s.terminate i =
      { s with registry := ⟨s.registry.entries.erase actor.name⟩, ended := s.ended ++ [i] } := by
  simp only [terminate, hi, if_neg hlive]
  rfl

/-- Every other termination is none at all. -/
theorem terminate_cases (s : NamedActors) (i : ℕ) :
    (∃ actor, s.spawned[i]? = some actor ∧ i ∉ s.ended) ∨ s.terminate i = s := by
  cases hi : s.spawned[i]? with
  | none => exact Or.inr (by simp only [terminate, hi])
  | some actor =>
    by_cases hended : i ∈ s.ended
    · exact Or.inr (by simp only [terminate, hi, if_pos hended])
    · exact Or.inl ⟨actor, rfl, hended⟩

/-- A reference in the registry is that of a live actor, the latest of its name. -/
structure Current (s : NamedActors) : Prop where
  entry : ∀ name e, s.registry.entries.lookup name = some e →
    s.spawned[e.ref]? = some ⟨name, e.typeId⟩ ∧ s.IsLatest name e.ref ∧ e.ref ∉ s.ended
  ended : ∀ i ∈ s.ended, i < s.spawned.length

theorem Current.new : new.Current where
  entry name e h := by
    rw [show NamedActors.new.registry.entries = ∅ from rfl, Finmap.lookup_empty] at h
    cases h
  ended i h := by cases h

theorem getElem?_spawn {s : NamedActors} {actor a : SpawnedActor} {j : ℕ} :
    (s.spawn actor).spawned[j]? = some a ↔
      s.spawned[j]? = some a ∨ (j = s.spawned.length ∧ a = actor) := by
  show (s.spawned ++ [actor])[j]? = some a ↔ _
  rw [List.getElem?_append]
  split
  · rename_i hlt
    simp [Nat.ne_of_lt hlt]
  · rename_i hge
    rw [List.getElem?_eq_none (Nat.le_of_not_lt hge), List.getElem?_singleton]
    by_cases hj : j = s.spawned.length
    · simp [hj, eq_comm]
    · simp [hj, show j - s.spawned.length ≠ 0 by omega]

theorem le_length_of_spawn {s : NamedActors} {actor a : SpawnedActor} {j : ℕ}
    (h : (s.spawn actor).spawned[j]? = some a) : j ≤ s.spawned.length := by
  rcases getElem?_spawn.mp h with hold | ⟨rfl, -⟩
  · exact Nat.le_of_lt (List.getElem?_eq_some_iff.mp hold).1
  · exact le_refl _

/-- The latest of a name after a spawn: the new actor, or the one it was before. -/
theorem isLatest_spawn {s : NamedActors} {actor : SpawnedActor} {name : String} {i : ℕ} :
    (s.spawn actor).IsLatest name i ↔
      if actor.name = name then i = s.spawned.length else s.IsLatest name i := by
  have hlast : (s.spawn actor).spawned[s.spawned.length]? = some actor :=
    getElem?_spawn.mpr (Or.inr ⟨rfl, rfl⟩)
  split
  · rename_i hname
    constructor
    · rintro ⟨⟨a, ha, -⟩, hmax⟩
      exact le_antisymm (le_length_of_spawn ha) (hmax _ actor hlast hname)
    · rintro rfl
      exact ⟨⟨actor, hlast, hname⟩, fun j a hj _ => le_length_of_spawn hj⟩
  · rename_i hname
    constructor
    · rintro ⟨⟨a, ha, haname⟩, hmax⟩
      rcases getElem?_spawn.mp ha with hold | ⟨-, rfl⟩
      · exact ⟨⟨a, hold, haname⟩, fun j b hb => hmax j b (getElem?_spawn.mpr (Or.inl hb))⟩
      · exact absurd haname hname
    · rintro ⟨⟨a, ha, haname⟩, hmax⟩
      refine ⟨⟨a, getElem?_spawn.mpr (Or.inl ha), haname⟩, fun j b hb hbname => ?_⟩
      rcases getElem?_spawn.mp hb with hold | ⟨-, rfl⟩
      · exact hmax j b hold hbname
      · exact absurd hbname hname

theorem Current.spawn {s : NamedActors} (h : s.Current) (actor : SpawnedActor) :
    (s.spawn actor).Current where
  entry name e he := by
    by_cases hname : actor.name = name
    · subst hname
      rw [show (s.spawn actor).registry.entries.lookup actor.name = some _ from
        Finmap.lookup_insert _] at he
      cases he
      refine ⟨getElem?_spawn.mpr (Or.inr ⟨rfl, rfl⟩), ?_, ?_⟩
      · rw [isLatest_spawn, if_pos rfl]
      · exact fun hended => absurd (h.ended _ hended) (Nat.lt_irrefl _)
    · rw [show (s.spawn actor).registry.entries.lookup name = _ from
        Finmap.lookup_insert_of_ne _ (Ne.symm hname)] at he
      obtain ⟨hget, hlatest, hlive⟩ := h.entry name e he
      refine ⟨getElem?_spawn.mpr (Or.inl hget), ?_, hlive⟩
      rwa [isLatest_spawn, if_neg hname]
  ended i hi := by
    show i < (s.spawned ++ [actor]).length
    rw [List.length_append]
    exact Nat.lt_succ_of_lt (h.ended i hi)

theorem Current.terminate {s : NamedActors} (h : s.Current) (i : ℕ) : (s.terminate i).Current := by
  rcases terminate_cases s i with ⟨actor, hi, hlive⟩ | heq
  · rw [terminate_of_live hi hlive]
    refine ⟨fun name e he => ?_, fun j hj => ?_⟩
    · have hname : name ≠ actor.name := by
        rintro rfl
        rw [show Finmap.lookup actor.name (s.registry.entries.erase actor.name) = none from
          Finmap.lookup_erase _ _] at he
        cases he
      rw [show Finmap.lookup name (s.registry.entries.erase actor.name) = _ from
        Finmap.lookup_erase_ne hname] at he
      obtain ⟨hget, hlatest, hnot⟩ := h.entry name e he
      refine ⟨hget, hlatest, fun hmem => ?_⟩
      rcases List.mem_append.mp hmem with hmem | hmem
      · exact hnot hmem
      · -- the actor that ends has another name
        rw [List.mem_singleton.mp hmem, hi] at hget
        cases hget
        exact hname rfl
    · rcases List.mem_append.mp hj with hj | hj
      · exact h.ended j hj
      · rw [List.mem_singleton.mp hj]
        exact (List.getElem?_eq_some_iff.mp hi).1
  · rwa [heq]

theorem Current.step {s : NamedActors} (h : s.Current) (e : Event) : (s.step e).Current := by
  cases e with
  | spawn actor => exact h.spawn actor
  | terminate i => exact h.terminate i

/-- A tracked actor has the entry of its name. -/
theorem Tracks.entry {s : NamedActors} (h : s.Tracks) {i : ℕ} {name : String}
    (hlatest : s.IsLatest name i) (hlive : i ∉ s.ended) :
    ∃ e, s.registry.entries.lookup name = some e ∧ e.ref = i := by
  obtain ⟨actor, hi, rfl⟩ := hlatest.1
  have hlook := h i actor hi hlatest hlive
  obtain ⟨e, he, hsome⟩ := Option.bind_eq_some_iff.mp hlook
  refine ⟨e, he, ?_⟩
  split at hsome
  · exact Option.some.inj hsome
  · cases hsome

theorem Tracks.spawn {s : NamedActors} (h : s.Tracks) (actor : SpawnedActor) :
    (s.spawn actor).Tracks := by
  intro i a hi hlatest hlive
  by_cases hname : actor.name = a.name
  · rw [isLatest_spawn, if_pos hname] at hlatest
    have ha : a = actor := by
      rcases getElem?_spawn.mp hi with hold | ⟨-, ha⟩
      · exact absurd (List.getElem?_eq_some_iff.mp hold).1 (by omega)
      · exact ha
    subst ha
    rw [hlatest]
    show ((s.registry.entries.insert a.name _).lookup a.name).bind _ = _
    rw [Finmap.lookup_insert]
    exact if_pos rfl
  · have hold : s.spawned[i]? = some a := by
      rcases getElem?_spawn.mp hi with hold | ⟨-, rfl⟩
      · exact hold
      · exact absurd rfl hname
    rw [isLatest_spawn, if_neg hname] at hlatest
    show ((s.registry.entries.insert actor.name _).lookup a.name).bind _ = _
    rw [Finmap.lookup_insert_of_ne _ (Ne.symm hname)]
    exact h i a hold hlatest hlive

/-- The entries of other names survive a termination. -/
theorem lookup_terminate_of_ne {s : NamedActors} {i : ℕ} {actor : SpawnedActor} {name : String}
    (hi : s.spawned[i]? = some actor) (hlive : i ∉ s.ended) (hname : name ≠ actor.name) :
    (s.terminate i).registry.entries.lookup name = s.registry.entries.lookup name := by
  rw [terminate_of_live hi hlive]
  exact Finmap.lookup_erase_ne hname

theorem lookup_terminate_self {s : NamedActors} {i : ℕ} {actor : SpawnedActor}
    (hi : s.spawned[i]? = some actor) (hlive : i ∉ s.ended) :
    (s.terminate i).registry.entries.lookup actor.name = none := by
  rw [terminate_of_live hi hlive]
  exact Finmap.lookup_erase _ _

/-- A termination keeps the registry in step with the live actors exactly when it comes
after that of the youngest namesake. -/
theorem tracks_terminate_iff {s : NamedActors} (h : s.Tracks) (i : ℕ) :
    (s.terminate i).Tracks ↔ s.YoungestFirst (.terminate i) := by
  rcases terminate_cases s i with ⟨actor, hi, hlive⟩ | heq
  · have hspawned : (s.terminate i).spawned = s.spawned := by rw [terminate_of_live hi hlive]
    have hended : (s.terminate i).ended = s.ended ++ [i] := by rw [terminate_of_live hi hlive]
    have hlatest : ∀ name j, (s.terminate i).IsLatest name j ↔ s.IsLatest name j := by
      intro name j
      simp only [IsLatest, hspawned]
    constructor
    · -- the youngest namesake would live on without an entry
      intro htracks a ha _ j hj
      cases hi.symm.trans ha
      by_contra hne
      rw [not_or] at hne
      have hjlive : j ∉ (s.terminate i).ended := by
        rw [hended, List.mem_append, List.mem_singleton]
        exact not_or.mpr ⟨hne.2, hne.1⟩
      obtain ⟨e, he, -⟩ := htracks.entry ((hlatest _ j).mpr hj) hjlive
      rw [lookup_terminate_self hi hlive] at he
      cases he
    · -- an actor that is still tracked has another name, and keeps its entry
      intro hfirst j a hj hjlatest hjlive
      rw [hspawned] at hj
      rw [hlatest] at hjlatest
      rw [hended, List.mem_append, List.mem_singleton, not_or] at hjlive
      have hname : a.name ≠ actor.name := by
        intro hname
        rw [hname] at hjlatest
        rcases hfirst actor hi hlive j hjlatest with rfl | hmem
        · exact hjlive.2 rfl
        · exact hjlive.1 hmem
      show ((s.terminate i).registry.entries.lookup a.name).bind _ = _
      rw [lookup_terminate_of_ne hi hlive hname]
      exact h j a hj hjlatest hjlive.1
  · rw [heq]
    refine iff_of_true h ?_
    intro actor hi hlive
    rw [terminate_of_live hi hlive] at heq
    have hlen := congrArg (fun t => t.ended.length) heq
    simp at hlen

/-- A termination that comes after that of the youngest namesake removes its own entry
or none. -/
theorem Current.removesOwn {s : NamedActors} (h : s.Current) {e : Event}
    (hfirst : s.YoungestFirst e) : s.RemovesOwn e := by
  cases e with
  | spawn actor => trivial
  | terminate i =>
    intro name entry hentry hne
    rcases terminate_cases s i with ⟨actor, hi, hlive⟩ | heq
    · have hname : name ≠ actor.name := by
        rintro rfl
        obtain ⟨-, hlatest, hnot⟩ := h.entry _ entry hentry
        rcases hfirst actor hi hlive _ hlatest with hown | hended
        · exact hne hown
        · exact hnot hended
      rw [lookup_terminate_of_ne hi hlive hname]
      exact hentry
    · rw [heq]
      exact hentry

theorem tracks_step_iff {s : NamedActors} (h : s.Tracks) (e : Event) :
    (s.step e).Tracks ↔ s.YoungestFirst e := by
  cases e with
  | spawn actor => exact iff_of_true (h.spawn actor) trivial
  | terminate i => exact tracks_terminate_iff h i

/-! ### Runs -/

theorem removesOwn_of_youngestFirst {s : NamedActors} (h : s.Current) {events : List Event}
    (hfirst : Admissible step YoungestFirst s events) : Admissible step RemovesOwn s events := by
  induction events generalizing s with
  | nil => trivial
  | cons e events ih => exact ⟨h.removesOwn hfirst.1, ih (h.step e) hfirst.2⟩

/-- **The registry tracks the live actor exactly in the runs in which an actor ends only
after the youngest of its name, or as the youngest.**  The left side is the whole contract:
every termination removes its own registration only, and in every state a lookup finds the
most recently spawned actor of the name unless it has ended. -/
theorem registry_tracks_iff (events : List Event) :
    Admissible step RemovesOwn new events ∧ Always step Tracks new events ↔
      Admissible step YoungestFirst new events := by
  have hnew : new.Tracks := by
    intro i actor hi
    cases hi
  have hiff : Always step Tracks new events ↔ Admissible step YoungestFirst new events :=
    always_iff_admissible (fun s e h => tracks_step_iff h e) hnew
  constructor
  · rintro ⟨-, htracks⟩
    exact hiff.mp htracks
  · intro hfirst
    exact ⟨removesOwn_of_youngestFirst Current.new hfirst, hiff.mpr hfirst⟩

/-- Two actors called `a`; the older one ends. -/
theorem older_namesake_unregisters :
    ¬ (Admissible step RemovesOwn new
          [.spawn ⟨"a", "Counter"⟩, .spawn ⟨"a", "Counter"⟩, .terminate 0] ∧
        Always step Tracks new
          [.spawn ⟨"a", "Counter"⟩, .spawn ⟨"a", "Counter"⟩, .terminate 0]) := by
  rintro ⟨-, h⟩
  have htracks := h.last
  have hlatest : (run step new
      [.spawn ⟨"a", "Counter"⟩, .spawn ⟨"a", "Counter"⟩, .terminate 0]).IsLatest "a" 1 := by
    refine ⟨⟨⟨"a", "Counter"⟩, rfl, rfl⟩, fun j actor hj _ => ?_⟩
    have hlt : j < 2 := (List.getElem?_eq_some_iff.mp hj).1
    omega
  have hlookup := htracks 1 ⟨"a", "Counter"⟩ rfl hlatest (by decide)
  exact absurd hlookup (by decide)

end NamedActors

end Dactor
