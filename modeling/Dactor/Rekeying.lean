/-
Dactor/Rekeying.lean

Finite maps rebuilt under other keys.  The entries of a map are visited in any
order, each is converted, or not, to an entry with a key of another kind, and
what comes out is inserted one after another into a fresh map:

* `Iteration` — an order in which a map is visited;
* `rebuild` — the loop;
* `lookup_rebuild` — if no two visited entries disagree about a key, the new
  map holds exactly what was converted.  The order does not occur in it.

The module names nothing of the program that is verified with it.
-/
import Mathlib.Data.Finmap
import Mathlib.Data.List.Induction

namespace Rekeying

variable {ι α : Type*} {β : α → Type*} [DecidableEq α]

/-! ### Iterations -/

/-- An order in which the entries of a map are visited. -/
structure Iteration (m : Finmap β) where
  order : List (Sigma β)
  covers : (order : Multiset (Sigma β)) = m.entries

theorem Iteration.mem_order {m : Finmap β} (it : Iteration m) {k : α} {v : β k} :
    ⟨k, v⟩ ∈ it.order ↔ m.lookup k = some v := by
  rw [← Multiset.mem_coe, it.covers, ← Finmap.lookup_eq_some_iff]

/-! ### Rebuilding -/

/-- What the visited entries are converted to, in a new map. -/
def rebuild (convert : ι → Option (Sigma β)) (visited : List ι) : Finmap β :=
  visited.foldl (fun m a =>
    match convert a with
    | some e => m.insert e.1 e.2
    | none => m) ∅

/-- No two entries are converted to different values under one key. -/
def Agree (convert : ι → Option (Sigma β)) (visited : List ι) : Prop :=
  ∀ a ∈ visited, ∀ b ∈ visited, ∀ k v w,
    convert a = some ⟨k, v⟩ → convert b = some ⟨k, w⟩ → v = w

theorem rebuild_append_singleton (convert : ι → Option (Sigma β)) (visited : List ι) (a : ι) :
    rebuild convert (visited ++ [a]) =
      match convert a with
      | some e => (rebuild convert visited).insert e.1 e.2
      | none => rebuild convert visited :=
  List.foldl_append

/-- **The new map holds exactly what was converted.** -/
theorem lookup_rebuild {convert : ι → Option (Sigma β)} {visited : List ι}
    (hagree : Agree convert visited) {k : α} {v : β k} :
    (rebuild convert visited).lookup k = some v ↔ ∃ a ∈ visited, convert a = some ⟨k, v⟩ := by
  induction visited using List.reverseRecOn with
  | nil =>
      refine iff_of_false (fun h => ?_) ?_
      · cases h
      · rintro ⟨a, ha, -⟩
        cases ha
  | append_singleton visited a ih =>
      have hold : ∀ {b}, b ∈ visited → b ∈ visited ++ [a] := List.mem_append_left [a]
      have hlast : a ∈ visited ++ [a] := List.mem_append_right visited (List.mem_singleton.mpr rfl)
      have ih := ih fun b hb c hc => hagree b (hold hb) c (hold hc)
      -- an entry that is not converted to this one does not count
      have hskip : convert a ≠ some ⟨k, v⟩ → ((∃ b ∈ visited ++ [a], convert b = some ⟨k, v⟩) ↔
          ∃ b ∈ visited, convert b = some ⟨k, v⟩) := by
        intro hne
        constructor
        · rintro ⟨b, hb, hv⟩
          rcases List.mem_append.mp hb with hb | hb
          · exact ⟨b, hb, hv⟩
          · rw [List.mem_singleton.mp hb] at hv
            exact absurd hv hne
        · rintro ⟨b, hb, hv⟩
          exact ⟨b, hold hb, hv⟩
      rw [rebuild_append_singleton]
      cases hconvert : convert a with
      | none =>
          dsimp only
          rw [ih, hskip]
          rw [hconvert]
          exact Option.some_ne_none _ |>.symm
      | some e =>
          obtain ⟨key, w⟩ := e
          dsimp only
          by_cases hk : k = key
          · -- the last entry agrees with any earlier one under its key
            subst hk
            rw [Finmap.lookup_insert]
            constructor
            · rintro ⟨⟩
              exact ⟨a, hlast, hconvert⟩
            · rintro ⟨b, hb, hv⟩
              rw [hagree b hb a hlast k v w hv hconvert]
          · rw [Finmap.lookup_insert_of_ne _ hk, ih, hskip]
            rw [hconvert]
            rintro ⟨⟩
            exact hk rfl

end Rekeying
