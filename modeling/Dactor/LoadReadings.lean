/-
Dactor/LoadReadings.lean

The least loaded selection while the loads change.

Both selections scan the workers twice: once for the smallest load and once
for the workers that have it.  Messages arrive and are handled in between, so
the two readings of a worker have nothing to do with each other.  When no
worker is at the old minimum in the second scan there is no candidate, and
the round-robin among them takes a remainder by zero.

The selection of `Dactor/Pools.lean` is the case of stable loads
(`selectWorkerIndexRead_stable`).

Main result: `leastLoaded_selects_iff`.
-/
import Dactor.Pools

namespace Dactor

/-- The loads seen by the two scans, by position. -/
structure LoadReadings where
  first : ℕ → ℕ
  second : ℕ → ℕ

inductive SelectionPanic
  | remainderByZero
  | indexOutOfBounds
  deriving DecidableEq, Repr

/-! ### The selections -/

/-- `a % b`. -/
def remainder (a b : ℕ) : Except SelectionPanic ℕ :=
  if b = 0 then .error .remainderByZero else .ok (a % b)

/-- `xs[i]`. -/
def elementAt (xs : List ℕ) (i : ℕ) : Except SelectionPanic ℕ :=
  match xs[i]? with
  | some x => .ok x
  | none => .error .indexOutOfBounds

namespace LoadReadings

/-- The first scan of `n` workers. -/
def minLoad (loads : LoadReadings) (n : ℕ) : ℕ := ((List.range n).map loads.first).min?.getD 0

/-- The second scan. -/
def candidates (loads : LoadReadings) (n : ℕ) : List ℕ :=
  (List.range n).filter fun i => loads.second i = loads.minLoad n

/-- Every scan sees the loads of the same instant. -/
def stable {R : Type} (pending : R → ℕ) (refs : List R) : LoadReadings :=
  let load := fun i => (refs[i]?.map pending).getD 0
  ⟨load, load⟩

end LoadReadings

variable {R : Type}

/-- `least_loaded_index` with the loads it reads. -/
def PoolRef.leastLoadedIndexRead (p : PoolRef R) (loads : LoadReadings) :
    Except SelectionPanic ℕ × PoolRef R :=
  let candidates := loads.candidates p.workers.refs.length
  -- with no candidate left this is not the first branch
  if candidates.length = 1 then (elementAt candidates 0, p)
  else (remainder p.counter.toNat candidates.length >>= elementAt candidates, p.advance)

/-- `select_worker_index` with the loads it reads. -/
def selectWorkerIndexRead (workers : Workers R) (routing : PoolRouting) (counter : UInt64)
    (loads : LoadReadings) : Except SelectionPanic ℕ × UInt64 :=
  let len := UInt64.ofNat workers.refs.length
  match routing with
  | .roundRobin | .keyBased => (.ok (counter % len).toNat, counter + 1)
  | .random => (.ok (splitmix64 counter % len).toNat, counter + 1)
  | .leastLoaded =>
    let candidates := loads.candidates workers.refs.length
    if candidates.length = 1 then (elementAt candidates 0, counter)
    else (remainder counter.toNat candidates.length >>= elementAt candidates, counter + 1)

/-! ### The two scans -/

namespace LoadReadings

variable {loads : LoadReadings} {n : ℕ}

theorem mem_candidates {i : ℕ} :
    i ∈ loads.candidates n ↔ i < n ∧ loads.second i = loads.minLoad n := by
  rw [candidates, List.mem_filter, List.mem_range, decide_eq_true_eq]

theorem candidates_ne_nil_iff :
    loads.candidates n ≠ [] ↔ ∃ i < n, loads.second i = loads.minLoad n := by
  rw [Ne, List.eq_nil_iff_forall_not_mem, not_forall_not]
  exact exists_congr fun i => mem_candidates

end LoadReadings

theorem elementAt_toOption (xs : List ℕ) (i : ℕ) : (elementAt xs i).toOption = xs[i]? := by
  rw [elementAt]
  split
  · next h => exact h.symm
  · next h => exact h.symm

/-- The choice among the candidates. -/
theorem remainder_elementAt {xs : List ℕ} (h : xs ≠ []) (a : ℕ) :
    ∃ i ∈ xs, (remainder a xs.length >>= elementAt xs) = .ok i := by
  have hlen : xs.length ≠ 0 := fun h0 => h (List.length_eq_zero_iff.mp h0)
  have hlt : a % xs.length < xs.length := Nat.mod_lt _ (Nat.pos_of_ne_zero hlen)
  refine ⟨xs[a % xs.length], List.getElem_mem hlt, ?_⟩
  rw [remainder, if_neg hlen]
  show elementAt xs (a % xs.length) = _
  rw [elementAt, List.getElem?_eq_getElem hlt]

theorem elementAt_zero {xs : List ℕ} (h : xs ≠ []) : ∃ i ∈ xs, elementAt xs 0 = .ok i := by
  cases xs with
  | nil => exact absurd rfl h
  | cons i xs => exact ⟨i, List.mem_cons_self, rfl⟩

/-- The outcome of the two selections. -/
theorem selectWorkerIndexRead_cases (workers : Workers R) (counter : UInt64)
    (loads : LoadReadings) :
    (loads.candidates workers.refs.length = [] ∧
      (selectWorkerIndexRead workers .leastLoaded counter loads).1 = .error .remainderByZero) ∨
    ∃ i ∈ loads.candidates workers.refs.length,
      (selectWorkerIndexRead workers .leastLoaded counter loads).1 = .ok i := by
  simp only [selectWorkerIndexRead]
  by_cases hnil : loads.candidates workers.refs.length = []
  · left
    rw [hnil]
    exact ⟨rfl, rfl⟩
  · right
    split
    · exact elementAt_zero hnil
    · exact remainder_elementAt hnil counter.toNat

/-- A selection is the index of a worker, or a panic of the least loaded strategy, whose
second scan has found no worker at the minimum. -/
theorem selectWorkerIndexRead_spec (workers : Workers R) (routing : PoolRouting)
    (counter : UInt64) (loads : LoadReadings) :
    (∃ i < workers.refs.length,
        (selectWorkerIndexRead workers routing counter loads).1 = .ok i) ∨
      routing = .leastLoaded ∧ loads.candidates workers.refs.length = [] ∧
        (selectWorkerIndexRead workers routing counter loads).1 = .error .remainderByZero := by
  cases routing with
  | roundRobin => exact .inl ⟨_, toNat_mod_length_lt workers counter, rfl⟩
  | keyBased => exact .inl ⟨_, toNat_mod_length_lt workers counter, rfl⟩
  | random => exact .inl ⟨_, toNat_mod_length_lt workers (splitmix64 counter), rfl⟩
  | leastLoaded =>
      rcases selectWorkerIndexRead_cases workers counter loads with hpanic | ⟨i, hi, hok⟩
      · exact .inr ⟨rfl, hpanic⟩
      · exact .inl ⟨i, (LoadReadings.mem_candidates.mp hi).1, hok⟩

/-- The pool and the router select alike. -/
theorem PoolRef.leastLoadedIndexRead_eq (p : PoolRef R) (loads : LoadReadings) :
    (p.leastLoadedIndexRead loads).1
      = (selectWorkerIndexRead p.workers .leastLoaded p.counter loads).1 := by
  simp only [leastLoadedIndexRead, selectWorkerIndexRead]
  split <;> rfl

/-! ### Stable loads -/

section Stable

variable (pending : R → ℕ) (refs : List R)

theorem stable_reading {w : R × ℕ} (hw : w ∈ refs.zipIdx) :
    ((refs[w.2]?).map pending).getD 0 = pending w.1 := by
  rw [List.mem_zipIdx_iff_getElem?.mp hw]
  rfl

theorem range_eq_map_zipIdx : List.range refs.length = refs.zipIdx.map Prod.snd := by
  rw [List.zipIdx_map_snd, List.range_eq_range']

theorem stable_minLoad :
    (LoadReadings.stable pending refs).minLoad refs.length = minLoad pending refs := by
  have hmap : (List.range refs.length).map (LoadReadings.stable pending refs).first
      = refs.map pending := by
    rw [range_eq_map_zipIdx, List.map_map]
    calc refs.zipIdx.map ((LoadReadings.stable pending refs).first ∘ Prod.snd)
        = refs.zipIdx.map (pending ∘ Prod.fst) :=
          List.map_congr_left fun w hw => stable_reading pending refs hw
      _ = refs.map pending := by rw [← List.map_map, List.zipIdx_map_fst]
  rw [LoadReadings.minLoad, hmap, minLoad]

theorem stable_candidates :
    (LoadReadings.stable pending refs).candidates refs.length = candidates pending refs := by
  rw [LoadReadings.candidates, stable_minLoad, range_eq_map_zipIdx, List.filter_map, candidates]
  congr 1
  apply List.filter_congr
  intro w hw
  show decide (((refs[w.2]?).map pending).getD 0 = _) = _
  rw [stable_reading pending refs hw]

end Stable

/-- With stable loads the selection is the one of `Dactor/Pools.lean`. -/
theorem selectWorkerIndexRead_stable (workers : Workers R) (routing : PoolRouting)
    (counter : UInt64) (pending : R → ℕ) :
    let read := selectWorkerIndexRead workers routing counter (.stable pending workers.refs)
    (read.1.toOption, read.2) = selectWorkerIndex workers routing counter pending := by
  intro read
  cases routing with
  | roundRobin => rfl
  | random => rfl
  | keyBased => rfl
  | leastLoaded =>
      have hlen : (candidates pending workers.refs).length ≠ 0 :=
        fun h0 => candidates_ne_nil workers.nonempty (List.length_eq_zero_iff.mp h0)
      simp only [read, selectWorkerIndexRead, selectWorkerIndex, stable_candidates]
      split
      · rw [elementAt_toOption]
      · rw [remainder, if_neg hlen]
        exact congrArg (·, counter + 1) (elementAt_toOption _ _)

/-- **The least loaded selection panics when no worker is at the old
minimum.**  With arbitrary readings in the two scans, both selections return
the index of a worker exactly if the second reading of some worker is the
smallest of the first readings; otherwise they take a remainder by zero. -/
theorem leastLoaded_selects_iff (p : PoolRef R) (loads : LoadReadings) :
    let n := p.workers.refs.length
    let selected := (p.leastLoadedIndexRead loads).1
    let routed := (selectWorkerIndexRead p.workers .leastLoaded p.counter loads).1
    ((∃ i < n, selected = .ok i) ↔ ∃ i < n, loads.second i = loads.minLoad n) ∧
    ((∃ i < n, routed = .ok i) ↔ ∃ i < n, loads.second i = loads.minLoad n) ∧
    ((∃ i < n, loads.second i = loads.minLoad n) ∨
      selected = .error .remainderByZero ∧ routed = .error .remainderByZero) := by
  intro n selected routed
  have halike : selected = routed := p.leastLoadedIndexRead_eq loads
  rw [halike]
  rcases selectWorkerIndexRead_cases p.workers p.counter loads with ⟨hnil, herror⟩ | ⟨i, hi, hok⟩
  · have hnone : ¬ ∃ i < n, loads.second i = loads.minLoad n :=
      fun h => LoadReadings.candidates_ne_nil_iff.mpr h hnil
    have hpanic : ¬ ∃ i < n, routed = .ok i := by
      rintro ⟨i, -, hok⟩
      cases herror.symm.trans hok
    exact ⟨iff_of_false hpanic hnone, iff_of_false hpanic hnone, .inr ⟨herror, herror⟩⟩
  · obtain ⟨hlt, hmin⟩ := LoadReadings.mem_candidates.mp hi
    have hsome : ∃ i < n, loads.second i = loads.minLoad n := ⟨i, hlt, hmin⟩
    exact ⟨iff_of_true ⟨i, hlt, hok⟩ hsome, iff_of_true ⟨i, hlt, hok⟩ hsome, .inl hsome⟩

/-- One worker with a message that it handles between the scans: there is no
index to return. -/
theorem leastLoaded_panics_between_scans :
    let workers : Workers Unit := ⟨[()], by decide, by decide⟩
    let loads : LoadReadings := ⟨fun _ => 1, fun _ => 0⟩
    let selected := (PoolRef.leastLoadedIndexRead ⟨workers, .leastLoaded, 0⟩ loads).1
    let routed := (selectWorkerIndexRead workers .leastLoaded 0 loads).1
    selected = .error .remainderByZero ∧ routed = .error .remainderByZero ∧
      (¬ ∃ i < 1, selected = .ok i) ∧ ¬ ∃ i < 1, routed = .ok i := by
  intro workers loads selected routed
  have hselected : selected = .error .remainderByZero := rfl
  have hrouted : routed = .error .remainderByZero := rfl
  refine ⟨hselected, hrouted, ?_, ?_⟩
  · rintro ⟨i, -, hok⟩
    cases hselected.symm.trans hok
  · rintro ⟨i, -, hok⟩
    cases hrouted.symm.trans hok

end Dactor
