/-
Dactor/Pools.lean

Worker pools: how `PoolRef` (`pool.rs`) and the router task of a
`VirtualPoolRef` (`virtual_pool.rs`) select a worker.

The two keep the same four strategies over a `u64` counter, the first in an
atomic shared by the callers, the second in a local variable of the router.
A selection reads each worker's load twice; the loads are taken as stable
during one selection and arbitrary from one selection to the next.  `usize` is
64 bits wide.

Main result: `pools_route_alike`.
-/
import Mathlib.Order.Interval.Finset.Nat
import Mathlib.Data.List.Count

namespace Dactor

inductive PoolRouting
  | roundRobin
  | random
  | keyBased
  | leastLoaded
deriving DecidableEq, Repr

/-- The worker references of a pool: at least one (the constructors panic otherwise),
and not more than a `u64` counts. -/
structure Workers (R : Type) where
  refs : List R
  nonempty : refs ≠ []
  fits : refs.length < 2 ^ 64

variable {R : Type}

/-- The splitmix64 finaliser; the two files have a copy each. -/
def splitmix64 (x : UInt64) : UInt64 :=
  let x := x + 0x9e3779b97f4a7c15
  let x := (x ^^^ (x >>> 30)) * 0xbf58476d1ce4e5b9
  let x := (x ^^^ (x >>> 27)) * 0x94d049bb133111eb
  x ^^^ (x >>> 31)

/-- The smallest number of pending messages. -/
def minLoad (pending : R → ℕ) (refs : List R) : ℕ := (refs.map pending).min?.getD 0

/-- The indices of the workers tied at the minimum. -/
def candidates (pending : R → ℕ) (refs : List R) : List ℕ :=
  (refs.zipIdx.filter fun w => pending w.1 = minLoad pending refs).map Prod.snd

/-! ### `PoolRef` -/

structure PoolRef (R : Type) where
  workers : Workers R
  routing : PoolRouting
  counter : UInt64

namespace PoolRef

/-- `counter.fetch_add(1)`: the atomic wraps around. -/
def advance (p : PoolRef R) : PoolRef R := { p with counter := p.counter + 1 }

def roundRobinIndex (p : PoolRef R) : ℕ × PoolRef R :=
  ((p.counter % UInt64.ofNat p.workers.refs.length).toNat, p.advance)

def randomIndex (p : PoolRef R) : ℕ × PoolRef R :=
  ((splitmix64 p.counter % UInt64.ofNat p.workers.refs.length).toNat, p.advance)

/-- The counter moves only when there is a tie to break.  `none` stands for the panic of
an index out of range. -/
def leastLoadedIndex (p : PoolRef R) (pending : R → ℕ) : Option ℕ × PoolRef R :=
  let tied := candidates pending p.workers.refs
  if tied.length = 1 then (tied[0]?, p)
  else (tied[p.counter.toNat % tied.length]?, p.advance)

/-- The index that `select_worker` computes. -/
def selectWorker (p : PoolRef R) (pending : R → ℕ) : Option ℕ × PoolRef R :=
  match p.routing with
  | .roundRobin | .keyBased => (some p.roundRobinIndex.1, p.roundRobinIndex.2)
  | .random => (some p.randomIndex.1, p.randomIndex.2)
  | .leastLoaded => p.leastLoadedIndex pending

/-- The indices of successive selections, one for each load vector. -/
def selections : PoolRef R → List (R → ℕ) → List (Option ℕ)
  | _, [] => []
  | p, pending :: loads =>
    (p.selectWorker pending).1 :: (p.selectWorker pending).2.selections loads

end PoolRef

/-! ### The router task -/

/-- `select_worker_index`, with the counter it is lent. -/
def selectWorkerIndex (workers : Workers R) (routing : PoolRouting) (counter : UInt64)
    (pending : R → ℕ) : Option ℕ × UInt64 :=
  let len := UInt64.ofNat workers.refs.length
  match routing with
  | .roundRobin | .keyBased => (some (counter % len).toNat, counter + 1)
  | .random => (some (splitmix64 counter % len).toNat, counter + 1)
  | .leastLoaded =>
    let tied := candidates pending workers.refs
    if tied.length = 1 then (tied[0]?, counter)
    else (tied[counter.toNat % tied.length]?, counter + 1)

/-- The indices of the operations that the router executes, one for each load vector. -/
def routerSelections (workers : Workers R) (routing : PoolRouting) :
    UInt64 → List (R → ℕ) → List (Option ℕ)
  | _, [] => []
  | counter, pending :: loads =>
    (selectWorkerIndex workers routing counter pending).1 ::
      routerSelections workers routing (selectWorkerIndex workers routing counter pending).2 loads

/-! ### The least loaded workers -/

theorem minLoad_le {pending : R → ℕ} {refs : List R} {w : R} (hw : w ∈ refs) :
    minLoad pending refs ≤ pending w := by
  have hmem : pending w ∈ refs.map pending := List.mem_map_of_mem hw
  cases hmin : (refs.map pending).min? with
  | none =>
    rw [List.min?_eq_none_iff] at hmin
    rw [hmin] at hmem
    cases hmem
  | some m =>
    have hle := (List.min?_eq_some_iff.mp hmin).2 _ hmem
    simpa [minLoad, hmin] using hle

theorem minLoad_attained (pending : R → ℕ) {refs : List R} (h : refs ≠ []) :
    ∃ w ∈ refs, pending w = minLoad pending refs := by
  cases hmin : (refs.map pending).min? with
  | none =>
    rw [List.min?_eq_none_iff, List.map_eq_nil_iff] at hmin
    exact absurd hmin h
  | some m =>
    obtain ⟨w, hw, rfl⟩ := List.mem_map.mp (List.min?_eq_some_iff.mp hmin).1
    exact ⟨w, hw, by simp [minLoad, hmin]⟩

/-- A candidate is the index of a worker whose load is minimal. -/
theorem mem_candidates {pending : R → ℕ} {refs : List R} {i : ℕ} :
    i ∈ candidates pending refs ↔
      ∃ w, refs[i]? = some w ∧ pending w = minLoad pending refs := by
  simp only [candidates, List.mem_map, List.mem_filter, decide_eq_true_eq, Prod.exists,
    exists_eq_right, List.mem_zipIdx_iff_getElem?]

theorem candidates_ne_nil {pending : R → ℕ} {refs : List R} (h : refs ≠ []) :
    candidates pending refs ≠ [] := by
  obtain ⟨w, hw, hload⟩ := minLoad_attained pending h
  obtain ⟨i, hi⟩ := List.mem_iff_getElem?.mp hw
  exact List.ne_nil_of_mem (mem_candidates.mpr ⟨w, hi, hload⟩)

/-- With equal loads every worker is a candidate. -/
theorem candidates_of_equal {pending : R → ℕ} {refs : List R}
    (h : ∀ w ∈ refs, ∀ w' ∈ refs, pending w = pending w') :
    candidates pending refs = List.range refs.length := by
  have hall : ∀ w ∈ refs.zipIdx, decide (pending w.1 = minLoad pending refs) = true := by
    rintro ⟨w, i⟩ hw
    have hmem : w ∈ refs := by
      rw [List.mem_zipIdx_iff_getElem?] at hw
      exact List.mem_of_getElem? hw
    obtain ⟨w', hw', hmin⟩ := minLoad_attained pending (List.ne_nil_of_mem hmem)
    exact decide_eq_true ((h w hmem w' hw').trans hmin)
  rw [candidates, List.filter_eq_self.mpr hall]
  rw [List.zipIdx_map_snd, List.range_eq_range']

/-! ### One selection -/

theorem toNat_mod_length (workers : Workers R) (c : UInt64) :
    (c % UInt64.ofNat workers.refs.length).toNat = c.toNat % workers.refs.length := by
  rw [UInt64.toNat_mod, UInt64.toNat_ofNat_of_lt' workers.fits]

theorem Workers.length_pos (workers : Workers R) : 0 < workers.refs.length :=
  List.length_pos_iff.mpr workers.nonempty

theorem toNat_mod_length_lt (workers : Workers R) (c : UInt64) :
    (c % UInt64.ofNat workers.refs.length).toNat < workers.refs.length := by
  rw [toNat_mod_length]
  exact Nat.mod_lt _ workers.length_pos

/-- The two selections are the same function of the counter. -/
theorem PoolRef.selectWorker_eq (p : PoolRef R) (pending : R → ℕ) :
    p.selectWorker pending =
      ((selectWorkerIndex p.workers p.routing p.counter pending).1,
        { p with counter := (selectWorkerIndex p.workers p.routing p.counter pending).2 }) := by
  obtain ⟨workers, routing, counter⟩ := p
  cases routing with
  | roundRobin => rfl
  | keyBased => rfl
  | random => rfl
  | leastLoaded =>
    show leastLoadedIndex _ pending = _
    simp only [leastLoadedIndex, selectWorkerIndex]
    split <;> rfl

/-- The least loaded strategy chooses a candidate. -/
theorem selectWorkerIndex_leastLoaded (workers : Workers R) (counter : UInt64)
    (pending : R → ℕ) :
    ∃ i ∈ candidates pending workers.refs,
      (selectWorkerIndex workers .leastLoaded counter pending).1 = some i := by
  have hpos : 0 < (candidates pending workers.refs).length :=
    List.length_pos_iff.mpr (candidates_ne_nil workers.nonempty)
  simp only [selectWorkerIndex]
  split
  · exact ⟨_, List.getElem_mem hpos, List.getElem?_eq_getElem hpos⟩
  · have hlt := Nat.mod_lt counter.toNat hpos
    exact ⟨_, List.getElem_mem hlt, List.getElem?_eq_getElem hlt⟩

/-- Every selection is the index of a worker. -/
theorem selectWorkerIndex_lt (workers : Workers R) (routing : PoolRouting) (counter : UInt64)
    (pending : R → ℕ) :
    ∃ i < workers.refs.length,
      (selectWorkerIndex workers routing counter pending).1 = some i := by
  cases routing with
  | roundRobin => exact ⟨_, toNat_mod_length_lt workers counter, rfl⟩
  | keyBased => exact ⟨_, toNat_mod_length_lt workers counter, rfl⟩
  | random => exact ⟨_, toNat_mod_length_lt workers (splitmix64 counter), rfl⟩
  | leastLoaded =>
    obtain ⟨i, hi, hsel⟩ := selectWorkerIndex_leastLoaded workers counter pending
    obtain ⟨w, hw, -⟩ := mem_candidates.mp hi
    exact ⟨i, (List.getElem?_eq_some_iff.mp hw).1, hsel⟩

/-- With equal loads the tie is broken as round robin would choose.  A single worker is no
tie, and then the counter stays where it is. -/
theorem selectWorkerIndex_of_equal (workers : Workers R) (counter : UInt64) {pending : R → ℕ}
    (h : ∀ w ∈ workers.refs, ∀ w' ∈ workers.refs, pending w = pending w') :
    selectWorkerIndex workers .leastLoaded counter pending =
      if workers.refs.length = 1 then (some 0, counter)
      else (some (counter.toNat % workers.refs.length), counter + 1) := by
  simp only [selectWorkerIndex, candidates_of_equal h, List.length_range]
  have hlt := Nat.mod_lt counter.toNat workers.length_pos
  split
  · rw [List.getElem?_range workers.length_pos]
  · rw [List.getElem?_range hlt]

/-! ### Sequences of selections -/

theorem PoolRef.selections_eq (p : PoolRef R) (loads : List (R → ℕ)) :
    p.selections loads = routerSelections p.workers p.routing p.counter loads := by
  induction loads generalizing p with
  | nil => rfl
  | cons pending loads ih =>
    rw [selections, selectWorker_eq, ih]
    rfl

theorem routerSelections_lt (workers : Workers R) (routing : PoolRouting) (counter : UInt64)
    (loads : List (R → ℕ)) :
    ∀ s ∈ routerSelections workers routing counter loads,
      ∃ i < workers.refs.length, s = some i := by
  induction loads generalizing counter with
  | nil =>
    intro s hs
    cases hs
  | cons pending loads ih =>
    intro s hs
    rcases List.mem_cons.mp hs with rfl | hs
    · exact selectWorkerIndex_lt workers routing counter pending
    · exact ih _ s hs

/-- Round robin in closed form. -/
theorem routerSelections_roundRobin (workers : Workers R) (counter : UInt64)
    (loads : List (R → ℕ)) :
    routerSelections workers .roundRobin counter loads =
      (List.range loads.length).map fun j =>
        some ((counter.toNat + j) % 2 ^ 64 % workers.refs.length) := by
  induction loads generalizing counter with
  | nil => rfl
  | cons pending loads ih =>
    have hhead : (counter % UInt64.ofNat workers.refs.length).toNat =
        (counter.toNat + 0) % 2 ^ 64 % workers.refs.length := by
      rw [toNat_mod_length, Nat.add_zero, Nat.mod_eq_of_lt counter.toNat_lt]
    have htail : ∀ j, ((counter + 1).toNat + j) % 2 ^ 64 = (counter.toNat + (j + 1)) % 2 ^ 64 := by
      intro j
      have hadd : (counter + 1).toNat = (counter.toNat + 1) % 2 ^ 64 := UInt64.toNat_add counter 1
      omega
    show some _ :: routerSelections workers .roundRobin (counter + 1) loads = _
    rw [ih, List.length_cons, List.range_succ_eq_map, List.map_cons, List.map_map, hhead]
    simp only [htail]
    rfl

/-- The least loaded strategy under equal loads, in closed form. -/
theorem routerSelections_of_equal (workers : Workers R) (counter : UInt64)
    {loads : List (R → ℕ)}
    (h : ∀ pending ∈ loads, ∀ w ∈ workers.refs, ∀ w' ∈ workers.refs, pending w = pending w') :
    routerSelections workers .leastLoaded counter loads =
      routerSelections workers .roundRobin counter loads := by
  induction loads generalizing counter with
  | nil => rfl
  | cons pending loads ih =>
    have hstep := selectWorkerIndex_of_equal workers counter (h pending List.mem_cons_self)
    have hloads := fun c => ih c fun load hload => h load (List.mem_cons_of_mem pending hload)
    rw [routerSelections, routerSelections, hstep]
    by_cases hone : workers.refs.length = 1
    · -- round robin over one worker does not depend on the counter
      have hfree : ∀ c c' : UInt64, routerSelections workers .roundRobin c loads =
          routerSelections workers .roundRobin c' loads := by
        intro c c'
        simp only [routerSelections_roundRobin, hone, Nat.mod_one]
      rw [if_pos hone, hloads, hfree counter (counter + 1)]
      show some 0 :: _ = some (counter % UInt64.ofNat workers.refs.length).toNat :: _
      rw [toNat_mod_length, hone, Nat.mod_one]
      rfl
    · rw [if_neg hone, hloads]
      show some _ :: _ = some (counter % UInt64.ofNat workers.refs.length).toNat :: _
      rw [toNat_mod_length]
      rfl

theorem routerSelections_minimal (workers : Workers R) (counter : UInt64)
    (loads : List (R → ℕ)) :
    List.Forall₂ (fun pending s => ∃ i w, s = some i ∧ workers.refs[i]? = some w ∧
        ∀ w' ∈ workers.refs, pending w ≤ pending w')
      loads (routerSelections workers .leastLoaded counter loads) := by
  induction loads generalizing counter with
  | nil => exact List.Forall₂.nil
  | cons pending loads ih =>
    obtain ⟨i, hi, hsel⟩ := selectWorkerIndex_leastLoaded workers counter pending
    obtain ⟨w, hw, hload⟩ := mem_candidates.mp hi
    refine List.Forall₂.cons ⟨i, w, hsel, hw, ?_⟩ (ih _)
    intro w' hw'
    rw [hload]
    exact minLoad_le hw'

/-! ### Balance -/

/-- Among `n` consecutive numbers each residue modulo `n` occurs once. -/
theorem count_mod_range {n i : ℕ} (hi : i < n) (c : ℕ) :
    ((List.range n).map fun j => (c + j) % n).count i = 1 := by
  have hperm := Nat.multiset_Ico_map_mod c n
  have hlist : (Multiset.Ico c (c + n)).map (· % n) =
      (((List.range n).map fun j => (c + j) % n : List ℕ) : Multiset ℕ) := by
    show (((List.range' c (c + n - c)).map (· % n) : List ℕ) : Multiset ℕ) = _
    rw [Nat.add_sub_cancel_left, List.range'_eq_map_range, List.map_map]
    rfl
  rw [hlist] at hperm
  rw [← Multiset.coe_count, hperm]
  exact Multiset.count_eq_one_of_mem (Multiset.nodup_range n) (Multiset.mem_range.mpr hi)

/-- Among `k * n` consecutive numbers each residue modulo `n` occurs `k` times. -/
theorem count_mod_range_mul {n i : ℕ} (hi : i < n) (c k : ℕ) :
    ((List.range (k * n)).map fun j => (c + j) % n).count i = k := by
  induction k with
  | zero => simp
  | succ k ih =>
    have hblock : ((List.range n).map fun j => (c + (k * n + j)) % n) =
        (List.range n).map fun j => (c + j) % n := by
      apply List.map_congr_left
      intro j _
      rw [show c + (k * n + j) = c + j + k * n by omega, Nat.add_mul_mod_self_right]
    rw [Nat.succ_mul, List.range_add, List.map_append, List.count_append, ih, List.map_map]
    show k + ((List.range n).map fun j => (c + (k * n + j)) % n).count i = k + 1
    rw [hblock, count_mod_range hi]

/-- A stretch of `k * n` selections during which the counter does not wrap. -/
theorem count_roundRobin_window (workers : Workers R) (counter : UInt64) (loads : List (R → ℕ))
    {m k i : ℕ} (hlen : m + k * workers.refs.length ≤ loads.length)
    (hwrap : (counter.toNat + m) % 2 ^ 64 + k * workers.refs.length ≤ 2 ^ 64)
    (hi : i < workers.refs.length) :
    (((routerSelections workers .roundRobin counter loads).drop m).take
      (k * workers.refs.length)).count (some i) = k := by
  obtain ⟨rest, hrest⟩ := Nat.exists_eq_add_of_le hlen
  have hwindow : ((routerSelections workers .roundRobin counter loads).drop m).take
      (k * workers.refs.length) = (List.range (k * workers.refs.length)).map fun j =>
        some (((counter.toNat + m) % 2 ^ 64 + j) % workers.refs.length) := by
    rw [routerSelections_roundRobin, hrest, Nat.add_assoc, List.range_add, List.map_append,
      List.drop_left' (by simp), List.range_add, List.map_append, List.map_append,
      List.take_left' (by simp), List.map_map]
    apply List.map_congr_left
    intro j hj
    have hj := List.mem_range.mp hj
    show some ((counter.toNat + (m + j)) % 2 ^ 64 % workers.refs.length) = _
    -- the counter does not wrap inside the window
    have hsum : (counter.toNat + (m + j)) % 2 ^ 64 = (counter.toNat + m) % 2 ^ 64 + j := by omega
    rw [hsum]
  have hcount := count_mod_range_mul hi ((counter.toNat + m) % 2 ^ 64) k
  rw [← List.count_map_of_injective _ some (Option.some_injective ℕ), List.map_map] at hcount
  rw [hwindow]
  exact hcount

/-- **The two pools route alike and evenly.**  For every worker list, strategy, counter
and sequence of loads the selections are the same and are indices of workers; round robin
is balanced over every stretch without a wrap of the counter; the least loaded strategy
chooses a worker of minimal load, and is round robin as long as the loads are equal. -/
theorem pools_route_alike (workers : Workers R) (routing : PoolRouting) (counter : UInt64)
    (loads : List (R → ℕ)) :
    PoolRef.selections ⟨workers, routing, counter⟩ loads =
        routerSelections workers routing counter loads ∧
      (∀ s ∈ routerSelections workers routing counter loads,
        ∃ i < workers.refs.length, s = some i) ∧
      (routing = .roundRobin → ∀ m k i, m + k * workers.refs.length ≤ loads.length →
        (counter.toNat + m) % 2 ^ 64 + k * workers.refs.length ≤ 2 ^ 64 →
        i < workers.refs.length →
        (((routerSelections workers routing counter loads).drop m).take
          (k * workers.refs.length)).count (some i) = k) ∧
      (routing = .leastLoaded →
        List.Forall₂ (fun pending s => ∃ i w, s = some i ∧ workers.refs[i]? = some w ∧
            ∀ w' ∈ workers.refs, pending w ≤ pending w')
          loads (routerSelections workers routing counter loads) ∧
        ((∀ pending ∈ loads, ∀ w ∈ workers.refs, ∀ w' ∈ workers.refs, pending w = pending w') →
          routerSelections workers routing counter loads =
            routerSelections workers .roundRobin counter loads)) := by
  refine ⟨PoolRef.selections_eq _ loads, routerSelections_lt workers routing counter loads, ?_, ?_⟩
  · rintro rfl m k i hlen hwrap hi
    exact count_roundRobin_window workers counter loads hlen hwrap hi
  · rintro rfl
    exact ⟨routerSelections_minimal workers counter loads,
      fun h => routerSelections_of_equal workers counter h⟩

def threeWorkers : Workers ℕ := ⟨[10, 20, 30], by decide, by decide⟩

/-- Six selections among three workers, and a tie of all three. -/
theorem pools_route_alike_three :
    (((routerSelections threeWorkers .roundRobin 5 (List.replicate 6 id)).drop 0).take
        (2 * 3)).count (some 1) = 2 ∧
      routerSelections threeWorkers .leastLoaded 5 [fun _ => 4, fun _ => 7] =
        routerSelections threeWorkers .roundRobin 5 [fun _ => 4, fun _ => 7] := by
  constructor
  · exact (pools_route_alike threeWorkers .roundRobin 5 (List.replicate 6 id)).2.2.1 rfl 0 2 1
      (by decide) (by decide) (by decide)
  · refine ((pools_route_alike threeWorkers .leastLoaded 5 _).2.2.2 rfl).2 ?_
    intro pending hpending w _ w' _
    rcases List.mem_cons.mp hpending with rfl | hpending
    · rfl
    · rw [List.mem_singleton.mp hpending]

end Dactor
