/-
Dactor/WireRateLimit.lean

The rate limit on incoming envelopes (`RateLimitWireInterceptor`).

The interceptor counts the envelopes of a window that is anchored to
arrivals: the first one at or after its end opens the next.  The first window
is open from the start.  The counter is a `u64` and its overflow panics; the
mutex recovers from that, so the next call finds the state as it was.

Main result: `wire_rate_limit`.
-/
import Dactor.Outbound
import Dactor.Runs
import Dactor.Tumbling

namespace Dactor

open Runs Tumbling

/-- The decision for an incoming envelope. -/
inductive WireDisposition
  | accept
  | delay (d : Nat)
  | reject (reason : String)
  | drop
  deriving DecidableEq, Repr

structure RateLimitState where
  count : UInt64
  windowStart : Nat
  deriving DecidableEq, Repr

structure RateLimitWireInterceptor where
  maxPerWindow : UInt64
  window : Nat
  state : RateLimitState
  deriving DecidableEq, Repr

namespace RateLimitWireInterceptor

/-- `new`, called at the instant `now`. -/
def new (maxPerWindow : UInt64) (window now : Nat) : RateLimitWireInterceptor :=
  ⟨maxPerWindow, window, ⟨0, now⟩⟩

/-- The state once an expired window is reset. -/
def currentState (r : RateLimitWireInterceptor) (now : Nat) : RateLimitState :=
  if r.window ≤ durationSince now r.state.windowStart then ⟨0, now⟩ else r.state

/-- `on_receive` at the instant `now`; `none` stands for a panic. -/
def onReceive (r : RateLimitWireInterceptor) (_envelope : WireEnvelope) (now : Nat) :
    Option WireDisposition × RateLimitWireInterceptor :=
  let state := r.currentState now
  match addChecked state.count 1 with
  -- the lock recovers from poisoning, so later calls go on from here
  | none => (none, { r with state })
  | some count =>
    let r := { r with state := { state with count } }
    if count > r.maxPerWindow then
      (some (.reject ("rate limit exceeded: " ++ toString count ++ " > " ++
        toString r.maxPerWindow ++ " per " ++ durationDebug r.window)), r)
    else (some .accept, r)

end RateLimitWireInterceptor

/-- The interceptor and its decisions, each with the instant of the
arrival. -/
structure WireRun where
  limiter : RateLimitWireInterceptor
  log : List (Nat × Option WireDisposition)

def WireRun.start (maxPerWindow : UInt64) (window created : Nat) : WireRun :=
  ⟨.new maxPerWindow window created, []⟩

def WireRun.step (s : WireRun) (arrival : WireEnvelope × Nat) : WireRun :=
  let r := s.limiter.onReceive arrival.1 arrival.2
  ⟨r.2, s.log ++ [(arrival.2, r.1)]⟩

/-! ### One arrival -/

/-- The counter as far as it counts. -/
def countOf (arrivals : Nat) : Nat := min arrivals (2 ^ 64 - 1)

/-- What `on_receive` does with an envelope that finds `i` before it in its
window: it is accepted if its number is low enough, and counted. -/
theorem RateLimitWireInterceptor.onReceive_spec (r : RateLimitWireInterceptor)
    (envelope : WireEnvelope) (now i : Nat) (hi : (r.currentState now).count.toNat = countOf i) :
    ((r.onReceive envelope now).1 = some .accept ↔ i < r.maxPerWindow.toNat) ∧
      ∃ count : UInt64, count.toNat = countOf (i + 1) ∧
        (r.onReceive envelope now).2
          = { r with state := ⟨count, (r.currentState now).windowStart⟩ } := by
  have hmax := r.maxPerWindow.toNat_lt
  unfold countOf at *
  rcases hadd : addChecked (r.currentState now).count 1 with - | count
  · -- the counter is at its end, and so is any limit
    have hfull := addChecked_eq_none.mp hadd
    rw [show (1 : UInt64).toNat = 1 from rfl] at hfull
    simp only [onReceive, hadd]
    refine ⟨iff_of_false (fun h => by cases h) (by omega), (r.currentState now).count, ?_, rfl⟩
    omega
  · have hcount := addChecked_eq_some.mp hadd
    rw [show (1 : UInt64).toNat = 1 from rfl] at hcount
    have hlt := count.toNat_lt
    simp only [onReceive, hadd, gt_iff_lt, UInt64.lt_iff_toNat_lt]
    split
    · next hover => exact ⟨iff_of_false (fun h => by cases h) (by omega), count, by omega, rfl⟩
    · next hover => exact ⟨iff_of_true rfl (by omega), count, by omega, rfl⟩

/-! ### Runs -/

/-- The interceptor and the windows of the arrivals so far: it remembers the
last one, and has decided by the numbers. -/
structure WireRun.Windowed (maxPerWindow : UInt64) (window created : Nat)
    (arrivals : List (WireEnvelope × Nat)) (s : WireRun)
    (front : List (Window (WireEnvelope × Nat))) (w : Window (WireEnvelope × Nat)) : Prop where
  cut : Cut Prod.snd (fun s t => window ≤ t - s) arrivals (front ++ [w])
  first : (front ++ [w]).head?.map Window.start = some created
  limiter : s.limiter.maxPerWindow = maxPerWindow ∧ s.limiter.window = window
  windowStart : s.limiter.state.windowStart = w.start
  count : s.limiter.state.count.toNat = countOf w.arrivals.length
  log : s.log.map (fun d => (d.1, decide (d.2 = some .accept))) =
    (numbered (front ++ [w])).map fun x => (x.1.2, decide (x.2 < maxPerWindow.toNat))

theorem WireRun.Windowed.step {maxPerWindow : UInt64} {window created : Nat}
    {arrivals : List (WireEnvelope × Nat)} {s : WireRun}
    {front : List (Window (WireEnvelope × Nat))} {w : Window (WireEnvelope × Nat)}
    (hwindow : 0 < window) (h : s.Windowed maxPerWindow window created arrivals front w)
    (arrival : WireEnvelope × Nat) :
    ∃ front' w', (s.step arrival).Windowed maxPerWindow window created (arrivals ++ [arrival])
      front' w' := by
  obtain ⟨envelope, now⟩ := arrival
  obtain ⟨hmax, hlen⟩ := h.limiter
  by_cases hexpired : window ≤ now - w.start
  · -- the next window
    have hcurrent : s.limiter.currentState now = ⟨0, now⟩ := by
      rw [RateLimitWireInterceptor.currentState, hlen, h.windowStart]
      exact if_pos hexpired
    obtain ⟨haccept, count, hcount, hnext⟩ := s.limiter.onReceive_spec envelope now 0
      (by rw [hcurrent]; rfl)
    rw [hcurrent] at hnext
    refine ⟨front ++ [w], ⟨now, [(envelope, now)]⟩, h.cut.openNext hexpired ?_, ?_, ?_, ?_, ?_, ?_⟩
    · show ¬ window ≤ now - now
      rw [Nat.sub_self]
      exact Nat.not_le_of_lt hwindow
    · rw [List.head?_append, ← h.first]
      cases front <;> rfl
    · simp only [WireRun.step, hnext]
      exact h.limiter
    · simp only [WireRun.step, hnext]
    · simp only [WireRun.step, hnext]
      exact hcount
    · rw [numbered_openNext, List.map_append, ← h.log, ← hmax]
      simp only [WireRun.step, List.map_append, List.map_cons, List.map_nil, haccept]
  · have hcurrent : s.limiter.currentState now = s.limiter.state := by
      rw [RateLimitWireInterceptor.currentState, hlen, h.windowStart]
      exact if_neg hexpired
    obtain ⟨haccept, count, hcount, hnext⟩ := s.limiter.onReceive_spec envelope now
      w.arrivals.length (by rw [hcurrent, h.count])
    rw [hcurrent] at hnext
    refine ⟨front, ⟨w.start, w.arrivals ++ [(envelope, now)]⟩, h.cut.join hexpired,
      ?_, ?_, ?_, ?_, ?_⟩
    · rw [← h.first]
      cases front <;> rfl
    · simp only [WireRun.step, hnext]
      exact h.limiter
    · simp only [WireRun.step, hnext]
      exact h.windowStart
    · simp only [WireRun.step, hnext, List.length_append, List.length_singleton]
      exact hcount
    · rw [numbered_join, List.map_append, ← h.log, ← hmax]
      simp only [WireRun.step, List.map_append, List.map_cons, List.map_nil, haccept]

theorem WireRun.windowed (maxPerWindow : UInt64) {window : Nat} (created : Nat)
    (hwindow : 0 < window) (arrivals : List (WireEnvelope × Nat)) :
    ∃ front w, (run WireRun.step (.start maxPerWindow window created) arrivals).Windowed
      maxPerWindow window created arrivals front w := by
  induction arrivals using List.reverseRecOn with
  | nil => exact ⟨[], ⟨created, []⟩, cut_empty _ _ created, rfl, ⟨rfl, rfl⟩, rfl, rfl, rfl⟩
  | append_singleton arrivals arrival ih =>
      obtain ⟨front, w, h⟩ := ih
      rw [run_append]
      exact h.step hwindow arrival

/-- **The wire rate limit is enforced.**  The arrivals fall into windows, the
first of which is opened when the interceptor is created; of each window
exactly the first `max_per_window` envelopes are accepted, and so at most
twice as many in any closed interval no longer than a window. -/
theorem wire_rate_limit (maxPerWindow : UInt64) (window created : Nat) (hwindow : 0 < window)
    (arrivals : List (WireEnvelope × Nat))
    (horder : arrivals.Pairwise fun x y => x.2 ≤ y.2) :
    let log := (run WireRun.step (.start maxPerWindow window created) arrivals).log
    (∃ ws, Cut Prod.snd (fun s t => window ≤ t - s) arrivals ws ∧
      ws.head?.map Window.start = some created ∧
      log.map (fun d => (d.1, decide (d.2 = some .accept))) =
        (numbered ws).map fun x => (x.1.2, decide (x.2 < maxPerWindow.toNat))) ∧
    ∀ a b, b ≤ a + window →
      (log.filter fun d => d.2 = some .accept ∧ a ≤ d.1 ∧ d.1 ≤ b).length
        ≤ 2 * maxPerWindow.toNat := by
  intro log
  obtain ⟨front, w, h⟩ := WireRun.windowed maxPerWindow created hwindow arrivals
  refine ⟨⟨front ++ [w], h.cut, h.first, h.log⟩, ?_⟩
  intro a b hab
  let chosen := fun x : Nat × Bool => x.2 && decide (a ≤ x.1 ∧ x.1 ≤ b)
  have hlog : (log.filter fun d => d.2 = some .accept ∧ a ≤ d.1 ∧ d.1 ≤ b).length =
      (lowIn Prod.snd maxPerWindow.toNat a b (front ++ [w])).length := by
    calc (log.filter fun d => d.2 = some .accept ∧ a ≤ d.1 ∧ d.1 ≤ b).length
        = ((log.map fun d => (d.1, decide (d.2 = some .accept))).filter chosen).length := by
          rw [List.filter_map, List.length_map]
          simp [chosen, Function.comp_def]
      _ = (((numbered (front ++ [w])).map
            fun x => (x.1.2, decide (x.2 < maxPerWindow.toNat))).filter chosen).length := by
          rw [h.log]
      _ = (lowIn Prod.snd maxPerWindow.toNat a b (front ++ [w])).length := by
          rw [List.filter_map, List.length_map, lowIn]
          simp [chosen, Function.comp_def]
  rw [hlog]
  exact h.cut.interval horder hab

/-- Any envelope. -/
def someEnvelope : WireEnvelope :=
  ⟨⟨⟨"node-1"⟩, 1⟩, "worker", "Ping", .tell, ⟨∅⟩, [], none, none⟩

/-- Two in ten, with the windows from zero and from ten: four envelopes in an
interval of length ten are accepted, and no more. -/
theorem wire_rate_limit_twoWindows :
    let arrivals := [9, 9, 9, 10, 10, 10].map fun t => (someEnvelope, t)
    let log := (run WireRun.step (.start 2 10 0) arrivals).log
    log.map (fun d => decide (d.2 = some .accept)) = [true, true, false, true, true, false] ∧
      (log.filter fun d => d.2 = some .accept ∧ 9 ≤ d.1 ∧ d.1 ≤ 19).length ≤ 4 :=
  ⟨by decide, (wire_rate_limit 2 10 0 (by decide)
    ([9, 9, 9, 10, 10, 10].map fun t => (someEnvelope, t)) (by decide)).2 9 19 (by decide)⟩

end Dactor
