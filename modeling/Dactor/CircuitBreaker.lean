/-
Dactor/CircuitBreaker.lean

The circuit breaker interceptor, and its state machine over runs of
messages that are processed one at a time.

The window is a sliding one, but the interceptor prunes its timestamps only
when an error completes.  `Tracks` is what survives in between: the
timestamps are the errors since the last close, less some that had left the
window already.  From it `Bench.Lawful` reads off, for every actor in every
state a run reaches, when the circuit trips, rejects, probes and closes.
-/
import Mathlib.Data.List.TakeWhile
import Mathlib.Logic.Function.Basic
import Dactor.Interceptor
import Dactor.Runs

namespace Dactor

open Runs

/-! ### The interceptor -/

inductive CircuitState
  | closed | opened | halfOpen
  deriving DecidableEq, Repr

/-- Per-actor bookkeeping. -/
structure CircuitBreakerState where
  state : CircuitState
  errorTimestamps : List Nat
  openedAt : Option Nat
  probeInFlight : Bool
  deriving DecidableEq, Repr

namespace CircuitBreakerState

def new : CircuitBreakerState := ⟨.closed, [], none, false⟩

/-- Remove error timestamps older than the window, from the front. -/
def pruneErrors (s : CircuitBreakerState) (window now : Nat) : CircuitBreakerState :=
  { s with errorTimestamps :=
      s.errorTimestamps.dropWhile fun front => window < durationSince now front }

/-- `error_timestamps.push_back(now)` and `prune_errors`. -/
def recordError (s : CircuitBreakerState) (window now : Nat) : CircuitBreakerState :=
  { s with errorTimestamps := s.errorTimestamps ++ [now] }.pruneErrors window now

end CircuitBreakerState

structure CircuitBreakerInterceptor where
  errorThreshold : UInt32
  errorWindow : Nat
  cooldown : Nat
  deriving DecidableEq, Repr

/-- The map behind the mutex. -/
abbrev CircuitStates := ActorId → Option CircuitBreakerState

/-- `states.entry(id).or_insert_with(CircuitBreakerState::new)`. -/
def CircuitStates.entry (states : CircuitStates) (id : ActorId) : CircuitBreakerState :=
  (states id).getD .new

namespace CircuitBreakerInterceptor

variable {R : Type} (cb : CircuitBreakerInterceptor)

/-- `state_for`. -/
def stateFor (states : CircuitStates) (id : ActorId) : CircuitState :=
  match states id with
  | none => .closed
  | some s => s.state

def rejection (actorName : String) : Disposition :=
  .reject ("circuit breaker open: " ++ actorName)

/-- The decision of `on_receive` for one actor's entry. -/
def receive (actorName : String) (now : Nat) (entry : CircuitBreakerState) :
    Disposition × CircuitBreakerState :=
  match entry.state with
  | .closed => (.continued, entry)
  | .opened =>
    match entry.openedAt with
    | some openedAt =>
      if cb.cooldown ≤ durationSince now openedAt then
        (.continued, { entry with state := .halfOpen, probeInFlight := true })
      else (rejection actorName, entry)
    | none => (rejection actorName, entry)
  | .halfOpen =>
    -- one probe at a time
    if entry.probeInFlight then (rejection actorName, entry)
    else (.continued, { entry with probeInFlight := true })

/-- The update of `on_complete` to one actor's entry.  The length of the
error list is cast to `u32` before it is compared. -/
def complete (isError : Bool) (now : Nat) (entry : CircuitBreakerState) :
    CircuitBreakerState :=
  match entry.state with
  | .closed =>
    if isError then
      let entry := entry.recordError cb.errorWindow now
      if cb.errorThreshold.toNat ≤ entry.errorTimestamps.length % 2 ^ 32 then
        { entry with state := .opened, openedAt := some now }
      else entry
    else entry
  | .halfOpen =>
    if isError then
      { entry with state := .opened, openedAt := some now, probeInFlight := false }.recordError
        cb.errorWindow now
    else
      { entry with state := .closed, errorTimestamps := [], openedAt := none,
                   probeInFlight := false }
  -- a message admitted before the circuit tripped
  | .opened => if isError then entry.recordError cb.errorWindow now else entry

def onReceive (ctx : InboundContext) (now : Nat) (states : CircuitStates) :
    Disposition × CircuitStates :=
  let r := cb.receive ctx.actorName now (states.entry ctx.actorId)
  (r.1, Function.update states ctx.actorId (some r.2))

def onComplete (ctx : InboundContext) (outcome : Outcome R) (now : Nat)
    (states : CircuitStates) : CircuitStates :=
  Function.update states ctx.actorId
    (some (cb.complete outcome.isError now (states.entry ctx.actorId)))

end CircuitBreakerInterceptor

open CircuitBreakerInterceptor

@[simp] theorem CircuitStates.entry_update (states : CircuitStates) (id : ActorId)
    (s : CircuitBreakerState) : entry (Function.update states id (some s)) id = s := by
  simp [entry]

theorem CircuitStates.entry_update_of_ne (states : CircuitStates) {id id' : ActorId}
    (s : Option CircuitBreakerState) (h : id' ≠ id) :
    entry (Function.update states id s) id' = states.entry id' := by
  rw [entry, Function.update_of_ne h, entry]

/-! ### Runs of messages processed one at a time -/

/-- A message: how long after the previous event it arrives, how long its
handler runs if it is admitted, and with which outcome. -/
structure Delivery (R : Type) where
  ctx : InboundContext
  wait : Nat
  busy : Nat
  outcome : Outcome R

/-- The interceptor's map, the clock, and for each actor the completion
times of its errors since its circuit last closed. -/
structure Bench where
  states : CircuitStates
  now : Nat
  errors : ActorId → List Nat

def Bench.start : Bench := ⟨fun _ => none, 0, fun _ => []⟩

def Bench.entry (w : Bench) (id : ActorId) : CircuitBreakerState := w.states.entry id

variable {R : Type}

/-- One message: `on_receive`, and `on_complete` if it was admitted. -/
def Bench.step (cb : CircuitBreakerInterceptor) (w : Bench) (d : Delivery R) : Bench :=
  let id := d.ctx.actorId
  let arrived := w.now + d.wait
  match cb.onReceive d.ctx arrived w.states with
  | (.continued, states) =>
    let done := arrived + d.busy
    let states' := cb.onComplete d.ctx d.outcome done states
    let errors :=
      if d.outcome.isError then w.errors id ++ [done]
      else if stateFor states id ≠ .closed ∧ stateFor states' id = .closed then []
      else w.errors id
    ⟨states', done, Function.update w.errors id errors⟩
  | (_, states) => ⟨states, arrived, w.errors⟩

theorem stateFor_eq (states : CircuitStates) (id : ActorId) :
    stateFor states id = (states.entry id).state := by
  rcases h : states id with - | s <;>
    simp [stateFor, CircuitStates.entry, h, CircuitBreakerState.new]

/-- The clock after a message that is admitted. -/
def Bench.doneAt (w : Bench) (d : Delivery R) : Nat := w.now + d.wait + d.busy

/-- A message that is admitted: its entry goes through `receive` and
`complete`. -/
theorem Bench.step_admitted (cb : CircuitBreakerInterceptor) (w : Bench) (d : Delivery R)
    {e : CircuitBreakerState}
    (h : cb.receive d.ctx.actorName (w.now + d.wait) (w.entry d.ctx.actorId) = (.continued, e)) :
    (w.step cb d).entry d.ctx.actorId = cb.complete d.outcome.isError (w.doneAt d) e ∧
      (w.step cb d).now = w.doneAt d ∧
      (w.step cb d).errors d.ctx.actorId =
        if d.outcome.isError then w.errors d.ctx.actorId ++ [w.doneAt d]
        else if e.state ≠ .closed ∧
            (cb.complete d.outcome.isError (w.doneAt d) e).state = .closed then []
        else w.errors d.ctx.actorId := by
  have hrecv : cb.onReceive d.ctx (w.now + d.wait) w.states
      = (.continued, Function.update w.states d.ctx.actorId (some e)) := by
    rw [Bench.entry] at h
    rw [onReceive, h]
  simp only [Bench.step, hrecv, onComplete, stateFor_eq, CircuitStates.entry_update,
    Bench.entry, Bench.doneAt, Function.update_self]
  exact ⟨trivial, trivial, if_congr Iff.rfl rfl (if_congr Iff.rfl rfl rfl)⟩

/-- A message that is rejected leaves its entry as `receive` returns it. -/
theorem Bench.step_rejected (cb : CircuitBreakerInterceptor) (w : Bench) (d : Delivery R)
    {e : CircuitBreakerState}
    (h : cb.receive d.ctx.actorName (w.now + d.wait) (w.entry d.ctx.actorId)
      = (rejection d.ctx.actorName, e)) :
    (w.step cb d).entry d.ctx.actorId = e ∧ (w.step cb d).now = w.now + d.wait ∧
      (w.step cb d).errors = w.errors := by
  have hrecv : cb.onReceive d.ctx (w.now + d.wait) w.states
      = (rejection d.ctx.actorName, Function.update w.states d.ctx.actorId (some e)) := by
    rw [Bench.entry] at h
    rw [onReceive, h]
  simp only [Bench.step, hrecv, rejection, Bench.entry, CircuitStates.entry_update, and_self]

theorem onReceive_of_ne (cb : CircuitBreakerInterceptor) (ctx : InboundContext) (now : Nat)
    (states : CircuitStates) {id : ActorId} (h : id ≠ ctx.actorId) :
    (cb.onReceive ctx now states).2 id = states id :=
  Function.update_of_ne h ..

theorem onComplete_of_ne (cb : CircuitBreakerInterceptor) (ctx : InboundContext)
    (outcome : Outcome R) (now : Nat) (states : CircuitStates) {id : ActorId}
    (h : id ≠ ctx.actorId) : cb.onComplete ctx outcome now states id = states id :=
  Function.update_of_ne h ..

/-- Other actors see nothing of a message but the clock. -/
theorem Bench.step_of_ne (cb : CircuitBreakerInterceptor) (w : Bench) (d : Delivery R)
    {id : ActorId} (h : id ≠ d.ctx.actorId) :
    (w.step cb d).states id = w.states id ∧ (w.step cb d).errors id = w.errors id ∧
      w.now ≤ (w.step cb d).now := by
  have hrecv : ∀ r, cb.onReceive d.ctx (w.now + d.wait) w.states = r → r.2 id = w.states id := by
    rintro _ rfl
    exact onReceive_of_ne cb d.ctx _ w.states h
  simp only [Bench.step]
  split
  · next states hr =>
    refine ⟨?_, Function.update_of_ne h .., ?_⟩
    · show cb.onComplete d.ctx d.outcome _ states id = _
      rw [onComplete_of_ne cb d.ctx d.outcome _ states h]
      exact hrecv _ hr
    -- the clock runs through the wait and the handler
    · show w.now ≤ w.now + d.wait + d.busy
      omega
  · next states _ hr => exact ⟨hrecv _ hr, rfl, Nat.le_add_right ..⟩

/-! ### The sliding window -/

/-- On a sorted list, dropping from the front what has left the window
leaves exactly what lies within it. -/
theorem dropWhile_eq_filter {l : List Nat} (h : l.Pairwise (· ≤ ·)) (window now : Nat) :
    (l.dropWhile fun t => window < durationSince now t)
      = l.filter fun t => durationSince now t ≤ window := by
  induction l with
  | nil => rfl
  | cons t l ih =>
      obtain ⟨ht, hl⟩ := List.pairwise_cons.mp h
      by_cases hout : window < durationSince now t
      · rw [List.dropWhile_cons_of_pos (by simpa using hout), ih hl,
          List.filter_cons_of_neg (by simpa using hout)]
      · -- everything after `t` is at least as recent
        have hall : l.filter (fun t => durationSince now t ≤ window) = l := by
          apply List.filter_eq_self.mpr
          intro u hu
          have := ht u hu
          rw [decide_eq_true_eq]
          simp only [durationSince] at hout ⊢
          omega
        rw [List.dropWhile_cons_of_neg (by simpa using hout),
          List.filter_cons_of_pos (by simpa using hout), hall]

/-- The recorded timestamps `ts` are the errors since the last close, less
some that are out of the window at `now`. -/
structure Follows (window : Nat) (ts errors : List Nat) (now : Nat) : Prop where
  sorted : ts.Pairwise (· ≤ ·)
  past : ∀ t ∈ ts, t ≤ now
  kept : ∃ old, errors = old ++ ts ∧ ∀ t ∈ old, window < durationSince now t

theorem Follows.nil (window now : Nat) : Follows window [] [] now :=
  ⟨List.Pairwise.nil, fun _ h => by simp at h, [], rfl, fun _ h => by simp at h⟩

theorem Follows.later {window now now' : Nat} {ts errors : List Nat}
    (h : Follows window ts errors now) (hnow : now ≤ now') : Follows window ts errors now' := by
  obtain ⟨hsorted, hpast, old, herr, hold⟩ := h
  refine ⟨hsorted, fun t ht => Nat.le_trans (hpast t ht) hnow, old, herr, fun t ht => ?_⟩
  have := hold t ht
  simp only [durationSince] at this ⊢
  omega

/-- The timestamps once an error at `now` is recorded. -/
def recorded (window now : Nat) (ts : List Nat) : List Nat :=
  (ts ++ [now]).dropWhile fun t => window < durationSince now t

variable {window now : Nat} {ts errors : List Nat}

theorem Follows.sorted_append (h : Follows window ts errors now) :
    (ts ++ [now]).Pairwise (· ≤ ·) := by
  refine List.pairwise_append.mpr ⟨h.sorted, List.pairwise_singleton _ _, ?_⟩
  intro t ht u hu
  rw [List.mem_singleton.mp hu]
  exact h.past t ht

/-- Recording an error leaves exactly the errors since the last close that
lie within the window, the new one included. -/
theorem Follows.recorded_eq (h : Follows window ts errors now) :
    recorded window now ts
      = (errors ++ [now]).filter fun t => durationSince now t ≤ window := by
  obtain ⟨old, herr, hold⟩ := h.kept
  have hnone : old.filter (fun t => durationSince now t ≤ window) = [] := by
    apply List.filter_eq_nil_iff.mpr
    intro t ht
    have := hold t ht
    simp only [decide_eq_true_eq]
    omega
  rw [recorded, dropWhile_eq_filter h.sorted_append, herr, List.append_assoc,
    List.filter_append, List.filter_append, hnone, List.nil_append, List.filter_append]

theorem Follows.record (h : Follows window ts errors now) :
    Follows window (recorded window now ts) (errors ++ [now]) now := by
  have hsub : (recorded window now ts).Sublist (ts ++ [now]) := List.dropWhile_sublist _
  refine ⟨h.sorted_append.sublist hsub, fun t ht => ?_, ?_⟩
  · rcases List.mem_append.mp (hsub.subset ht) with ht | ht
    · exact h.past t ht
    · exact Nat.le_of_eq (List.mem_singleton.mp ht)
  · obtain ⟨old, herr, hold⟩ := h.kept
    -- what pruning drops joins the errors that had left the window before
    let stale := fun t => decide (window < durationSince now t)
    refine ⟨old ++ (ts ++ [now]).takeWhile stale, ?_, fun t ht => ?_⟩
    · rw [herr, List.append_assoc, List.append_assoc]
      exact congrArg (old ++ ·) (List.takeWhile_append_dropWhile ..).symm
    · rcases List.mem_append.mp ht with ht | ht
      · exact hold t ht
      · simpa [stale] using List.mem_takeWhile_imp ht

theorem recorded_length (h : Follows window ts errors now) :
    0 < (recorded window now ts).length ∧ (recorded window now ts).length ≤ ts.length + 1 := by
  constructor
  · apply List.length_pos_of_mem (a := now)
    rw [h.recorded_eq]
    exact List.mem_filter.mpr ⟨by simp, by simp [durationSince]⟩
  · have := (List.dropWhile_sublist (fun t => decide (window < durationSince now t))
      (l := ts ++ [now])).length_le
    rwa [List.length_append, List.length_singleton] at this

/-! ### The invariant of an idle circuit -/

/-- The number of errors that trips the circuit. -/
def CircuitBreakerInterceptor.limit (cb : CircuitBreakerInterceptor) : Nat :=
  max 1 cb.errorThreshold.toNat

/-- What holds of an actor's entry between two messages, given its errors
since the last close. -/
structure Tracks (cb : CircuitBreakerInterceptor) (entry : CircuitBreakerState)
    (errors : List Nat) (now : Nat) : Prop where
  idle : entry.state ≠ .halfOpen
  noProbe : entry.probeInFlight = false
  follows : Follows cb.errorWindow entry.errorTimestamps errors now
  below : entry.state = .closed → entry.errorTimestamps.length < cb.limit
  openedAt : entry.state = .opened → ∃ t₀ ≤ now, entry.openedAt = some t₀

variable {cb : CircuitBreakerInterceptor} {entry : CircuitBreakerState}

theorem Tracks.new (cb : CircuitBreakerInterceptor) (now : Nat) :
    Tracks cb .new [] now where
  idle := by simp [CircuitBreakerState.new]
  noProbe := rfl
  follows := Follows.nil _ _
  below _ := Nat.lt_of_lt_of_le Nat.zero_lt_one (Nat.le_max_left ..)
  openedAt h := by cases h

theorem Tracks.later {now' : Nat} (h : Tracks cb entry errors now) (hnow : now ≤ now') :
    Tracks cb entry errors now' where
  idle := h.idle
  noProbe := h.noProbe
  follows := h.follows.later hnow
  below := h.below
  openedAt hs := by
    obtain ⟨t₀, hle, ht⟩ := h.openedAt hs
    exact ⟨t₀, Nat.le_trans hle hnow, ht⟩

/-- Between messages a circuit is closed, or open with its opening time. -/
theorem Tracks.cases (h : Tracks cb entry errors now) :
    entry.state = .closed ∨
      entry.state = .opened ∧ ∃ t₀ ≤ now, entry.openedAt = some t₀ := by
  rcases hs : entry.state with - | - | -
  · exact .inl rfl
  · exact .inr ⟨rfl, h.openedAt hs⟩
  · exact absurd hs h.idle

/-- The cast to `u32` never wraps below the threshold. -/
theorem Tracks.trips_iff (h : Tracks cb entry errors now) (hs : entry.state = .closed) :
    (cb.errorThreshold.toNat ≤
        (recorded cb.errorWindow now entry.errorTimestamps).length % 2 ^ 32) ↔
      cb.limit ≤ ((errors ++ [now]).filter fun t =>
        durationSince now t ≤ cb.errorWindow).length := by
  obtain ⟨hpos, hle⟩ := recorded_length h.follows
  rw [← h.follows.recorded_eq]
  have hlt : entry.errorTimestamps.length < cb.limit := h.below hs
  -- below the limit before, so at most the threshold, itself a `u32`, now
  have hmax : cb.errorThreshold.toNat < 2 ^ 32 := cb.errorThreshold.toNat_lt
  rw [CircuitBreakerInterceptor.limit] at hlt ⊢
  rw [Nat.mod_eq_of_lt (by omega)]
  omega

/-- An error that completes in `Closed`. -/
theorem complete_closed_error (hs : entry.state = .closed) :
    cb.complete true now entry =
      if cb.errorThreshold.toNat ≤
          (recorded cb.errorWindow now entry.errorTimestamps).length % 2 ^ 32 then
        { entry with state := .opened, openedAt := some now,
                     errorTimestamps := recorded cb.errorWindow now entry.errorTimestamps }
      else
        { entry with errorTimestamps := recorded cb.errorWindow now entry.errorTimestamps } := by
  simp only [complete, hs, if_true, CircuitBreakerState.recordError,
    CircuitBreakerState.pruneErrors, recorded]

theorem complete_closed_success (hs : entry.state = .closed) :
    cb.complete false now entry = entry := by
  simp [complete, hs]

/-- Completion in `Closed` keeps the invariant. -/
theorem Tracks.complete_closed (h : Tracks cb entry errors now) (hs : entry.state = .closed)
    (isError : Bool) :
    Tracks cb (cb.complete isError now entry)
      (if isError then errors ++ [now] else errors) now := by
  cases isError with
  | false =>
      rw [complete_closed_success hs]
      exact h
  | true =>
      rw [complete_closed_error hs]
      have htrips := h.trips_iff hs
      rw [← h.follows.recorded_eq] at htrips
      split
      · exact
          { idle := by simp, noProbe := h.noProbe, follows := h.follows.record,
            below := fun hc => (by cases hc), openedAt := fun _ => ⟨now, Nat.le_refl _, rfl⟩ }
      · next hlow =>
        rw [htrips] at hlow
        exact
          { idle := h.idle, noProbe := h.noProbe, follows := h.follows.record,
            below := fun _ => by simpa using hlow, openedAt := h.openedAt }

/-- An admitted probe: `entry` once `on_receive` has let it through. -/
def probing (entry : CircuitBreakerState) : CircuitBreakerState :=
  { entry with state := .halfOpen, probeInFlight := true }

theorem complete_probing_success :
    cb.complete false now (probing entry) = CircuitBreakerState.new := rfl

theorem complete_probing_error :
    cb.complete true now (probing entry) =
      { state := .opened, openedAt := some now, probeInFlight := false,
        errorTimestamps := recorded cb.errorWindow now entry.errorTimestamps } := rfl

/-- Completion of a probe keeps the invariant; a success starts over. -/
theorem Tracks.complete_probing (h : Tracks cb entry errors now) (isError : Bool) :
    Tracks cb (cb.complete isError now (probing entry))
      (if isError then errors ++ [now] else []) now := by
  cases isError with
  | false =>
      rw [complete_probing_success]
      exact Tracks.new cb now
  | true =>
      rw [complete_probing_error]
      exact
        { idle := by simp, noProbe := rfl, follows := h.follows.record,
          below := fun hc => (by cases hc), openedAt := fun _ => ⟨now, Nat.le_refl _, rfl⟩ }

theorem receive_closed (name : String) (hs : entry.state = .closed) :
    cb.receive name now entry = (.continued, entry) := by
  simp only [receive, hs]

theorem receive_opened (cb : CircuitBreakerInterceptor) (now : Nat) (name : String) {t₀ : Nat}
    (hs : entry.state = .opened) (ht : entry.openedAt = some t₀) :
    cb.receive name now entry =
      if cb.cooldown ≤ durationSince now t₀ then (.continued, probing entry)
      else (rejection name, entry) := by
  simp only [receive, hs, ht, probing]

theorem receive_probing (name : String) :
    cb.receive name now (probing entry) = (rejection name, probing entry) := rfl

/-- The invariant of every actor's entry. -/
def Bench.Tracked (cb : CircuitBreakerInterceptor) (w : Bench) : Prop :=
  ∀ id, Tracks cb (w.entry id) (w.errors id) w.now

theorem Bench.Tracked.start (cb : CircuitBreakerInterceptor) : Bench.start.Tracked cb :=
  fun _ => Tracks.new cb 0

theorem Bench.Tracked.step {w : Bench} (d : Delivery R) (h : w.Tracked cb) :
    (w.step cb d).Tracked cb := by
  intro id
  by_cases hid : id = d.ctx.actorId
  · subst hid
    have harrived : Tracks cb (w.entry d.ctx.actorId) (w.errors d.ctx.actorId) (w.now + d.wait) :=
      (h d.ctx.actorId).later (Nat.le_add_right ..)
    have hdone : Tracks cb (w.entry d.ctx.actorId) (w.errors d.ctx.actorId) (w.doneAt d) :=
      harrived.later (Nat.le_add_right ..)
    rcases hdone.cases with hs | ⟨hs, t₀, -, ht⟩
    · -- closed: admitted, and the errors since the last close are not reset
      obtain ⟨hentry, hnow, herr⟩ := w.step_admitted cb d (receive_closed _ hs)
      rw [hentry, hnow, herr]
      simp only [hs, ne_eq, not_true_eq_false, false_and, if_false]
      exact hdone.complete_closed hs _
    · have hrecv := receive_opened cb (w.now + d.wait) d.ctx.actorName hs ht
      by_cases hcool : cb.cooldown ≤ durationSince (w.now + d.wait) t₀
      · -- cooled down: the message is a probe, and completes before the next one
        rw [if_pos hcool] at hrecv
        obtain ⟨hentry, hnow, herr⟩ := w.step_admitted cb d hrecv
        rw [hentry, hnow, herr]
        have hprobe := hdone.complete_probing d.outcome.isError
        rcases he : d.outcome.isError with - | -
        · -- a successful probe closes the circuit
          have hcloses : (probing (w.entry d.ctx.actorId)).state ≠ .closed ∧
              (cb.complete false (w.doneAt d) (probing (w.entry d.ctx.actorId))).state = .closed :=
            ⟨by simp [probing], rfl⟩
          rw [he] at hprobe
          rw [if_neg (by simp), if_pos hcloses]
          exact hprobe
        · simpa only [he, if_true] using hprobe
      · -- still cooling down: rejected, and only the clock moves
        rw [if_neg hcool] at hrecv
        obtain ⟨hentry, hnow, herr⟩ := w.step_rejected cb d hrecv
        rw [hentry, hnow, herr]
        exact harrived
  · obtain ⟨hst, herr, hnow⟩ := w.step_of_ne cb d hid
    rw [Bench.entry, CircuitStates.entry, hst, herr]
    exact (h id).later hnow

/-! ### The state machine -/

/-- The law of one actor's circuit in a state between two messages, in
terms of the next message that reaches it. -/
structure Bench.Lawful (R : Type) (cb : CircuitBreakerInterceptor) (w : Bench)
    (id : ActorId) : Prop where
  /-- Error timestamps are sorted. -/
  sorted : (w.entry id).errorTimestamps.Pairwise (· ≤ ·)
  /-- A closed circuit is below its limit, -/
  closed_below : (w.entry id).state = .closed →
    (w.entry id).errorTimestamps.length < max 1 cb.errorThreshold.toNat
  /-- admits everything, -/
  closed_admits : (w.entry id).state = .closed →
    ∀ ctx now, ctx.actorId = id → (cb.onReceive ctx now w.states).1 = .continued
  /-- and trips exactly on an error that is, with the errors since the last
  close that lie within the window of it, one of at least `max 1 threshold`. -/
  closed_trips : (w.entry id).state = .closed →
    ∀ d : Delivery R, d.ctx.actorId = id →
      ((w.step cb d).entry id).state =
        (if d.outcome.isError = true ∧ max 1 cb.errorThreshold.toNat ≤
            ((w.errors id ++ [w.doneAt d]).filter fun t =>
              durationSince (w.doneAt d) t ≤ cb.errorWindow).length
          then .opened else .closed) ∧
      (((w.step cb d).entry id).state = .opened →
        ((w.step cb d).entry id).openedAt = some (w.doneAt d))
  /-- A circuit that is not closed is open since a known time, with no probe
  under way, -/
  opened : (w.entry id).state ≠ .closed → (w.entry id).state = .opened ∧
    (w.entry id).probeInFlight = false ∧ ∃ t₀, (w.entry id).openedAt = some t₀ ∧
      ∀ d : Delivery R, d.ctx.actorId = id →
        let arrived := w.now + d.wait
        let admitted := cb.onReceive d.ctx arrived w.states
        -- before the cooldown is over every message is rejected,
        (arrived < t₀ + cb.cooldown →
          admitted.1 = .reject ("circuit breaker open: " ++ d.ctx.actorName) ∧
          (w.step cb d).entry id = w.entry id) ∧
        -- the first one after it is admitted as the only probe,
        (t₀ + cb.cooldown ≤ arrived →
          admitted.1 = .continued ∧
          (∀ ctx now, ctx.actorId = id → (cb.onReceive ctx now admitted.2).1 =
            .reject ("circuit breaker open: " ++ ctx.actorName)) ∧
          -- and its outcome closes or re-opens the circuit.
          (d.outcome.isError = false → (w.step cb d).entry id = ⟨.closed, [], none, false⟩) ∧
          (d.outcome.isError = true → ((w.step cb d).entry id).state = .opened ∧
            ((w.step cb d).entry id).openedAt = some (w.doneAt d)))
  /-- Messages to other actors, and each half of their processing, leave
  the circuit alone. -/
  frame : (∀ d : Delivery R, d.ctx.actorId ≠ id → (w.step cb d).states id = w.states id) ∧
    (∀ ctx now, ctx.actorId ≠ id → (cb.onReceive ctx now w.states).2 id = w.states id) ∧
    (∀ ctx (outcome : Outcome R) now, ctx.actorId ≠ id →
      cb.onComplete ctx outcome now w.states id = w.states id)

theorem Bench.Tracked.closed_trips {w : Bench} (h : w.Tracked cb) (d : Delivery R)
    (hs : (w.entry d.ctx.actorId).state = .closed) :
    ((w.step cb d).entry d.ctx.actorId).state =
      (if d.outcome.isError = true ∧ max 1 cb.errorThreshold.toNat ≤
          ((w.errors d.ctx.actorId ++ [w.doneAt d]).filter fun t =>
            durationSince (w.doneAt d) t ≤ cb.errorWindow).length
        then .opened else .closed) ∧
    (((w.step cb d).entry d.ctx.actorId).state = .opened →
      ((w.step cb d).entry d.ctx.actorId).openedAt = some (w.doneAt d)) := by
  have hdone : Tracks cb (w.entry d.ctx.actorId) (w.errors d.ctx.actorId) (w.doneAt d) :=
    (h d.ctx.actorId).later (Nat.le_trans (Nat.le_add_right ..) (Nat.le_add_right ..))
  rw [(w.step_admitted cb d (receive_closed _ hs)).1]
  have htrips := hdone.trips_iff hs
  rw [CircuitBreakerInterceptor.limit] at htrips
  rcases he : d.outcome.isError with - | -
  · rw [complete_closed_success hs, hs]
    simp
  · rw [complete_closed_error hs]
    simp only [true_and, ← htrips]
    split
    · exact ⟨rfl, fun _ => rfl⟩
    · exact ⟨hs, fun ho => by rw [hs] at ho; cases ho⟩

theorem Bench.Tracked.opened {w : Bench} (h : w.Tracked cb) (id : ActorId)
    (hs : (w.entry id).state ≠ .closed) : (w.entry id).state = .opened ∧
    (w.entry id).probeInFlight = false ∧ ∃ t₀ ≤ w.now, (w.entry id).openedAt = some t₀ := by
  rcases (h id).cases with hc | ⟨ho, hat⟩
  · exact absurd hc hs
  · exact ⟨ho, (h id).noProbe, hat⟩

theorem Bench.step_probe {w : Bench} (d : Delivery R)
    {t₀ : Nat} (hs : (w.entry d.ctx.actorId).state = .opened)
    (ht : (w.entry d.ctx.actorId).openedAt = some t₀) (hcool : t₀ + cb.cooldown ≤ w.now + d.wait) :
    (cb.onReceive d.ctx (w.now + d.wait) w.states).1 = .continued ∧
      (∀ ctx now, ctx.actorId = d.ctx.actorId →
        (cb.onReceive ctx now (cb.onReceive d.ctx (w.now + d.wait) w.states).2).1 =
          .reject ("circuit breaker open: " ++ ctx.actorName)) ∧
      (d.outcome.isError = false →
        (w.step cb d).entry d.ctx.actorId = ⟨.closed, [], none, false⟩) ∧
      (d.outcome.isError = true → ((w.step cb d).entry d.ctx.actorId).state = .opened ∧
        ((w.step cb d).entry d.ctx.actorId).openedAt = some (w.doneAt d)) := by
  have hrecv := receive_opened cb (w.now + d.wait) d.ctx.actorName hs ht
  rw [if_pos (by simp only [durationSince]; omega)] at hrecv
  obtain ⟨hentry, -, -⟩ := w.step_admitted cb d hrecv
  rw [Bench.entry] at hrecv
  refine ⟨?_, ?_, ?_, ?_⟩
  · rw [onReceive, hrecv]
  · intro ctx now hid
    simp only [onReceive, hid, CircuitStates.entry_update, hrecv, receive_probing, rejection]
  · intro he
    rw [hentry, he, complete_probing_success, CircuitBreakerState.new]
  · intro he
    rw [hentry, he, complete_probing_error]
    exact ⟨rfl, rfl⟩

theorem Bench.step_early {w : Bench} (d : Delivery R)
    {t₀ : Nat} (hs : (w.entry d.ctx.actorId).state = .opened)
    (ht : (w.entry d.ctx.actorId).openedAt = some t₀) (hle : t₀ ≤ w.now)
    (hcool : w.now + d.wait < t₀ + cb.cooldown) :
    (cb.onReceive d.ctx (w.now + d.wait) w.states).1 =
        .reject ("circuit breaker open: " ++ d.ctx.actorName) ∧
      (w.step cb d).entry d.ctx.actorId = w.entry d.ctx.actorId := by
  have hrecv := receive_opened cb (w.now + d.wait) d.ctx.actorName hs ht
  rw [if_neg (by simp only [durationSince]; omega)] at hrecv
  refine ⟨?_, (w.step_rejected cb d hrecv).1⟩
  rw [Bench.entry] at hrecv
  rw [onReceive, hrecv, rejection]

/-- **The circuit breaker is the state machine it documents**: in every
state a run reaches, for every actor and the next message. -/
theorem circuitBreaker_lawful (cb : CircuitBreakerInterceptor) (msgs : List (Delivery R))
    (id : ActorId) : (run (Bench.step cb) Bench.start msgs).Lawful R cb id := by
  have h : (run (Bench.step cb) Bench.start msgs).Tracked cb :=
    run_induction (fun w d h => h.step d) msgs (Bench.Tracked.start cb)
  generalize run (Bench.step cb) Bench.start msgs = w at h
  refine
    { sorted := (h id).follows.sorted
      closed_below := (h id).below
      closed_admits := ?_
      closed_trips := ?_
      opened := ?_
      frame := ?_ }
  · rintro hs ctx now rfl
    rw [onReceive, ← Bench.entry, receive_closed _ hs]
  · rintro hs d rfl
    exact h.closed_trips d hs
  · intro hs
    obtain ⟨ho, hprobe, t₀, hle, ht⟩ := h.opened id hs
    refine ⟨ho, hprobe, t₀, ht, ?_⟩
    rintro d rfl
    exact ⟨fun hcool => Bench.step_early d ho ht hle hcool,
      fun hcool => Bench.step_probe d ho ht hcool⟩
  · refine ⟨fun d hne => (w.step_of_ne cb d hne.symm).1,
      fun ctx now hne => onReceive_of_ne cb ctx now w.states hne.symm,
      fun ctx outcome now hne => onComplete_of_ne cb ctx outcome now w.states hne.symm⟩

end Dactor
