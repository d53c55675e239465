/-
Dactor/Metrics.lean

Windowed metrics of an actor (`ActorMetricsHandle`).

Events are counted in buckets, each of which is opened by the first event
that finds the one before it `bucket_duration` old.  Buckets that have left
the window are evicted at the front when an event is recorded, and skipped
when a snapshot is taken.  Counters are `u64` and count modulo `2 ^ 64`.

A snapshot averages the latencies in the window, if there are any, and panics
when their sum is no `Duration` or their number is zero as a `u32`.  It holds
the lock on the buckets then, so that every later call panics as well, though
the all-time counters go on counting.

The buckets are a final part of the tumbling windows of all events
(`ActorMetricsHandle.Bucketed`).

Main result: `windowed_metrics_sandwiched`.
-/
import Dactor.Basic
import Dactor.Runs
import Dactor.Tumbling
import Mathlib.Data.List.TakeWhile
import Mathlib.Data.UInt

namespace Dactor

open Runs Tumbling

/-! ### Counts by type -/

/-- A hash map from message types to counts, by its entries. -/
abbrev TypeCounts := List (String × UInt64)

namespace TypeCounts

/-- `*counts.entry(key).or_insert(0) += n`. -/
def add (key : String) (n : UInt64) : TypeCounts → TypeCounts
  | [] => [(key, n)]
  | (k, v) :: rest => if k = key then (k, v + n) :: rest else (k, v) :: add key n rest

/-- Add the entries of `more` one by one. -/
def merge (counts more : TypeCounts) : TypeCounts :=
  more.foldl (fun counts entry => add entry.1 entry.2 counts) counts

def total (counts : TypeCounts) : UInt64 := (counts.map Prod.snd).sum

section Add

variable {key k : String} {n v : UInt64} {counts : TypeCounts}

@[simp] theorem add_cons_self : add key n ((key, v) :: counts) = (key, v + n) :: counts :=
  if_pos rfl

theorem add_cons_of_ne (h : k ≠ key) : add key n ((k, v) :: counts) = (k, v) :: add key n counts :=
  if_neg h

theorem mem_keys_add : k ∈ (add key n counts).map Prod.fst ↔ k = key ∨ k ∈ counts.map Prod.fst := by
  induction counts with
  | nil => simp [add]
  | cons entry counts ih =>
      obtain ⟨k', v⟩ := entry
      by_cases h : k' = key
      · subst h
        simp
      · rw [add_cons_of_ne h, List.map_cons, List.mem_cons, ih, List.map_cons, List.mem_cons]
        exact or_left_comm

theorem add_add (m : UInt64) : add key n (add key m counts) = add key (m + n) counts := by
  induction counts with
  | nil => simp [add]
  | cons entry counts ih =>
      obtain ⟨k', v⟩ := entry
      by_cases h : k' = key
      · subst h
        simp [UInt64.add_assoc]
      · rw [add_cons_of_ne h, add_cons_of_ne h, add_cons_of_ne h, ih]

/-- An entry that is there can be raised before or after another one. -/
theorem add_comm_of_mem (h : key ∈ counts.map Prod.fst) (m : UInt64) :
    add key n (add k m counts) = add k m (add key n counts) := by
  induction counts with
  | nil => cases h
  | cons entry counts ih =>
      obtain ⟨k', v⟩ := entry
      by_cases hkey : k' = key
      · subst hkey
        by_cases hk : k' = k
        · subst hk
          rw [add_cons_self, add_cons_self, add_cons_self, add_cons_self, UInt64.add_assoc,
            UInt64.add_assoc, UInt64.add_comm m n]
        · rw [add_cons_of_ne hk, add_cons_self, add_cons_self, add_cons_of_ne hk]
      · have hmem : key ∈ counts.map Prod.fst := by
          rcases List.mem_cons.mp h with heq | hmem
          · exact absurd heq.symm hkey
          · exact hmem
        by_cases hk : k' = k
        · subst hk
          rw [add_cons_self, add_cons_of_ne hkey, add_cons_of_ne hkey, add_cons_self]
        · rw [add_cons_of_ne hk, add_cons_of_ne hkey, add_cons_of_ne hkey, add_cons_of_ne hk,
            ih hmem]

theorem total_add : total (add key n counts) = total counts + n := by
  induction counts with
  | nil => simp [add, total]
  | cons entry counts ih =>
      obtain ⟨k', v⟩ := entry
      rw [total, total] at ih
      by_cases h : k' = key
      · subst h
        simp only [add_cons_self, total, List.map_cons, List.sum_cons]
        rw [UInt64.add_assoc, UInt64.add_comm n, UInt64.add_assoc]
      · simp only [add_cons_of_ne h, total, List.map_cons, List.sum_cons, ih]
        rw [UInt64.add_assoc]

theorem lookup_add : (add key n counts).lookup k =
    if k = key then some ((counts.lookup k).getD 0 + n) else counts.lookup k := by
  induction counts with
  | nil =>
      by_cases h : k = key
      · simp [add, h]
      · simp [add, List.lookup_cons, beq_eq_false_iff_ne.mpr h, h]
  | cons entry counts ih =>
      obtain ⟨k', v⟩ := entry
      by_cases h : k' = key
      · subst h
        by_cases hk : k = k'
        · simp [hk]
        · simp [List.lookup_cons, beq_eq_false_iff_ne.mpr hk, hk]
      · rw [add_cons_of_ne h]
        by_cases hk : k = k'
        · subst hk
          simp [h]
        · simp only [List.lookup_cons, beq_eq_false_iff_ne.mpr hk, ih]

end Add

/-- Raising an entry that is merged is raising it in the result. -/
theorem merge_add (key : String) (n : UInt64) (counts more : TypeCounts) :
    merge counts (add key n more) = add key n (merge counts more) := by
  have hraise : ∀ more counts : TypeCounts, key ∈ counts.map Prod.fst →
      merge (add key n counts) more = add key n (merge counts more) := by
    intro more
    induction more with
    | nil => exact fun _ _ => rfl
    | cons entry more ih =>
        intro counts hmem
        show merge (add entry.1 entry.2 (add key n counts)) more
          = add key n (merge (add entry.1 entry.2 counts) more)
        rw [← add_comm_of_mem hmem, ih _ (mem_keys_add.mpr (.inr hmem))]
  induction more generalizing counts with
  | nil => rfl
  | cons entry more ih =>
      obtain ⟨k, v⟩ := entry
      by_cases h : k = key
      · -- the raise moves past the rest, where the key is by now
        subst h
        rw [add_cons_self]
        show merge (add k (v + n) counts) more = add k n (merge (add k v counts) more)
        rw [← add_add, hraise _ _ (mem_keys_add.mpr (.inl rfl))]
      · rw [add_cons_of_ne h]
        exact ih (add k v counts)

end TypeCounts

/-! ### Buckets -/

structure MetricsBucket where
  timestamp : Nat
  messageCount : UInt64
  errorCount : UInt64
  latencies : List Nat
  messageCountsByType : TypeCounts
  deriving DecidableEq, Repr

def MetricsBucket.new (timestamp : Nat) : MetricsBucket := ⟨timestamp, 0, 0, [], []⟩

structure HandleInner where
  buckets : List MetricsBucket
  deriving DecidableEq, Repr

namespace HandleInner

def new : HandleInner := ⟨[]⟩

def evictExpired (inner : HandleInner) (window now : Nat) : HandleInner :=
  ⟨inner.buckets.dropWhile fun front => durationSince now front.timestamp > window⟩

/-- `current_bucket`: the buckets before it, and the one to write to. -/
def currentBucket (inner : HandleInner) (bucketDuration window now : Nat) :
    List MetricsBucket × MetricsBucket :=
  let inner := inner.evictExpired window now
  match inner.buckets.getLast? with
  | some last =>
    -- a bucket is full by age, not by size
    if durationSince now last.timestamp ≥ bucketDuration then (inner.buckets, .new now)
    else (inner.buckets.dropLast, last)
  | none => (inner.buckets, .new now)

/-- Write to the current bucket. -/
def writeCurrent (inner : HandleInner) (bucketDuration window now : Nat)
    (write : MetricsBucket → MetricsBucket) : HandleInner :=
  let r := inner.currentBucket bucketDuration window now
  ⟨r.1 ++ [write r.2]⟩

def activeBuckets (inner : HandleInner) (window now : Nat) : List MetricsBucket :=
  inner.buckets.filter fun b => durationSince now b.timestamp ≤ window

def windowedMessageCount (inner : HandleInner) (window now : Nat) : UInt64 :=
  ((inner.activeBuckets window now).map MetricsBucket.messageCount).sum

def windowedErrorCount (inner : HandleInner) (window now : Nat) : UInt64 :=
  ((inner.activeBuckets window now).map MetricsBucket.errorCount).sum

end HandleInner

/-! ### Handles -/

/-- `inner` is behind a mutex, which is `poisoned` once a snapshot has panicked. -/
structure ActorMetricsHandle where
  messageCount : UInt64
  errorCount : UInt64
  inner : HandleInner
  poisoned : Bool
  window : Nat
  bucketDuration : Nat
  deriving DecidableEq, Repr

/-- A snapshot, with the windowed counts and the latencies that its figures are
made from. -/
structure ActorMetricsSnapshot where
  messageCount : UInt64
  errorCount : UInt64
  windowedMessages : UInt64
  windowedErrors : UInt64
  messageRate : Float
  errorRate : Float
  messageCountsByType : TypeCounts
  latencies : List Nat
  avgLatency : Option Nat
  maxLatency : Option Nat
  p99Latency : Option Nat

/-- `Duration::as_secs_f64`. -/
def asSecsF64 (d : Nat) : Float := Float.ofNat (d / 10 ^ 9) + Float.ofNat (d % 10 ^ 9) / 1e9

/-- A windowed count for each second of the window. -/
def rate (count : UInt64) (window : Nat) : Float :=
  if 0 < asSecsF64 window then count.toFloat / asSecsF64 window else 0

/-- The sum and its division by `len() as u32`, for which there may be no
result. -/
def Averages (latencies : List Nat) : Prop :=
  latencies.sum ≤ durationMax ∧ (latencies = [] ∨ latencies.length % 2 ^ 32 ≠ 0)

instance (latencies : List Nat) : Decidable (Averages latencies) :=
  inferInstanceAs (Decidable (_ ∧ _))

def average (latencies : List Nat) : Option Nat :=
  if latencies = [] then none else some (latencies.sum / (latencies.length % 2 ^ 32))

/-- The index into the sorted latencies, in floating point as the source has it. -/
def p99Index (len : Nat) : Nat := (Float.ofNat len * 0.99).ceil.toUInt64.toNat - 1

def p99 (latencies : List Nat) : Option Nat :=
  (latencies.insertionSort (· ≤ ·))[min (p99Index latencies.length) (latencies.length - 1)]?

namespace ActorMetricsHandle

def new (window bucketDuration : Nat) : ActorMetricsHandle :=
  ⟨0, 0, .new, false, window, bucketDuration⟩

/-- Lock, and write to the current bucket; on a poisoned mutex the call panics. -/
def write (h : ActorMetricsHandle) (now : Nat) (write : MetricsBucket → MetricsBucket) :
    HandleInner :=
  if h.poisoned then h.inner else h.inner.writeCurrent h.bucketDuration h.window now write

def recordMessage (h : ActorMetricsHandle) (messageType : String) (now : Nat) :
    ActorMetricsHandle :=
  { h with
    messageCount := h.messageCount + 1
    inner := h.write now fun bucket =>
      { bucket with
        messageCount := bucket.messageCount + 1
        messageCountsByType := bucket.messageCountsByType.add messageType 1 } }

def recordError (h : ActorMetricsHandle) (now : Nat) : ActorMetricsHandle :=
  { h with
    errorCount := h.errorCount + 1
    inner := h.write now fun bucket => { bucket with errorCount := bucket.errorCount + 1 } }

def recordLatency (h : ActorMetricsHandle) (latency now : Nat) : ActorMetricsHandle :=
  { h with
    inner := h.write now fun bucket => { bucket with latencies := bucket.latencies ++ [latency] } }

/-- The latencies in the window. -/
def activeLatencies (h : ActorMetricsHandle) (now : Nat) : List Nat :=
  (h.inner.activeBuckets h.window now).flatMap MetricsBucket.latencies

/-- What a snapshot returns, when it does not panic. -/
def figures (h : ActorMetricsHandle) (now : Nat) : ActorMetricsSnapshot :=
  let windowedMessages := h.inner.windowedMessageCount h.window now
  let windowedErrors := h.inner.windowedErrorCount h.window now
  let latencies := h.activeLatencies now
  { messageCount := h.messageCount
    errorCount := h.errorCount
    windowedMessages
    windowedErrors
    messageRate := rate windowedMessages h.window
    errorRate := rate windowedErrors h.window
    messageCountsByType := (h.inner.activeBuckets h.window now).foldl
      (fun byType bucket => byType.merge bucket.messageCountsByType) []
    latencies
    avgLatency := average latencies
    maxLatency := latencies.max?
    p99Latency := p99 latencies }

/-- `none` stands for a panic. -/
def snapshot (h : ActorMetricsHandle) (now : Nat) : Option ActorMetricsSnapshot :=
  if h.poisoned then none
  else if Averages (h.activeLatencies now) then some (h.figures now) else none

end ActorMetricsHandle

/-! ### Calls -/

inductive MetricsEvent
  | message (messageType : String)
  | error
  | latency (d : Nat)
  deriving DecidableEq, Repr

/-- A call of the handle. -/
inductive MetricsCall
  | record (event : MetricsEvent)
  | snapshot
  deriving DecidableEq, Repr

/-- An event and its instant. -/
abbrev TimedEvent := MetricsEvent × Nat

def ActorMetricsHandle.record (h : ActorMetricsHandle) : TimedEvent → ActorMetricsHandle
  | (.message messageType, now) => h.recordMessage messageType now
  | (.error, now) => h.recordError now
  | (.latency d, now) => h.recordLatency d now

/-- A snapshot only reads, unless it panics with the lock held. -/
def ActorMetricsHandle.call (h : ActorMetricsHandle) : MetricsCall × Nat → ActorMetricsHandle
  | (.record event, now) => h.record (event, now)
  | (.snapshot, now) => { h with poisoned := (h.snapshot now).isNone }

/-- A snapshot finds latencies that it can average. -/
def ActorMetricsHandle.Fits (h : ActorMetricsHandle) : MetricsCall × Nat → Prop
  | (.record _, _) => True
  | (.snapshot, now) => Averages (h.activeLatencies now)

instance ActorMetricsHandle.decidableFits (h : ActorMetricsHandle) :
    (call : MetricsCall × Nat) → Decidable (h.Fits call)
  | (.record _, _) => isTrue trivial
  | (.snapshot, now) => inferInstanceAs (Decidable (Averages (h.activeLatencies now)))

namespace Metrics

/-- The events of the calls. -/
def recordedEvents (calls : List (MetricsCall × Nat)) : List TimedEvent :=
  calls.filterMap fun call =>
    match call.1 with
    | .record event => some (event, call.2)
    | .snapshot => none

/-- They come in the order of the calls. -/
theorem recordedEvents_pairwise {calls : List (MetricsCall × Nat)}
    (horder : calls.Pairwise fun x y => x.2 ≤ y.2) :
    (recordedEvents calls).Pairwise fun x y => x.2 ≤ y.2 := by
  apply List.Pairwise.filterMap _ _ horder
  rintro ⟨call, t⟩ ⟨call', t'⟩ hle e he e' he'
  cases call <;> cases he
  cases call' <;> cases he'
  exact hle

def messageTypes (events : List TimedEvent) : List String :=
  events.filterMap fun e =>
    match e.1 with
    | .message messageType => some messageType
    | _ => none

def errors (events : List TimedEvent) : Nat := events.countP fun e => e.1 = .error

def latencies (events : List TimedEvent) : List Nat :=
  events.filterMap fun e =>
    match e.1 with
    | .latency d => some d
    | _ => none

/-- The map of counts that counts these types. -/
def tally (types : List String) : TypeCounts :=
  types.foldl (fun counts messageType => counts.add messageType 1) []

theorem messageTypes_append (events more : List TimedEvent) :
    messageTypes (events ++ more) = messageTypes events ++ messageTypes more :=
  List.filterMap_append

theorem errors_append (events more : List TimedEvent) :
    errors (events ++ more) = errors events + errors more :=
  List.countP_append

theorem latencies_append (events more : List TimedEvent) :
    latencies (events ++ more) = latencies events ++ latencies more :=
  List.filterMap_append

theorem tally_concat (types : List String) (messageType : String) :
    tally (types ++ [messageType]) = (tally types).add messageType 1 :=
  List.foldl_concat ..

/-- Counts are merged by counting on. -/
theorem merge_tally (types more : List String) :
    (tally types).merge (tally more) = tally (types ++ more) := by
  induction more using List.reverseRecOn with
  | nil =>
      rw [List.append_nil]
      rfl
  | append_singleton more messageType ih =>
      rw [tally_concat, TypeCounts.merge_add, ih, ← List.append_assoc, tally_concat]

theorem total_tally (types : List String) :
    (tally types).total = UInt64.ofNat types.length := by
  induction types using List.reverseRecOn with
  | nil => rfl
  | append_singleton types messageType ih =>
      rw [tally_concat, TypeCounts.total_add, ih, List.length_append, UInt64.ofNat_add]
      rfl

theorem lookup_tally (types : List String) (k : String) : (tally types).lookup k =
    if k ∈ types then some (UInt64.ofNat (types.count k)) else none := by
  induction types using List.reverseRecOn with
  | nil => rfl
  | append_singleton types messageType ih =>
      rw [tally_concat, TypeCounts.lookup_add, ih]
      by_cases hk : k = messageType
      · subst hk
        by_cases hmem : k ∈ types
        · simp [hmem, UInt64.ofNat_add]
        · simp [hmem, List.count_eq_zero_of_not_mem hmem]
      · simp [hk, Ne.symm hk]

end Metrics

/-! ### Buckets and windows -/

open Metrics

/-- What recording an event writes to the current bucket. -/
def MetricsBucket.record (bucket : MetricsBucket) (e : TimedEvent) : MetricsBucket :=
  match e.1 with
  | .message messageType =>
    { bucket with
      messageCount := bucket.messageCount + 1
      messageCountsByType := bucket.messageCountsByType.add messageType 1 }
  | .error => { bucket with errorCount := bucket.errorCount + 1 }
  | .latency d => { bucket with latencies := bucket.latencies ++ [d] }

/-- The bucket of a window of events. -/
def summary (w : Window TimedEvent) : MetricsBucket :=
  w.arrivals.foldl MetricsBucket.record (.new w.start)

theorem summary_eq (start : Nat) (events : List TimedEvent) :
    summary ⟨start, events⟩ = ⟨start, UInt64.ofNat (messageTypes events).length,
      UInt64.ofNat (errors events), latencies events, tally (messageTypes events)⟩ := by
  induction events using List.reverseRecOn with
  | nil => rfl
  | append_singleton events e ih =>
      obtain ⟨event, now⟩ := e
      rw [summary, List.foldl_concat]
      rw [summary] at ih
      rw [ih]
      cases event with
      | message messageType =>
          simp [MetricsBucket.record, messageTypes, errors, latencies, tally, UInt64.ofNat_add]
      | error => simp [MetricsBucket.record, messageTypes, errors, latencies, UInt64.ofNat_add]
      | latency d => simp [MetricsBucket.record, messageTypes, errors, latencies]

theorem summary_timestamp (w : Window TimedEvent) : (summary w).timestamp = w.start := by
  rw [summary_eq]

/-- The windows of the events: one is over when it is a bucket's duration
old. -/
def bucketWindows (bucketDuration : Nat) (events : List TimedEvent) : List (Window TimedEvent) :=
  windows Prod.snd (fun start t => bucketDuration ≤ t - start) events

theorem ActorMetricsHandle.record_eq (h : ActorMetricsHandle) (e : TimedEvent) :
    (h.record e).window = h.window ∧ (h.record e).bucketDuration = h.bucketDuration ∧
      (h.record e).poisoned = h.poisoned ∧
      (h.record e).inner = h.write e.2 fun bucket => bucket.record e := by
  obtain ⟨event, now⟩ := e
  cases event <;> exact ⟨rfl, rfl, rfl, rfl⟩

/-- A poisoned mutex stays poisoned. -/
theorem ActorMetricsHandle.not_poisoned_of_call {h : ActorMetricsHandle} {c : MetricsCall × Nat}
    (hsound : (h.call c).poisoned = false) : h.poisoned = false := by
  obtain ⟨call, now⟩ := c
  cases call with
  | record event =>
      obtain ⟨-, -, hpoisoned, -⟩ := h.record_eq (event, now)
      exact hpoisoned.symm.trans hsound
  | snapshot =>
      by_contra hpoisoned
      have hnone : h.snapshot now = none := if_pos (Bool.eq_true_of_not_eq_false hpoisoned)
      rw [call, hnone] at hsound
      cases hsound

/-- An event is written to the bucket of its window. -/
theorem HandleInner.writeCurrent_eq {inner : HandleInner} {live : List (Window TimedEvent)}
    (hlive : inner.buckets = live.map summary) (bucketDuration window : Nat) (e : TimedEvent) :
    (inner.writeCurrent bucketDuration window e.2 fun bucket => bucket.record e).buckets =
      (addArrival Prod.snd (fun start t => bucketDuration ≤ t - start)
        (live.dropWhile fun w => window < e.2 - w.start) e).map summary := by
  have hevict : (inner.evictExpired window e.2).buckets
      = (live.dropWhile fun w => window < e.2 - w.start).map summary := by
    rw [evictExpired, hlive, List.dropWhile_map]
    simp only [Function.comp_def, summary_timestamp, durationSince, gt_iff_lt]
  simp only [writeCurrent, currentBucket, hevict]
  generalize live.dropWhile (fun w => decide (window < e.2 - w.start)) = rest
  rcases List.eq_nil_or_concat' rest with rfl | ⟨front, w, rfl⟩
  · rfl
  · simp only [List.map_append, List.map_cons, List.map_nil, List.getLast?_concat,
      summary_timestamp, durationSince, List.dropLast_concat, addArrival, place]
    by_cases hfull : bucketDuration ≤ e.2 - w.start
    · rw [if_pos hfull, if_pos hfull, List.map_append]
      rfl
    · rw [if_neg hfull, if_neg hfull]
      show _ ++ [(summary w).record e] = _ ++ [(w.arrivals ++ [e]).foldl _ _]
      rw [List.foldl_concat]
      rfl

/-- The handle and the windows of the events so far: as long as no snapshot has
panicked, its buckets are those of the last windows, and the others have left
the window of the metrics. -/
structure ActorMetricsHandle.Bucketed (window bucketDuration now : Nat) (events : List TimedEvent)
    (h : ActorMetricsHandle) : Prop where
  config : h.window = window ∧ h.bucketDuration = bucketDuration
  messages : h.messageCount = UInt64.ofNat (messageTypes events).length
  errors : h.errorCount = UInt64.ofNat (errors events)
  buckets : h.poisoned = false → ∃ gone live, bucketWindows bucketDuration events = gone ++ live ∧
    h.inner.buckets = live.map summary ∧ ∀ w ∈ gone, window < now - w.start

section Runs

variable {window bucketDuration now : Nat} {events : List TimedEvent} {h : ActorMetricsHandle}

theorem ActorMetricsHandle.Bucketed.later (hb : h.Bucketed window bucketDuration now events)
    {now' : Nat} (hle : now ≤ now') : h.Bucketed window bucketDuration now' events := by
  refine ⟨hb.config, hb.messages, hb.errors, fun hsound => ?_⟩
  obtain ⟨gone, live, hws, hlive, hgone⟩ := hb.buckets hsound
  refine ⟨gone, live, hws, hlive, ?_⟩
  intro w hw
  have hlt := hgone w hw
  omega

theorem ActorMetricsHandle.Bucketed.record (hb : h.Bucketed window bucketDuration now events)
    (hle : bucketDuration ≤ window) {e : TimedEvent} (hnow : now ≤ e.2) :
    (h.record e).Bucketed window bucketDuration e.2 (events ++ [e]) := by
  obtain ⟨⟨rfl, rfl⟩, hmessages, herrors, hbuckets⟩ := hb.later hnow
  obtain ⟨hwindow, hduration, hpoisoned, hinner⟩ := h.record_eq e
  refine ⟨⟨hwindow, hduration⟩, ?_, ?_, fun hsound => ?_⟩
  · obtain ⟨event, t⟩ := e
    cases event with
    | message messageType =>
        simp [ActorMetricsHandle.record, recordMessage, messageTypes, hmessages, UInt64.ofNat_add]
    | error => simp [ActorMetricsHandle.record, recordError, messageTypes, hmessages]
    | latency d => simp [ActorMetricsHandle.record, recordLatency, messageTypes, hmessages]
  · obtain ⟨event, t⟩ := e
    cases event with
    | message messageType =>
        simp [ActorMetricsHandle.record, recordMessage, Metrics.errors, herrors]
    | error =>
        simp [ActorMetricsHandle.record, recordError, Metrics.errors, herrors, UInt64.ofNat_add]
    | latency d => simp [ActorMetricsHandle.record, recordLatency, Metrics.errors, herrors]
  · rw [hpoisoned] at hsound
    obtain ⟨gone, live, hws, hlive, hgone⟩ := hbuckets hsound
    rw [ActorMetricsHandle.write, hsound, if_neg Bool.false_ne_true] at hinner
    -- what is evicted has been open for a bucket's duration, so the event does not join it
    have hout : ∀ w ∈ gone ++ live.takeWhile (fun w => h.window < e.2 - w.start),
        h.window < e.2 - w.start := by
      intro w hw
      rcases List.mem_append.mp hw with hw | hw
      · exact hgone w hw
      · have hlong := List.mem_takeWhile_imp hw
        exact of_decide_eq_true hlong
    refine ⟨_, _, ?_, by rw [hinner]; exact HandleInner.writeCurrent_eq hlive .., hout⟩
    rw [bucketWindows, windows_concat, ← bucketWindows, hws]
    nth_rewrite 1 [← List.takeWhile_append_dropWhile (p := fun w => h.window < e.2 - w.start)
      (l := live)]
    rw [← List.append_assoc]
    exact addArrival_append fun w hw => Nat.le_trans hle (Nat.le_of_lt (hout w hw))

theorem ActorMetricsHandle.bucketed (hle : bucketDuration ≤ window)
    {calls : List (MetricsCall × Nat)} (horder : calls.Pairwise fun x y => x.2 ≤ y.2)
    {now : Nat} (hnow : ∀ c ∈ calls, c.2 ≤ now) :
    (run ActorMetricsHandle.call (.new window bucketDuration) calls).Bucketed
      window bucketDuration now (recordedEvents calls) := by
  induction calls using List.reverseRecOn generalizing now with
  | nil => exact ⟨⟨rfl, rfl⟩, rfl, rfl, fun _ => ⟨[], [], rfl, rfl, fun w hw => (by cases hw)⟩⟩
  | append_singleton calls call ih =>
      obtain ⟨hbefore, -, hlast⟩ := List.pairwise_append.mp horder
      have hb := ih hbefore fun c hc => hlast c hc call List.mem_cons_self
      have hcall : call.2 ≤ now := hnow call (by simp)
      rw [run_append, recordedEvents, List.filterMap_append, ← recordedEvents]
      obtain ⟨call, t⟩ := call
      cases call with
      | record event => exact (hb.record hle (e := (event, t)) (Nat.le_refl t)).later hcall
      | snapshot =>
          rw [List.filterMap_cons_none rfl, List.filterMap_nil, List.append_nil]
          have hb := hb.later hcall
          refine ⟨hb.config, hb.messages, hb.errors, fun hsound => hb.buckets ?_⟩
          exact ActorMetricsHandle.not_poisoned_of_call (c := (.snapshot, t)) hsound

end Runs

/-! ### Panics -/

/-- A snapshot that panics on a sound handle is one that does not fit. -/
theorem ActorMetricsHandle.not_poisoned_iff {h : ActorMetricsHandle} (hsound : h.poisoned = false)
    (c : MetricsCall × Nat) : (h.call c).poisoned = false ↔ h.Fits c := by
  obtain ⟨call, now⟩ := c
  cases call with
  | record event =>
      obtain ⟨-, -, hpoisoned, -⟩ := h.record_eq (event, now)
      exact iff_of_true (hpoisoned.trans hsound) trivial
  | snapshot =>
      show (h.snapshot now).isNone = false ↔ Averages (h.activeLatencies now)
      rw [snapshot, hsound, if_neg Bool.false_ne_true]
      by_cases hfits : Averages (h.activeLatencies now)
      · exact iff_of_true (by rw [if_pos hfits]; rfl) hfits
      · exact iff_of_false (by rw [if_neg hfits]; exact Bool.noConfusion) hfits

/-- The handle is sound exactly after the runs in which every snapshot fits. -/
theorem ActorMetricsHandle.run_not_poisoned_iff (window bucketDuration : Nat)
    (calls : List (MetricsCall × Nat)) :
    (run call (new window bucketDuration) calls).poisoned = false ↔
      Admissible call Fits (new window bucketDuration) calls := by
  rw [← always_iff_admissible (P := fun h => h.poisoned = false)
    (fun h c hsound => not_poisoned_iff hsound c) rfl]
  constructor
  · have hback : ∀ (h : ActorMetricsHandle) c, True → (h.call c).poisoned = false →
        h.poisoned = false := fun _ _ _ hsound => not_poisoned_of_call hsound
    exact @always_of_last _ _ call (fun h => h.poisoned = false) (fun _ => True) (fun _ _ h => h)
      hback _ calls trivial
  · exact Always.last

/-- The snapshots that return. -/
theorem ActorMetricsHandle.snapshot_isSome_iff (window bucketDuration : Nat)
    (calls : List (MetricsCall × Nat)) (q : Nat) :
    ((run call (new window bucketDuration) calls).snapshot q).isSome = true ↔
      Admissible call Fits (new window bucketDuration) (calls ++ [(.snapshot, q)]) := by
  rw [← run_not_poisoned_iff, run_append]
  show _ ↔ ((run call (new window bucketDuration) calls).snapshot q).isNone = false
  rw [Option.isNone_eq_false_iff]

/-! ### Snapshots -/

/-- The windowed part of a snapshot counts exactly these events. -/
structure ActorMetricsSnapshot.Counts (s : ActorMetricsSnapshot) (events : List TimedEvent) :
    Prop where
  messages : s.windowedMessages = UInt64.ofNat (messageTypes events).length
  errors : s.windowedErrors = UInt64.ofNat (Metrics.errors events)
  latencies : s.latencies = Metrics.latencies events
  average : s.avgLatency = average (Metrics.latencies events)
  max : s.maxLatency = (Metrics.latencies events).max?
  p99 : (s.p99Latency = none ↔ Metrics.latencies events = []) ∧
    ∀ d ∈ s.p99Latency, d ∈ Metrics.latencies events
  byType : ∀ messageType, s.messageCountsByType.lookup messageType =
    if messageType ∈ messageTypes events then
      some (UInt64.ofNat ((messageTypes events).count messageType))
    else none

theorem sum_messageCount (ws : List (Window TimedEvent)) :
    ((ws.map summary).map MetricsBucket.messageCount).sum
      = UInt64.ofNat (messageTypes (ws.flatMap Window.arrivals)).length := by
  induction ws with
  | nil => rfl
  | cons w ws ih =>
      rw [List.map_cons, List.map_cons, List.sum_cons, ih, summary_eq, List.flatMap_cons,
        messageTypes_append, List.length_append, UInt64.ofNat_add]

theorem sum_errorCount (ws : List (Window TimedEvent)) :
    ((ws.map summary).map MetricsBucket.errorCount).sum
      = UInt64.ofNat (errors (ws.flatMap Window.arrivals)) := by
  induction ws with
  | nil => rfl
  | cons w ws ih =>
      rw [List.map_cons, List.map_cons, List.sum_cons, ih, summary_eq, List.flatMap_cons,
        errors_append, UInt64.ofNat_add]

theorem merge_summaries (ws : List (Window TimedEvent)) (types : List String) :
    (ws.map summary).foldl (fun byType bucket => byType.merge bucket.messageCountsByType)
        (tally types)
      = tally (types ++ messageTypes (ws.flatMap Window.arrivals)) := by
  induction ws generalizing types with
  | nil =>
      rw [List.flatMap_nil]
      exact congrArg tally (List.append_nil types).symm
  | cons w ws ih =>
      rw [List.map_cons, List.foldl_cons, summary_eq, merge_tally, ih, List.flatMap_cons,
        List.append_assoc, messageTypes_append]

theorem flatMap_latencies (ws : List (Window TimedEvent)) :
    (ws.map summary).flatMap MetricsBucket.latencies
      = latencies (ws.flatMap Window.arrivals) := by
  induction ws with
  | nil => rfl
  | cons w ws ih =>
      rw [List.map_cons, List.flatMap_cons, ih, summary_eq, List.flatMap_cons, latencies_append]

section Snapshot

variable {h : ActorMetricsHandle} {now : Nat} {ws : List (Window TimedEvent)}

theorem ActorMetricsHandle.figures_byType
    (hactive : h.inner.activeBuckets h.window now = ws.map summary) :
    (h.figures now).messageCountsByType
      = tally (messageTypes (ws.flatMap Window.arrivals)) := by
  show (h.inner.activeBuckets h.window now).foldl _ [] = _
  rw [hactive]
  exact merge_summaries ws []

/-- Whatever the index, the 99th percentile is one of the latencies. -/
theorem p99_spec (latencies : List Nat) :
    (p99 latencies = none ↔ latencies = []) ∧ ∀ d ∈ p99 latencies, d ∈ latencies := by
  have hperm := List.perm_insertionSort (· ≤ ·) latencies
  constructor
  · rw [p99, List.getElem?_eq_none_iff, hperm.length_eq, ← List.length_eq_zero_iff]
    omega
  · intro d hd
    exact hperm.mem_iff.mp (List.mem_of_getElem? hd)

/-- A snapshot counts the events of the active buckets. -/
theorem ActorMetricsHandle.figures_counts
    (hactive : h.inner.activeBuckets h.window now = ws.map summary) :
    (h.figures now).Counts (ws.flatMap Window.arrivals) := by
  have hlatencies : h.activeLatencies now = Metrics.latencies (ws.flatMap Window.arrivals) := by
    rw [activeLatencies, hactive]
    exact flatMap_latencies ws
  refine ⟨?_, ?_, hlatencies, congrArg average hlatencies, congrArg List.max? hlatencies, ?_, ?_⟩
  · show h.inner.windowedMessageCount h.window now = _
    rw [HandleInner.windowedMessageCount, hactive]
    exact sum_messageCount ws
  · show h.inner.windowedErrorCount h.window now = _
    rw [HandleInner.windowedErrorCount, hactive]
    exact sum_errorCount ws
  · rw [← hlatencies]
    exact p99_spec _
  · intro messageType
    rw [figures_byType hactive]
    exact lookup_tally _ messageType

end Snapshot

/-- The active buckets are those of the last windows. -/
theorem HandleInner.activeBuckets_split {inner : HandleInner} {live : List (Window TimedEvent)}
    (hlive : inner.buckets = live.map summary)
    (hstarts : live.Pairwise fun v w => v.start ≤ w.start) (window now : Nat) :
    ∃ expired active, live = expired ++ active ∧ (∀ w ∈ expired, window < now - w.start) ∧
      (∀ w ∈ active, now - w.start ≤ window) ∧
      inner.activeBuckets window now = active.map summary := by
  let out := fun w : Window TimedEvent => decide (window < now - w.start)
  have hlate : live.Pairwise fun v w => out w = true → out v = true := by
    apply hstarts.imp
    intro v w hle hw
    have hlt : window < now - w.start := of_decide_eq_true hw
    exact decide_eq_true (show window < now - v.start by omega)
  have hdrop : live.filter (fun w => !out w) = live.dropWhile out := filter_eq_dropWhile hlate
  refine ⟨live.takeWhile out, live.dropWhile out, List.takeWhile_append_dropWhile.symm, ?_, ?_, ?_⟩
  · intro w hw
    have hout := List.mem_takeWhile_imp hw
    exact of_decide_eq_true hout
  · intro w hw
    rw [← hdrop] at hw
    have hin := (List.mem_filter.mp hw).2
    simpa [out] using hin
  · rw [activeBuckets, hlive, List.filter_map, ← hdrop]
    congr 1
    apply List.filter_congr
    intro w _
    show decide (now - (summary w).timestamp ≤ window) = !decide (window < now - w.start)
    rw [summary_timestamp, Bool.eq_iff_iff]
    simp

/-- Of the events recorded so far, the snapshot at `q` counts a final part: all
those at or after `q - (window - bucket_duration)` and none before
`q - window`.  Buckets are at least `bucket_duration` apart, the counts by type
sum up to the count of messages, and the all-time counters count all calls. -/
structure ActorMetricsHandle.Sandwiched (h : ActorMetricsHandle) (q : Nat)
    (events : List TimedEvent) (s : ActorMetricsSnapshot) : Prop where
  counts : ∃ old counted, events = old ++ counted ∧
    (∀ e ∈ old, e.2 + (h.window - h.bucketDuration) < q) ∧
    (∀ e ∈ counted, q ≤ e.2 + h.window) ∧ s.Counts counted
  apart : h.inner.buckets.Pairwise fun a b =>
    a.timestamp < b.timestamp ∧ a.timestamp + h.bucketDuration ≤ b.timestamp
  byType : s.messageCountsByType.total = s.windowedMessages
  messages : s.messageCount = UInt64.ofNat (messageTypes events).length
  errors : s.errorCount = UInt64.ofNat (Metrics.errors events)

theorem ActorMetricsHandle.Bucketed.sandwiched {h : ActorMetricsHandle}
    {window bucketDuration q : Nat} {events : List TimedEvent}
    (hb : h.Bucketed window bucketDuration q events) (hpos : 0 < bucketDuration)
    (hle : bucketDuration ≤ window) (horder : events.Pairwise fun x y => x.2 ≤ y.2) (hsound : h.poisoned = false) :
    h.Sandwiched q events (h.figures q) := by
  obtain ⟨⟨rfl, rfl⟩, hmessages, herrors, hbuckets⟩ := hb
  obtain ⟨gone, live, hws, hlive, hgone⟩ := hbuckets hsound
  have hself : ∀ t, ¬ h.bucketDuration ≤ t - t := by omega
  obtain ⟨hcut, hopened⟩ :
      Cut Prod.snd (fun start t => h.bucketDuration ≤ t - start) events (gone ++ live) ∧
        ∀ w ∈ gone ++ live, w.Opened Prod.snd := by
    rw [← hws]
    exact windows_cut hself events
  have hstarts := (List.pairwise_append.mp (hcut.starts hpos)).2.1
  obtain ⟨expired, active, rfl, hexpired, hin, hactive⟩ := HandleInner.activeBuckets_split hlive
    (hstarts.imp fun hvw => Nat.le_trans (Nat.le_add_right _ _) hvw) h.window q
  have hcounts := ActorMetricsHandle.figures_counts hactive
  refine ⟨?_, ?_, ?_, hmessages, herrors⟩
  · refine ⟨(gone ++ expired).flatMap Window.arrivals, active.flatMap Window.arrivals, ?_, ?_, ?_,
      hcounts⟩
    · rw [← hcut.flatten, ← List.flatMap_append, List.append_assoc]
    · -- an event is less than a bucket's duration younger than its bucket
      intro e he
      obtain ⟨w, hw, he⟩ := List.mem_flatMap.mp he
      have hout : h.window < q - w.start := by
        rcases List.mem_append.mp hw with hw | hw
        · exact hgone w hw
        · exact hexpired w hw
      have hyoung : ¬ h.bucketDuration ≤ e.2 - w.start :=
        hcut.inside w (by rw [← List.append_assoc]; exact List.mem_append_left _ hw) e he
      omega
    · intro e he
      obtain ⟨w, hw, he⟩ := List.mem_flatMap.mp he
      have hlast := hin w hw
      have hle : w.start ≤ e.2 := hcut.start_le hopened horder w (by simp [hw]) e he
      omega
  · rw [hlive, List.pairwise_map]
    apply hstarts.imp
    intro v w hvw
    rw [summary_timestamp, summary_timestamp]
    omega
  · rw [hcounts.messages, ActorMetricsHandle.figures_byType hactive, total_tally]

/-- **Windowed metrics lie between two exact windows, unless a snapshot
panics.**  After any calls at non-decreasing times, a snapshot at `q` returns,
and lies between the two windows, exactly if it and all snapshots before it find
latencies that they can average; whether they do or not, the all-time counters
count all calls. -/
theorem windowed_metrics_sandwiched (window bucketDuration : Nat) (hpos : 0 < bucketDuration)
    (hle : bucketDuration ≤ window) (calls : List (MetricsCall × Nat))
    (horder : calls.Pairwise fun x y => x.2 ≤ y.2) (q : Nat) (hq : ∀ c ∈ calls, c.2 ≤ q) :
    let h := run ActorMetricsHandle.call (.new window bucketDuration) calls
    (h.window = window ∧ h.bucketDuration = bucketDuration) ∧
    ((∃ s, h.snapshot q = some s ∧ h.Sandwiched q (recordedEvents calls) s) ↔
      Admissible ActorMetricsHandle.call ActorMetricsHandle.Fits (.new window bucketDuration)
        (calls ++ [(.snapshot, q)])) ∧
    h.messageCount = UInt64.ofNat (messageTypes (recordedEvents calls)).length ∧
    h.errorCount = UInt64.ofNat (errors (recordedEvents calls)) := by
  intro h
  have hb : h.Bucketed window bucketDuration q (recordedEvents calls) :=
    ActorMetricsHandle.bucketed hle horder hq
  refine ⟨hb.config, ?_, hb.messages, hb.errors⟩
  rw [← ActorMetricsHandle.snapshot_isSome_iff]
  constructor
  · rintro ⟨s, hs, -⟩
    exact Option.isSome_of_eq_some hs
  · intro hsome
    obtain ⟨s, hs⟩ := Option.isSome_iff_exists.mp hsome
    have hsound : h.poisoned = false := by
      by_contra hpoisoned
      rw [ActorMetricsHandle.snapshot, if_pos (Bool.eq_true_of_not_eq_false hpoisoned)] at hs
      cases hs
    have hfigures : s = h.figures q := by
      rw [ActorMetricsHandle.snapshot, hsound, if_neg Bool.false_ne_true] at hs
      split at hs
      · exact (Option.some.inj hs).symm
      · cases hs
    refine ⟨s, hs, ?_⟩
    rw [hfigures]
    exact hb.sandwiched hpos hle (recordedEvents_pairwise horder) hsound

/-- A window of ten with buckets of four: the message at zero is in the
bucket that has left the window at eleven, and the one at three, which is
less than ten old, went with it. -/
theorem windowed_metrics_sandwiched_twoBuckets :
    let calls := [(MetricsCall.record (.message "Ping"), 0), (.record (.message "Ping"), 3),
      (.record (.latency 7), 4), (.snapshot, 5), (.record (.message "Pong"), 9)]
    let h := run ActorMetricsHandle.call (.new 10 4) calls
    h.inner.buckets.map MetricsBucket.timestamp = [0, 4, 9] ∧
      ∃ s, h.snapshot 11 = some s ∧ s.messageCountsByType = [("Pong", 1)] ∧
        s.messageCount = 3 ∧ s.avgLatency = some 7 ∧
        h.Sandwiched 11 (recordedEvents calls) s := by
  intro calls h
  obtain ⟨-, hiff, -⟩ := windowed_metrics_sandwiched 10 4 (by decide) (by decide) calls
    (by decide) 11 (by decide)
  obtain ⟨s, hs, hsandwiched⟩ := hiff.mpr (by decide)
  have hfigures : s = h.figures 11 := (Option.some.inj hs).symm
  refine ⟨by decide, s, hs, ?_, ?_, ?_, hsandwiched⟩
  all_goals
    rw [hfigures]
    decide

/-- Two latencies whose sum is no `Duration`: the snapshot panics, and so does a
later one, when they have left the window. -/
theorem windowed_metrics_overflow :
    let calls := [(MetricsCall.record (.latency durationMax), 0), (.record (.latency 1), 1)]
    let h := run ActorMetricsHandle.call (.new 10 4) calls
    h.snapshot 2 = none ∧ (h.call (.snapshot, 2)).snapshot 30 = none ∧
      h.activeLatencies 30 = [] := by
  decide

end Dactor
