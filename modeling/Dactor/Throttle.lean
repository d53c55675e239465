/-
Dactor/Throttle.lean

The limit on the rate of sends to an actor (`ActorRateLimiter`).

For every target the limiter keeps a counter and the instant at which its
window was opened.  Sends up to the limit go on, those up to twice the limit
are delayed, and the rest is rejected.  Both thresholds are computed in
`u64`: the doubling overflows for a limit from `2 ^ 63` on, and the backoff
for an excess above a tenth of the range.  Either panics while the mutex is
held, and no later call gets past the poisoned lock.

Main result: `throttle_grades_iff`.
-/
import Dactor.Outbound
import Dactor.Runs
import Dactor.Tumbling

namespace Dactor

open Runs Tumbling

structure ActorRateLimiter where
  maxRate : UInt64
  window : Nat
  counts : ActorId → Option (UInt64 × Nat)
  poisoned : Bool

namespace ActorRateLimiter

def new (maxRate : UInt64) (window : Nat) : ActorRateLimiter :=
  ⟨maxRate, window, fun _ => none, false⟩

/-- The entry of the target once this send is counted; `none` stands for a
panic. -/
def countSend (l : ActorRateLimiter) (target : ActorId) (now : Nat) : Option (UInt64 × Nat) :=
  let entry := (l.counts target).getD (0, now)
  -- the send that opens a window is its first
  if durationSince now entry.2 > l.window then some (1, now)
  else (addChecked entry.1 1).map fun count => (count, entry.2)

def rejection (maxRate : UInt64) (targetName : String) (count : UInt64) : Disposition :=
  .reject ("actor " ++ targetName ++ " exceeded 2× rate limit (" ++ toString count ++
    " messages, limit " ++ toString maxRate ++ ")")

/-- The decision for the send with this count. -/
def dispositionFor (maxRate : UInt64) (targetName : String) (count : UInt64) :
    Option Disposition :=
  -- the doubled limit is computed for every send, also for the first
  match mulChecked maxRate 2 with
  | none => none
  | some limit =>
    if count > limit then some (rejection maxRate targetName count)
    else if count > maxRate then
      (mulChecked (count - maxRate) 10).map fun backoffMs =>
        .delay (min backoffMs.toNat 1000 * 1000000)
    else some .continued

/-- `on_send` at the instant `now`, which reads nothing of the message.  A
panic poisons the lock. -/
def onSend (l : ActorRateLimiter) (ctx : OutboundContext) (now : Nat) :
    Option Disposition × ActorRateLimiter :=
  if l.poisoned then (none, l)
  else
    match l.countSend ctx.targetId now with
    | none => (none, { l with poisoned := true })
    | some entry =>
      -- the count stays even if the decision panics
      let l := { l with counts := Function.update l.counts ctx.targetId (some entry) }
      match dispositionFor l.maxRate ctx.targetName entry.1 with
      | none => (none, { l with poisoned := true })
      | some d => (some d, l)

end ActorRateLimiter

/-- A send: its context and its instant. -/
abbrev TimedSend := OutboundContext × Nat

/-- The limiter and its decisions, each with its target. -/
structure ThrottleRun where
  limiter : ActorRateLimiter
  log : List (ActorId × Option Disposition)

def ThrottleRun.start (maxRate : UInt64) (window : Nat) : ThrottleRun := ⟨.new maxRate window, []⟩

def ThrottleRun.step (s : ThrottleRun) (send : TimedSend) : ThrottleRun :=
  let r := s.limiter.onSend send.1 send.2
  ⟨r.2, s.log ++ [(send.1.targetId, r.1)]⟩

/-- The decisions for one target. -/
def ThrottleRun.decisions (s : ThrottleRun) (target : ActorId) : List (Option Disposition) :=
  (s.log.filter fun e => e.1 = target).map Prod.snd

/-- The sends to one target. -/
def sendsTo (target : ActorId) (sends : List TimedSend) : List TimedSend :=
  sends.filter fun send => send.1.targetId = target

/-- A window is over when it has been open for more than `window`. -/
def Expired (window start t : Nat) : Prop := window < t - start

instance decidableExpired (window : Nat) : DecidableRel (Expired window) :=
  fun _ _ => inferInstanceAs (Decidable (_ < _))

/-- The windows of the sends to one target. -/
def windowsTo (window : Nat) (target : ActorId) (sends : List TimedSend) :
    List (Window TimedSend) :=
  windows Prod.snd (Expired window) (sendsTo target sends)

/-! ### The law -/

/-- The decision for the send with number `i` of its window, counted from
zero. -/
def Grade (maxRate : Nat) (backoff : Nat → Nat) (i : Nat) (d : Option Disposition) : Prop :=
  if i < maxRate then d = some .continued
  else if i < 2 * maxRate then d = some (.delay (backoff i))
  else ∃ reason, d = some (.reject reason)

/-- The limiter grades the sends to every target by their numbers, with a
backoff that does not decrease and never exceeds a second. -/
def GradesByRate (maxRate : UInt64) (window : Nat) (sends : List TimedSend) (s : ThrottleRun) :
    Prop :=
  ∀ target, ∃ backoff : Nat → Nat, Monotone backoff ∧ (∀ i, backoff i ≤ 1000 * 1000000) ∧
    List.Forall₂ (fun x d => Grade maxRate.toNat backoff x.2 d)
      (numbered (windowsTo window target sends)) (s.decisions target)

/-- How many sends of a window are counted and graded before an operation
overflows. -/
def capacity (maxRate : UInt64) : Nat :=
  if 2 ^ 63 ≤ maxRate.toNat then 0
  else if (2 ^ 64 - 1) / 10 < maxRate.toNat then maxRate.toNat + (2 ^ 64 - 1) / 10
  else 2 ^ 64 - 1

/-- No target gets more sends in one of its windows. -/
def WithinCapacity (maxRate : UInt64) (window : Nat) (sends : List TimedSend) : Prop :=
  ∀ target, ∀ w ∈ windowsTo window target sends, w.arrivals.length ≤ capacity maxRate

/-! ### The decision -/

/-- The delay for the send with number `i`. -/
def backoffAt (maxRate i : Nat) : Nat := min ((i + 1 - maxRate) * 10) 1000 * 1000000

theorem backoffAt_mono (maxRate : Nat) : Monotone (backoffAt maxRate) := by
  intro i j hij
  simp only [backoffAt]
  omega

theorem backoffAt_le (maxRate i : Nat) : backoffAt maxRate i ≤ 1000 * 1000000 := by
  simp only [backoffAt]
  omega

/-- The decision for the send with number `i` when nothing overflows. -/
def graded (maxRate : UInt64) (targetName : String) (i : Nat) : Disposition :=
  if i < maxRate.toNat then .continued
  else if i < 2 * maxRate.toNat then .delay (backoffAt maxRate.toNat i)
  else ActorRateLimiter.rejection maxRate targetName (UInt64.ofNat (i + 1))

theorem grade_graded (maxRate : UInt64) (targetName : String) (i : Nat) :
    Grade maxRate.toNat (backoffAt maxRate.toNat) i (some (graded maxRate targetName i)) := by
  unfold Grade graded
  split
  · rfl
  · split
    · rfl
    · exact ⟨_, rfl⟩

theorem not_grade_none (maxRate : Nat) (backoff : Nat → Nat) (i : Nat) :
    ¬ Grade maxRate backoff i none := by
  unfold Grade
  split
  · rintro ⟨⟩
  · split
    · rintro ⟨⟩
    · rintro ⟨_, ⟨⟩⟩

theorem capacity_lt (maxRate : UInt64) : capacity maxRate < 2 ^ 64 := by
  unfold capacity
  split
  · omega
  · split <;> omega

theorem toNat_ofNat_of_le_capacity {maxRate : UInt64} {n : Nat} (h : n ≤ capacity maxRate) :
    (UInt64.ofNat n).toNat = n := by
  have hlt := capacity_lt maxRate
  exact UInt64.toNat_ofNat_of_lt' (by simp only [UInt64.size]; omega)

/-- The excess over the limit. -/
theorem toNat_excess {maxRate count : UInt64} (h : maxRate < count) :
    (count - maxRate).toNat = count.toNat - maxRate.toNat :=
  UInt64.toNat_sub_of_le _ _ (UInt64.le_of_lt h)

theorem mulChecked_two {maxRate : UInt64} (h : ¬ 2 ^ 63 ≤ maxRate.toNat) :
    ∃ limit, mulChecked maxRate 2 = some limit ∧ limit.toNat = maxRate.toNat * 2 := by
  rcases hlimit : mulChecked maxRate 2 with - | limit
  · have hover := mulChecked_eq_none.mp hlimit
    rw [show (2 : UInt64).toNat = 2 from rfl] at hover
    omega
  · exact ⟨limit, rfl, (mulChecked_eq_some.mp hlimit).symm⟩

/-- Up to the capacity nothing overflows. -/
theorem ActorRateLimiter.dispositionFor_eq_graded {maxRate : UInt64} {i : Nat}
    (hi : i < capacity maxRate) (targetName : String) :
    dispositionFor maxRate targetName (UInt64.ofNat (i + 1))
      = some (graded maxRate targetName i) := by
  have hcount := toNat_ofNat_of_le_capacity (Nat.succ_le_of_lt hi)
  have hmax : ¬ 2 ^ 63 ≤ maxRate.toNat := by
    intro h
    rw [capacity, if_pos h] at hi
    cases hi
  rw [capacity, if_neg hmax] at hi
  obtain ⟨limit, hlimit, hdouble⟩ := mulChecked_two hmax
  simp only [dispositionFor, hlimit, graded, gt_iff_lt]
  by_cases hover : limit < UInt64.ofNat (i + 1)
  · rw [if_pos hover]
    rw [UInt64.lt_iff_toNat_lt, hdouble, hcount] at hover
    rw [if_neg (by omega), if_neg (by omega)]
  · rw [if_neg hover]
    rw [UInt64.lt_iff_toNat_lt, hdouble, hcount] at hover
    by_cases hexcess : maxRate < UInt64.ofNat (i + 1)
    · have hsub := toNat_excess hexcess
      rw [if_pos hexcess]
      rw [UInt64.lt_iff_toNat_lt, hcount] at hexcess
      rw [if_neg (by omega), if_pos (by omega)]
      rcases hms : mulChecked (UInt64.ofNat (i + 1) - maxRate) 10 with - | ms
      · have hfull := mulChecked_eq_none.mp hms
        rw [show (10 : UInt64).toNat = 10 from rfl, hsub, hcount] at hfull
        split at hi <;> omega
      · have hval := mulChecked_eq_some.mp hms
        rw [show (10 : UInt64).toNat = 10 from rfl, hsub, hcount] at hval
        rw [Option.map_some, backoffAt, hval]
    · rw [if_neg hexcess]
      rw [UInt64.lt_iff_toNat_lt, hcount] at hexcess
      rw [if_pos (by omega)]

/-- The send after the capacity is not graded. -/
theorem ActorRateLimiter.dispositionFor_overflow {maxRate : UInt64}
    (h : capacity maxRate + 1 < 2 ^ 64) (targetName : String) :
    dispositionFor maxRate targetName (UInt64.ofNat (capacity maxRate + 1)) = none := by
  have hcount : (UInt64.ofNat (capacity maxRate + 1)).toNat = capacity maxRate + 1 :=
    UInt64.toNat_ofNat_of_lt' h
  by_cases hmax : 2 ^ 63 ≤ maxRate.toNat
  · have hlimit : mulChecked maxRate 2 = none := by
      apply mulChecked_eq_none.mpr
      rw [show (2 : UInt64).toNat = 2 from rfl]
      omega
    simp only [dispositionFor, hlimit]
  · have hlarge : (2 ^ 64 - 1) / 10 < maxRate.toNat := by
      rw [capacity, if_neg hmax] at h
      split at h <;> omega
    have hcap : capacity maxRate = maxRate.toNat + (2 ^ 64 - 1) / 10 := by
      rw [capacity, if_neg hmax, if_pos hlarge]
    obtain ⟨limit, hlimit, hdouble⟩ := mulChecked_two hmax
    have hexcess : maxRate < UInt64.ofNat (capacity maxRate + 1) := by
      rw [UInt64.lt_iff_toNat_lt, hcount]
      omega
    have hunder : ¬ limit < UInt64.ofNat (capacity maxRate + 1) := by
      rw [UInt64.lt_iff_toNat_lt, hcount, hdouble]
      omega
    have hbackoff : mulChecked (UInt64.ofNat (capacity maxRate + 1) - maxRate) 10 = none := by
      apply mulChecked_eq_none.mpr
      rw [show (10 : UInt64).toNat = 10 from rfl, toNat_excess hexcess, hcount]
      omega
    simp only [dispositionFor, hlimit, gt_iff_lt, if_neg hunder, if_pos hexcess, hbackoff,
      Option.map_none]

/-! ### One send -/

/-- What the limiter remembers of the windows of a target. -/
def lastEntry (ws : List (Window TimedSend)) : Option (UInt64 × Nat) :=
  ws.getLast?.map fun w => (UInt64.ofNat w.arrivals.length, w.start)

section Send

variable {l : ActorRateLimiter} {ctx : OutboundContext} {ws : List (Window TimedSend)}

/-- The send is counted in its window. -/
theorem ActorRateLimiter.countSend_eq (hcounts : l.counts ctx.targetId = lastEntry ws)
    (hws : ∀ w ∈ ws, w.arrivals.length < 2 ^ 64) (now : Nat) :
    l.countSend ctx.targetId now =
      if (place Prod.snd (Expired l.window) ws (ctx, now)).2.arrivals.length < 2 ^ 64 then
        lastEntry (addArrival Prod.snd (Expired l.window) ws (ctx, now))
      else none := by
  rw [countSend, hcounts]
  rcases place_cases Prod.snd (Expired l.window) ws (ctx, now) with
    ⟨rfl | ⟨front, w, rfl, hexpired⟩, hplace⟩ | ⟨front, w, rfl, hopen, hplace⟩
  · rw [hplace, addArrival, hplace]
    simp [lastEntry, durationSince, addChecked]
  · rw [hplace, addArrival, hplace]
    simp only [lastEntry, List.getLast?_concat, Option.map_some, Option.getD_some, durationSince,
      List.length_singleton]
    rw [if_pos (show now - w.start > l.window from hexpired)]
    rfl
  · have hw := hws w (by simp)
    have hcount : (UInt64.ofNat w.arrivals.length).toNat = w.arrivals.length :=
      UInt64.toNat_ofNat_of_lt' hw
    rw [hplace, addArrival, hplace]
    simp only [lastEntry, List.getLast?_concat, Option.map_some, Option.getD_some, durationSince,
      List.length_append, List.length_singleton]
    rw [if_neg (show ¬ now - w.start > l.window from hopen), addChecked, hcount,
      show (1 : UInt64).toNat = 1 from rfl]
    split
    · rw [UInt64.ofNat_add]
      rfl
    · rfl

/-- A send that is within the capacity is graded and counted. -/
theorem ActorRateLimiter.onSend_eq (hsound : l.poisoned = false)
    (hcounts : l.counts ctx.targetId = lastEntry ws)
    (hws : ∀ w ∈ ws, w.arrivals.length ≤ capacity l.maxRate) (now : Nat)
    (hcap : (place Prod.snd (Expired l.window) ws (ctx, now)).2.arrivals.length
      ≤ capacity l.maxRate) :
    let i := (place Prod.snd (Expired l.window) ws (ctx, now)).2.arrivals.length - 1
    let entry := lastEntry (addArrival Prod.snd (Expired l.window) ws (ctx, now))
    l.onSend ctx now = (some (graded l.maxRate ctx.targetName i),
      { l with counts := Function.update l.counts ctx.targetId entry }) := by
  have hlt := capacity_lt l.maxRate
  have hpos := (length_place_le Prod.snd (Expired l.window) hws (ctx, now)).1
  have hentry := countSend_eq hcounts (fun w hw => Nat.lt_of_le_of_lt (hws w hw) hlt) now
  rw [if_pos (Nat.lt_of_le_of_lt hcap hlt), lastEntry, addArrival, List.getLast?_concat,
    Option.map_some] at hentry
  intro i entry
  have hgrade := dispositionFor_eq_graded (show i < capacity l.maxRate by omega) ctx.targetName
  rw [Nat.sub_add_cancel hpos] at hgrade
  simp only [onSend, hsound, hentry, hgrade, entry, lastEntry, addArrival, List.getLast?_concat,
    Option.map_some]
  rfl

/-- The send after it panics. -/
theorem ActorRateLimiter.onSend_overflow (hcounts : l.counts ctx.targetId = lastEntry ws)
    (hws : ∀ w ∈ ws, w.arrivals.length ≤ capacity l.maxRate) (now : Nat)
    (hcap : capacity l.maxRate
      < (place Prod.snd (Expired l.window) ws (ctx, now)).2.arrivals.length) :
    (l.onSend ctx now).1 = none := by
  have hlt := capacity_lt l.maxRate
  have hlen : (place Prod.snd (Expired l.window) ws (ctx, now)).2.arrivals.length
      = capacity l.maxRate + 1 :=
    Nat.le_antisymm (length_place_le Prod.snd (Expired l.window) hws (ctx, now)).2 hcap
  have hentry := countSend_eq hcounts (fun w hw => Nat.lt_of_le_of_lt (hws w hw) hlt) now
  rw [hlen] at hentry
  unfold onSend
  split
  · rfl
  · split
    · rfl
    · next entry hsome =>
      rw [hentry] at hsome
      split at hsome
      · next hfits =>
        rw [lastEntry, addArrival, List.getLast?_concat, Option.map_some, hlen] at hsome
        cases hsome
        simp only [dispositionFor_overflow hfits]
      · cases hsome

end Send

theorem forall₂_concat {α β : Type} {R : α → β → Prop} {l : List α} {l' : List β} {a : α} {b : β} :
    List.Forall₂ R (l ++ [a]) (l' ++ [b]) ↔ List.Forall₂ R l l' ∧ R a b := by
  rw [← List.forall₂_reverse_iff, List.reverse_concat, List.reverse_concat, List.forall₂_cons,
    List.forall₂_reverse_iff, and_comm]

/-! ### Runs -/

section Targets

variable {window : Nat} {sends : List TimedSend} {send : TimedSend} {target : ActorId}
  {s : ThrottleRun}

theorem sendsTo_concat_self : sendsTo send.1.targetId (sends ++ [send])
    = sendsTo send.1.targetId sends ++ [send] := by
  simp [sendsTo]

theorem sendsTo_concat_of_ne (h : send.1.targetId ≠ target) :
    sendsTo target (sends ++ [send]) = sendsTo target sends := by
  simp [sendsTo, h]

theorem windowsTo_concat_self : windowsTo window send.1.targetId (sends ++ [send])
    = addArrival Prod.snd (Expired window) (windowsTo window send.1.targetId sends) send := by
  rw [windowsTo, sendsTo_concat_self]
  exact windows_concat ..

theorem windowsTo_concat_of_ne (h : send.1.targetId ≠ target) :
    windowsTo window target (sends ++ [send]) = windowsTo window target sends := by
  rw [windowsTo, sendsTo_concat_of_ne h, windowsTo]

theorem ThrottleRun.decisions_step_self : (s.step send).decisions send.1.targetId
    = s.decisions send.1.targetId ++ [(s.limiter.onSend send.1 send.2).1] := by
  simp [decisions, step]

theorem ThrottleRun.decisions_step_of_ne (h : send.1.targetId ≠ target) :
    (s.step send).decisions target = s.decisions target := by
  simp [decisions, step, h]

/-- Only the window of the send can exceed the capacity. -/
theorem withinCapacity_concat {maxRate : UInt64} :
    WithinCapacity maxRate window (sends ++ [send]) ↔
      WithinCapacity maxRate window sends ∧
        (place Prod.snd (Expired window) (windowsTo window send.1.targetId sends)
          send).2.arrivals.length ≤ capacity maxRate := by
  constructor
  · intro h
    have hself := h send.1.targetId
    rw [windowsTo_concat_self, forall_length_addArrival] at hself
    refine ⟨?_, hself.2⟩
    intro target
    by_cases hne : send.1.targetId = target
    · rw [← hne]
      exact hself.1
    · rw [← windowsTo_concat_of_ne hne]
      exact h target
  · rintro ⟨hbefore, hlast⟩ target
    by_cases hne : send.1.targetId = target
    · rw [← hne, windowsTo_concat_self, forall_length_addArrival]
      exact ⟨hbefore _, hlast⟩
    · rw [windowsTo_concat_of_ne hne]
      exact hbefore target

end Targets

/-- The limiter and the windows of the sends so far: it remembers the last
one of each target, and has graded by the numbers. -/
structure ThrottleRun.Tracked (maxRate : UInt64) (window : Nat) (sends : List TimedSend)
    (s : ThrottleRun) : Prop where
  rate : s.limiter.maxRate = maxRate
  length : s.limiter.window = window
  sound : s.limiter.poisoned = false
  counts : ∀ target, s.limiter.counts target = lastEntry (windowsTo window target sends)
  decisions : ∀ target, s.decisions target =
    (numbered (windowsTo window target sends)).map fun x =>
      some (graded maxRate x.1.1.targetName x.2)

section Runs

variable {maxRate : UInt64} {window : Nat} {sends : List TimedSend} {s : ThrottleRun}

theorem ThrottleRun.Tracked.step (h : s.Tracked maxRate window sends) {send : TimedSend}
    (hcap : WithinCapacity maxRate window (sends ++ [send])) :
    (s.step send).Tracked maxRate window (sends ++ [send]) := by
  obtain ⟨rfl, rfl, hsound, hcounts, hdecisions⟩ := h
  obtain ⟨hbefore, hlast⟩ := withinCapacity_concat.mp hcap
  have hsend := ActorRateLimiter.onSend_eq hsound (hcounts send.1.targetId)
    (hbefore send.1.targetId) send.2 hlast
  refine ⟨?_, ?_, ?_, ?_, ?_⟩
  · simp only [ThrottleRun.step, hsend]
  · simp only [ThrottleRun.step, hsend]
  · simp only [ThrottleRun.step, hsend]
    exact hsound
  · intro target
    simp only [ThrottleRun.step, hsend]
    by_cases hne : send.1.targetId = target
    · rw [← hne, windowsTo_concat_self, Function.update_self]
    · rw [windowsTo_concat_of_ne hne, Function.update_of_ne (Ne.symm hne)]
      exact hcounts target
  · intro target
    by_cases hne : send.1.targetId = target
    · subst hne
      rw [ThrottleRun.decisions_step_self, hsend, hdecisions, windowsTo_concat_self,
        numbered_addArrival, List.map_append]
      rfl
    · rw [ThrottleRun.decisions_step_of_ne hne, windowsTo_concat_of_ne hne]
      exact hdecisions target

theorem ThrottleRun.tracked (hcap : WithinCapacity maxRate window sends) :
    (run ThrottleRun.step (.start maxRate window) sends).Tracked maxRate window sends := by
  induction sends using List.reverseRecOn with
  | nil => exact ⟨rfl, rfl, rfl, fun _ => rfl, fun _ => rfl⟩
  | append_singleton sends send ih =>
      rw [run_append]
      exact (ih (withinCapacity_concat.mp hcap).1).step hcap

/-- The decisions of a tracked run are graded. -/
theorem ThrottleRun.Tracked.grades (h : s.Tracked maxRate window sends) :
    GradesByRate maxRate window sends s := by
  intro target
  refine ⟨backoffAt maxRate.toNat, backoffAt_mono _, backoffAt_le _, ?_⟩
  rw [h.decisions, List.forall₂_map_right_iff]
  exact List.forall₂_same.mpr fun x _ => grade_graded maxRate x.1.1.targetName x.2

/-- Grading holds of the sends before. -/
theorem GradesByRate.init {send : TimedSend}
    (h : GradesByRate maxRate window (sends ++ [send]) (s.step send)) :
    GradesByRate maxRate window sends s := by
  intro target
  obtain ⟨backoff, hmono, hle, hall⟩ := h target
  refine ⟨backoff, hmono, hle, ?_⟩
  by_cases hne : send.1.targetId = target
  · subst hne
    rw [windowsTo_concat_self, numbered_addArrival, ThrottleRun.decisions_step_self] at hall
    exact (forall₂_concat.mp hall).1
  · rw [windowsTo_concat_of_ne hne, ThrottleRun.decisions_step_of_ne hne] at hall
    exact hall

/-- A graded send did not panic. -/
theorem GradesByRate.last {send : TimedSend}
    (h : GradesByRate maxRate window (sends ++ [send]) (s.step send)) :
    (s.limiter.onSend send.1 send.2).1 ≠ none := by
  intro hnone
  obtain ⟨backoff, -, -, hall⟩ := h send.1.targetId
  rw [windowsTo_concat_self, numbered_addArrival, ThrottleRun.decisions_step_self, hnone] at hall
  exact not_grade_none _ _ _ (forall₂_concat.mp hall).2

theorem withinCapacity_of_grades
    (h : GradesByRate maxRate window sends (run ThrottleRun.step (.start maxRate window) sends)) :
    WithinCapacity maxRate window sends := by
  induction sends using List.reverseRecOn with
  | nil => exact fun target w hw => (by cases hw)
  | append_singleton sends send ih =>
      rw [run_append] at h
      have hbefore := ih h.init
      refine withinCapacity_concat.mpr ⟨hbefore, ?_⟩
      obtain ⟨hrate, hlength, -, hcounts, -⟩ := ThrottleRun.tracked hbefore
      by_contra hcap
      apply h.last
      apply ActorRateLimiter.onSend_overflow (hcounts send.1.targetId)
      · rw [hrate]
        exact hbefore send.1.targetId
      · rw [hrate, hlength]
        exact Nat.lt_of_not_le hcap

end Runs

theorem sendsTo_sendsTo (target : ActorId) (sends : List TimedSend) :
    sendsTo target (sendsTo target sends) = sendsTo target sends := by
  simp [sendsTo, List.filter_filter]

theorem sendsTo_sendsTo_of_ne {target target' : ActorId} (h : target' ≠ target)
    (sends : List TimedSend) : sendsTo target' (sendsTo target sends) = [] := by
  rw [sendsTo, sendsTo, List.filter_filter]
  apply List.filter_eq_nil_iff.mpr
  intro send _ hsend
  obtain ⟨htarget', htarget⟩ := Bool.and_eq_true_iff.mp hsend
  exact h ((of_decide_eq_true htarget').symm.trans (of_decide_eq_true htarget))

/-- The sends to one target, alone, give the same windows. -/
theorem WithinCapacity.sendsTo {maxRate : UInt64} {window : Nat} {sends : List TimedSend}
    (h : WithinCapacity maxRate window sends) (target : ActorId) :
    WithinCapacity maxRate window (sendsTo target sends) := by
  intro target' w hw
  by_cases hne : target' = target
  · subst hne
    rw [windowsTo, sendsTo_sendsTo] at hw
    exact h target' w hw
  · rw [windowsTo, sendsTo_sendsTo_of_ne hne] at hw
    cases hw

/-- **The rate limiter grades by the configured rate as long as its
arithmetic does not overflow.**  The sends to every target are graded by
their numbers in their windows, and not influenced by those to another,
exactly if no window gets more sends than the capacity. -/
theorem throttle_grades_iff (maxRate : UInt64) (window : Nat) (sends : List TimedSend) :
    let decide := fun sends => run ThrottleRun.step (.start maxRate window) sends
    (GradesByRate maxRate window sends (decide sends) ∧
      ∀ target, (decide sends).decisions target
        = (decide (sendsTo target sends)).decisions target) ↔
    WithinCapacity maxRate window sends := by
  intro decide
  constructor
  · rintro ⟨hgrades, -⟩
    exact withinCapacity_of_grades hgrades
  · intro hcap
    refine ⟨(ThrottleRun.tracked hcap).grades, ?_⟩
    intro target
    rw [(ThrottleRun.tracked hcap).decisions, (ThrottleRun.tracked (hcap.sendsTo target)).decisions,
      windowsTo, windowsTo, sendsTo_sendsTo]

/-- Half the range as a limit: doubling it overflows, and the first send,
which is far below the limit, panics. -/
theorem throttle_doubling_panics :
    let send : TimedSend := (⟨⟨⟨"n1"⟩, 1⟩, "actor", "Test", .tell, false⟩, 0)
    let s := run ThrottleRun.step (.start 9223372036854775808 1000000000) [send]
    s.decisions send.1.targetId = [none] ∧
      ¬ GradesByRate 9223372036854775808 1000000000 [send] s := by
  intro send s
  refine ⟨by decide, ?_⟩
  intro h
  have hcap := withinCapacity_of_grades h send.1.targetId ⟨0, [send]⟩ (by decide)
  exact absurd hcap (by decide)

end Dactor
