/-
Dactor/BatchDelay.lean

How long an item stays in the buffer of the batching writer loop, the one of
`spawn_reduce_batched_drain` and of the batched `expand`.

While items are buffered, a turn of the loop waits for the next item or for
a sleep of `max_delay`, and the item is preferred when both are ready.  The
sleep is made anew in every turn, so it measures the time since the last
event and not, as the deadline of the writer does, since the first item; and
`push` does not look at the deadline.  A `push` that panics ends the task.

Main result: `batch_delay_honoured_iff`.
-/
import Dactor.Batching

namespace Dactor

open Runs

variable {T : Type}

/-! ### The loop -/

/-- The loop between two turns.  `since` is when the turn began, `handledAt`
when the last event was handled; `sent` observes the batches, and `timed` what
is buffered, with the instants at which it was received. -/
structure WriterLoop (T : Type) where
  writer : BatchWriter T
  running : Bool
  since : Nat
  handledAt : Nat
  sent : List (List T)
  timed : List (T × Nat)

/-- When an event is handled, when the loop goes on, which is later if a
batch has to wait for room, and whether there is a consumer for a batch. -/
structure Handling where
  now : Nat
  resumed : Nat
  consumer : Bool
  deriving DecidableEq, Repr

/-- An item is received, the sleep ends, or the channel of the items is
closed. -/
inductive LoopEvent (T : Type)
  | item (x : T) (h : Handling)
  | timer (h : Handling)
  | closed (h : Handling)

namespace WriterLoop

def start (now : Nat) : WriterLoop T := ⟨.empty, true, now, now, [], []⟩

/-- The task of the loop for items of `itemSize` bytes.  It ends at once when
its writer cannot be made. -/
def spawn (itemSize : Nat) (config : BatchConfig) (now : Nat) : WriterLoop T :=
  match BatchWriter.new itemSize config with
  | some writer => { start now with writer }
  | none => { start now with running := false }

/-- The end of a turn whose call of the writer left `r`; the loop breaks when
its batch cannot be sent. -/
def turned (s : WriterLoop T) (h : Handling) (timed : List (T × Nat))
    (r : Option (List T) × BatchWriter T) : WriterLoop T where
  writer := r.2
  running := s.running && (r.1.isNone || h.consumer)
  since := h.resumed
  handledAt := h.now
  sent := if h.consumer then s.sent ++ r.1.toList else s.sent
  timed := if r.1.isSome then [] else timed

/-- `push` panics: the task ends, and the writer is dropped with the item. -/
def panicked (s : WriterLoop T) (h : Handling) : WriterLoop T :=
  { s with writer := .empty, running := false, since := h.resumed, handledAt := h.now, timed := [] }

/-- One event.  At the end of the loop the rest is flushed. -/
def step (config : BatchConfig) (s : WriterLoop T) (event : LoopEvent T) : WriterLoop T :=
  if s.running then
    match event with
    -- `push` looks at the size only; the next turn sleeps anew
    | .item x h =>
      match s.writer.push config x h.now with
      | (some sent, writer) => s.turned h (s.timed ++ [(x, h.now)]) (sent, writer)
      | (none, _) => s.panicked h
    | .timer h => s.turned h s.timed (s.writer.checkDeadline h.now)
    | .closed h => { s.turned h s.timed s.writer.flush with running := false }
  else s

/-- The events a turn can see: none before the turn began, and the end of the
sleep, of which there is one while something is buffered, not early. -/
def Possible (config : BatchConfig) (s : WriterLoop T) : LoopEvent T → Prop
  | .item _ h => s.since ≤ h.now ∧ h.now ≤ h.resumed
  | .timer h =>
    s.writer.buffer ≠ [] ∧ s.since + config.maxDelay ≤ h.now ∧ h.now ≤ h.resumed
  | .closed h => s.since ≤ h.now ∧ h.now ≤ h.resumed

/-- The next push does not panic. -/
def Fits (config : BatchConfig) (s : WriterLoop T) : LoopEvent T → Prop
  | .item _ h => s.running = true → s.writer.DeadlineFits config h.now
  | .timer _ | .closed _ => True

/-- After the last event, the first item of the buffer has waited for less
than `max_delay`. -/
def Prompt (config : BatchConfig) (s : WriterLoop T) : Prop :=
  ∀ x, s.timed.head? = some x → s.handledAt < x.2 + config.maxDelay

/-- An item fills its batch, or comes before the deadline of the batch. -/
def Timely (config : BatchConfig) (s : WriterLoop T) : LoopEvent T → Prop
  | .item _ h =>
    s.running = true → config.maxItems ≤ s.writer.buffer.length + 1 ∨
      match s.writer.flushDeadline with
      | some deadline => h.now < deadline
      | none => 0 < config.maxDelay
  | _ => True

theorem spawn_of_fits {itemSize : Nat} {config : BatchConfig}
    (h : itemSize * config.maxItems ≤ isizeMax) (now : Nat) :
    (spawn itemSize config now : WriterLoop T) = start now := by
  rw [spawn, BatchWriter.new_eq, if_pos h]
  rfl

theorem spawn_of_not_fits {itemSize : Nat} {config : BatchConfig}
    (h : ¬ itemSize * config.maxItems ≤ isizeMax) (now : Nat) :
    (spawn itemSize config now : WriterLoop T) = { start now with running := false } := by
  rw [spawn, BatchWriter.new_eq, if_neg h]

/-! ### One event -/

/-- What the loop keeps: the buffer is what it received, up to the turn. -/
structure Keeps (config : BatchConfig) (s : WriterLoop T) : Prop where
  buffers : s.writer.Buffers config s.timed
  before : ∀ x ∈ s.timed, x.2 ≤ s.since
  fits : s.timed ≠ [] → config.maxDelay ≤ instantMax

theorem keeps_start (config : BatchConfig) (now : Nat) : (start now : WriterLoop T).Keeps config :=
  ⟨BatchWriter.buffers_empty, fun x hx => (by cases hx), fun h => absurd rfl h⟩

section Step

variable {config : BatchConfig} {s : WriterLoop T} {h : Handling}

theorem Keeps.turned {timed : List (T × Nat)} {r : Option (List T) × BatchWriter T}
    (hr : BatchWriter.Outcome config timed r) (htimes : ∀ x ∈ timed, x.2 ≤ h.resumed)
    (hfits : timed ≠ [] → config.maxDelay ≤ instantMax) :
    (s.turned h timed r).Keeps config := by
  obtain ⟨batch, w⟩ := r
  cases batch with
  | none => exact ⟨hr, htimes, hfits⟩
  | some batch => exact ⟨hr.2.2.2, fun x hx => (by cases hx), fun h => absurd rfl h⟩

theorem fill_isSome_iff (w : BatchWriter T) (hne : w.buffer ≠ []) :
    (w.fill config).1.isSome ↔ config.maxItems ≤ w.buffer.length := by
  rw [BatchWriter.fill]
  split
  · next hfull =>
    rw [BatchWriter.flush, if_neg (mt List.isEmpty_iff.mp hne)]
    exact iff_of_true rfl hfull
  · next hfull => exact iff_of_false (fun h => by cases h) hfull

/-- An item is pushed, which sends a batch when it fills it, or its deadline
is no instant. -/
theorem step_item (hs : s.Keeps config) (hrunning : s.running = true) (x : T) :
    (∃ r, s.step config (.item x h) = s.turned h (s.timed ++ [(x, h.now)]) r ∧
      BatchWriter.Outcome config (s.timed ++ [(x, h.now)]) r ∧
      (r.1.isSome ↔ config.maxItems ≤ s.writer.buffer.length + 1) ∧
      s.writer.DeadlineFits config h.now) ∨
    s.step config (.item x h) = s.panicked h ∧ ¬ s.writer.DeadlineFits config h.now := by
  by_cases hfits : s.writer.DeadlineFits config h.now
  · left
    obtain ⟨r, hpush, hr⟩ := hs.buffers.push x hfits
    refine ⟨r, ?_, hr, ?_, hfits⟩
    · simp only [WriterLoop.step, if_pos hrunning, hpush]
    · obtain ⟨deadline, -, hfill⟩ := BatchWriter.push_of_fits hfits x
      rw [hpush, Prod.mk.injEq, Option.some.injEq] at hfill
      rw [hfill.1, fill_isSome_iff _ (List.append_ne_nil_of_right_ne_nil _ (List.cons_ne_nil _ _)),
        List.length_append, List.length_singleton]
  · right
    refine ⟨?_, hfits⟩
    simp only [WriterLoop.step, if_pos hrunning, BatchWriter.push_of_not_fits hfits]

/-- A first item whose deadline fits. -/
theorem Keeps.fits_push (hs : s.Keeps config) {now : Nat}
    (hfits : s.writer.DeadlineFits config now) : config.maxDelay ≤ instantMax := by
  by_cases hnil : s.timed = []
  · have hnone : s.writer.flushDeadline = none := by
      rw [hs.buffers.deadline, hnil]
      rfl
    have hroom := hfits.resolve_left (by rw [hnone]; exact Bool.false_ne_true)
    omega
  · exact hs.fits hnil

theorem Keeps.step (hs : s.Keeps config) {event : LoopEvent T} (hp : s.Possible config event) :
    (s.step config event).Keeps config := by
  by_cases hrunning : s.running = true
  · cases event with
    | item x h =>
        obtain ⟨hsince, hresumed⟩ := hp
        rcases step_item hs hrunning x with ⟨r, hstep, hr, -, hfits⟩ | ⟨hstep, -⟩
        · rw [hstep]
          apply Keeps.turned hr _ fun _ => hs.fits_push hfits
          intro y hy
          rcases List.mem_append.mp hy with hy | hy
          · have hle := hs.before y hy
            omega
          · rw [List.mem_singleton.mp hy]
            exact hresumed
        · rw [hstep]
          exact ⟨BatchWriter.buffers_empty, fun y hy => (by cases hy), fun h => absurd rfl h⟩
    | timer h =>
        obtain ⟨-, hdue, hresumed⟩ := hp
        rw [show s.step config (.timer h) = _ from if_pos hrunning]
        apply Keeps.turned (hs.buffers.checkDeadline h.now) _ hs.fits
        intro y hy
        have hle := hs.before y hy
        omega
    | closed h =>
        obtain ⟨hsince, hresumed⟩ := hp
        have hnext : (s.turned h s.timed s.writer.flush).Keeps config := by
          apply Keeps.turned hs.buffers.flush _ hs.fits
          intro y hy
          have hle := hs.before y hy
          omega
        rw [show s.step config (.closed h) = _ from if_pos hrunning]
        exact ⟨hnext.buffers, hnext.before, hnext.fits⟩
  · rw [show s.step config event = s from if_neg hrunning]
    exact hs

theorem prompt_of_nil (htimed : s.timed = []) : s.Prompt config := by
  intro x hx
  rw [htimed] at hx
  cases hx

/-- After an item that does not fill its batch. -/
theorem prompt_item_iff (hs : s.Keeps config) (hrunning : s.running = true) {x : T}
    (hfull : ¬ config.maxItems ≤ s.writer.buffer.length + 1) :
    (s.step config (.item x h)).Prompt config ↔
      match s.writer.flushDeadline with
      | some deadline => h.now < deadline
      | none => 0 < config.maxDelay := by
  rcases step_item hs hrunning (h := h) x with ⟨r, hstep, -, hsome, -⟩ | ⟨hstep, hfits⟩
  swap
  · -- nothing is left, and a deadline past the last instant is a late one
    obtain ⟨hdeadline, hroom⟩ := not_or.mp hfits
    rw [hstep, Option.not_isSome_iff_eq_none.mp hdeadline]
    exact iff_of_true (prompt_of_nil rfl) (show 0 < config.maxDelay by omega)
  have hnone : r.1.isSome = false := Bool.eq_false_iff.mpr (mt hsome.mp hfull)
  have htimed : (s.step config (.item x h)).timed = s.timed ++ [(x, h.now)] := by
    simp only [hstep, WriterLoop.turned, hnone, Bool.false_eq_true, if_false]
  have hnow : (s.step config (.item x h)).handledAt = h.now := by
    simp only [hstep, WriterLoop.turned]
  rw [Prompt, htimed, hnow, hs.buffers.deadline]
  cases s.timed with
  | nil =>
      show (∀ y, some (x, h.now) = some y → _) ↔ 0 < config.maxDelay
      constructor
      · intro hprompt
        have hlt : h.now < h.now + config.maxDelay := hprompt _ rfl
        omega
      · rintro hpos y ⟨⟩
        show h.now < h.now + config.maxDelay
        omega
  | cons y timed =>
      show (∀ z, some y = some z → _) ↔ h.now < y.2 + config.maxDelay
      constructor
      · intro hprompt
        exact hprompt y rfl
      · rintro hlt z ⟨⟩
        exact hlt

/-- One event keeps the bound exactly if it is timely. -/
theorem prompt_step_iff (hs : s.Keeps config) (hprompt : s.Prompt config) {event : LoopEvent T}
    (hp : s.Possible config event) :
    (s.step config event).Prompt config ↔ s.Timely config event := by
  by_cases hrunning : s.running = true
  · cases event with
    | item x h =>
        by_cases hfull : config.maxItems ≤ s.writer.buffer.length + 1
        · refine iff_of_true (prompt_of_nil ?_) fun _ => .inl hfull
          rcases step_item hs hrunning (h := h) x with ⟨r, hstep, -, hsome, -⟩ | ⟨hstep, -⟩
          · simp only [hstep, WriterLoop.turned, hsome.mpr hfull, if_true]
          · rw [hstep]
            rfl
        · rw [prompt_item_iff hs hrunning hfull]
          constructor
          · intro hlt _
            exact .inr hlt
          · intro htimely
            exact (htimely hrunning).resolve_left hfull
    | timer h =>
        -- the sleep began after the first item was received, so the deadline has passed
        obtain ⟨hne, hdue, -⟩ := hp
        refine iff_of_true (prompt_of_nil ?_) trivial
        have hsome := hs.buffers.checkDeadline_due hs.before hne hdue
        simp only [WriterLoop.step, hrunning, if_true, WriterLoop.turned, hsome]
    | closed h =>
        refine iff_of_true (prompt_of_nil ?_) trivial
        simp only [WriterLoop.step, hrunning, if_true, WriterLoop.turned]
        split
        · rfl
        · next hkept =>
          by_contra hne
          apply hkept
          have hbuffer : s.writer.buffer ≠ [] := by
            rw [hs.buffers.items]
            exact mt List.map_eq_nil_iff.mp hne
          rw [BatchWriter.flush, if_neg (mt List.isEmpty_iff.mp hbuffer)]
          rfl
  · have hsame : s.step config event = s := if_neg hrunning
    rw [hsame]
    refine iff_of_true hprompt ?_
    cases event with
    | item x h => exact fun h => absurd h hrunning
    | timer h => trivial
    | closed h => trivial

end Step

/-! ### Runs -/

theorem always_prompt_iff (config : BatchConfig) {now : Nat} {events : List (LoopEvent T)}
    (hp : Admissible (step config) (Possible config) (start now) events) :
    Always (step config) (Prompt config) (start now) events ↔
      Admissible (step config) (Timely config) (start now) events :=
  always_iff_of_inv (fun _ _ hok hs => hs.step hok)
    (fun _ _ hok hs hprompt => prompt_step_iff hs hprompt hok)
    (keeps_start config now) (prompt_of_nil rfl) hp

/-- No schedule of arrivals breaks the bound of such a configuration. -/
def Unhurried (config : BatchConfig) : Prop :=
  config.maxItems ≤ 1 ∨ config.maxItems ≤ 2 ∧ 0 < config.maxDelay ∨ instantMax < config.maxDelay

/-- Batches of one or two items have no item after the first that does not
fill them, and with a delay for which there is no deadline nothing stays in
the buffer. -/
theorem timely_of_unhurried {config : BatchConfig} (hconfig : Unhurried config)
    {s : WriterLoop T} (hs : s.Keeps config) (event : LoopEvent T) : s.Timely config event := by
  cases event with
  | item x h =>
      intro _
      rcases hconfig with hone | ⟨htwo, hpos⟩ | hlong
      · exact .inl (by omega)
      swap
      · right
        have htimed : s.timed = [] := by
          by_contra hne
          have hfits := hs.fits hne
          omega
        have hdeadline : s.writer.flushDeadline = none := by
          rw [hs.buffers.deadline, htimed]
          rfl
        rw [hdeadline]
        exact Nat.zero_lt_of_lt hlong
      · rcases hbuffer : s.writer.buffer with - | ⟨y, rest⟩
        · right
          have htimed : s.timed = [] := by
            have hitems := hs.buffers.items
            rw [hbuffer] at hitems
            exact List.map_eq_nil_iff.mp hitems.symm
          have hdeadline : s.writer.flushDeadline = none := by
            rw [hs.buffers.deadline, htimed]
            rfl
          rw [hdeadline]
          exact hpos
        · left
          rw [List.length_cons]
          omega
  | timer h => trivial
  | closed h => trivial

theorem admissible_timely {config : BatchConfig} (hconfig : Unhurried config) {s : WriterLoop T}
    (hs : s.Keeps config) {events : List (LoopEvent T)}
    (hp : Admissible (step config) (Possible config) s events) :
    Admissible (step config) (Timely config) s events := by
  induction events generalizing s with
  | nil => trivial
  | cons event events ih =>
      exact ⟨timely_of_unhurried hconfig hs event, ih (hs.step hp.1) hp.2⟩

/-- An item and another one when its sleep ends: the loop prefers the
item. -/
def tie (config : BatchConfig) : List (LoopEvent Unit) :=
  [.item () ⟨0, 0, true⟩, .item () ⟨config.maxDelay, config.maxDelay, true⟩]

/-- The second item is late, unless the batches are small. -/
theorem unhurried_of_tie {config : BatchConfig}
    (h : Admissible (step config) (Timely config) (start 0) (tie config)) : Unhurried config := by
  obtain ⟨hfirst, hsecond, -⟩ := h
  by_cases hone : config.maxItems ≤ 1
  · exact .inl hone
  by_cases hlong : instantMax < config.maxDelay
  · exact .inr (.inr hlong)
  · right
    left
    have hpos : 0 < config.maxDelay := (hfirst rfl).resolve_left hone
    have hstep : (start 0 : WriterLoop Unit).step config (.item () ⟨0, 0, true⟩)
        = ⟨⟨[()], some (0 + config.maxDelay)⟩, true, 0, 0, [], [((), 0)]⟩ := by
      have hroom : config.maxDelay ≤ instantMax := Nat.le_of_not_lt hlong
      simp [WriterLoop.step, start, BatchWriter.empty, BatchWriter.push, BatchWriter.fill,
        addInstant, hroom, WriterLoop.turned, hone]
    rw [hstep] at hsecond
    rcases hsecond rfl with htwo | hlt
    · exact ⟨htwo, hpos⟩
    · have hlt : config.maxDelay < 0 + config.maxDelay := hlt
      omega

theorem possible_tie (config : BatchConfig) :
    Admissible (step config) (Possible config) (start 0) (tie config) := by
  refine ⟨⟨Nat.le_refl 0, Nat.le_refl 0⟩, ⟨?_, Nat.le_refl _⟩, trivial⟩
  have hsince : ((start 0 : WriterLoop Unit).step config (.item () ⟨0, 0, true⟩)).since = 0 := by
    rcases step_item (h := ⟨0, 0, true⟩) (keeps_start config 0) rfl () with
      ⟨r, hstep, -⟩ | ⟨hstep, -⟩
    · rw [hstep]
      rfl
    · rw [hstep]
      rfl
  show ((start 0 : WriterLoop Unit).step config (.item () ⟨0, 0, true⟩)).since ≤ config.maxDelay
  rw [hsince]
  exact Nat.zero_le _

end WriterLoop

open WriterLoop

/-- **The batch delay is honoured exactly while no late item joins a batch.**
Along a run of the writer loop the first buffered item has waited for less
than `max_delay` after every event, exactly if every item that is received
fills its batch or comes before the deadline of the batch; and the bound
holds for all runs exactly for batches of one item, or of two with a positive
delay, or with a delay that lets every push panic. -/
theorem batch_delay_honoured_iff (config : BatchConfig) :
    (∀ (T : Type) (now : Nat) (events : List (LoopEvent T)),
      Admissible (step config) (Possible config) (start now) events →
      (Always (step config) (Prompt config) (start now) events ↔
        Admissible (step config) (Timely config) (start now) events)) ∧
    ((∀ (T : Type) (now : Nat) (events : List (LoopEvent T)),
      Admissible (step config) (Possible config) (start now) events →
      Always (step config) (Prompt config) (start now) events) ↔ Unhurried config) := by
  refine ⟨fun T now events hp => always_prompt_iff config hp, ?_, ?_⟩
  · intro h
    have htie := possible_tie config
    exact unhurried_of_tie ((always_prompt_iff config htie).mp (h Unit 0 (tie config) htie))
  · intro hconfig T now events hp
    exact (always_prompt_iff config hp).mpr
      (admissible_timely hconfig (keeps_start config now) hp)

/-- An item that is alone is flushed when its sleep ends. -/
theorem batch_delay_honoured_single :
    let config : BatchConfig := ⟨64, 5000000⟩
    let events : List (LoopEvent Nat) := [.item 7 ⟨1, 1, true⟩, .timer ⟨5000001, 5000001, true⟩]
    (run (step config) (start 0) events).writer.buffer = [] ∧
      Always (step config) (Prompt config) (start 0) events := by
  intro config events
  refine ⟨rfl, ((batch_delay_honoured_iff config).1 Nat 0 events ?_).mpr ?_⟩
  · exact ⟨⟨by decide, by decide⟩, ⟨by decide, by decide, by decide⟩, trivial⟩
  · exact ⟨fun _ => .inr (show 0 < 5000000 by decide), trivial, trivial⟩

/-- The schedule of a trickle: one item every four milliseconds. -/
def trickle : List (LoopEvent Nat) :=
  [.item 0 ⟨0, 0, true⟩, .item 1 ⟨4000000, 4000000, true⟩, .item 2 ⟨8000000, 8000000, true⟩]

/-- The default configuration, with a delay of five milliseconds, does not
flush a trickle: after eight milliseconds the first item is still there. -/
theorem batch_delay_trickle :
    let config : BatchConfig := ⟨64, 5000000⟩
    let s := run (step config) (start 0) trickle
    Admissible (step config) (Possible config) (start 0) trickle ∧
      s.writer.buffer = [0, 1, 2] ∧ ¬ s.Prompt config ∧
      ¬ Always (step config) (Prompt config) (start 0) trickle := by
  intro config s
  have hlate : ¬ s.Prompt config := fun h => absurd (h (0, 0) rfl) (by decide)
  refine ⟨?_, rfl, hlate, fun h => hlate h.last⟩
  exact ⟨⟨by decide, by decide⟩, ⟨by decide, by decide⟩, ⟨by decide, by decide⟩, trivial⟩

end Dactor
