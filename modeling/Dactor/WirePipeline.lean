/-
Dactor/WirePipeline.lean

The interceptors of incoming envelopes (`WireInterceptorPipeline`).

`process` offers an envelope to the interceptors in the order of their
registration; the first that does not accept it decides, and those behind it
do not see the envelope.  Interceptors keep a state of their own, so what one
of them decides can depend on everything it has seen.

An interceptor is a trait object: the type of its state is hidden in it.  An
envelope is read at one instant by all interceptors.

Main results: `wire_interceptors_alone` and `interceptor_order_decides`.
-/
import Dactor.Cascades
import Dactor.WireRateLimit

namespace Dactor

open Runs Tumbling Cascades

/-! ### Interceptors -/

structure WireInterceptor where
  name : String
  {State : Type}
  state : State
  receive : State → WireEnvelope → Nat → Option WireDisposition × State

/-- `on_receive` at the instant `now`; `none` stands for a panic. -/
def WireInterceptor.onReceive (i : WireInterceptor) (envelope : WireEnvelope) (now : Nat) :
    Option WireDisposition × WireInterceptor :=
  let r := i.receive i.state envelope now
  (r.1, { i with state := r.2 })

structure MaxBodySizeInterceptor where
  maxBytes : Nat

def MaxBodySizeInterceptor.onReceive (m : MaxBodySizeInterceptor) (envelope : WireEnvelope) :
    WireDisposition :=
  if envelope.body.length > m.maxBytes then
    .reject ("body size " ++ toString envelope.body.length ++ " exceeds limit " ++
      toString m.maxBytes)
  else .accept

def MaxBodySizeInterceptor.boxed (m : MaxBodySizeInterceptor) : WireInterceptor :=
  ⟨"max-body-size", m, fun m envelope _ => (some (m.onReceive envelope), m)⟩

def RateLimitWireInterceptor.boxed (r : RateLimitWireInterceptor) : WireInterceptor :=
  ⟨"rate-limit", r, onReceive⟩

/-! ### The pipeline -/

structure WireInterceptorPipeline where
  interceptors : List WireInterceptor

inductive WireProcessResult
  | accepted
  | delayed (d : Nat)
  | dropped
  deriving DecidableEq, Repr

structure WireRejectError where
  interceptor : String
  reason : String
  deriving DecidableEq, Repr

namespace WireInterceptorPipeline

def new : WireInterceptorPipeline := ⟨[]⟩

def add (p : WireInterceptorPipeline) (interceptor : WireInterceptor) : WireInterceptorPipeline :=
  ⟨p.interceptors ++ [interceptor]⟩

/-- The loop of `process`. -/
def processFrom : List WireInterceptor → WireEnvelope → Nat →
    Option (WireDisposition × Option String) × List WireInterceptor
  | [], _, _ => (some (.accept, none), [])
  | i :: rest, envelope, now =>
    match i.onReceive envelope now with
    -- a panic leaves the loop
    | (none, i) => (none, i :: rest)
    | (some .accept, i) =>
      let r := processFrom rest envelope now
      (r.1, i :: r.2)
    | (some other, i) => (some (other, some i.name), i :: rest)

def process (p : WireInterceptorPipeline) (envelope : WireEnvelope) (now : Nat) :
    Option (WireDisposition × Option String) × WireInterceptorPipeline :=
  let r := processFrom p.interceptors envelope now
  (r.1, ⟨r.2⟩)

/-- What `process_envelope` makes of a disposition and the name it came with. -/
def resultOf : WireDisposition × Option String → Except WireRejectError WireProcessResult
  | (.accept, _) => .ok .accepted
  | (.delay d, _) => .ok (.delayed d)
  | (.reject reason, name) => .error ⟨name.getD "unknown", reason⟩
  | (.drop, _) => .ok .dropped

def processEnvelope (p : WireInterceptorPipeline) (envelope : WireEnvelope) (now : Nat) :
    Option (Except WireRejectError WireProcessResult) × WireInterceptorPipeline :=
  let r := p.process envelope now
  (r.1.map resultOf, r.2)

end WireInterceptorPipeline

/-- The pipeline of a transport, and the results of the envelopes that came
in, each with its instant. -/
structure PipelineRun where
  pipeline : WireInterceptorPipeline
  log : List ((WireEnvelope × Nat) × Option (Except WireRejectError WireProcessResult))

def PipelineRun.step (s : PipelineRun) (arrival : WireEnvelope × Nat) : PipelineRun :=
  let r := s.pipeline.processEnvelope arrival.1 arrival.2
  ⟨r.2, s.log ++ [(arrival, r.1)]⟩

/-! ### The interceptors one by one -/

namespace WireInterceptor

/-- What becomes of an envelope that the interceptor does not accept. -/
def objection (i : WireInterceptor) :
    Option WireDisposition → Option (Option (Except WireRejectError WireProcessResult))
  | some .accept => none
  | none => some none
  | some (.delay d) => some (some (.ok (.delayed d)))
  | some (.reject reason) => some (some (.error ⟨i.name, reason⟩))
  | some .drop => some (some (.ok .dropped))

/-- An interceptor as a component of a cascade: it passes on what it
accepts. -/
def react (i : WireInterceptor) (arrival : WireEnvelope × Nat) :
    Option (Option (Except WireRejectError WireProcessResult)) × WireInterceptor :=
  let r := i.onReceive arrival.1 arrival.2
  (i.objection r.1, r.2)

end WireInterceptor

/-- The first objection, if there is one, is the result. -/
def firstObjection (is : List WireInterceptor) (arrival : WireEnvelope × Nat) :
    Option (Except WireRejectError WireProcessResult) :=
  (is.findSome? fun i => (i.react arrival).1).getD (some (.ok .accepted))

/-! ### One envelope -/

open WireInterceptorPipeline in
theorem processFrom_eq (is : List WireInterceptor) (arrival : WireEnvelope × Nat) :
    (processFrom is arrival.1 arrival.2).1.map resultOf
        = (offer WireInterceptor.react is arrival).1.getD (some (.ok .accepted)) ∧
      (processFrom is arrival.1 arrival.2).2 = (offer WireInterceptor.react is arrival).2 := by
  induction is with
  | nil => exact ⟨rfl, rfl⟩
  | cons i is ih =>
      obtain ⟨hresult, hrest⟩ := ih
      have hname : (i.onReceive arrival.1 arrival.2).2.name = i.name := rfl
      obtain ⟨d, i', hreceive⟩ : ∃ d i', i.onReceive arrival.1 arrival.2 = (d, i') :=
        ⟨_, _, rfl⟩
      rw [hreceive] at hname
      simp only [offer_cons, processFrom, WireInterceptor.react, hreceive]
      rcases d with - | (- | d | reason | -)
      · exact ⟨rfl, rfl⟩
      · exact ⟨hresult, congrArg (i' :: ·) hrest⟩
      · exact ⟨rfl, rfl⟩
      · -- the error carries the name of the interceptor
        refine ⟨?_, rfl⟩
        show some (Except.error (WireRejectError.mk i'.name reason)) = _
        rw [hname]
        rfl
      · exact ⟨rfl, rfl⟩

theorem PipelineRun.step_eq (s : PipelineRun) (arrival : WireEnvelope × Nat) :
    s.step arrival = ⟨⟨(offer WireInterceptor.react s.pipeline.interceptors arrival).2⟩,
      s.log ++ [(arrival, firstObjection s.pipeline.interceptors arrival)]⟩ := by
  obtain ⟨hresult, hrest⟩ := processFrom_eq s.pipeline.interceptors arrival
  rw [offer_answer] at hresult
  rw [PipelineRun.step, WireInterceptorPipeline.processEnvelope, WireInterceptorPipeline.process]
  simp only [hresult, hrest, firstObjection]

/-! ### Runs -/

/-- The run so far: every interceptor as it would be alone, and every result
the first objection at its time. -/
structure PipelineRun.Alone (p : WireInterceptorPipeline) (arrivals : List (WireEnvelope × Nat))
    (s : PipelineRun) : Prop where
  interceptors : s.pipeline.interceptors = apart WireInterceptor.react p.interceptors arrivals
  log : s.log = arrivals.mapIdx fun n arrival => (arrival,
    firstObjection (apart WireInterceptor.react p.interceptors (arrivals.take n)) arrival)

theorem PipelineRun.pipeline_run (p : WireInterceptorPipeline)
    (arrivals : List (WireEnvelope × Nat)) :
    (run PipelineRun.step ⟨p, []⟩ arrivals).pipeline.interceptors
      = apart WireInterceptor.react p.interceptors arrivals := by
  rw [← run_offer]
  refine run_sim (fun (s : PipelineRun) is => s.pipeline.interceptors = is) ?_ arrivals rfl
  rintro s is arrival rfl
  rw [PipelineRun.step_eq]

theorem PipelineRun.log_concat (p : WireInterceptorPipeline)
    (arrivals : List (WireEnvelope × Nat)) (arrival : WireEnvelope × Nat) :
    (run PipelineRun.step ⟨p, []⟩ (arrivals ++ [arrival])).log
      = (run PipelineRun.step ⟨p, []⟩ arrivals).log ++ [(arrival,
        firstObjection (apart WireInterceptor.react p.interceptors arrivals) arrival)] := by
  rw [run_append, ← PipelineRun.pipeline_run]
  exact congrArg PipelineRun.log (PipelineRun.step_eq _ arrival)

/-- **Wire interceptors work as if alone.**  In every run of a pipeline each
interceptor is in the state it would be in by itself, having seen exactly the
envelopes that those before it let through; the result of an envelope is the
first objection to it, under the name of the interceptor that made it. -/
theorem wire_interceptors_alone (p : WireInterceptorPipeline)
    (arrivals : List (WireEnvelope × Nat)) :
    (run PipelineRun.step ⟨p, []⟩ arrivals).Alone p arrivals := by
  refine ⟨PipelineRun.pipeline_run p arrivals, ?_⟩
  induction arrivals using List.reverseRecOn with
  | nil => rfl
  | append_singleton arrivals arrival ih =>
      rw [PipelineRun.log_concat, List.mapIdx_append, ih]
      refine congrArg₂ (· ++ ·) ?_ ?_
      · refine List.mapIdx_eq_mapIdx_iff.mpr ?_
        intro n hn
        rw [List.take_append_of_le_length hn.le]
      · simp

/-! ### A size limit and a rate limit -/

/-- The body fits the limit. -/
def Fits (maxBytes : Nat) (arrival : WireEnvelope × Nat) : Prop :=
  arrival.1.body.length ≤ maxBytes

instance (maxBytes : Nat) : DecidablePred (Fits maxBytes) :=
  fun arrival => inferInstanceAs (Decidable (arrival.1.body.length ≤ maxBytes))

/-- The rejection of a body that does not fit. -/
def oversize (maxBytes : Nat) (arrival : WireEnvelope × Nat) : WireRejectError :=
  ⟨"max-body-size", "body size " ++ toString arrival.1.body.length ++ " exceeds limit " ++
    toString maxBytes⟩

theorem react_maxBodySize (maxBytes : Nat) (arrival : WireEnvelope × Nat) :
    (MaxBodySizeInterceptor.mk maxBytes).boxed.react arrival =
      (if Fits maxBytes arrival then none else some (some (.error (oversize maxBytes arrival))),
        (MaxBodySizeInterceptor.mk maxBytes).boxed) := by
  refine Prod.ext ?_ rfl
  show (MaxBodySizeInterceptor.mk maxBytes).boxed.objection
    (some ((MaxBodySizeInterceptor.mk maxBytes).onReceive arrival.1)) = _
  by_cases hfits : Fits maxBytes arrival
  · rw [MaxBodySizeInterceptor.onReceive, if_neg (Nat.not_lt.mpr hfits), if_pos hfits]
    rfl
  · rw [MaxBodySizeInterceptor.onReceive, if_pos (Nat.lt_of_not_le hfits), if_neg hfits]
    rfl

theorem maxBodySize_fixed (maxBytes : Nat) (arrival : WireEnvelope × Nat) :
    ((MaxBodySizeInterceptor.mk maxBytes).boxed.react arrival).2
      = (MaxBodySizeInterceptor.mk maxBytes).boxed := rfl

theorem react_rateLimit (r : RateLimitWireInterceptor) (arrival : WireEnvelope × Nat) :
    r.boxed.react arrival =
      (r.boxed.objection (r.onReceive arrival.1 arrival.2).1,
        (r.onReceive arrival.1 arrival.2).2.boxed) := rfl

/-- Accepted for dispatch. -/
def Accepted : Option (Except WireRejectError WireProcessResult) → Bool
  | some (.ok .accepted) => true
  | _ => false

/-- The result when the limiter decides `d` and those behind it, if it
accepts, give `rest`. -/
def RateLimitWireInterceptor.limited (d : Option WireDisposition)
    (rest : Option (Except WireRejectError WireProcessResult)) :
    Option (Except WireRejectError WireProcessResult) :=
  ((RateLimitWireInterceptor.new 0 0 0).boxed.objection d).getD rest

open RateLimitWireInterceptor (limited)

theorem accepted_limited (d : Option WireDisposition)
    (rest : Option (Except WireRejectError WireProcessResult)) :
    Accepted (limited d rest) = (decide (d = some .accept) && Accepted rest) := by
  rcases d with - | (- | d | reason | -) <;> rfl

/-- The result when nothing but the size limit is left. -/
def sized (maxBytes : Nat) (arrival : WireEnvelope × Nat) :
    Option (Except WireRejectError WireProcessResult) :=
  if Fits maxBytes arrival then some (.ok .accepted)
  else some (.error (oversize maxBytes arrival))

theorem accepted_sized (maxBytes : Nat) (arrival : WireEnvelope × Nat) :
    Accepted (sized maxBytes arrival) = decide (Fits maxBytes arrival) := by
  by_cases hfits : Fits maxBytes arrival <;> simp [sized, Accepted, hfits]

/-- The first objection of the two, in either order. -/
theorem firstObjection_sizeFirst (maxBytes : Nat) (r : RateLimitWireInterceptor)
    (arrival : WireEnvelope × Nat) :
    firstObjection [(MaxBodySizeInterceptor.mk maxBytes).boxed, r.boxed] arrival =
      if Fits maxBytes arrival then
        limited (r.onReceive arrival.1 arrival.2).1 (some (.ok .accepted))
      else some (.error (oversize maxBytes arrival)) := by
  rw [firstObjection, List.findSome?_cons, react_maxBodySize]
  by_cases hfits : Fits maxBytes arrival
  · rw [if_pos hfits, if_pos hfits, List.findSome?_cons, react_rateLimit]
    rcases (r.onReceive arrival.1 arrival.2).1 with - | (- | d | reason | -) <;> rfl
  · rw [if_neg hfits, if_neg hfits]
    rfl

theorem firstObjection_rateFirst (maxBytes : Nat) (r : RateLimitWireInterceptor)
    (arrival : WireEnvelope × Nat) :
    firstObjection [r.boxed, (MaxBodySizeInterceptor.mk maxBytes).boxed] arrival =
      limited (r.onReceive arrival.1 arrival.2).1 (sized maxBytes arrival) := by
  rw [firstObjection, List.findSome?_cons, List.findSome?_cons, react_maxBodySize,
    react_rateLimit, sized]
  rcases (r.onReceive arrival.1 arrival.2).1 with - | (- | d | reason | -)
  · rfl
  · by_cases hfits : Fits maxBytes arrival
    · rw [if_pos hfits, if_pos hfits]
      rfl
    · rw [if_neg hfits, if_neg hfits]
      rfl
  · rfl
  · rfl
  · rfl

/-! ### The two limits in a run -/

theorem WireRun.length_log (t : WireRun) (arrivals : List (WireEnvelope × Nat)) :
    (run WireRun.step t arrivals).log.length = t.log.length + arrivals.length := by
  induction arrivals generalizing t with
  | nil => rfl
  | cons arrival arrivals ih =>
      rw [run_cons, ih, WireRun.step, List.length_append, List.length_singleton, List.length_cons]
      omega

/-- The limiter alone. -/
theorem alone_rateLimit (t : WireRun) (arrivals : List (WireEnvelope × Nat)) :
    alone WireInterceptor.react t.limiter.boxed arrivals
      = (run WireRun.step t arrivals).limiter.boxed :=
  run_sim (fun (i : WireInterceptor) (t : WireRun) => i = t.limiter.boxed)
    (fun i t arrival h => by rw [h]; rfl) arrivals rfl

/-- What a limiter has seen, with its decisions: it is numbered by windows. -/
theorem numbered_decisions {maxPerWindow : UInt64} {window created : Nat}
    {arrivals : List (WireEnvelope × Nat)} {front : List (Window (WireEnvelope × Nat))}
    {w : Window (WireEnvelope × Nat)} {t : WireRun}
    (h : t.Windowed maxPerWindow window created arrivals front w) :
    (arrivals.zip t.log).map (fun y => (y.1, decide (y.2.2 = some .accept))) =
      (numbered (front ++ [w])).map fun x => (x.1, decide (x.2 < maxPerWindow.toNat)) := by
  have hseen : arrivals = (numbered (front ++ [w])).map Prod.fst := by
    rw [← h.cut.flatten, numbered, List.map_flatMap]
    simp
  have hdecided : t.log.map (fun d => decide (d.2 = some .accept))
      = (numbered (front ++ [w])).map fun x => decide (x.2 < maxPerWindow.toNat) := by
    have := congrArg (List.map Prod.snd) h.log
    rwa [List.map_map, List.map_map] at this
  calc (arrivals.zip t.log).map (fun y => (y.1, decide (y.2.2 = some .accept)))
      = arrivals.zip (t.log.map fun d => decide (d.2 = some .accept)) := by
        rw [List.zip_map_right]
        rfl
    _ = (numbered (front ++ [w])).map fun x => (x.1, decide (x.2 < maxPerWindow.toNat)) := by
        rw [hdecided]
        nth_rewrite 1 [hseen]
        rw [List.zip_map']

section Limits

variable (maxBytes : Nat) (maxPerWindow : UInt64) (window created : Nat)

/-- The size limit before the rate limit. -/
def sizeFirst : WireInterceptorPipeline :=
  (WireInterceptorPipeline.new.add (MaxBodySizeInterceptor.mk maxBytes).boxed).add
    (RateLimitWireInterceptor.new maxPerWindow window created).boxed

/-- The rate limit before the size limit. -/
def rateFirst : WireInterceptorPipeline :=
  (WireInterceptorPipeline.new.add
    (RateLimitWireInterceptor.new maxPerWindow window created).boxed).add
    (MaxBodySizeInterceptor.mk maxBytes).boxed

/-- Behind the size limit the rate limit sees what fits. -/
theorem apart_sizeFirst (arrivals : List (WireEnvelope × Nat)) :
    apart WireInterceptor.react (sizeFirst maxBytes maxPerWindow window created).interceptors
        arrivals =
      [(MaxBodySizeInterceptor.mk maxBytes).boxed,
        (run WireRun.step (.start maxPerWindow window created)
          (arrivals.filter (Fits maxBytes ·))).limiter.boxed] := by
  have hfilter : (fun arrival : WireEnvelope × Nat =>
      ((MaxBodySizeInterceptor.mk maxBytes).boxed.react arrival).1.isNone)
        = (Fits maxBytes ·) := by
    funext arrival
    rw [react_maxBodySize]
    by_cases hfits : Fits maxBytes arrival <;> simp [hfits]
  show apart _ [_, _] arrivals = _
  rw [apart_cons, apart_cons, alone_of_fixed (maxBodySize_fixed maxBytes),
    passed_of_fixed (maxBodySize_fixed maxBytes), hfilter]
  exact congrArg (fun i => [_, i]) (alone_rateLimit (.start maxPerWindow window created) _)

/-- In front of it, it sees everything. -/
theorem apart_rateFirst (arrivals : List (WireEnvelope × Nat)) :
    apart WireInterceptor.react (rateFirst maxBytes maxPerWindow window created).interceptors
        arrivals =
      [(run WireRun.step (.start maxPerWindow window created) arrivals).limiter.boxed,
        (MaxBodySizeInterceptor.mk maxBytes).boxed] := by
  show apart _ [_, _] arrivals = _
  rw [apart_cons, apart_cons, alone_of_fixed (maxBodySize_fixed maxBytes),
    ← alone_rateLimit (.start maxPerWindow window created)]
  rfl

/-- The results of what fits are the decisions of the limiter. -/
theorem log_sizeFirst (arrivals : List (WireEnvelope × Nat)) :
    let small := arrivals.filter (Fits maxBytes ·)
    (run PipelineRun.step ⟨sizeFirst maxBytes maxPerWindow window created, []⟩ arrivals).log.filter
        (Fits maxBytes ·.1) =
      (small.zip (run WireRun.step (.start maxPerWindow window created) small).log).map
        fun y => (y.1, limited y.2.2 (some (.ok .accepted))) := by
  induction arrivals using List.reverseRecOn with
  | nil => rfl
  | append_singleton arrivals arrival ih =>
      intro small
      rw [PipelineRun.log_concat, apart_sizeFirst, firstObjection_sizeFirst, List.filter_append,
        ih]
      by_cases hfits : Fits maxBytes arrival
      · have hsmall : small = arrivals.filter (Fits maxBytes ·) ++ [arrival] := by
          simp [small, hfits]
        rw [hsmall, run_append, run_cons, if_pos hfits]
        show _ = List.map _ (List.zip _ (WireRun.step _ arrival).log)
        rw [WireRun.step, List.zip_append (by rw [WireRun.length_log]; exact (Nat.zero_add _).symm),
          List.map_append]
        simp [hfits]
      · have hsmall : small = arrivals.filter (Fits maxBytes ·) := by
          simp [small, hfits]
        rw [hsmall]
        simp [hfits]

theorem log_rateFirst (arrivals : List (WireEnvelope × Nat)) :
    (run PipelineRun.step ⟨rateFirst maxBytes maxPerWindow window created, []⟩ arrivals).log =
      (arrivals.zip (run WireRun.step (.start maxPerWindow window created) arrivals).log).map
        fun y => (y.1, limited y.2.2 (sized maxBytes y.1)) := by
  induction arrivals using List.reverseRecOn with
  | nil => rfl
  | append_singleton arrivals arrival ih =>
      rw [PipelineRun.log_concat, apart_rateFirst, firstObjection_rateFirst, ih, run_append,
        run_cons]
      show _ = List.map _ (List.zip _ (WireRun.step _ arrival).log)
      rw [WireRun.step, List.zip_append (by rw [WireRun.length_log]; exact (Nat.zero_add _).symm),
        List.map_append]
      rfl

theorem oversize_sizeFirst (arrivals : List (WireEnvelope × Nat)) :
    ∀ x ∈ (run PipelineRun.step ⟨sizeFirst maxBytes maxPerWindow window created, []⟩ arrivals).log,
      ¬ Fits maxBytes x.1 → x.2 = some (.error (oversize maxBytes x.1)) := by
  induction arrivals using List.reverseRecOn with
  | nil => intro x hx; cases hx
  | append_singleton arrivals arrival ih =>
      intro x hx hlarge
      rw [PipelineRun.log_concat, List.mem_append, List.mem_singleton] at hx
      rcases hx with hx | rfl
      · exact ih x hx hlarge
      · show firstObjection _ arrival = _
        rw [apart_sizeFirst, firstObjection_sizeFirst, if_neg hlarge]

/-- **The order of the interceptors decides who uses up the rate.**  With the
size limit first, what does not fit is rejected as such and leaves the rate
alone: the windows are those of the envelopes that fit, and of each window the
first `max_per_window` are accepted.  With the rate limit first the windows are
those of all envelopes: one that does not fit takes a place in its window, and
is rejected all the same. -/
theorem interceptor_order_decides (hwindow : 0 < window) (arrivals : List (WireEnvelope × Nat)) :
    let sized := (run PipelineRun.step ⟨sizeFirst maxBytes maxPerWindow window created, []⟩
      arrivals).log
    let rated := (run PipelineRun.step ⟨rateFirst maxBytes maxPerWindow window created, []⟩
      arrivals).log
    (∃ ws, Cut Prod.snd (fun s t => window ≤ t - s) (arrivals.filter (Fits maxBytes ·)) ws ∧
      ws.head?.map Window.start = some created ∧
      (sized.filter (Fits maxBytes ·.1)).map (fun x => (x.1, Accepted x.2)) =
        (numbered ws).map fun x => (x.1, decide (x.2 < maxPerWindow.toNat))) ∧
    (∀ x ∈ sized, ¬ Fits maxBytes x.1 → x.2 = some (.error (oversize maxBytes x.1))) ∧
    ∃ ws, Cut Prod.snd (fun s t => window ≤ t - s) arrivals ws ∧
      ws.head?.map Window.start = some created ∧
      rated.map (fun x => (x.1, Accepted x.2)) = (numbered ws).map fun x =>
        (x.1, decide (x.2 < maxPerWindow.toNat) && decide (Fits maxBytes x.1)) := by
  intro sized rated
  obtain ⟨front, w, h⟩ := WireRun.windowed maxPerWindow created hwindow
    (arrivals.filter (Fits maxBytes ·))
  obtain ⟨front', w', h'⟩ := WireRun.windowed maxPerWindow created hwindow arrivals
  refine ⟨⟨front ++ [w], h.cut, h.first, ?_⟩,
    oversize_sizeFirst maxBytes maxPerWindow window created arrivals,
    ⟨front' ++ [w'], h'.cut, h'.first, ?_⟩⟩
  · rw [← numbered_decisions h, log_sizeFirst, List.map_map]
    refine List.map_congr_left ?_
    intro y _
    show (y.1, Accepted (limited y.2.2 (some (.ok .accepted)))) = _
    rw [accepted_limited]
    exact congrArg (Prod.mk y.1) (Bool.and_true _)
  · have hboth := congrArg (List.map fun x : (WireEnvelope × Nat) × Bool =>
      (x.1, x.2 && decide (Fits maxBytes x.1))) (numbered_decisions h')
    rw [List.map_map, List.map_map] at hboth
    refine Eq.trans ?_ hboth
    show List.map _ (PipelineRun.log _) = _
    rw [log_rateFirst, List.map_map]
    refine List.map_congr_left ?_
    intro y _
    simp only [Function.comp_apply, accepted_limited, accepted_sized]

end Limits

/-- One envelope in ten, of at most four bytes: a large one before a small one
costs it its place only if the rate limit comes first. -/
theorem interceptor_order_decides_largeSmall :
    let large : WireEnvelope × Nat := ({ someEnvelope with body := [1, 2, 3, 4, 5] }, 0)
    let small : WireEnvelope × Nat := ({ someEnvelope with body := [1, 2] }, 1)
    (run PipelineRun.step ⟨sizeFirst 4 1 10 0, []⟩ [large, small]).log.map (Accepted ·.2)
        = [false, true] ∧
      (run PipelineRun.step ⟨rateFirst 4 1 10 0, []⟩ [large, small]).log.map (Accepted ·.2)
        = [false, false] ∧
      ∃ ws, Cut Prod.snd (fun s t => 10 ≤ t - s) [small] ws := by
  refine ⟨by decide, by decide, ?_⟩
  obtain ⟨⟨ws, hcut, -⟩, -⟩ := interceptor_order_decides 4 1 10 0 (by decide)
    [({ someEnvelope with body := [1, 2, 3, 4, 5] }, 0), ({ someEnvelope with body := [1, 2] }, 1)]
  exact ⟨ws, hcut⟩

end Dactor
