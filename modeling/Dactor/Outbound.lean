/-
Dactor/Outbound.lean

Outbound interceptors, on the local and on the remote path.

A local reference runs `OutboundPipeline::run_on_send`, which returns the
first disposition other than `Continue`; `tell` and `ask` then go on after
`Continue` and `Delay`.  A remote reference runs its own loop, which goes on
after a `Delay` and stops at the first veto.  Stream items are judged as
local messages are.

Main result: `sameVeto_iff` — for interceptors whose answers depend on the
message only, the two paths decide alike and respect every veto exactly if
no `Delay` hides one.
-/
import Dactor.Mailbox

namespace Dactor

variable {σ M : Type}

/-! ### Outbound interceptors -/

/-- Metadata about an outbound message. -/
structure OutboundContext where
  targetId : ActorId
  targetName : String
  messageType : String
  sendMode : SendMode
  remote : Bool
  deriving DecidableEq, Repr

/-- An outbound interceptor with its interior state in `σ`; `M` is what it
sees of messages and stream items. -/
structure OutboundInterceptor (σ M : Type) where
  name : String
  onSend : OutboundContext → RuntimeHeaders → Headers → M → σ → Disposition × Headers × σ
  onExpandItem : OutboundContext → Headers → UInt64 → M → σ → Disposition × σ

/-- An interceptor that decides by the message, or by the item and its place
in the stream, and nothing else.  It may still stamp headers and count. -/
structure DeterministicInterceptor (σ M : Type) extends OutboundInterceptor σ M where
  sendDisposition : SendMode → M → Disposition
  itemDisposition : SendMode → UInt64 → M → Disposition
  onSend_eq : ∀ ctx rh headers msg s,
    (onSend ctx rh headers msg s).1 = sendDisposition ctx.sendMode msg
  onExpandItem_eq : ∀ ctx headers seq item s,
    (onExpandItem ctx headers seq item s).1 = itemDisposition ctx.sendMode seq item

/-- The final disposition and the interceptor that gave it. -/
structure InterceptResult where
  disposition : Disposition
  interceptorName : String
  deriving DecidableEq, Repr

def InterceptResult.continued : InterceptResult := ⟨.continued, ""⟩

/-- What a drop observer is told. -/
structure DropNotice where
  targetName : String
  messageType : String
  interceptorName : String
  sendMode : SendMode
  context : String
  seq : Option UInt64
  deriving DecidableEq, Repr

/-! ### The local path -/

structure OutboundPipeline (σ M : Type) where
  interceptors : List (OutboundInterceptor σ M)
  dropObserver : Bool
  targetId : ActorId
  targetName : String

/-- The loop of `run_on_send`: stop at the first disposition other than
`Continue`. -/
def sendLoop (octx : OutboundContext) (rh : RuntimeHeaders) (msg : M) :
    List (OutboundInterceptor σ M) → Headers → σ → InterceptResult × σ
  | [], _, s => (.continued, s)
  | i :: rest, headers, s =>
    let r := i.onSend octx rh headers msg s
    match r.1 with
    | .continued => sendLoop octx rh msg rest r.2.1 r.2.2
    | d => (⟨d, i.name⟩, r.2.2)

/-- `run_on_send`, with the notices it gives to the drop observer. -/
def OutboundPipeline.runOnSend (p : OutboundPipeline σ M) (sendMode : SendMode)
    (messageType : String) (msg : M) (rh : RuntimeHeaders) (s : σ) :
    InterceptResult × List DropNotice × σ :=
  let octx := ⟨p.targetId, p.targetName, messageType, sendMode, false⟩
  let (result, s) := sendLoop octx rh msg p.interceptors Headers.new s
  let notices := if p.dropObserver && result.disposition == .drop then
      [⟨p.targetName, messageType, result.interceptorName, sendMode, "outbound on_send", none⟩]
    else []
  (result, notices, s)

/-- The decision of a `tell` or an `ask` after its interceptors: return to
the caller, or go on with the delivery after a delay. -/
inductive Gate (ρ : Type)
  | returned (r : ρ)
  | passed (delay : Option Nat)
  deriving DecidableEq, Repr

def Gate.passes {ρ : Type} : Gate ρ → Bool
  | .returned _ => false
  | .passed _ => true

/-- `TestActorRef::tell` and `RactorActorRef::tell`, up to the dispatch.  A
delay is not supported in a synchronous context and ignored. -/
def OutboundPipeline.tellGate (p : OutboundPipeline σ M) (messageType : String) (msg : M)
    (rh : RuntimeHeaders) (s : σ) : Gate (Except ActorSendError Unit) :=
  match (p.runOnSend .tell messageType msg rh s).1.disposition with
  | .continued => .passed none
  | .delay _ => .passed none
  | .drop | .reject _ | .retry _ => .returned (.ok ())

/-- `TestActorRef::ask` and `RactorActorRef::ask`, up to the dispatch.  When
they return early, the reply is already there, and it is an error. -/
def OutboundPipeline.askGate (p : OutboundPipeline σ M) (messageType : String) (msg : M)
    (rh : RuntimeHeaders) (s : σ) : Gate RuntimeError :=
  let result := (p.runOnSend .ask messageType msg rh s).1
  match result.disposition with
  | .continued => .passed none
  | .delay _ => .passed none
  | .drop => .returned (.actorNotFound "message dropped by outbound interceptor")
  | .reject reason => .returned (.rejected result.interceptorName reason)
  | .retry retryAfter => .returned (.retryAfter result.interceptorName retryAfter)

/-! ### Stream items -/

/-- `intercept_outbound_stream_item`. -/
def interceptOutboundStreamItem (ctx : OutboundContext) (headers : Headers) (seq : UInt64)
    (item : M) : List (OutboundInterceptor σ M) → σ → InterceptResult × σ
  | [], s => (.continued, s)
  | i :: rest, s =>
    let r := i.onExpandItem ctx headers seq item s
    match r.1 with
    | .continued => interceptOutboundStreamItem ctx headers seq item rest r.2
    | d => (⟨d, i.name⟩, r.2)

/-! ### The remote path -/

/-- The decimal digits of a fraction in units of `10 ^ -width`, without
trailing zeros. -/
def fractionDigits (fraction width : Nat) : List Char :=
  let digits := Nat.toDigits 10 fraction
  let padded := List.replicate (width - digits.length) '0' ++ digits
  (padded.reverse.dropWhile (· == '0')).reverse

def fmtDecimal (integer fraction width : Nat) (unit : String) : String :=
  toString integer ++
    (if fraction = 0 then "" else "." ++ String.ofList (fractionDigits fraction width)) ++ unit

/-- `{:?}` of a `Duration`, from its nanoseconds. -/
def durationDebug (d : Nat) : String :=
  if 10 ^ 9 ≤ d then fmtDecimal (d / 10 ^ 9) (d % 10 ^ 9) 9 "s"
  else if 10 ^ 6 ≤ d then fmtDecimal (d / 10 ^ 6) (d % 10 ^ 6) 6 "ms"
  else if 10 ^ 3 ≤ d then fmtDecimal (d / 10 ^ 3) (d % 10 ^ 3) 3 "µs"
  else fmtDecimal d 0 0 "ns"

/-- A serialize function: the type name and the body, or the message of its
error. -/
abbrev SerializeFn (M : Type) := M → Except String (String × Bytes)

/-- A reference to an actor on another node. -/
structure RemoteActorRef (σ M : Type) where
  id : ActorId
  name : String
  tellSerializers : TypeId → Option (SerializeFn M)
  outboundInterceptors : List (OutboundInterceptor σ M)

inductive PipelineResult
  | continued
  | delay (d : Nat)
  | dropped
  deriving DecidableEq, Repr

/-- The loop of `run_outbound_pipeline`; `delay` is the largest one asked
for so far. -/
def pipelineLoop (ctx : OutboundContext) (rh : RuntimeHeaders) (msg : M) :
    List (OutboundInterceptor σ M) → Option Nat → Headers → σ →
      Except ActorSendError PipelineResult × Headers × σ
  | [], delay, headers, s =>
    (.ok (match delay with
      | some d => .delay d
      | none => .continued), headers, s)
  | i :: rest, delay, headers, s =>
    let r := i.onSend ctx rh headers msg s
    match r.1 with
    | .continued => pipelineLoop ctx rh msg rest delay r.2.1 r.2.2
    | .reject reason =>
      (.error ⟨"rejected by outbound interceptor '" ++ i.name ++ "': " ++ reason⟩, r.2)
    | .drop => (.ok .dropped, r.2)
    | .delay d =>
      let longest := match delay with
        | some existing => if existing > d then existing else d
        | none => d
      pipelineLoop ctx rh msg rest (some longest) r.2.1 r.2.2
    | .retry retryAfter =>
      (.error ⟨"retry after " ++ durationDebug retryAfter ++ " (from outbound interceptor '" ++
        i.name ++ "')"⟩, r.2)

/-- `run_outbound_pipeline`, with the headers it leaves. -/
def RemoteActorRef.runOutboundPipeline (r : RemoteActorRef σ M) (messageType : String)
    (sendMode : SendMode) (headers : Headers) (msg : M) (rh : RuntimeHeaders) (s : σ) :
    Except ActorSendError PipelineResult × Headers × σ :=
  if r.outboundInterceptors.isEmpty then (.ok .continued, headers, s)
  else pipelineLoop ⟨r.id, r.name, messageType, sendMode, true⟩ rh msg r.outboundInterceptors
    none headers s

/-- What `RemoteActorRef::tell` makes of the result; a drop is silent. -/
def remoteTellGate : Except ActorSendError PipelineResult → Gate (Except ActorSendError Unit)
  | .error e => .returned (.error e)
  | .ok .dropped => .returned (.ok ())
  | .ok .continued => .passed none
  | .ok (.delay d) => .passed (some d)

/-- What `RemoteActorRef::ask` makes of the result; a drop is an error. -/
def remoteAskGate : Except ActorSendError PipelineResult → Gate ActorSendError
  | .error e => .returned e
  | .ok .dropped => .returned ⟨"message dropped by outbound interceptor"⟩
  | .ok .continued => .passed none
  | .ok (.delay d) => .passed (some d)

/-- `RemoteActorRef::tell`, up to the serialization. -/
def RemoteActorRef.tellGate (r : RemoteActorRef σ M) (messageType : String) (msg : M)
    (rh : RuntimeHeaders) (s : σ) : Gate (Except ActorSendError Unit) :=
  remoteTellGate (r.runOutboundPipeline messageType .tell Headers.new msg rh s).1

/-- `RemoteActorRef::ask`, up to the serialization. -/
def RemoteActorRef.askGate (r : RemoteActorRef σ M) (messageType : String) (msg : M)
    (rh : RuntimeHeaders) (s : σ) : Gate ActorSendError :=
  remoteAskGate (r.runOutboundPipeline messageType .ask Headers.new msg rh s).1

/-! ### The decisions, by the list of dispositions -/

/-- The first disposition other than `Continue`, if any. -/
def firstDecision : List Disposition → Disposition
  | [] => .continued
  | .continued :: rest => firstDecision rest
  | d :: _ => d

/-- The first disposition other than `Continue` is a `Delay`, and a veto
comes after it. -/
def delayHidesVeto : List Disposition → Bool
  | [] => false
  | .continued :: rest => delayHidesVeto rest
  | .delay _ :: rest => rest.any Disposition.vetoes
  | _ :: _ => false

/-- The first decision vetoes exactly if some disposition does, unless a
delay hides it. -/
theorem firstDecision_vetoes_iff (ds : List Disposition) :
    (firstDecision ds).vetoes = ds.any Disposition.vetoes ↔ delayHidesVeto ds = false := by
  induction ds with
  | nil => exact iff_of_true rfl rfl
  | cons d rest ih =>
      cases d with
      | continued => exact ih
      | delay d =>
          show false = rest.any Disposition.vetoes ↔ rest.any Disposition.vetoes = false
          exact eq_comm
      | drop => exact iff_of_true rfl rfl
      | reject reason => exact iff_of_true rfl rfl
      | retry retryAfter => exact iff_of_true rfl rfl

/-- A first decision that vetoes is one of the list. -/
theorem any_vetoes_of_firstDecision {ds : List Disposition}
    (h : (firstDecision ds).vetoes = true) : ds.any Disposition.vetoes = true := by
  induction ds with
  | nil => cases h
  | cons d rest ih =>
      cases d with
      | continued => exact ih h
      | delay d => cases h
      | drop => rfl
      | reject reason => rfl
      | retry retryAfter => rfl

/-- A decision that does not veto respects every veto exactly if no delay
hides one. -/
theorem firstDecision_respects_iff (ds : List Disposition) :
    ((firstDecision ds).vetoes = false → ∀ d ∈ ds, d.vetoes = false) ↔
      delayHidesVeto ds = false := by
  have hany : (∀ d ∈ ds, d.vetoes = false) ↔ ds.any Disposition.vetoes = false := by
    rw [List.any_eq_false]
    exact forall₂_congr fun d _ => Bool.eq_false_iff
  rw [← firstDecision_vetoes_iff, hany]
  constructor
  · intro h
    cases hv : (firstDecision ds).vetoes with
    | false => exact (h hv).symm
    | true => exact (any_vetoes_of_firstDecision hv).symm
  · intro h hv
    rw [← h]
    exact hv

/-! ### The answers of one pass -/

/-- The answers of the outbound interceptors, each asked in turn. -/
def sendAnswers (octx : OutboundContext) (rh : RuntimeHeaders) (msg : M) :
    List (OutboundInterceptor σ M) → Headers → σ → List Disposition
  | [], _, _ => []
  | i :: is, headers, s =>
    let r := i.onSend octx rh headers msg s
    r.1 :: sendAnswers octx rh msg is r.2.1 r.2.2

/-- The answers to a stream item, each interceptor asked in turn. -/
def itemAnswers (octx : OutboundContext) (headers : Headers) (seq : UInt64) (item : M) :
    List (OutboundInterceptor σ M) → σ → List Disposition
  | [], _ => []
  | i :: is, s =>
    let r := i.onExpandItem octx headers seq item s
    r.1 :: itemAnswers octx headers seq item is r.2

/-- Interceptors that decide by the message only answer the same in any
circumstances. -/
theorem sendAnswers_deterministic (is : List (DeterministicInterceptor σ M))
    (octx : OutboundContext) (rh : RuntimeHeaders) (msg : M) (headers : Headers) (s : σ) :
    sendAnswers octx rh msg (is.map (·.toOutboundInterceptor)) headers s =
      is.map fun i => i.sendDisposition octx.sendMode msg := by
  induction is generalizing headers s with
  | nil => rfl
  | cons i is ih => rw [List.map_cons, List.map_cons, sendAnswers, ih, i.onSend_eq]

theorem itemAnswers_deterministic (is : List (DeterministicInterceptor σ M))
    (octx : OutboundContext) (headers : Headers) (seq : UInt64) (item : M) (s : σ) :
    itemAnswers octx headers seq item (is.map (·.toOutboundInterceptor)) s =
      is.map fun i => i.itemDisposition octx.sendMode seq item := by
  induction is generalizing s with
  | nil => rfl
  | cons i is ih => rw [List.map_cons, List.map_cons, itemAnswers, ih, i.onExpandItem_eq]

/-- The local loop returns the first decision of a full pass. -/
theorem sendLoop_firstDecision (octx : OutboundContext) (rh : RuntimeHeaders) (msg : M)
    (is : List (OutboundInterceptor σ M)) (headers : Headers) (s : σ) :
    (sendLoop octx rh msg is headers s).1.disposition
      = firstDecision (sendAnswers octx rh msg is headers s) := by
  induction is generalizing headers s with
  | nil => rfl
  | cons i is ih =>
      rcases hd : (i.onSend octx rh headers msg s).1 with - | d | - | reason | after
      · simp only [sendLoop, sendAnswers, hd]
        exact ih ..
      all_goals simp only [sendLoop, sendAnswers, hd, firstDecision]

theorem interceptItem_firstDecision (octx : OutboundContext) (headers : Headers) (seq : UInt64)
    (item : M) (is : List (OutboundInterceptor σ M)) (s : σ) :
    (interceptOutboundStreamItem octx headers seq item is s).1.disposition
      = firstDecision (itemAnswers octx headers seq item is s) := by
  induction is generalizing s with
  | nil => rfl
  | cons i is ih =>
      rcases hd : (i.onExpandItem octx headers seq item s).1 with - | d | - | reason | after
      · simp only [interceptOutboundStreamItem, itemAnswers, hd]
        exact ih ..
      all_goals simp only [interceptOutboundStreamItem, itemAnswers, hd, firstDecision]

/-- The pipeline lets the message through. -/
def PipelineResult.goesOn : Except ActorSendError PipelineResult → Bool
  | .error _ => false
  | .ok .dropped => false
  | .ok .continued => true
  | .ok (.delay _) => true

theorem remoteTellGate_passes (result : Except ActorSendError PipelineResult) :
    (remoteTellGate result).passes = PipelineResult.goesOn result := by
  rcases result with e | (- | d | -) <;> rfl

theorem remoteAskGate_passes (result : Except ActorSendError PipelineResult) :
    (remoteAskGate result).passes = PipelineResult.goesOn result := by
  rcases result with e | (- | d | -) <;> rfl

/-- The remote loop goes on unless some answer of a full pass is a veto. -/
theorem pipelineLoop_goesOn (is : List (OutboundInterceptor σ M)) (ctx : OutboundContext)
    (rh : RuntimeHeaders) (msg : M) (delay : Option Nat) (headers : Headers) (s : σ) :
    PipelineResult.goesOn (pipelineLoop ctx rh msg is delay headers s).1 =
      !(sendAnswers ctx rh msg is headers s).any Disposition.vetoes := by
  induction is generalizing delay headers s with
  | nil => cases delay <;> rfl
  | cons i is ih =>
      rcases hd : (i.onSend ctx rh headers msg s).1 with - | d | - | reason | after
      · simp only [pipelineLoop, sendAnswers, hd]
        exact ih ..
      · simp only [pipelineLoop, sendAnswers, hd]
        exact ih ..
      all_goals
        simp only [pipelineLoop, sendAnswers, hd]
        rfl

/-! ### The two paths compared -/

/-- A local and a remote reference with the same interceptors. -/
structure BothRefs (σ M : Type) where
  interceptors : List (DeterministicInterceptor σ M)
  dropObserver : Bool
  targetId : ActorId
  targetName : String
  tellSerializers : TypeId → Option (SerializeFn M)

namespace BothRefs

variable (refs : BothRefs σ M)

def localPipeline : OutboundPipeline σ M :=
  ⟨refs.interceptors.map (·.toOutboundInterceptor), refs.dropObserver, refs.targetId,
    refs.targetName⟩

def remoteRef : RemoteActorRef σ M :=
  ⟨refs.targetId, refs.targetName, refs.tellSerializers,
    refs.interceptors.map (·.toOutboundInterceptor)⟩

/-- What the interceptors answer for a message, in list order. -/
def sendDispositions (mode : SendMode) (msg : M) : List Disposition :=
  refs.interceptors.map fun i => i.sendDisposition mode msg

def itemDispositions (mode : SendMode) (seq : UInt64) (item : M) : List Disposition :=
  refs.interceptors.map fun i => i.itemDisposition mode seq item

/-- The runtime headers and the interior states the two calls meet. -/
structure Circumstances (σ : Type) where
  localHeaders : RuntimeHeaders
  remoteHeaders : RuntimeHeaders
  localState : σ
  remoteState : σ

/-- A message: the two paths decide alike for `tell` and for `ask`, and none
lets through what an interceptor vetoes. -/
structure SameVeto (messageType : String) (msg : M) (c : Circumstances σ) : Prop where
  tell : (refs.localPipeline.tellGate messageType msg c.localHeaders c.localState).passes =
    (refs.remoteRef.tellGate messageType msg c.remoteHeaders c.remoteState).passes
  ask : (refs.localPipeline.askGate messageType msg c.localHeaders c.localState).passes =
    (refs.remoteRef.askGate messageType msg c.remoteHeaders c.remoteState).passes
  tellRespects :
    (refs.localPipeline.tellGate messageType msg c.localHeaders c.localState).passes = true ∨
      (refs.remoteRef.tellGate messageType msg c.remoteHeaders c.remoteState).passes = true →
    ∀ d ∈ refs.sendDispositions .tell msg, d.vetoes = false
  askRespects :
    (refs.localPipeline.askGate messageType msg c.localHeaders c.localState).passes = true ∨
      (refs.remoteRef.askGate messageType msg c.remoteHeaders c.remoteState).passes = true →
    ∀ d ∈ refs.sendDispositions .ask msg, d.vetoes = false

/-- A stream item: it is delivered only if no interceptor vetoes it. -/
def RespectsItem (ctx : OutboundContext) (headers : Headers) (seq : UInt64) (item : M)
    (s : σ) : Prop :=
  (interceptOutboundStreamItem ctx headers seq item
      (refs.interceptors.map (·.toOutboundInterceptor)) s).1.disposition.vetoes = false →
    ∀ d ∈ refs.itemDispositions ctx.sendMode seq item, d.vetoes = false

variable (messageType : String) (msg : M) (rh : RuntimeHeaders) (s : σ)

theorem runOnSend_disposition (mode : SendMode) :
    (refs.localPipeline.runOnSend mode messageType msg rh s).1.disposition =
      firstDecision (refs.sendDispositions mode msg) := by
  rw [sendDispositions, ← sendAnswers_deterministic refs.interceptors
    ⟨refs.targetId, refs.targetName, messageType, mode, false⟩ rh msg Headers.new s]
  exact sendLoop_firstDecision ..

theorem localTell_passes :
    (refs.localPipeline.tellGate messageType msg rh s).passes =
      !(firstDecision (refs.sendDispositions .tell msg)).vetoes := by
  rw [OutboundPipeline.tellGate, runOnSend_disposition]
  cases firstDecision (refs.sendDispositions .tell msg) <;> rfl

theorem localAsk_passes :
    (refs.localPipeline.askGate messageType msg rh s).passes =
      !(firstDecision (refs.sendDispositions .ask msg)).vetoes := by
  simp only [OutboundPipeline.askGate, runOnSend_disposition]
  cases firstDecision (refs.sendDispositions .ask msg) <;> rfl

theorem runOutboundPipeline_goesOn (mode : SendMode) (headers : Headers) :
    PipelineResult.goesOn
        (refs.remoteRef.runOutboundPipeline messageType mode headers msg rh s).1 =
      !(refs.sendDispositions mode msg).any Disposition.vetoes := by
  rw [RemoteActorRef.runOutboundPipeline]
  split
  · next hempty =>
      -- with no interceptor there is nobody to veto
      have hnil : refs.interceptors = [] := by
        have hmap := List.isEmpty_iff.mp hempty
        exact List.map_eq_nil_iff.mp hmap
      rw [sendDispositions, hnil]
      rfl
  · rw [sendDispositions, ← sendAnswers_deterministic refs.interceptors
      ⟨refs.targetId, refs.targetName, messageType, mode, true⟩ rh msg headers s]
    exact pipelineLoop_goesOn ..

theorem remoteTell_passes :
    (refs.remoteRef.tellGate messageType msg rh s).passes =
      !(refs.sendDispositions .tell msg).any Disposition.vetoes := by
  rw [RemoteActorRef.tellGate, remoteTellGate_passes, runOutboundPipeline_goesOn]

theorem remoteAsk_passes :
    (refs.remoteRef.askGate messageType msg rh s).passes =
      !(refs.sendDispositions .ask msg).any Disposition.vetoes := by
  rw [RemoteActorRef.askGate, remoteAskGate_passes, runOutboundPipeline_goesOn]

end BothRefs

/-- Two paths that pass by the first decision and by all dispositions agree
exactly if no delay hides a veto, and then respect every veto. -/
theorem paths_agree_iff (ds : List Disposition) :
    ((!(firstDecision ds).vetoes) = (!ds.any Disposition.vetoes)) ↔
      delayHidesVeto ds = false := by
  rw [← firstDecision_vetoes_iff]
  exact Bool.not_inj_iff

theorem paths_respect {ds : List Disposition} (h : delayHidesVeto ds = false)
    (hpass : (!(firstDecision ds).vetoes) = true ∨ (!ds.any Disposition.vetoes) = true) :
    ∀ d ∈ ds, d.vetoes = false := by
  rw [← (paths_agree_iff ds).mpr h, or_self, Bool.not_eq_true'] at hpass
  exact (firstDecision_respects_iff ds).mpr h hpass

/-- **Outbound interceptors have the same veto on both paths**, and stream
items cannot pass a veto, exactly if in none of the lists of answers for the
message and the item a `Delay` that comes first hides a veto. -/
theorem sameVeto_iff (refs : BothRefs σ M) (messageType : String) (msg : M)
    (c : BothRefs.Circumstances σ) (ctx : OutboundContext) (headers : Headers) (seq : UInt64)
    (item : M) (s : σ) :
    refs.SameVeto messageType msg c ∧ refs.RespectsItem ctx headers seq item s ↔
      delayHidesVeto (refs.sendDispositions .tell msg) = false ∧
      delayHidesVeto (refs.sendDispositions .ask msg) = false ∧
      delayHidesVeto (refs.itemDispositions ctx.sendMode seq item) = false := by
  have hitem : refs.RespectsItem ctx headers seq item s ↔
      delayHidesVeto (refs.itemDispositions ctx.sendMode seq item) = false := by
    rw [BothRefs.RespectsItem, interceptItem_firstDecision, itemAnswers_deterministic]
    exact firstDecision_respects_iff _
  constructor
  · rintro ⟨hmsg, hrespects⟩
    have htell := hmsg.tell
    have hask := hmsg.ask
    rw [BothRefs.localTell_passes, BothRefs.remoteTell_passes, paths_agree_iff] at htell
    rw [BothRefs.localAsk_passes, BothRefs.remoteAsk_passes, paths_agree_iff] at hask
    exact ⟨htell, hask, hitem.mp hrespects⟩
  · rintro ⟨htell, hask, hrespects⟩
    refine ⟨⟨?_, ?_, ?_, ?_⟩, hitem.mpr hrespects⟩
    · rw [BothRefs.localTell_passes, BothRefs.remoteTell_passes]
      exact (paths_agree_iff _).mpr htell
    · rw [BothRefs.localAsk_passes, BothRefs.remoteAsk_passes]
      exact (paths_agree_iff _).mpr hask
    · rw [BothRefs.localTell_passes, BothRefs.remoteTell_passes]
      exact paths_respect htell
    · rw [BothRefs.localAsk_passes, BothRefs.remoteAsk_passes]
      exact paths_respect hask

/-- An interceptor with one answer for everything. -/
def constantInterceptor (M : Type) (name : String) (d : Disposition) :
    DeterministicInterceptor Unit M where
  name
  onSend _ _ headers _ _ := (d, headers, ())
  onExpandItem _ _ _ _ _ := (d, ())
  sendDisposition _ _ := d
  itemDisposition _ _ _ := d
  onSend_eq _ _ _ _ _ := rfl
  onExpandItem_eq _ _ _ _ _ := rfl

/-- A delaying interceptor in front of a dropping one. -/
def delayThenDrop : BothRefs Unit Unit where
  interceptors := [constantInterceptor Unit "slow" (.delay 1000000),
    constantInterceptor Unit "deny" .drop]
  dropObserver := false
  targetId := ⟨⟨"node-1"⟩, 1⟩
  targetName := "worker"
  tellSerializers _ := none

/-- Locally the message passes the interceptor that would drop it. -/
theorem sameVeto_fails :
    ¬ ∀ (refs : BothRefs Unit Unit) (messageType : String) (c : BothRefs.Circumstances Unit),
      refs.SameVeto messageType () c := by
  intro h
  have hall := h delayThenDrop "Ping" ⟨⟨0, 0⟩, ⟨1, 0⟩, (), ()⟩
  exact absurd hall.tell (by decide)

end Dactor
