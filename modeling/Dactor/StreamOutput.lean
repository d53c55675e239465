/-
Dactor/StreamOutput.lean

The output stream of `expand` and `transform`, with and without batching.

Without a batch configuration the items of the handler go through
`wrap_stream_with_interception`.  With one they first go through the writer
loop of `Dactor/BatchDelay.lean` and a batch reader, and then through
`wrap_batched_stream_with_interception`.  The two interception loops differ
in what they report of a dropped item: the second passes on the send mode of
the stream, the first always says `Expand`.  A writer loop that panics takes
the rest of the batched stream with it.

Main result: `batched_output_indistinguishable_iff`.
-/
import Dactor.BatchDelay
import Dactor.Delays

namespace Dactor

open Runs

variable {σ M T : Type}

/-! ### The interception loops -/

/-- The loop of both wrappers.  `noticeMode` and `context` are what a notice
says; the rest is as in `wrap_stream_with_interception`. -/
def OutboundPipeline.interceptStream (p : OutboundPipeline σ M) (messageType : String)
    (sendMode noticeMode : SendMode) (context : String) :
    List M → UInt64 → Nat → σ → List (StreamEvent M)
  | [], _, _, _ => []
  | item :: items, seq, accepts, s =>
    let octx := ⟨p.targetId, p.targetName, messageType, sendMode, false⟩
    let r := interceptOutboundStreamItem octx Headers.new seq item p.interceptors s
    match r.1.disposition with
    | .continued =>
      match accepts with
      -- the consumer is gone: the send fails, and the task ends
      | 0 => []
      | accepts + 1 =>
        .sent item ::
          p.interceptStream messageType sendMode noticeMode context items (seq + 1) accepts r.2
    | .drop | .retry _ =>
      (p.notifyItemDrop messageType noticeMode context r.1.interceptorName seq).map .dropped ++
        p.interceptStream messageType sendMode noticeMode context items (seq + 1) accepts r.2
    | .delay d =>
      .slept d ::
        match accepts with
        | 0 => []
        | accepts + 1 =>
          .sent item ::
            p.interceptStream messageType sendMode noticeMode context items (seq + 1) accepts r.2
    | .reject _ => []

theorem OutboundPipeline.wrapStreamWithInterception_eq (p : OutboundPipeline σ M)
    (messageType : String) (sendMode : SendMode) (items : List M) (seq : UInt64) (accepts : Nat)
    (s : σ) :
    p.wrapStreamWithInterception messageType sendMode items seq accepts s
      = p.interceptStream messageType sendMode .expand "stream reply" items seq accepts s := by
  induction items generalizing seq accepts s with
  | nil => rfl
  | cons item items ih =>
      rcases hd : (interceptOutboundStreamItem
        ⟨p.targetId, p.targetName, messageType, sendMode, false⟩ Headers.new seq item p.interceptors
        s).1.disposition with - | d | - | reason | after
      · cases accepts <;> simp only [wrapStreamWithInterception, interceptStream, hd, ih]
      · cases accepts <;> simp only [wrapStreamWithInterception, interceptStream, hd, ih]
      · simp only [wrapStreamWithInterception, interceptStream, hd, ih]
      · simp only [wrapStreamWithInterception, interceptStream, hd]
      · simp only [wrapStreamWithInterception, interceptStream, hd, ih]

/-- `into_stream`: the items of the current batch and then those of the
batches that follow, until the channel is closed. -/
def BatchReader.intoStream (r : BatchReader T) : List (List T) → List T
  | [] => r.currentBatch
  | batch :: batches => r.currentBatch ++ BatchReader.intoStream ⟨batch⟩ batches

theorem BatchReader.intoStream_eq (r : BatchReader T) (batches : List (List T)) :
    r.intoStream batches = r.currentBatch ++ batches.flatten := by
  induction batches generalizing r with
  | nil => exact (List.append_nil _).symm
  | cons batch batches ih => rw [intoStream, ih, List.flatten_cons]

/-- `wrap_batched_stream_with_interception` over the batches that the reader
gets. -/
def OutboundPipeline.wrapBatchedStreamWithInterception (p : OutboundPipeline σ M)
    (messageType : String) (sendMode : SendMode) (batches : List (List M)) (accepts : Nat)
    (s : σ) : List (StreamEvent M) :=
  p.interceptStream messageType sendMode sendMode "stream reply (batched)"
    (BatchReader.intoStream ⟨[]⟩ batches) 0 accepts s

/-! ### What the loops do with an item -/

/-- A stream opened by `expand` or `transform` through deterministic
interceptors. -/
structure OutputStream (σ M : Type) where
  interceptors : List (DeterministicInterceptor σ M)
  dropObserver : Bool
  targetId : ActorId
  targetName : String
  messageType : String
  sendMode : SendMode

namespace OutputStream

def pipeline (o : OutputStream σ M) : OutboundPipeline σ M :=
  ⟨o.interceptors.map (·.toOutboundInterceptor), o.dropObserver, o.targetId, o.targetName⟩

def unbatched (o : OutputStream σ M) (items : List M) (accepts : Nat) (s : σ) :
    List (StreamEvent M) :=
  o.pipeline.wrapStreamWithInterception o.messageType o.sendMode items 0 accepts s

def batched (o : OutputStream σ M) (batches : List (List M)) (accepts : Nat) (s : σ) :
    List (StreamEvent M) :=
  o.pipeline.wrapBatchedStreamWithInterception o.messageType o.sendMode batches accepts s

/-- The decision about an item. -/
def decision (o : OutputStream σ M) (seq : UInt64) (item : M) : Disposition :=
  firstDecision (o.interceptors.map fun i => i.itemDisposition o.sendMode seq item)

/-- An item before the first rejected one is dropped. -/
def drops (o : OutputStream σ M) : List M → UInt64 → Bool
  | [], _ => false
  | item :: items, seq =>
    match o.decision seq item with
    | .drop | .retry _ => true
    | .continued | .delay _ => o.drops items (seq + 1)
    | .reject _ => false

/-- The items after the first `k` make no difference: up to the first rejected
item they are dropped, and nobody is told. -/
def mutesFrom (o : OutputStream σ M) : Nat → List M → UInt64 → Bool
  | _, [], _ => true
  | k + 1, item :: items, seq =>
    match o.decision seq item with
    | .reject _ => true
    | _ => o.mutesFrom k items (seq + 1)
  | 0, item :: items, seq =>
    match o.decision seq item with
    | .drop | .retry _ => !o.dropObserver && o.mutesFrom 0 items (seq + 1)
    | .continued | .delay _ => false
    | .reject _ => true

/-- An item is rejected, which ends the stream. -/
def rejects (o : OutputStream σ M) : List M → UInt64 → Bool
  | [], _ => false
  | item :: items, seq =>
    match o.decision seq item with
    | .reject _ => true
    | _ => o.rejects items (seq + 1)

end OutputStream

/-- The result of deterministic interceptors does not depend on what they
remember. -/
theorem interceptItem_deterministic (is : List (DeterministicInterceptor σ M))
    (octx : OutboundContext) (headers : Headers) (seq : UInt64) (item : M) (s s' : σ) :
    (interceptOutboundStreamItem octx headers seq item
        (is.map (·.toOutboundInterceptor)) s).1 =
      (interceptOutboundStreamItem octx headers seq item
        (is.map (·.toOutboundInterceptor)) s').1 := by
  induction is generalizing s s' with
  | nil => rfl
  | cons i is ih =>
      have hsame : (i.onExpandItem octx headers seq item s).1
          = (i.onExpandItem octx headers seq item s').1 := by
        rw [i.onExpandItem_eq, i.onExpandItem_eq]
      rw [List.map_cons, interceptOutboundStreamItem, interceptOutboundStreamItem, hsame]
      split
      · exact ih _ _
      · rfl

/-- Another send mode and another text for a notice. -/
def StreamEvent.retag (mode : SendMode) (context : String) : StreamEvent M → StreamEvent M
  | .dropped notice => .dropped { notice with sendMode := mode, context }
  | event => event

theorem OutboundPipeline.notifyItemDrop_retag (p : OutboundPipeline σ M) (messageType : String)
    (mode mode' : SendMode) (context context' name : String) (seq : UInt64) :
    (p.notifyItemDrop messageType mode context name seq).map StreamEvent.dropped =
      ((p.notifyItemDrop messageType mode' context' name seq).map StreamEvent.dropped).map
        (StreamEvent.retag (M := M) mode context) := by
  rw [notifyItemDrop, notifyItemDrop]
  split <;> rfl

namespace OutputStream

open OutboundPipeline

variable (o : OutputStream σ M)

theorem disposition_eq (seq : UInt64) (item : M) (s : σ) :
    (interceptOutboundStreamItem
      ⟨o.pipeline.targetId, o.pipeline.targetName, o.messageType, o.sendMode, false⟩ Headers.new seq
      item o.pipeline.interceptors s).1.disposition = o.decision seq item := by
  rw [interceptItem_firstDecision]
  exact congrArg firstDecision (itemAnswers_deterministic ..)

theorem interceptorName_eq (seq : UInt64) (item : M) (s s' : σ) :
    (interceptOutboundStreamItem
      ⟨o.pipeline.targetId, o.pipeline.targetName, o.messageType, o.sendMode, false⟩ Headers.new seq
      item o.pipeline.interceptors s).1.interceptorName =
    (interceptOutboundStreamItem
      ⟨o.pipeline.targetId, o.pipeline.targetName, o.messageType, o.sendMode, false⟩ Headers.new seq
      item o.pipeline.interceptors s').1.interceptorName :=
  congrArg InterceptResult.interceptorName (interceptItem_deterministic o.interceptors ..)

/-- The two loops differ in what the notices say, and in nothing else. -/
theorem interceptStream_retag (mode mode' : SendMode) (context context' : String) (items : List M)
    (seq : UInt64) (accepts : Nat) (s s' : σ) :
    o.pipeline.interceptStream o.messageType o.sendMode mode context items seq accepts s =
      (o.pipeline.interceptStream o.messageType o.sendMode mode' context' items seq accepts
        s').map (StreamEvent.retag mode context) := by
  induction items generalizing seq accepts s s' with
  | nil => rfl
  | cons item items ih =>
      have hd := o.disposition_eq seq item s
      have hd' := o.disposition_eq seq item s'
      have hname := o.interceptorName_eq seq item s s'
      have hnotice := o.pipeline.notifyItemDrop_retag o.messageType mode mode' context context'
      rcases hdecision : o.decision seq item with - | d | - | reason | after
      · cases accepts with
        | zero => simp only [interceptStream, hd, hd', hdecision, List.map_nil]
        | succ accepts =>
            simp only [interceptStream, hd, hd', hdecision, List.map_cons, StreamEvent.retag]
            rw [ih]
      · cases accepts with
        | zero =>
            simp only [interceptStream, hd, hd', hdecision, List.map_cons, StreamEvent.retag,
              List.map_nil]
        | succ accepts =>
            simp only [interceptStream, hd, hd', hdecision, List.map_cons, StreamEvent.retag]
            rw [ih]
      · simp only [interceptStream, hd, hd', hdecision, List.map_append]
        rw [hname, hnotice, ih]
      · simp only [interceptStream, hd, hd', hdecision, List.map_nil]
      · simp only [interceptStream, hd, hd', hdecision, List.map_append]
        rw [hname, hnotice, ih]

/-- What comes after a rejected item does not matter. -/
theorem interceptStream_append {items : List M} {seq : UInt64} (h : o.rejects items seq = true)
    (more : List M) (mode : SendMode) (context : String) (accepts : Nat) (s : σ) :
    o.pipeline.interceptStream o.messageType o.sendMode mode context (items ++ more) seq accepts s =
      o.pipeline.interceptStream o.messageType o.sendMode mode context items seq accepts s := by
  induction items generalizing seq accepts s with
  | nil => cases h
  | cons item items ih =>
      have hd := o.disposition_eq seq item s
      rw [rejects] at h
      rw [List.cons_append]
      rcases hdecision : o.decision seq item with - | d | - | reason | after <;>
        rw [hdecision] at h
      · cases accepts <;> simp only [interceptStream, hd, hdecision, ih h]
      · cases accepts <;> simp only [interceptStream, hd, hdecision, ih h]
      · simp only [interceptStream, hd, hdecision, ih h]
      · simp only [interceptStream, hd, hdecision]
      · simp only [interceptStream, hd, hdecision, ih h]

end OutputStream

/-! ### What the observer sees -/

/-- The items that reach the consumer. -/
def yields (events : List (StreamEvent M)) : List M :=
  events.filterMap fun event =>
    match event with
    | .sent item => some item
    | _ => none

/-- The notices that the drop observer gets. -/
def notices (events : List (StreamEvent M)) : List DropNotice :=
  events.filterMap fun event =>
    match event with
    | .dropped notice => some notice
    | _ => none

theorem yields_append (events more : List (StreamEvent M)) :
    yields (events ++ more) = yields events ++ yields more :=
  List.filterMap_append

theorem notices_append (events more : List (StreamEvent M)) :
    notices (events ++ more) = notices events ++ notices more :=
  List.filterMap_append

/-- Name, send mode and number. -/
def DropNotice.report (n : DropNotice) : String × SendMode × Option UInt64 :=
  (n.interceptorName, n.sendMode, n.seq)

theorem yields_retag (mode : SendMode) (context : String) (events : List (StreamEvent M)) :
    yields (events.map (.retag mode context)) = yields events := by
  rw [yields, List.filterMap_map]
  apply List.filterMap_congr
  intro event _
  cases event <;> rfl

theorem notices_retag (mode : SendMode) (context : String) (events : List (StreamEvent M)) :
    notices (events.map (.retag mode context)) =
      (notices events).map fun n => { n with sendMode := mode, context } := by
  rw [notices, notices, List.filterMap_map, List.map_filterMap]
  apply List.filterMap_congr
  intro event _
  cases event <;> rfl

/-- Notices with another send mode report the same if that is the mode of the
stream, or there are none. -/
theorem reports_of_retag {sendMode mode : SendMode} {context : String} {all : List DropNotice}
    (hmode : ∀ n ∈ all, n.sendMode = sendMode) (h : sendMode = mode ∨ all = []) :
    let retagged := all.map fun n => { n with sendMode := mode, context }
    all.map DropNotice.report = retagged.map DropNotice.report ∧
      ∀ n ∈ all ++ retagged, n.sendMode = sendMode := by
  rcases h with rfl | rfl
  · constructor
    · rw [List.map_map]
      apply List.map_congr_left
      intro n hn
      rw [DropNotice.report, hmode n hn]
      rfl
    · intro n hn
      rcases List.mem_append.mp hn with hn | hn
      · exact hmode n hn
      · obtain ⟨n', -, rfl⟩ := List.mem_map.mp hn
        rfl
  · exact ⟨rfl, fun n hn => (by cases hn)⟩

namespace OutputStream

open OutboundPipeline

variable (o : OutputStream σ M)

/-- The report of one dropped item before the others. -/
theorem notices_notified_iff (mode : SendMode) (context name : String) (seq : UInt64)
    {rest : List (StreamEvent M)} {p : Prop}
    (hrest : notices rest = [] ↔ o.dropObserver = false ∨ p) :
    notices ((o.pipeline.notifyItemDrop o.messageType mode context name seq).map .dropped ++ rest)
      = [] ↔ o.dropObserver = false ∨ true = false := by
  rw [notifyItemDrop]
  rcases hobserver : o.dropObserver with - | -
  · rw [if_neg (by rw [pipeline, hobserver]; exact Bool.false_ne_true), List.map_nil,
      List.nil_append]
    exact iff_of_true (hrest.mpr (.inl hobserver)) (.inl rfl)
  · rw [if_pos (show o.pipeline.dropObserver = true from hobserver)]
    refine iff_of_false (fun h => by cases h) ?_
    rintro (h | h) <;> cases h

/-- A dropped item before others that may make no difference. -/
theorem mutes_notified_iff (mode : SendMode) (context name : String) (seq : UInt64)
    {rest : List (StreamEvent M)} {mutes : Bool}
    (hrest : (yields rest = [] ∧ notices rest = []) ↔ mutes = true) :
    let events :=
      (o.pipeline.notifyItemDrop o.messageType mode context name seq).map .dropped ++ rest
    (yields events = [] ∧ notices events = []) ↔ (!o.dropObserver && mutes) = true := by
  rw [notifyItemDrop]
  rcases hobserver : o.dropObserver with - | -
  · rw [if_neg (by rw [pipeline, hobserver]; exact Bool.false_ne_true)]
    exact hrest
  · rw [if_pos (show o.pipeline.dropObserver = true from hobserver)]
    exact iff_of_false (fun h => by cases h.2) Bool.false_ne_true

/-- The observer is told something exactly if there is an observer and a
dropped item. -/
theorem notices_eq_nil_iff (mode : SendMode) (context : String) (items : List M) (seq : UInt64)
    {accepts : Nat} (haccepts : items.length ≤ accepts) (s : σ) :
    notices (o.pipeline.interceptStream o.messageType o.sendMode mode context items seq accepts s)
      = [] ↔ o.dropObserver = false ∨ o.drops items seq = false := by
  induction items generalizing seq accepts s with
  | nil => exact iff_of_true rfl (.inr rfl)
  | cons item items ih =>
      have hd := o.disposition_eq seq item s
      obtain ⟨accepts, rfl⟩ : ∃ n, accepts = n + 1 :=
        Nat.exists_eq_succ_of_ne_zero (by rw [List.length_cons] at haccepts; omega)
      have haccepts : items.length ≤ accepts := Nat.le_of_succ_le_succ haccepts
      rw [drops]
      rcases hdecision : o.decision seq item with - | d | - | reason | after
      · simp only [interceptStream, hd, hdecision]
        exact ih (seq + 1) haccepts _
      · simp only [interceptStream, hd, hdecision]
        exact ih (seq + 1) haccepts _
      · simp only [interceptStream, hd, hdecision]
        exact o.notices_notified_iff _ _ _ _ (ih (seq + 1) (Nat.le_succ_of_le haccepts) _)
      · simp only [interceptStream, hd, hdecision]
        exact iff_of_true rfl (.inr trivial)
      · simp only [interceptStream, hd, hdecision]
        exact o.notices_notified_iff _ _ _ _ (ih (seq + 1) (Nat.le_succ_of_le haccepts) _)

/-- Items from which on nothing happens. -/
theorem mutes_iff (mode : SendMode) (context : String) (items : List M) (seq : UInt64)
    {accepts : Nat} (haccepts : items.length ≤ accepts) (s : σ) :
    let events := o.pipeline.interceptStream o.messageType o.sendMode mode context items seq
      accepts s
    (yields events = [] ∧ notices events = []) ↔ o.mutesFrom 0 items seq = true := by
  induction items generalizing seq accepts s with
  | nil => exact iff_of_true ⟨rfl, rfl⟩ rfl
  | cons item items ih =>
      have hd := o.disposition_eq seq item s
      obtain ⟨accepts, rfl⟩ : ∃ n, accepts = n + 1 :=
        Nat.exists_eq_succ_of_ne_zero (by rw [List.length_cons] at haccepts; omega)
      have haccepts : items.length ≤ accepts := Nat.le_of_succ_le_succ haccepts
      have hle : items.length ≤ accepts + 1 := Nat.le_succ_of_le haccepts
      rw [mutesFrom]
      rcases hdecision : o.decision seq item with - | d | - | reason | after
      · simp only [interceptStream, hd, hdecision]
        exact iff_of_false (fun h => by cases h.1) Bool.false_ne_true
      · simp only [interceptStream, hd, hdecision]
        exact iff_of_false (fun h => by cases h.1) Bool.false_ne_true
      · simp only [interceptStream, hd, hdecision]
        exact o.mutes_notified_iff _ _ _ _ (ih (seq + 1) hle _)
      · simp only [interceptStream, hd, hdecision]
        exact iff_of_true ⟨rfl, rfl⟩ trivial
      · simp only [interceptStream, hd, hdecision]
        exact o.mutes_notified_iff _ _ _ _ (ih (seq + 1) hle _)

/-- The stream of the first `k` items is the beginning of the stream, which
is all of it if the others make no difference. -/
theorem interceptStream_take (mode : SendMode) (context : String) (items : List M)
    (seq : UInt64) (k : Nat) {accepts : Nat} (haccepts : items.length ≤ accepts) (s : σ) :
    let stream := fun items =>
      o.pipeline.interceptStream o.messageType o.sendMode mode context items seq accepts s
    ∃ ys ns, yields (stream items) = yields (stream (items.take k)) ++ ys ∧
      notices (stream items) = notices (stream (items.take k)) ++ ns ∧
      ((ys = [] ∧ ns = []) ↔ o.mutesFrom k items seq = true) := by
  induction items generalizing seq k accepts s with
  | nil =>
      refine ⟨[], [], ?_, ?_, iff_of_true ⟨rfl, rfl⟩ ?_⟩
      · rw [List.take_nil, List.append_nil]
      · rw [List.take_nil, List.append_nil]
      · cases k <;> rfl
  | cons item items ih =>
      cases k with
      | zero => exact ⟨_, _, rfl, rfl, o.mutes_iff mode context _ seq haccepts s⟩
      | succ k =>
          have hd := o.disposition_eq seq item s
          obtain ⟨accepts, rfl⟩ : ∃ n, accepts = n + 1 :=
            Nat.exists_eq_succ_of_ne_zero (by rw [List.length_cons] at haccepts; omega)
          have haccepts : items.length ≤ accepts := Nat.le_of_succ_le_succ haccepts
          have hle : items.length ≤ accepts + 1 := Nat.le_succ_of_le haccepts
          rw [mutesFrom, List.take_succ_cons]
          rcases hdecision : o.decision seq item with - | d | - | reason | after
          · obtain ⟨ys, ns, hys, hns, hmutes⟩ := ih (seq + 1) k haccepts _
            refine ⟨ys, ns, ?_, ?_, hmutes⟩
            · simp only [interceptStream, hd, hdecision]
              exact congrArg (item :: ·) hys
            · simp only [interceptStream, hd, hdecision]
              exact hns
          · obtain ⟨ys, ns, hys, hns, hmutes⟩ := ih (seq + 1) k haccepts _
            refine ⟨ys, ns, ?_, ?_, hmutes⟩
            · simp only [interceptStream, hd, hdecision]
              exact congrArg (item :: ·) hys
            · simp only [interceptStream, hd, hdecision]
              exact hns
          · obtain ⟨ys, ns, hys, hns, hmutes⟩ := ih (seq + 1) k hle _
            refine ⟨ys, ns, ?_, ?_, hmutes⟩
            · simp only [interceptStream, hd, hdecision, yields_append]
              exact (congrArg (_ ++ ·) hys).trans (List.append_assoc ..).symm
            · simp only [interceptStream, hd, hdecision, notices_append]
              exact (congrArg (_ ++ ·) hns).trans (List.append_assoc ..).symm
          · refine ⟨[], [], ?_, ?_, iff_of_true ⟨rfl, rfl⟩ rfl⟩
            · simp only [interceptStream, hd, hdecision, List.append_nil]
            · simp only [interceptStream, hd, hdecision, List.append_nil]
          · obtain ⟨ys, ns, hys, hns, hmutes⟩ := ih (seq + 1) k hle _
            refine ⟨ys, ns, ?_, ?_, hmutes⟩
            · simp only [interceptStream, hd, hdecision, yields_append]
              exact (congrArg (_ ++ ·) hys).trans (List.append_assoc ..).symm
            · simp only [interceptStream, hd, hdecision, notices_append]
              exact (congrArg (_ ++ ·) hns).trans (List.append_assoc ..).symm

theorem mutesFrom_of_length_le {k : Nat} {items : List M} (seq : UInt64)
    (h : items.length ≤ k) : o.mutesFrom k items seq = true := by
  induction items generalizing k seq with
  | nil => cases k <;> rfl
  | cons item items ih =>
      obtain ⟨k, rfl⟩ : ∃ n, k = n + 1 :=
        Nat.exists_eq_succ_of_ne_zero (by rw [List.length_cons] at h; omega)
      rw [mutesFrom]
      split
      · rfl
      · exact ih (seq + 1) (Nat.le_of_succ_le_succ h)

theorem mutesFrom_of_rejects {k : Nat} {items : List M} {seq : UInt64}
    (h : o.rejects (items.take k) seq = true) : o.mutesFrom k items seq = true := by
  induction items generalizing k seq with
  | nil => cases k <;> rfl
  | cons item items ih =>
      cases k with
      | zero => cases h
      | succ k =>
          rw [List.take_succ_cons, rejects] at h
          rw [mutesFrom]
          rcases hdecision : o.decision seq item with - | d | - | reason | after <;>
            rw [hdecision] at h
          · exact ih h
          · exact ih h
          · exact ih h
          · exact ih h

theorem rejects_of_prefix {items more : List M} {seq : UInt64} (hpre : items <+: more)
    (h : o.rejects items seq = true) : o.rejects more seq = true := by
  obtain ⟨rest, rfl⟩ := hpre
  induction items generalizing seq with
  | nil => cases h
  | cons item items ih =>
      rw [List.cons_append, rejects] at *
      rcases hdecision : o.decision seq item with - | d | - | reason | after <;>
        rw [hdecision] at h
      · exact ih h
      · exact ih h
      · exact ih h
      · exact ih h

end OutputStream

/-! ### What the writer loop passes on -/

/-- The items that the handler emits before the channel is closed. -/
def emitted : List (LoopEvent T) → List T
  | [] => []
  | .item x _ :: events => x :: emitted events
  | .timer _ :: events => emitted events
  | .closed _ :: _ => []

/-- How many of these the loop takes before a push panics. -/
def taken (config : BatchConfig) : WriterLoop T → List (LoopEvent T) → Nat
  | _, [] => 0
  | s, .item x h :: events =>
    if s.running = true ∧ s.writer.DeadlineFits config h.now then
      taken config (s.step config (.item x h)) events + 1
    else 0
  | s, .timer h :: events => taken config (s.step config (.timer h)) events
  | _, .closed _ :: _ => 0

def LoopEvent.handling : LoopEvent T → Handling
  | .item _ h | .timer h | .closed h => h

namespace BatchWriter

variable (w : BatchWriter T)

theorem flush_flow : w.flush.1.getD [] ++ w.flush.2.buffer = w.buffer ∧ w.flush.2.buffer = [] := by
  rw [flush]
  split
  · next h => exact ⟨rfl, List.isEmpty_iff.mp h⟩
  · exact ⟨List.append_nil _, rfl⟩

/-- A call keeps the items it has. -/
theorem Outcome.flow {config : BatchConfig} {timed : List (T × Nat)}
    {r : Option (List T) × BatchWriter T} (h : Outcome config timed r) :
    r.1.getD [] ++ r.2.buffer = timed.map Prod.fst := by
  obtain ⟨batch | batch, w⟩ := r
  · exact h.items
  · obtain ⟨hbatch, -, -, hw⟩ := h
    show batch ++ w.buffer = _
    rw [hw.items, hbatch, List.map_nil, List.append_nil]

end BatchWriter

namespace OutputStream

open WriterLoop OutboundPipeline

variable (o : OutputStream σ M)

/-- The events of the loop while the consumer keeps reading: the reader of
the batches goes away only when it has rejected an item. -/
def Fed (config : BatchConfig) (s : WriterLoop M) (event : LoopEvent M) : Prop :=
  s.Possible config event ∧ (event.handling.consumer = false → o.rejects s.sent.flatten 0 = true)

/-- The loop has passed on everything, or enough. -/
def PassedOn (items : List M) (s : WriterLoop M) : Prop :=
  s.sent.flatten = items ∨ o.rejects s.sent.flatten 0 = true ∧ s.sent.flatten <+: items

variable {o} {config : BatchConfig}

theorem run_of_not_running {s : WriterLoop M} (hstopped : s.running = false)
    (events : List (LoopEvent M)) : run (step config) s events = s := by
  induction events with
  | nil => rfl
  | cons event events ih =>
      have hsame : step config s event = s := if_neg (by rw [hstopped]; exact Bool.false_ne_true)
      rw [run_cons, hsame]
      exact ih

/-- A turn ends the loop only when the consumer is gone. -/
theorem turned_cases {s : WriterLoop M} (hrunning : s.running = true) (h : Handling)
    (timed : List (M × Nat)) (r : Option (List M) × BatchWriter M) :
    (s.turned h timed r).running = true ∨
      (s.turned h timed r).running = false ∧ h.consumer = false ∧
        (s.turned h timed r).sent = s.sent := by
  obtain ⟨batch, w⟩ := r
  cases hconsumer : h.consumer with
  | true =>
      left
      rw [turned, hrunning, hconsumer, Bool.or_true, Bool.and_true]
  | false =>
      have hsent : (s.turned h timed (batch, w)).sent = s.sent := by
        rw [turned, hconsumer, if_neg Bool.false_ne_true]
      cases batch with
      | none => exact .inl (by simp [turned, hrunning])
      | some batch => exact .inr ⟨by simp [turned, hconsumer], rfl, hsent⟩

/-- What a turn with an item or at the end of a sleep leaves is passed on by
the turns after it. -/
theorem passedOn_turned {s : WriterLoop M} (hrunning : s.running = true) {h : Handling}
    {timed : List (M × Nat)} {r : Option (List M) × BatchWriter M} {content items : List M}
    (hflow : r.1.getD [] ++ r.2.buffer = content)
    (hfed : h.consumer = false → o.rejects s.sent.flatten 0 = true) {events : List (LoopEvent M)}
    (hlater : (s.turned h timed r).running = true →
      o.PassedOn ((s.turned h timed r).sent.flatten ++ (s.turned h timed r).writer.buffer ++ items)
        (run (step config) (s.turned h timed r) events)) :
    o.PassedOn (s.sent.flatten ++ content ++ items)
      (run (step config) (s.turned h timed r) events) := by
  rw [← hflow]
  rcases turned_cases hrunning h timed r with hon | ⟨hstopped, hconsumer, hsent⟩
  · have hnext := hlater hon
    obtain ⟨batch | batch, w⟩ := r
    · simpa [turned] using hnext
    · -- a batch that leaves the writer is sent
      have hconsumer : h.consumer = true := by simpa [turned, hrunning] using hon
      simpa [turned, hconsumer] using hnext
  · rw [run_of_not_running hstopped]
    refine .inr ⟨by rw [hsent]; exact hfed hconsumer, ?_⟩
    rw [hsent, List.append_assoc]
    exact List.prefix_append _ _

/-- At the end of the loop the rest is flushed. -/
theorem passedOn_closed {s : WriterLoop M} {h : Handling}
    (hfed : h.consumer = false → o.rejects s.sent.flatten 0 = true) {next : WriterLoop M}
    (hnext : next.sent = (s.turned h s.timed s.writer.flush).sent) :
    o.PassedOn (s.sent.flatten ++ s.writer.buffer) next := by
  obtain ⟨hflow, hempty⟩ := s.writer.flush_flow
  rw [hempty, List.append_nil] at hflow
  cases hconsumer : h.consumer with
  | true =>
      left
      rw [hnext, turned, hconsumer, if_pos rfl, ← hflow]
      cases s.writer.flush.1 <;> simp
  | false =>
      right
      rw [hnext, turned, hconsumer, if_neg Bool.false_ne_true]
      exact ⟨hfed hconsumer, List.prefix_append _ _⟩

theorem taken_of_not_running {s : WriterLoop M} (hstopped : s.running = false)
    (events : List (LoopEvent M)) : taken config s events = 0 := by
  induction events with
  | nil => rfl
  | cons event events ih =>
      cases event with
      | item x h => exact if_neg fun hfits => by simp [hstopped] at hfits
      | timer h =>
          have hsame : step config s (.timer h) = s :=
            if_neg (by rw [hstopped]; exact Bool.false_ne_true)
          rw [taken, hsame, ih]
      | closed h => rfl

/-- A push that panics finds nothing in the buffer. -/
theorem buffer_of_panic {s : WriterLoop M} (hs : s.Keeps config) {now : Nat}
    (hpanic : ¬ s.writer.DeadlineFits config now) : s.writer.buffer = [] := by
  obtain ⟨hnone, -⟩ := not_or.mp hpanic
  rw [hs.buffers.items]
  cases htimed : s.timed with
  | nil => rfl
  | cons x timed =>
      rw [hs.buffers.deadline, htimed] at hnone
      exact absurd rfl hnone

/-- The loop passes on what it has and what it still takes. -/
theorem passedOn {s : WriterLoop M} (hs : s.Keeps config) (hrunning : s.running = true)
    {events : List (LoopEvent M)} (hops : Admissible (step config) (o.Fed config) s events)
    (hended : (run (step config) s events).running = false) :
    o.PassedOn (s.sent.flatten ++ s.writer.buffer ++ (emitted events).take (taken config s events))
      (run (step config) s events) := by
  induction events generalizing s with
  | nil =>
      rw [show run (step config) s [] = s from rfl, hrunning] at hended
      cases hended
  | cons event events ih =>
      obtain ⟨⟨hp, hfed⟩, hlater⟩ := hops
      have hkeeps := hs.step hp
      rw [run_cons] at hended ⊢
      cases event with
      | item x h =>
          rcases step_item hs hrunning (h := h) x with ⟨r, hstep, hr, -, hfits⟩ | ⟨hstep, hpanic⟩
          · rw [taken, if_pos ⟨hrunning, hfits⟩]
            rw [hstep] at hended hlater hkeeps ⊢
            have hflow := hr.flow
            rw [List.map_append, ← hs.buffers.items] at hflow
            have hnext := passedOn_turned (h := h) hrunning hflow hfed
              fun hon => ih hkeeps hon hlater hended
            simpa [emitted] using hnext
          · rw [taken, if_neg fun hfits => hpanic hfits.2, hstep,
              run_of_not_running rfl, buffer_of_panic hs hpanic]
            left
            show s.sent.flatten = _
            rw [List.take_zero, List.append_nil, List.append_nil]
      | timer h =>
          have hstep : step config s (.timer h) = s.turned h s.timed
              (s.writer.checkDeadline h.now) := if_pos hrunning
          rw [taken]
          rw [hstep] at hended hlater hkeeps ⊢
          have hflow := (hs.buffers.checkDeadline h.now).flow
          rw [← hs.buffers.items] at hflow
          exact passedOn_turned hrunning hflow hfed fun hon => ih hkeeps hon hlater hended
      | closed h =>
          have hstep : step config s (.closed h) =
              { s.turned h s.timed s.writer.flush with running := false } := if_pos hrunning
          rw [hstep, run_of_not_running rfl, emitted, List.take_nil, List.append_nil]
          exact passedOn_closed hfed rfl

/-- A loop in which nothing panics takes everything, or passes on enough. -/
theorem taken_of_fits {s : WriterLoop M} (hs : s.Keeps config) (hrunning : s.running = true)
    {events : List (LoopEvent M)} (hops : Admissible (step config) (o.Fed config) s events)
    (hfits : Admissible (step config) (Fits config) s events) :
    taken config s events = (emitted events).length ∨
      o.rejects (run (step config) s events).sent.flatten 0 = true := by
  induction events generalizing s with
  | nil => exact .inl rfl
  | cons event events ih =>
      obtain ⟨⟨hp, hfed⟩, hlater⟩ := hops
      obtain ⟨hfit, hfits⟩ := hfits
      have hkeeps := hs.step hp
      rw [run_cons]
      cases event with
      | item x h =>
          rcases step_item hs hrunning (h := h) x with ⟨r, hstep, -, -, hdeadline⟩ | ⟨-, hpanic⟩
          · rw [taken, if_pos ⟨hrunning, hdeadline⟩]
            rw [hstep] at hlater hfits hkeeps ⊢
            rcases turned_cases hrunning h _ r with hon | ⟨hstopped, hconsumer, hsent⟩
            · exact (ih hkeeps hon hlater hfits).imp_left (congrArg Nat.succ)
            · rw [run_of_not_running hstopped, hsent]
              exact .inr (hfed hconsumer)
          · exact absurd (hfit hrunning) hpanic
      | timer h =>
          have hstep : step config s (.timer h) = s.turned h s.timed
              (s.writer.checkDeadline h.now) := if_pos hrunning
          rw [taken]
          rw [hstep] at hlater hfits hkeeps ⊢
          rcases turned_cases hrunning h s.timed (s.writer.checkDeadline h.now) with
            hon | ⟨hstopped, hconsumer, hsent⟩
          · exact ih hkeeps hon hlater hfits
          · rw [run_of_not_running hstopped, hsent]
            exact .inr (hfed hconsumer)
      | closed h => exact .inl rfl

/-- The batched stream is the loop over the items that were taken. -/
theorem batched_eq {s : WriterLoop M} {items : List M} (h : o.PassedOn items s) (accepts : Nat)
    (st : σ) :
    o.batched s.sent accepts st = o.pipeline.interceptStream o.messageType o.sendMode o.sendMode
      "stream reply (batched)" items 0 accepts st := by
  rw [batched, wrapBatchedStreamWithInterception, BatchReader.intoStream_eq, List.nil_append]
  rcases h with hall | ⟨hrejects, more, hmore⟩
  · rw [hall]
  · rw [← hmore, o.interceptStream_append hrejects]

/-- The task of the loop passes on what it takes. -/
theorem passedOn_spawn {itemSize now : Nat} {events : List (LoopEvent M)}
    (hops : Admissible (step config) (o.Fed config) (spawn itemSize config now) events)
    (hended : (run (step config) (spawn itemSize config now) events).running = false) :
    o.PassedOn ((emitted events).take (taken config (spawn itemSize config now) events))
      (run (step config) (spawn itemSize config now) events) := by
  by_cases hsize : itemSize * config.maxItems ≤ isizeMax
  · rw [spawn_of_fits hsize now] at hops hended ⊢
    exact passedOn (keeps_start config now) rfl hops hended
  · have hstopped := spawn_of_not_fits (T := M) hsize now
    rw [hstopped, run_of_not_running rfl, taken_of_not_running rfl, List.take_zero]
    exact .inl rfl

/-- Where nothing panics, nothing that makes a difference is left. -/
theorem mutesFrom_of_fits {itemSize now : Nat} (hsize : itemSize * config.maxItems ≤ isizeMax)
    {events : List (LoopEvent M)}
    (hops : Admissible (step config) (o.Fed config) (spawn itemSize config now) events)
    (hended : (run (step config) (spawn itemSize config now) events).running = false)
    (hfits : Admissible (step config) (Fits config) (spawn itemSize config now) events) :
    o.mutesFrom (taken config (spawn itemSize config now) events) (emitted events) 0 = true := by
  have hpassed := passedOn_spawn hops hended
  rw [spawn_of_fits hsize now] at hops hfits hpassed ⊢
  rcases taken_of_fits (keeps_start config now) rfl hops hfits with hall | hrejects
  · exact o.mutesFrom_of_length_le _ (Nat.le_of_eq hall.symm)
  · apply o.mutesFrom_of_rejects
    rcases hpassed with heq | ⟨-, hpre⟩
    · rwa [← heq]
    · exact o.rejects_of_prefix hpre hrejects

end OutputStream

open OutputStream WriterLoop

/-- **Batched and unbatched output differ in the send mode of the notices, and
when the writer panics.**  For deterministic interceptors and a consumer that
keeps reading, the two streams yield the same items and report the same, with
the send mode of the stream, exactly if the items that the writer loop does not
take make no difference, and the stream was opened by `expand`, or there is no
observer, or no item before the first rejected one is dropped.  The first
holds whenever the writer can be made and no push panics. -/
theorem batched_output_indistinguishable_iff (o : OutputStream σ M) (itemSize : Nat)
    (config : BatchConfig) (now : Nat) (events : List (LoopEvent M))
    (hops : Admissible (step config) (o.Fed config) (spawn itemSize config now) events)
    (hended : (run (step config) (spawn itemSize config now) events).running = false)
    (accepts : Nat) (haccepts : (emitted events).length ≤ accepts) (st st' : σ) :
    let s := spawn itemSize config now
    let batched := o.batched (run (step config) s events).sent accepts st
    let unbatched := o.unbatched (emitted events) accepts st'
    ((yields batched = yields unbatched ∧
        (notices batched).map DropNotice.report = (notices unbatched).map DropNotice.report ∧
        ∀ n ∈ notices batched ++ notices unbatched, n.sendMode = o.sendMode) ↔
      o.mutesFrom (taken config s events) (emitted events) 0 = true ∧
        (o.sendMode = .expand ∨ o.dropObserver = false ∨ o.drops (emitted events) 0 = false)) ∧
    (itemSize * config.maxItems ≤ isizeMax → Admissible (step config) (Fits config) s events →
      o.mutesFrom (taken config s events) (emitted events) 0 = true) := by
  intro s batched unbatched
  refine ⟨?_, fun hsize hfits => mutesFrom_of_fits hsize hops hended hfits⟩
  -- the loop of the batched stream over everything that was emitted
  let whole := o.pipeline.interceptStream o.messageType o.sendMode o.sendMode
    "stream reply (batched)" (emitted events) 0 accepts st
  have hbatched : batched = o.pipeline.interceptStream o.messageType o.sendMode o.sendMode
      "stream reply (batched)" ((emitted events).take (taken config s events)) 0 accepts st :=
    batched_eq (passedOn_spawn hops hended) accepts st
  have hretag : unbatched = whole.map (.retag .expand "stream reply") := by
    show o.unbatched (emitted events) accepts st' = _
    rw [OutputStream.unbatched, OutboundPipeline.wrapStreamWithInterception_eq]
    exact o.interceptStream_retag ..
  have hmode : ∀ n ∈ notices whole, n.sendMode = o.sendMode := by
    intro n hn
    have hself : whole = whole.map (.retag o.sendMode "stream reply (batched)") :=
      o.interceptStream_retag ..
    rw [hself, notices_retag] at hn
    obtain ⟨n', -, rfl⟩ := List.mem_map.mp hn
    rfl
  have hnil : notices whole = [] ↔ o.dropObserver = false ∨ o.drops (emitted events) 0 = false :=
    o.notices_eq_nil_iff _ _ _ _ haccepts _
  obtain ⟨ys, ns, hys, hns, hmutes⟩ := o.interceptStream_take o.sendMode
    "stream reply (batched)" (emitted events) 0 (taken config s events) haccepts st
  have hys : yields whole = yields batched ++ ys := by rw [hbatched]; exact hys
  have hns : notices whole = notices batched ++ ns := by rw [hbatched]; exact hns
  rw [← hnil, hretag, yields_retag, notices_retag]
  constructor
  · rintro ⟨hyields, hreports, hall⟩
    have hysnil : ys = [] := List.self_eq_append_right.mp (hyields.trans hys)
    have hnsnil : ns = [] := by
      have hlen := congrArg List.length hreports
      rw [List.length_map, List.length_map, List.length_map, hns, List.length_append] at hlen
      exact List.length_eq_zero_iff.mp (by omega)
    refine ⟨hmutes.mp ⟨hysnil, hnsnil⟩, ?_⟩
    rcases hsome : notices whole with - | ⟨n, rest⟩
    · exact .inr rfl
    · rw [hsome] at hall
      exact .inl (hall { n with sendMode := .expand, context := "stream reply" } (by simp)).symm
  · rintro ⟨hmute, hsame⟩
    obtain ⟨rfl, rfl⟩ := hmutes.mpr hmute
    rw [List.append_nil] at hys hns
    refine ⟨hys.symm, ?_⟩
    rw [← hns]
    exact reports_of_retag hmode hsame

/-- An interceptor that drops every stream item. -/
def dropItems : DeterministicInterceptor Unit Nat where
  name := "drop-items"
  onSend := fun _ _ headers _ s => (.continued, headers, s)
  onExpandItem := fun _ _ _ _ s => (.drop, s)
  sendDisposition := fun _ _ => .continued
  itemDisposition := fun _ _ _ => .drop
  onSend_eq := fun _ _ _ _ _ => rfl
  onExpandItem_eq := fun _ _ _ _ _ => rfl

/-- A stream of one item that is dropped. -/
def droppingStream (sendMode : SendMode) : OutputStream Unit Nat :=
  ⟨[dropItems], true, ⟨⟨"n1"⟩, 1⟩, "worker", "Item", sendMode⟩

def oneItem : List (LoopEvent Nat) := [.item 7 ⟨0, 0, true⟩, .closed ⟨1, 1, true⟩]

theorem fed_oneItem (o : OutputStream Unit Nat) :
    Admissible (step ⟨64, 5⟩) (o.Fed ⟨64, 5⟩) (spawn 8 ⟨64, 5⟩ 0) oneItem :=
  ⟨⟨⟨Nat.le_refl 0, Nat.le_refl 0⟩, fun h => (by cases h)⟩, ⟨⟨by decide, Nat.le_refl 1⟩,
    fun h => (by cases h)⟩, trivial⟩

/-- For an `expand` the two streams report the same. -/
theorem batched_output_expand :
    let batched := (droppingStream .expand).batched
      (run (step ⟨64, 5⟩) (spawn 8 ⟨64, 5⟩ 0) oneItem).sent 1 ()
    let unbatched := (droppingStream .expand).unbatched [7] 1 ()
    notices batched ≠ [] ∧
      (notices batched).map DropNotice.report = (notices unbatched).map DropNotice.report := by
  refine ⟨by decide, ?_⟩
  obtain ⟨hiff, hmutes⟩ := batched_output_indistinguishable_iff (droppingStream .expand) 8 ⟨64, 5⟩
    0 oneItem (fed_oneItem _) rfl 1 (by decide) () ()
  have hfits : Admissible (step ⟨64, 5⟩) (Fits ⟨64, 5⟩) (spawn 8 ⟨64, 5⟩ 0) oneItem :=
    ⟨fun _ => .inr (by decide), trivial, trivial⟩
  exact (hiff.mpr ⟨hmutes (by decide) hfits, .inl rfl⟩).2.1

/-- For a `transform` the unbatched stream says `Expand`; and with batches of
`usize::MAX` items, or a delay of `Duration::MAX`, the batched stream of an
`expand` yields nothing. -/
theorem batched_output_transform :
    let batched := (droppingStream .transform).batched
      (run (step ⟨64, 5⟩) (spawn 8 ⟨64, 5⟩ 0) oneItem).sent 1 ()
    let unbatched := (droppingStream .transform).unbatched [7] 1 ()
    let passing : OutputStream Unit Nat := { droppingStream .expand with interceptors := [] }
    let panicking := fun config =>
      passing.batched (run (step config) (spawn 8 config 0) oneItem).sent 1 ()
    ((notices batched).map DropNotice.report = [("drop-items", .transform, some 0)] ∧
      (notices unbatched).map DropNotice.report = [("drop-items", .expand, some 0)] ∧
      (notices batched).map DropNotice.report ≠ (notices unbatched).map DropNotice.report) ∧
    yields (panicking ⟨2 ^ 64 - 1, 5⟩) = [] ∧ yields (panicking ⟨64, durationMax⟩) = [] ∧
      yields (passing.unbatched [7] 1 ()) = [7] :=
  ⟨⟨by decide, by decide, by decide⟩, by decide, by decide, by decide⟩

end Dactor
