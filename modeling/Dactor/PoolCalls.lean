/-
Dactor/PoolCalls.lean

`ask`, `expand`, `reduce` and `transform` of a `VirtualPoolRef`
(`virtual_pool.rs`).  Such a call boxes a closure for the router and keeps the
other end of a bridge: the router calls the closure with the worker it has
selected, and the closure sends what the worker's own method returned over the
bridge.  A spawned task then waits for the worker's reply and passes it on;
for the streaming calls the caller's stream does so itself, item by item.

A closure may also never be called: what is in the channel when the router
ends, or panics between the two scans of a selection, is dropped, and the
bridge with it.  `pool_calls_exact` says what becomes of every call, over all
interleavings of callers, router, workers and relays: it is carried to one
worker, unless it was accepted behind the first `Stop` or the router panics
before its turn, and the caller is given, in order, what that worker gave, the
worker's refusal, or the error for a router that was dropped.
-/
import Mathlib.Data.List.Nodup
import Mathlib.Logic.Function.Iterate
import Dactor.Mailbox
import Dactor.VirtualPool

namespace Dactor

open Runs Channels

variable {R M V α : Type}

/-! ### One call -/

/-- What the boxed closures do: `tell` sends a message, the others carry the call of that
number to a worker. -/
inductive PoolOp (M : Type)
  | tell (msg : M)
  | call (k : ℕ)
deriving DecidableEq, Repr

inductive PoolCallKind
  | ask
  | expand
  | reduce
  | transform
deriving DecidableEq, Repr

/-- The caller holds an `AskReply`, not a stream. -/
def PoolCallKind.awaitsReply : PoolCallKind → Bool
  | .ask | .reduce => true
  | .expand | .transform => false

/-- What the relay of a call gives when the worker's method fails. -/
def PoolCallKind.refused (kind : PoolCallKind) (e : ActorSendError) :
    List (Except RuntimeError V) :=
  match kind with
  | .ask | .reduce => [.error (.send e.message)]
  | .expand | .transform => []

/-- What it gives when the closure is dropped. -/
def PoolCallKind.routerDropped : PoolCallKind → List (Except RuntimeError V)
  | .ask => [.error (.actorNotFound "virtual pool router dropped before forwarding ask")]
  | .reduce => [.error (.actorNotFound "virtual pool router dropped before forwarding reduce")]
  | .expand | .transform => []

/-- The bridge of a call: its closure is in the channel, was called with a worker, whose
method returned `result`, or is gone. -/
inductive Bridge
  | waiting
  | carried (worker : ℕ) (result : Except ActorSendError Unit)
  | dropped

/-- A call that the channel took.  `out` is what the worker's reply or stream has given so
far, and `outEnded` that it gives no more; `given` is what the caller has got of it, and
`ended` that its `AskReply` is resolved, or its stream over. -/
structure PoolCall (V : Type) where
  kind : PoolCallKind
  bridge : Bridge
  out : List (Except RuntimeError V)
  outEnded : Bool
  given : List (Except RuntimeError V)
  ended : Bool

namespace PoolCall

def new (kind : PoolCallKind) : PoolCall V := ⟨kind, .waiting, [], false, [], false⟩

/-- The closure is called with a worker. -/
def carry (c : PoolCall V) (worker : ℕ) (result : Except ActorSendError Unit) :
    PoolCall V :=
  { c with bridge := .carried worker result }

/-- The closure is dropped. -/
def drop (c : PoolCall V) : PoolCall V := { c with bridge := .dropped }

/-- The worker holds the other end of the call. -/
def reached (c : PoolCall V) : Bool :=
  match c.bridge with
  | .carried _ (.ok ()) => true
  | _ => false

/-- The worker's `AskReply` resolves. -/
def reply (c : PoolCall V) (r : Except RuntimeError V) : PoolCall V :=
  if c.kind.awaitsReply && c.reached && !c.outEnded then { c with out := [r], outEnded := true }
  else c

/-- The worker's stream has one more item. -/
def item (c : PoolCall V) (v : V) : PoolCall V :=
  if !c.kind.awaitsReply && c.reached && !c.outEnded then { c with out := c.out ++ [.ok v] } else c

/-- The worker's stream ends. -/
def close (c : PoolCall V) : PoolCall V :=
  if !c.kind.awaitsReply && c.reached then { c with outEnded := true } else c

def resolve (c : PoolCall V) (answers : List (Except RuntimeError V)) : PoolCall V :=
  { c with given := answers, ended := true }

/-- A turn of the spawned task of `ask` and `reduce`. -/
def relay (c : PoolCall V) : PoolCall V :=
  match c.bridge with
  | .waiting => c
  | .carried _ (.ok ()) =>
    match c.out with
    | [] => c
    | r :: _ => c.resolve [r]
  | .carried _ (.error e) => c.resolve (c.kind.refused e)
  | .dropped => c.resolve c.kind.routerDropped

/-- A `poll_next` of the stream of `expand` and `transform`. -/
def pollNext (c : PoolCall V) : PoolCall V :=
  match c.bridge with
  | .waiting => c
  | .carried _ (.ok ()) =>
    match c.out[c.given.length]? with
    | some x => { c with given := c.given ++ [x] }
    | none => if c.outEnded then { c with ended := true } else c
  | .carried _ (.error _) | .dropped => { c with ended := true }

def poll (c : PoolCall V) : PoolCall V :=
  if c.ended then c else if c.kind.awaitsReply then c.relay else c.pollNext

/-- What the caller is to get, as far as it is known. -/
def owed (c : PoolCall V) : List (Except RuntimeError V) :=
  match c.bridge with
  | .waiting => []
  | .carried _ (.ok ()) => c.out
  | .carried _ (.error e) => c.kind.refused e
  | .dropped => c.kind.routerDropped

/-- Nothing is added to what the caller is to get. -/
def Final (c : PoolCall V) : Prop :=
  match c.bridge with
  | .waiting => False
  | .carried _ (.ok ()) => c.outEnded = true
  | .carried _ (.error _) | .dropped => True

/-! ### What a caller gets -/

/-- The caller has a prefix of what it is to get, and all of it when the call has ended.
A reply is one answer, and ends the call. -/
structure Kept (c : PoolCall V) : Prop where
  relayed : c.given <+: c.owed
  done : c.ended = true → c.given = c.owed ∧ c.Final
  single : c.kind.awaitsReply = true → c.out.length ≤ 1 ∧ (c.outEnded = true ↔ c.out ≠ [])
  resolved : c.kind.awaitsReply = true → (c.ended = true ↔ c.given ≠ [])

theorem kept_new (kind : PoolCallKind) : (new kind : PoolCall V).Kept where
  relayed := List.nil_prefix
  done h := by cases h
  single _ := ⟨Nat.zero_le 1, by simp [new]⟩
  resolved _ := by simp [new]

variable {c : PoolCall V}

theorem reached_iff : c.reached = true ↔ ∃ w, c.bridge = .carried w (.ok ()) := by
  obtain ⟨kind, bridge, out, outEnded, given, ended⟩ := c
  rcases bridge with - | ⟨w, - | -⟩ | - <;> simp [reached]

theorem Kept.reply (h : c.Kept) (r : Except RuntimeError V) : (c.reply r).Kept := by
  rw [PoolCall.reply]
  split
  · next hcond =>
    obtain ⟨⟨hkind, hreached⟩, hopen⟩ : (c.kind.awaitsReply = true ∧ c.reached = true) ∧
        c.outEnded = false := by simpa using hcond
    obtain ⟨w, hw⟩ := reached_iff.mp hreached
    -- the reply is the first, so nothing was owed before it
    have hout : c.out = [] := by
      by_contra hne
      rw [(h.single hkind).2.mpr hne] at hopen
      cases hopen
    have hgiven : c.given = [] := by
      have hpre := h.relayed
      rw [show c.owed = c.out by rw [owed, hw], hout] at hpre
      exact List.prefix_nil.mp hpre
    have hended : c.ended = false := by
      have hnot := mt (h.resolved hkind).mp (not_not.mpr hgiven)
      exact Bool.eq_false_of_not_eq_true hnot
    exact
      { relayed := by
          show c.given <+: _
          rw [hgiven]
          exact List.nil_prefix
        done := fun hd => by
          rw [show c.ended = true from hd] at hended
          cases hended
        single := fun _ => ⟨Nat.le_refl 1, by simp⟩
        resolved := h.resolved }
  · exact h

theorem Kept.item (h : c.Kept) (v : V) : (c.item v).Kept := by
  rw [PoolCall.item]
  split
  · next hcond =>
    obtain ⟨⟨hkind, hreached⟩, hopen⟩ : (c.kind.awaitsReply = false ∧ c.reached = true) ∧
        c.outEnded = false := by simpa using hcond
    obtain ⟨w, hw⟩ := reached_iff.mp hreached
    have howed : c.owed = c.out := by rw [owed, hw]
    exact
      { relayed := by
          show c.given <+: owed { c with out := c.out ++ [.ok v] }
          rw [show owed { c with out := c.out ++ [.ok v] } = c.out ++ [.ok v] by rw [owed, hw]]
          exact (howed ▸ h.relayed).trans (List.prefix_append _ _)
        done := fun hd => by
          -- a stream that has ended at the caller has ended at the worker
          have hfinal := (h.done hd).2
          rw [Final, hw] at hfinal
          rw [show c.outEnded = true from hfinal] at hopen
          cases hopen
        single := fun hs => by
          rw [show c.kind.awaitsReply = true from hs] at hkind
          cases hkind
        resolved := h.resolved }
  · exact h

theorem Kept.close (h : c.Kept) : c.close.Kept := by
  rw [PoolCall.close]
  split
  · next hcond =>
    obtain ⟨hkind, hreached⟩ : c.kind.awaitsReply = false ∧ c.reached = true := by
      simpa using hcond
    obtain ⟨w, hw⟩ := reached_iff.mp hreached
    exact
      { relayed := h.relayed
        done := fun hd => ⟨(h.done hd).1, by rw [Final, hw]⟩
        single := fun hs => by
          rw [show c.kind.awaitsReply = true from hs] at hkind
          cases hkind
        resolved := h.resolved }
  · exact h

/-- Until its bridge is used nothing is owed to a call, so it has got nothing. -/
theorem Kept.bridged (h : c.Kept) (hwaiting : c.bridge = .waiting) (bridge : Bridge) :
    { c with bridge : PoolCall V }.Kept := by
  have hgiven : c.given = [] := by
    have hpre := h.relayed
    rw [owed, hwaiting] at hpre
    exact List.prefix_nil.mp hpre
  exact
    { relayed := by
        show c.given <+: _
        rw [hgiven]
        exact List.nil_prefix
      done := fun hd => by
        have hfinal := (h.done hd).2
        rw [Final, hwaiting] at hfinal
        exact hfinal.elim
      single := h.single
      resolved := h.resolved }

/-! ### Polling -/

/-- A poll changes what the caller has, and nothing else. -/
theorem poll_eq (c : PoolCall V) :
    c.poll = { c with given := c.poll.given, ended := c.poll.ended } := by
  obtain ⟨kind, bridge, out, outEnded, given, ended⟩ := c
  rw [poll]
  split
  · rfl
  · split
    · rw [relay]
      rcases bridge with - | ⟨w, e | -⟩ | -
      · rfl
      · rfl
      · cases out with
        | nil => rfl
        | cons r rest => rfl
      · rfl
    · rw [pollNext]
      rcases bridge with - | ⟨w, e | -⟩ | -
      · rfl
      · rfl
      · simp only
        split
        · rfl
        · split <;> rfl
      · rfl

theorem poll_owed (c : PoolCall V) : c.poll.owed = c.owed := by
  rw [poll_eq]
  rfl

theorem poll_final (c : PoolCall V) : c.poll.Final ↔ c.Final := by
  rw [poll_eq]
  exact Iff.rfl

/-- Without a worker's answer a reply is still one answer, an error. -/
theorem reply_owes_one {kind : PoolCallKind} (h : kind.awaitsReply = true) :
    (∀ e, ∃ r, (kind.refused e : List (Except RuntimeError V)) = [r]) ∧
      ∃ r, (kind.routerDropped : List (Except RuntimeError V)) = [r] := by
  cases kind with
  | ask => exact ⟨fun _ => ⟨_, rfl⟩, _, rfl⟩
  | reduce => exact ⟨fun _ => ⟨_, rfl⟩, _, rfl⟩
  | expand => cases h
  | transform => cases h

/-- To a stream nothing is owed unless a worker gives it. -/
theorem stream_owes_nothing {kind : PoolCallKind} (h : kind.awaitsReply = false) :
    (∀ e, (kind.refused e : List (Except RuntimeError V)) = []) ∧
      (kind.routerDropped : List (Except RuntimeError V)) = [] := by
  cases kind with
  | ask => cases h
  | reduce => cases h
  | expand => exact ⟨fun _ => rfl, rfl⟩
  | transform => exact ⟨fun _ => rfl, rfl⟩

/-- A turn of the task of `ask` and `reduce` resolves the call as soon as an answer is owed. -/
theorem relay_spec (h : c.Kept) (hkind : c.kind.awaitsReply = true) :
    (c.owed = [] ∧ ¬ c.Final ∧ c.relay = c) ∨
      ∃ r, c.owed = [r] ∧ c.Final ∧ c.relay = c.resolve [r] := by
  rcases hb : c.bridge with - | ⟨w, e | done⟩ | -
  · exact Or.inl ⟨by rw [owed, hb], by rw [Final, hb]; exact id, by rw [relay, hb]⟩
  · obtain ⟨r, hr⟩ := (reply_owes_one (V := V) hkind).1 e
    refine Or.inr ⟨r, by rw [owed, hb]; exact hr, by rw [Final, hb]; trivial, ?_⟩
    rw [relay, hb]
    exact congrArg c.resolve hr
  · obtain ⟨hlen, hended⟩ := h.single hkind
    rcases hout : c.out with - | ⟨r, rest⟩
    · refine Or.inl ⟨by rw [owed, hb]; exact hout, ?_, by simp only [relay, hb, hout]⟩
      rw [Final, hb]
      exact fun h => hended.mp h hout
    · rw [hout, List.length_cons] at hlen
      have hrest : rest = [] := List.length_eq_zero_iff.mp (by omega)
      refine Or.inr ⟨r, ?_, ?_, by simp only [relay, hb, hout]⟩
      · rw [owed, hb]
        exact hout.trans (by rw [hrest])
      · rw [Final, hb]
        exact hended.mpr (by rw [hout]; exact List.cons_ne_nil r rest)
  · obtain ⟨r, hr⟩ := (reply_owes_one (V := V) hkind).2
    refine Or.inr ⟨r, by rw [owed, hb]; exact hr, by rw [Final, hb]; trivial, ?_⟩
    rw [relay, hb]
    exact congrArg c.resolve hr

/-- A `poll_next` takes the next item owed, finds the end, or changes nothing. -/
theorem pollNext_spec (h : c.Kept) (hkind : c.kind.awaitsReply = false) :
    (∃ x, c.owed[c.given.length]? = some x ∧ c.pollNext = { c with given := c.given ++ [x] }) ∨
      (c.given = c.owed ∧ c.Final ∧ c.pollNext = { c with ended := true }) ∨
      (c.given = c.owed ∧ ¬ c.Final ∧ c.pollNext = c) := by
  have hall : c.owed = [] → c.given = c.owed := by
    intro howed
    have hpre := h.relayed
    rw [howed] at hpre ⊢
    exact List.prefix_nil.mp hpre
  rcases hb : c.bridge with - | ⟨w, e | done⟩ | -
  · refine Or.inr (Or.inr ⟨hall (by rw [owed, hb]), ?_, by rw [pollNext, hb]⟩)
    rw [Final, hb]
    exact id
  · refine Or.inr (Or.inl ⟨hall ?_, by rw [Final, hb]; trivial, by rw [pollNext, hb]⟩)
    rw [owed, hb]
    exact (stream_owes_nothing hkind).1 e
  · have howed : c.owed = c.out := by rw [owed, hb]
    rcases hx : c.out[c.given.length]? with - | x
    · -- past the last item: the end, if the worker's stream has ended
      have hgiven : c.given = c.owed := by
        have hpre := h.relayed
        rw [howed] at hpre ⊢
        exact hpre.eq_of_length_le (List.getElem?_eq_none_iff.mp hx)
      rcases hended : c.outEnded with - | -
      · refine Or.inr (Or.inr ⟨hgiven, ?_, by simp only [pollNext, hb, hx, hended]; rfl⟩)
        rw [Final, hb]
        exact fun h => Bool.false_ne_true (hended.symm.trans h)
      · refine Or.inr (Or.inl ⟨hgiven, ?_, by simp only [pollNext, hb, hx, hended, if_true]⟩)
        rw [Final, hb]
        exact hended
    · exact Or.inl ⟨x, by rw [howed]; exact hx, by simp only [pollNext, hb, hx]⟩
  · refine Or.inr (Or.inl ⟨hall ?_, by rw [Final, hb]; trivial, by rw [pollNext, hb]⟩)
    rw [owed, hb]
    exact (stream_owes_nothing hkind).2

/-- A poll hands over the next answer owed, or the caller has them all: then it finds the
end, or there is nothing to find yet. -/
theorem poll_spec (h : c.Kept) :
    (∃ x ended, c.owed[c.given.length]? = some x ∧
        c.poll = { c with given := c.given ++ [x], ended } ∧
        (ended = true → c.owed.length = c.given.length + 1 ∧ c.Final) ∧
        (c.kind.awaitsReply = true → ended = true)) ∨
      (c.given = c.owed ∧ c.Final ∧ c.poll = { c with ended := true } ∧
        (c.kind.awaitsReply = true → c.ended = true)) ∨
      (c.given = c.owed ∧ ¬ c.Final ∧ c.poll = c) := by
  rcases hended : c.ended with - | -
  · rcases hkind : c.kind.awaitsReply with - | -
    · have hpoll : c.poll = c.pollNext := by
        rw [poll, if_neg (by rw [hended]; exact Bool.false_ne_true),
          if_neg (by rw [hkind]; exact Bool.false_ne_true)]
      rw [hpoll]
      rcases pollNext_spec h hkind with ⟨x, hx, heq⟩ | ⟨hall, hfinal, heq⟩ | ⟨hall, hnot, heq⟩
      · refine Or.inl ⟨x, false, hx, ?_, fun h => absurd h Bool.false_ne_true,
          fun h => absurd h Bool.false_ne_true⟩
        rw [heq, hended]
      · exact Or.inr (Or.inl ⟨hall, hfinal, heq, fun h => absurd h Bool.false_ne_true⟩)
      · exact Or.inr (Or.inr ⟨hall, hnot, heq⟩)
    · have hpoll : c.poll = c.relay := by
        rw [poll, if_neg (by rw [hended]; exact Bool.false_ne_true), if_pos hkind]
      -- a reply ends its call, so this one has got none
      have hgiven : c.given = [] := by
        by_contra hne
        rw [(h.resolved hkind).mpr hne] at hended
        cases hended
      rw [hpoll]
      rcases relay_spec h hkind with ⟨howed, hnot, heq⟩ | ⟨r, howed, hfinal, heq⟩
      · exact Or.inr (Or.inr ⟨hgiven.trans howed.symm, hnot, heq⟩)
      · refine Or.inl ⟨r, true, by rw [howed, hgiven]; rfl, ?_, fun _ => ⟨?_, hfinal⟩, fun _ => rfl⟩
        · rw [heq, hgiven]
          rfl
        · rw [howed, hgiven]
          rfl
  · have hpoll : c.poll = c := by rw [poll, if_pos hended]
    obtain ⟨hall, hfinal⟩ := h.done hended
    refine Or.inr (Or.inl ⟨hall, hfinal, ?_, fun _ => rfl⟩)
    rw [hpoll, ← hended]

theorem prefix_concat {l given : List V} {x : V} (h : given <+: l)
    (hx : l[given.length]? = some x) : given ++ [x] <+: l := by
  obtain ⟨rest, rfl⟩ := h
  rw [List.getElem?_append_right (Nat.le_refl _), Nat.sub_self] at hx
  obtain ⟨y, rest, rfl⟩ : ∃ y rest', rest = y :: rest' := by
    cases rest with
    | nil => cases hx
    | cons y rest => exact ⟨y, rest, rfl⟩
  cases hx
  exact ⟨rest, by rw [List.append_assoc]; rfl⟩

theorem Kept.poll (h : c.Kept) : c.poll.Kept := by
  rcases poll_spec h with ⟨x, ended, hx, heq, hlast, hreply⟩ | ⟨hall, hfinal, heq, hreply⟩ |
    ⟨-, -, heq⟩
  · have hpre : c.given ++ [x] <+: c.owed := prefix_concat h.relayed hx
    rw [heq]
    exact
      { relayed := hpre
        done := fun hd => by
          obtain ⟨hlen, hfinal⟩ := hlast hd
          refine ⟨hpre.eq_of_length ?_, hfinal⟩
          rw [List.length_append, List.length_singleton]
          exact hlen.symm
        single := h.single
        resolved := fun hkind => iff_of_true (hreply hkind) (by simp) }
  · rw [heq]
    exact
      { relayed := h.relayed
        done := fun _ => ⟨hall, hfinal⟩
        single := h.single
        resolved := fun hkind => iff_of_true rfl ((h.resolved hkind).mp (hreply hkind)) }
  · rw [heq]
    exact h

/-- A poll hands over one answer more, as long as one is owed. -/
theorem poll_given (h : c.Kept) : c.poll.given = c.owed.take (c.given.length + 1) := by
  rcases poll_spec h with ⟨x, ended, hx, heq, -⟩ | ⟨hall, -, heq, -⟩ | ⟨hall, -, heq⟩
  · rw [heq]
    have hpre := prefix_concat h.relayed hx
    have hlen := List.prefix_iff_eq_take.mp hpre
    rwa [List.length_append, List.length_singleton] at hlen
  · rw [heq, ← hall]
    exact (List.take_of_length_le (Nat.le_succ _)).symm
  · rw [heq, ← hall]
    exact (List.take_of_length_le (Nat.le_succ _)).symm

theorem Kept.polls (h : c.Kept) (n : ℕ) : (PoolCall.poll^[n] c).Kept := by
  induction n with
  | zero => exact h
  | succ n ih =>
    rw [Function.iterate_succ_apply']
    exact ih.poll

theorem polls_owed (c : PoolCall V) (n : ℕ) : (PoolCall.poll^[n] c).owed = c.owed := by
  induction n with
  | zero => rfl
  | succ n ih => rw [Function.iterate_succ_apply', poll_owed, ih]

theorem polls_final (c : PoolCall V) (n : ℕ) : (PoolCall.poll^[n] c).Final ↔ c.Final := by
  induction n with
  | zero => exact Iff.rfl
  | succ n ih => rw [Function.iterate_succ_apply', poll_final, ih]

/-- Polls hand over what is owed, in order and one by one. -/
theorem polls_given (h : c.Kept) (n : ℕ) :
    (PoolCall.poll^[n] c).given = c.owed.take (c.given.length + n) := by
  induction n with
  | zero => exact List.prefix_iff_eq_take.mp h.relayed
  | succ n ih =>
    rw [Function.iterate_succ_apply', poll_given (h.polls n), polls_owed, ih, List.length_take,
      ← Nat.add_assoc]
    rcases Nat.le_total (c.given.length + n) c.owed.length with hle | hle
    · rw [Nat.min_eq_left hle]
    · rw [Nat.min_eq_right hle, List.take_of_length_le (Nat.le_succ _),
        List.take_of_length_le (Nat.le_succ_of_le hle)]

/-- A call to which nothing is added ends after one poll more than it is owed answers. -/
theorem polls_ended (h : c.Kept) (hfinal : c.Final) :
    (PoolCall.poll^[c.owed.length + 1] c).ended = true := by
  have hkept := h.polls c.owed.length
  have hall : (PoolCall.poll^[c.owed.length] c).given = c.owed := by
    rw [polls_given h]
    exact List.take_of_length_le (Nat.le_add_left _ _)
  rw [Function.iterate_succ_apply']
  rcases poll_spec hkept with ⟨x, ended, hx, -⟩ | ⟨-, -, heq, -⟩ | ⟨-, hnot, -⟩
  · rw [polls_owed, hall, List.getElem?_eq_none (Nat.le_refl _)] at hx
    cases hx
  · rw [heq]
  · exact absurd ((polls_final c _).mpr hfinal) hnot

end PoolCall

/-! ### The router's books -/

namespace VirtualPool

/-- The operations that the router has executed, oldest first. -/
def done (p : VirtualPool R α) : List α := p.executed.map Prod.snd

theorem beforeStop_only (xs : List α) : beforeStop (xs.map .op) = xs := by
  have h := beforeStop_ops xs []
  rwa [List.append_nil, beforeStop, List.append_nil] at h

/-- What was accepted has been executed, or waits; behind the `Stop` that ended the loop,
and after a panic, nothing is executed. -/
structure Booked (p : VirtualPool R α) : Prop where
  looping : p.phase = .looping → p.accepted = p.done.map .op ++ p.ops.queue
  leaving : p.phase = .leaving → p.accepted = p.done.map .op ++ .stop :: p.ops.queue ∨
    (p.released = true ∧ p.accepted = p.done.map .op ∧ p.ops.queue = [])
  ended : p.phase = .ended →
    p.ops.closed = true ∧ p.ops.queue = [] ∧ p.done = beforeStop p.accepted
  panicked : p.phase = .panicked →
    p.ops.closed = true ∧ p.ops.queue = [] ∧ p.done.map .op <+: p.accepted ∧
      p.routing = .leastLoaded

theorem Booked.trySend {p : VirtualPool R α} (h : p.Booked) (hlive : p.released = false)
    (cmd : RouterCommand α) : (p.trySend cmd).2.Booked := by
  rcases trySend_cases p cmd with ⟨hroom, heq⟩ | ⟨-, heq⟩
  · rw [heq]
    exact
      { looping := fun hphase => by
          show p.accepted ++ [cmd] = p.done.map .op ++ (p.ops.queue ++ [cmd])
          rw [h.looping hphase, List.append_assoc]
        leaving := fun hphase => by
          rcases h.leaving hphase with hstop | ⟨hreleased, -⟩
          · refine Or.inl ?_
            show p.accepted ++ [cmd] = p.done.map .op ++ .stop :: (p.ops.queue ++ [cmd])
            rw [hstop, List.append_assoc]
            rfl
          · rw [hlive] at hreleased
            cases hreleased
        ended := fun hphase => by
          have hclosed := (h.ended hphase).1
          rw [hroom.1] at hclosed
          cases hclosed
        panicked := fun hphase => by
          have hclosed := (h.panicked hphase).1
          rw [hroom.1] at hclosed
          cases hclosed }
  · rw [heq]
    exact h

theorem Booked.stop {p : VirtualPool R α} (h : p.Booked) (hlive : p.released = false) :
    p.stop.Booked := by
  have hsent := h.trySend hlive .stop
  exact ⟨hsent.looping, hsent.leaving, hsent.ended, hsent.panicked⟩

theorem Booked.routerTurn {p : VirtualPool R α} (h : p.Booked) (hphase : p.phase = .looping)
    (loads : LoadReadings) : (p.routerTurn loads).Booked := by
  have hacc := h.looping hphase
  rcases p.routerTurn_cases loads with ⟨hempty, hreleased, heq⟩ | ⟨-, heq⟩ |
    ⟨x, ops, i, counter, hrecv, -, -, heq⟩ | ⟨x, ops, counter, hrecv, hrouting, -, -, heq⟩ |
    ⟨ops, hrecv, heq⟩
  · rw [hempty, List.append_nil] at hacc
    rw [heq]
    exact
      { looping := fun h' => by cases h'
        leaving := fun _ => Or.inr ⟨hreleased, hacc, hempty⟩
        ended := fun h' => by cases h'
        panicked := fun h' => by cases h' }
  · rw [heq]
    exact h
  · obtain ⟨hqueue, -, -⟩ := Channel.recv_eq_some hrecv
    rw [hqueue] at hacc
    rw [heq]
    exact
      { looping := fun _ => by
          show p.accepted = ((p.executed ++ [_]).map Prod.snd).map .op ++ ops.queue
          rw [hacc, List.map_append, List.map_append, List.append_assoc]
          rfl
        leaving := fun h' => by rw [show p.phase = .leaving from h'] at hphase; cases hphase
        ended := fun h' => by rw [show p.phase = .ended from h'] at hphase; cases hphase
        panicked := fun h' => by rw [show p.phase = .panicked from h'] at hphase; cases hphase }
  · rw [heq]
    exact
      { looping := fun h' => by cases h'
        leaving := fun h' => by cases h'
        ended := fun h' => by cases h'
        panicked := fun _ => by
          refine ⟨rfl, rfl, ?_, hrouting⟩
          show p.done.map .op <+: p.accepted
          rw [hacc]
          exact List.prefix_append _ _ }
  · obtain ⟨hqueue, -, -⟩ := Channel.recv_eq_some hrecv
    rw [hqueue] at hacc
    rw [heq]
    exact
      { looping := fun h' => by cases h'
        leaving := fun _ => Or.inl hacc
        ended := fun h' => by cases h'
        panicked := fun h' => by cases h' }

theorem Booked.routerEnd {p : VirtualPool R α} (h : p.Booked) (hphase : p.phase = .leaving) :
    p.routerEnd.Booked where
  looping h' := by cases h'
  leaving h' := by cases h'
  ended _ := by
    refine ⟨rfl, rfl, ?_⟩
    show p.done = beforeStop p.accepted
    rcases h.leaving hphase with hstop | ⟨-, hall, -⟩
    · rw [hstop, beforeStop_ops]
      exact (List.append_nil _).symm
    · rw [hall, beforeStop_only]
  panicked h' := by cases h'

theorem beforeStop_map_prefix (cmds : List (RouterCommand α)) :
    (beforeStop cmds).map .op <+: cmds := by
  induction cmds with
  | nil => exact List.nil_prefix
  | cons cmd cmds ih =>
    cases cmd with
    | op x => exact (List.prefix_cons_inj _).mpr ih
    | stop => exact List.nil_prefix

/-- What was accepted begins with what was executed and ends with what waits. -/
theorem Booked.split {p : VirtualPool R α} (h : p.Booked) :
    ∃ between, p.accepted = p.done.map .op ++ (between ++ p.ops.queue) := by
  rcases hphase : p.phase with - | - | - | -
  · exact ⟨[], h.looping hphase⟩
  · rcases h.leaving hphase with hstop | ⟨-, hall, hempty⟩
    · exact ⟨[.stop], hstop⟩
    · refine ⟨[], ?_⟩
      rw [hempty, hall]
      exact (List.append_nil _).symm
  · obtain ⟨-, hempty, hdone⟩ := h.ended hphase
    obtain ⟨rest, hrest⟩ := beforeStop_map_prefix p.accepted
    refine ⟨rest, ?_⟩
    rw [hempty, hdone, List.append_nil]
    exact hrest.symm
  · obtain ⟨-, hempty, ⟨rest, hrest⟩, -⟩ := h.panicked hphase
    refine ⟨rest, ?_⟩
    rw [hempty, List.append_nil]
    exact hrest.symm

/-- The operations executed are the first of those accepted before a `Stop`. -/
theorem Booked.order {p : VirtualPool R α} (h : p.Booked) : p.done <+: beforeStop p.accepted := by
  obtain ⟨between, hsplit⟩ := h.split
  rw [hsplit, beforeStop_ops]
  exact List.prefix_append _ _

/-- The router is gone, and the channel with it. -/
def Gone (p : VirtualPool R α) : Prop := p.phase = .ended ∨ p.phase = .panicked

theorem Booked.empty_of_gone {p : VirtualPool R α} (h : p.Booked) (hgone : p.Gone) :
    p.ops.queue = [] := by
  rcases hgone with hended | hpanicked
  · exact (h.ended hended).2.1
  · exact (h.panicked hpanicked).2.1

end VirtualPool

/-! ### Calls, router and workers -/

/-- The calls that commands carry, in order. -/
def callsIn (cmds : List (RouterCommand (PoolOp M))) : List ℕ :=
  cmds.filterMap fun cmd =>
    match cmd with
    | .op (.call k) => some k
    | _ => none

/-- A pool and the calls that its channel took, in order: call number `k` is that of the
closure `.call k`. -/
structure PooledCalls (R M V : Type) where
  pool : VirtualPool R (PoolOp M)
  calls : List (PoolCall V)

namespace PooledCalls

open VirtualPool (beforeStop)

/-- What callers, router, workers and relays do.  `route` comes with the loads that the
router reads and with what the worker's method returns if the closure calls one. -/
inductive Event (R M V : Type)
  | tell (msg : M)
  | call (kind : PoolCallKind)
  | stop
  | release
  | route (loads : LoadReadings) (result : Except ActorSendError Unit)
  | finish
  | reply (k : ℕ) (r : Except RuntimeError V)
  | item (k : ℕ) (v : V)
  | close (k : ℕ)
  | poll (k : ℕ)

def start (workers : Workers R) (routing : PoolRouting) (capacity : ℕ) : PooledCalls R M V :=
  ⟨.withCapacity workers routing capacity, []⟩

/-- `ask`, `expand`, `reduce` and `transform`: a call that the channel refuses returns the
error, and leaves nothing behind. -/
def call (s : PooledCalls R M V) (kind : PoolCallKind) : PooledCalls R M V :=
  match s.pool.submit (.call s.calls.length) with
  | (.ok _, pool) => ⟨pool, s.calls ++ [.new kind]⟩
  | (.error _, pool) => ⟨pool, s.calls⟩

/-- The calls when the closures of the channel are dropped. -/
def dropQueued (s : PooledCalls R M V) : List (PoolCall V) :=
  s.calls.mapIdx fun k c => if k ∈ callsIn s.pool.ops.queue then c.drop else c

/-- A turn of the router, which calls the closure that it takes, or drops it and the others
when the selection panics. -/
def route (s : PooledCalls R M V) (loads : LoadReadings) (result : Except ActorSendError Unit) :
    PooledCalls R M V where
  pool := s.pool.routerTurn loads
  calls :=
    match s.pool.ops.recv with
    | some (.op x, _) =>
      match (selectWorkerIndexRead s.pool.workers s.pool.routing s.pool.counter loads).1, x with
      | .ok i, .call k => s.calls.modify k fun c => c.carry i result
      | .ok _, .tell _ => s.calls
      | .error _, _ => s.dropQueued
    | _ => s.calls

/-- The end of the router, which drops the closures in the channel. -/
def finish (s : PooledCalls R M V) : PooledCalls R M V := ⟨s.pool.routerEnd, s.dropQueued⟩

def step (s : PooledCalls R M V) : Event R M V → PooledCalls R M V
  | .tell msg => { s with pool := s.pool.step (.tell (.tell msg)) }
  | .call kind => if s.pool.released then s else s.call kind
  | .stop => { s with pool := s.pool.step .stop }
  | .release => { s with pool := s.pool.step .release }
  | .route loads result => if s.pool.phase = .looping then s.route loads result else s
  | .finish => if s.pool.phase = .leaving then s.finish else s
  | .reply k r => { s with calls := s.calls.modify k (·.reply r) }
  | .item k v => { s with calls := s.calls.modify k (·.item v) }
  | .close k => { s with calls := s.calls.modify k PoolCall.close }
  | .poll k => { s with calls := s.calls.modify k PoolCall.poll }

/-! ### Where a call is -/

theorem mem_callsIn {k : ℕ} {cmds : List (RouterCommand (PoolOp M))} :
    k ∈ callsIn cmds ↔ .op (.call k) ∈ cmds := by
  rw [callsIn, List.mem_filterMap]
  constructor
  · rintro ⟨cmd, hmem, hk⟩
    rcases cmd with (msg | j) | -
    · cases hk
    · cases hk
      exact hmem
    · cases hk
  · intro hmem
    exact ⟨_, hmem, rfl⟩

theorem callsIn_append (cmds more : List (RouterCommand (PoolOp M))) :
    callsIn (cmds ++ more) = callsIn cmds ++ callsIn more := List.filterMap_append

/-- The pool has its books in order, the calls are numbered as they were accepted, and
each is where its bridge says. -/
structure Tied (s : PooledCalls R M V) : Prop where
  booked : s.pool.Booked
  numbered : callsIn s.pool.accepted = List.range s.calls.length
  selected : ∀ x ∈ s.pool.executed, x.1 < s.pool.workers.refs.length
  kept : ∀ (k : ℕ) (c : PoolCall V), s.calls[k]? = some c → c.Kept
  waiting : ∀ k c, s.calls[k]? = some c → c.bridge = .waiting → .op (.call k) ∈ s.pool.ops.queue
  carried : ∀ k c w r, s.calls[k]? = some c → c.bridge = .carried w r →
    (w, .call k) ∈ s.pool.executed
  dropped : ∀ k c, s.calls[k]? = some c → c.bridge = .dropped →
    s.pool.Gone ∧ .call k ∉ s.pool.done

variable {s : PooledCalls R M V}

/-- Executed and waiting are different calls: they were accepted once each. -/
theorem Tied.nodup (h : s.Tied) :
    (callsIn (s.pool.done.map .op) ++ callsIn s.pool.ops.queue).Nodup := by
  obtain ⟨between, hsplit⟩ := h.booked.split
  have hall : (callsIn s.pool.accepted).Nodup := by
    rw [h.numbered]
    exact List.nodup_range
  rw [hsplit, callsIn_append, callsIn_append] at hall
  refine hall.sublist ?_
  exact (List.Sublist.refl _).append (List.sublist_append_right _ _)

theorem mem_done {k : ℕ} {p : VirtualPool R (PoolOp M)} :
    k ∈ callsIn (p.done.map .op) ↔ .call k ∈ p.done := by
  rw [mem_callsIn, List.mem_map]
  constructor
  · rintro ⟨x, hx, heq⟩
    cases heq
    exact hx
  · intro hx
    exact ⟨_, hx, rfl⟩

theorem Tied.not_done (h : s.Tied) {k : ℕ} (hk : .op (.call k) ∈ s.pool.ops.queue) :
    .call k ∉ s.pool.done := by
  intro hdone
  exact List.disjoint_of_nodup_append h.nodup (mem_done.mpr hdone) (mem_callsIn.mpr hk)

theorem done_of_executed {p : VirtualPool R (PoolOp M)} {w : ℕ} {x : PoolOp M}
    (h : (w, x) ∈ p.executed) : x ∈ p.done := List.mem_map_of_mem h

/-- A call whose closure is in the channel waits. -/
theorem Tied.bridge_of_queued (h : s.Tied) {k : ℕ} {c : PoolCall V} (hc : s.calls[k]? = some c)
    (hk : .op (.call k) ∈ s.pool.ops.queue) : c.bridge = .waiting := by
  rcases hb : c.bridge with - | ⟨w, r⟩ | -
  · rfl
  · exact absurd (done_of_executed (h.carried k c w r hc hb)) (h.not_done hk)
  · rw [h.booked.empty_of_gone (h.dropped k c hc hb).1] at hk
    cases hk

/-! ### One step -/

/-- A step of the pool that touches no call. -/
theorem Tied.pool (h : s.Tied) {p : VirtualPool R (PoolOp M)} (hp : p.Booked)
    (hcalls : callsIn p.accepted = callsIn s.pool.accepted)
    (hselected : ∀ x ∈ p.executed, x.1 < p.workers.refs.length)
    (hqueue : ∀ k, .op (.call k) ∈ s.pool.ops.queue → .op (.call k) ∈ p.ops.queue)
    (hexecuted : ∀ x ∈ s.pool.executed, x ∈ p.executed)
    (hgone : s.pool.Gone → p.Gone ∧ p.done = s.pool.done) :
    (⟨p, s.calls⟩ : PooledCalls R M V).Tied where
  booked := hp
  numbered := hcalls.trans h.numbered
  selected := hselected
  kept := h.kept
  waiting k c hc hb := hqueue k (h.waiting k c hc hb)
  carried k c w r hc hb := hexecuted _ (h.carried k c w r hc hb)
  dropped k c hc hb := by
    obtain ⟨hphase, hnot⟩ := h.dropped k c hc hb
    obtain ⟨hphase, hdone⟩ := hgone hphase
    exact ⟨hphase, by rw [hdone]; exact hnot⟩

/-- A step of one call that leaves its bridge alone. -/
theorem Tied.modify (h : s.Tied) (k : ℕ) {f : PoolCall V → PoolCall V}
    (hbridge : ∀ c, (f c).bridge = c.bridge) (hkept : ∀ c : PoolCall V, c.Kept → (f c).Kept) :
    ({ s with calls := s.calls.modify k f } : PooledCalls R M V).Tied := by
  have hget : ∀ (j : ℕ) (c : PoolCall V), (s.calls.modify k f)[j]? = some c →
      ∃ c', s.calls[j]? = some c' ∧ c.bridge = c'.bridge ∧ (c'.Kept → c.Kept) := by
    intro j c hc
    rw [List.getElem?_modify] at hc
    obtain ⟨c', hc', rfl⟩ := Option.map_eq_some_iff.mp hc
    refine ⟨c', hc', ?_⟩
    split
    · exact ⟨hbridge c', hkept c'⟩
    · exact ⟨rfl, id⟩
  exact
    { booked := h.booked
      numbered := by rw [List.length_modify]; exact h.numbered
      selected := h.selected
      kept := fun j c hc => by
        obtain ⟨c', hc', -, hk⟩ := hget j c hc
        exact hk (h.kept j c' hc')
      waiting := fun j c hc hb => by
        obtain ⟨c', hc', heq, -⟩ := hget j c hc
        exact h.waiting j c' hc' (heq ▸ hb)
      carried := fun j c w r hc hb => by
        obtain ⟨c', hc', heq, -⟩ := hget j c hc
        exact h.carried j c' w r hc' (heq ▸ hb)
      dropped := fun j c hc hb => by
        obtain ⟨c', hc', heq, -⟩ := hget j c hc
        exact h.dropped j c' hc' (heq ▸ hb) }

/-- Posting a command that carries no call. -/
theorem Tied.trySend (h : s.Tied) (hlive : s.pool.released = false)
    {cmd : RouterCommand (PoolOp M)} (hcmd : callsIn [cmd] = []) :
    ({ s with pool := (s.pool.trySend cmd).2 } : PooledCalls R M V).Tied := by
  have hbooked := h.booked.trySend hlive cmd
  rcases VirtualPool.trySend_cases s.pool cmd with ⟨hroom, heq⟩ | ⟨-, heq⟩
  · rw [heq] at hbooked ⊢
    refine h.pool hbooked ?_ h.selected (fun k hk => List.mem_append_left _ hk) (fun x hx => hx)
      fun hphase => ⟨hphase, rfl⟩
    show callsIn (s.pool.accepted ++ [cmd]) = _
    rw [callsIn_append, hcmd, List.append_nil]
  · rw [heq]
    exact h

theorem Tied.call (h : s.Tied) (hlive : s.pool.released = false) (kind : PoolCallKind) :
    (s.call kind).Tied := by
  have hbooked := h.booked.trySend hlive (.op (.call s.calls.length))
  rcases VirtualPool.trySend_cases s.pool (.op (.call s.calls.length)) with
    ⟨hroom, heq⟩ | ⟨hfull, heq⟩
  · have hsubmit : s.call kind = ⟨{ s.pool with
        ops := s.pool.ops.enqueue (.op (.call s.calls.length)) hroom.2
        accepted := s.pool.accepted ++ [.op (.call s.calls.length)] }, s.calls ++ [.new kind]⟩ := by
      rw [PooledCalls.call, VirtualPool.submit, VirtualPool.trySend,
        Channel.trySend_of_admits hroom]
      rfl
    rw [heq] at hbooked
    rw [hsubmit]
    -- a call is an old one, or the new one, which waits
    have hget : ∀ (k : ℕ) (c : PoolCall V), (s.calls ++ [.new kind])[k]? = some c →
        s.calls[k]? = some c ∨ k = s.calls.length ∧ c = .new kind := by
      intro k c hc
      rcases Nat.lt_trichotomy k s.calls.length with hlt | rfl | hgt
      · rw [List.getElem?_append_left hlt] at hc
        exact Or.inl hc
      · rw [List.getElem?_concat_length] at hc
        exact Or.inr ⟨rfl, (Option.some.inj hc).symm⟩
      · rw [List.getElem?_eq_none (by rw [List.length_append]; exact hgt)] at hc
        cases hc
    exact
      { booked := hbooked
        numbered := by
          show callsIn (s.pool.accepted ++ [.op (.call s.calls.length)]) = _
          rw [callsIn_append, h.numbered, List.length_append, List.length_singleton,
            List.range_succ]
          rfl
        selected := h.selected
        kept := fun k c hc => by
          rcases hget k c hc with hold | ⟨-, rfl⟩
          · exact h.kept k c hold
          · exact PoolCall.kept_new kind
        waiting := fun k c hc hb => by
          rcases hget k c hc with hold | ⟨rfl, -⟩
          · exact List.mem_append_left _ (h.waiting k c hold hb)
          · exact List.mem_append_right _ List.mem_cons_self
        carried := fun k c w r hc hb => by
          rcases hget k c hc with hold | ⟨-, rfl⟩
          · exact h.carried k c w r hold hb
          · cases hb
        dropped := fun k c hc hb => by
          rcases hget k c hc with hold | ⟨-, rfl⟩
          · exact h.dropped k c hold hb
          · cases hb }
  · have hsubmit : s.call kind = s := by
      rcases Channel.not_admits_iff.mp hfull with hclosed | ⟨hopen, hfull⟩
      · rw [PooledCalls.call, VirtualPool.submit, VirtualPool.trySend,
          Channel.trySend_of_closed hclosed]
        rfl
      · rw [PooledCalls.call, VirtualPool.submit, VirtualPool.trySend,
          Channel.trySend_of_full hopen hfull]
        rfl
    rw [hsubmit]
    exact h

/-- What waits behind the command that the router takes stays in the channel. -/
theorem queued_of_recv {ch ops : Channel (RouterCommand (PoolOp M))}
    {cmd : RouterCommand (PoolOp M)} (hrecv : ch.recv = some (cmd, ops)) {k : ℕ}
    (hne : cmd ≠ .op (.call k)) (hk : .op (.call k) ∈ ch.queue) : .op (.call k) ∈ ops.queue := by
  rw [(Channel.recv_eq_some hrecv).1] at hk
  rcases List.mem_cons.mp hk with heq | hk
  · exact absurd heq.symm hne
  · exact hk

theorem not_gone_of_looping {p : VirtualPool R (PoolOp M)} (hphase : p.phase = .looping) :
    ¬ p.Gone := by
  rw [VirtualPool.Gone, hphase]
  rintro (h | h)
  · cases h
  · cases h

/-- The router selects a worker of the pool. -/
theorem Tied.selected_concat (h : s.Tied) {i : ℕ} (hi : i < s.pool.workers.refs.length)
    (op : PoolOp M) : ∀ x ∈ s.pool.executed ++ [(i, op)], x.1 < s.pool.workers.refs.length := by
  intro x hx
  rcases List.mem_append.mp hx with hx | hx
  · exact h.selected x hx
  · rw [List.mem_singleton.mp hx]
    exact hi

/-- The router calls a closure that carries a call. -/
theorem Tied.carry (h : s.Tied) (hphase : s.pool.phase = .looping) {k w : ℕ} {counter : UInt64}
    (hw : w < s.pool.workers.refs.length) (result : Except ActorSendError Unit)
    {ops : Channel (RouterCommand (PoolOp M))}
    (hrecv : s.pool.ops.recv = some (.op (.call k), ops))
    (hbooked : VirtualPool.Booked
      { s.pool with ops, counter, executed := s.pool.executed ++ [(w, .call k)] }) :
    (⟨{ s.pool with ops, counter, executed := s.pool.executed ++ [(w, .call k)] },
      s.calls.modify k fun c => c.carry w result⟩ : PooledCalls R M V).Tied := by
  obtain ⟨hqueue, -, -⟩ := Channel.recv_eq_some hrecv
  have hget : ∀ (j : ℕ) (c : PoolCall V),
      (s.calls.modify k fun c => c.carry w result)[j]? = some c →
      (k = j ∧ ∃ c', s.calls[k]? = some c' ∧ c = c'.carry w result) ∨
        (k ≠ j ∧ s.calls[j]? = some c) := by
    intro j c hc
    rw [List.getElem?_modify] at hc
    obtain ⟨c', hc', rfl⟩ := Option.map_eq_some_iff.mp hc
    by_cases hj : k = j
    · subst hj
      rw [if_pos rfl]
      exact Or.inl ⟨rfl, c', hc', rfl⟩
    · rw [if_neg hj]
      exact Or.inr ⟨hj, hc'⟩
  exact
    { booked := hbooked
      numbered := by rw [List.length_modify]; exact h.numbered
      selected := h.selected_concat hw (.call k)
      kept := fun j c hc => by
        rcases hget j c hc with ⟨-, c', hc', rfl⟩ | ⟨-, hold⟩
        · -- its closure was at the head of the channel, so the call has waited until now
          refine (h.kept k c' hc').bridged (h.bridge_of_queued hc' ?_) _
          rw [hqueue]
          exact List.mem_cons_self
        · exact h.kept j c hold
      waiting := fun j c hc hb => by
        rcases hget j c hc with ⟨-, c', -, rfl⟩ | ⟨hne, hold⟩
        · cases hb
        · refine queued_of_recv hrecv ?_ (h.waiting j c hold hb)
          intro heq
          cases heq
          exact hne rfl
      carried := fun j c v r hc hb => by
        rcases hget j c hc with ⟨rfl, c', -, rfl⟩ | ⟨-, hold⟩
        · cases hb
          exact List.mem_append_right _ List.mem_cons_self
        · exact List.mem_append_left _ (h.carried j c v r hold hb)
      dropped := fun j c hc hb => by
        rcases hget j c hc with ⟨-, c', -, rfl⟩ | ⟨-, hold⟩
        · cases hb
        · exact absurd (h.dropped j c hold hb).1 (not_gone_of_looping hphase) }

/-- The router goes, and with it the closures in the channel. -/
theorem Tied.dropQueued (h : s.Tied) {p : VirtualPool R (PoolOp M)} (hp : p.Booked)
    (hgone : p.Gone) (haccepted : p.accepted = s.pool.accepted)
    (hexecuted : p.executed = s.pool.executed) (hworkers : p.workers = s.pool.workers) :
    (⟨p, s.dropQueued⟩ : PooledCalls R M V).Tied := by
  have hget : ∀ (k : ℕ) (c : PoolCall V), s.dropQueued[k]? = some c →
      ∃ c', s.calls[k]? = some c' ∧
        (.op (.call k) ∈ s.pool.ops.queue ∧ c = c'.drop ∨
          .op (.call k) ∉ s.pool.ops.queue ∧ c = c') := by
    intro k c hc
    rw [PooledCalls.dropQueued, List.getElem?_mapIdx] at hc
    obtain ⟨c', hc', rfl⟩ := Option.map_eq_some_iff.mp hc
    refine ⟨c', hc', ?_⟩
    split
    · next hk => exact Or.inl ⟨mem_callsIn.mp hk, rfl⟩
    · next hk => exact Or.inr ⟨fun hmem => hk (mem_callsIn.mpr hmem), rfl⟩
  have hdone : p.done = s.pool.done := congrArg (List.map Prod.snd) hexecuted
  exact
    { booked := hp
      numbered := by
        rw [show s.dropQueued.length = s.calls.length from List.length_mapIdx, haccepted]
        exact h.numbered
      selected := by
        rw [hexecuted, hworkers]
        exact h.selected
      kept := fun k c hc => by
        obtain ⟨c', hc', ⟨hk, rfl⟩ | ⟨-, rfl⟩⟩ := hget k c hc
        · exact (h.kept k c' hc').bridged (h.bridge_of_queued hc' hk) _
        · exact h.kept k c hc'
      waiting := fun k c hc hb => by
        obtain ⟨c', hc', ⟨hk, rfl⟩ | ⟨hk, rfl⟩⟩ := hget k c hc
        · cases hb
        · exact absurd (h.waiting k c hc' hb) hk
      carried := fun k c w r hc hb => by
        obtain ⟨c', hc', ⟨-, rfl⟩ | ⟨-, rfl⟩⟩ := hget k c hc
        · cases hb
        · rw [hexecuted]
          exact h.carried k c w r hc' hb
      dropped := fun k c hc hb => by
        refine ⟨hgone, ?_⟩
        rw [hdone]
        obtain ⟨c', hc', ⟨hk, -⟩ | ⟨-, rfl⟩⟩ := hget k c hc
        · exact h.not_done hk
        · exact (h.dropped k c hc' hb).2 }

theorem Tied.route (h : s.Tied) (hphase : s.pool.phase = .looping) (loads : LoadReadings)
    (result : Except ActorSendError Unit) : (s.route loads result).Tied := by
  have hbooked := h.booked.routerTurn hphase loads
  have hnotGone : ¬ s.pool.Gone := not_gone_of_looping hphase
  rw [PooledCalls.route]
  rcases s.pool.routerTurn_cases loads with ⟨hempty, -, heq⟩ | ⟨hempty, heq⟩ |
    ⟨x, ops, i, counter, hrecv, hsel, hi, heq⟩ | ⟨x, ops, counter, hrecv, -, hsel, -, heq⟩ |
    ⟨ops, hrecv, heq⟩
  · rw [heq] at hbooked ⊢
    rw [Channel.recv_eq_none.mpr hempty]
    exact h.pool hbooked rfl h.selected (fun _ hk => hk) (fun _ hx => hx)
      fun hgone => absurd hgone hnotGone
  · rw [heq, Channel.recv_eq_none.mpr hempty]
    exact h
  · rw [heq] at hbooked ⊢
    rw [hrecv]
    dsimp only
    rw [hsel]
    cases x with
    | tell msg =>
      -- a message is told: the worker's answer is logged only
      exact h.pool hbooked rfl (h.selected_concat hi (.tell msg))
        (fun _ hk => queued_of_recv hrecv (by simp) hk) (fun _ hx => List.mem_append_left _ hx)
        fun hgone => absurd hgone hnotGone
    | call k => exact h.carry hphase hi result hrecv hbooked
  · rw [heq] at hbooked ⊢
    rw [hrecv]
    dsimp only
    rw [hsel]
    exact h.dropQueued hbooked (.inr rfl) rfl rfl rfl
  · rw [heq] at hbooked ⊢
    rw [hrecv]
    exact h.pool hbooked rfl h.selected (fun _ hk => queued_of_recv hrecv (by simp) hk)
      (fun _ hx => hx) fun hgone => absurd hgone hnotGone

/-- What becomes of call number `k`. -/
structure Fate (s : PooledCalls R M V) (k : ℕ) (c : PoolCall V) : Prop where
  /-- It waits as long as its closure is in the channel. -/
  waiting : c.bridge = .waiting ↔ .op (.call k) ∈ s.pool.ops.queue
  /-- It is carried to the worker with which the router called its closure. -/
  carried : ∀ w, (∃ result, c.bridge = .carried w result) ↔ (w, .call k) ∈ s.pool.executed
  /-- It is dropped when the router goes without having executed it. -/
  dropped : c.bridge = .dropped ↔ s.pool.Gone ∧ .call k ∉ s.pool.done
  /-- Polls give the caller what it is owed, in order and one by one. -/
  given : ∀ n, (PoolCall.poll^[n] c).given = c.owed.take (c.given.length + n)
  /-- A call that has ended has got all of it. -/
  done : c.ended = true → c.given = c.owed ∧ c.Final
  /-- A call to which nothing is added ends. -/
  ends : c.Final → (PoolCall.poll^[c.owed.length + 1] c).ended = true

structure Exact (s : PooledCalls R M V) : Prop where
  numbered : callsIn s.pool.accepted = List.range s.calls.length
  order : s.pool.done <+: beforeStop s.pool.accepted
  /-- At its end the router has executed what was accepted before the first `Stop`. -/
  finished : s.pool.phase = .ended →
    s.pool.ops.queue = [] ∧ s.pool.done = beforeStop s.pool.accepted
  /-- It panics only in the least loaded selection, and then the channel is gone as well. -/
  panicked : s.pool.phase = .panicked → s.pool.ops.queue = [] ∧ s.pool.routing = .leastLoaded
  once : (callsIn (s.pool.done.map .op)).Nodup
  selected : ∀ x ∈ s.pool.executed, x.1 < s.pool.workers.refs.length
  fate : ∀ k c, s.calls[k]? = some c → Fate s k c

/-- A call is carried to one worker. -/
theorem Tied.worker_unique (h : s.Tied) {k w w' : ℕ}
    (hw : (w, .call k) ∈ s.pool.executed) (hw' : (w', .call k) ∈ s.pool.executed) : w = w' := by
  have hnodup := h.nodup.of_append_left
  rw [callsIn, VirtualPool.done, List.map_map, List.filterMap_map] at hnodup
  by_contra hne
  -- two entries for one call would be two occurrences of its number
  have hdistinct := List.pairwise_filterMap.mp hnodup
  refine @List.Pairwise.forall _ _ _ ⟨?_⟩ hdistinct _ hw _ hw' ?_ k rfl k rfl rfl
  · intro x y hxy b hb b' hb' heq
    exact hxy b' hb' b hb heq.symm
  · intro heq
    exact hne (Prod.mk.inj heq).1

theorem Tied.fate (h : s.Tied) {k : ℕ} {c : PoolCall V} (hc : s.calls[k]? = some c) :
    Fate s k c where
  waiting := ⟨h.waiting k c hc, h.bridge_of_queued hc⟩
  carried w := by
    constructor
    · rintro ⟨r, hb⟩
      exact h.carried k c w r hc hb
    · intro hw
      rcases hb : c.bridge with - | ⟨w', r⟩ | -
      · exact absurd (done_of_executed hw) (h.not_done (h.waiting k c hc hb))
      · exact ⟨r, by rw [h.worker_unique hw (h.carried k c w' r hc hb)]⟩
      · exact absurd (done_of_executed hw) (h.dropped k c hc hb).2
  dropped := by
    refine ⟨h.dropped k c hc, ?_⟩
    · rintro ⟨hgone, hnot⟩
      rcases hb : c.bridge with - | ⟨w, r⟩ | -
      · -- the channel of a router that is gone is empty
        have hmem := h.waiting k c hc hb
        rw [h.booked.empty_of_gone hgone] at hmem
        cases hmem
      · exact absurd (done_of_executed (h.carried k c w r hc hb)) hnot
      · rfl
  given := PoolCall.polls_given (h.kept k c hc)
  done := (h.kept k c hc).done
  ends := PoolCall.polls_ended (h.kept k c hc)

/-! ### What is accepted -/

/-- The command, if the channel takes it. -/
def postAccepts (s : PooledCalls R M V) (cmd : RouterCommand (PoolOp M)) :
    List (RouterCommand (PoolOp M)) :=
  match (s.pool.trySend cmd).1 with
  | .ok _ => [cmd]
  | .error _ => []

/-- What the channel accepts in a step: a `tell` or a call that returns no error, or a
`Stop`. -/
def accepts (s : PooledCalls R M V) (e : Event R M V) : List (RouterCommand (PoolOp M)) :=
  if s.pool.released then []
  else
    match e with
    | .tell msg => s.postAccepts (.op (.tell msg))
    | .call _ => s.postAccepts (.op (.call s.calls.length))
    | .stop => s.postAccepts .stop
    | _ => []

/-- Behind a `Stop` an `ask` is answered by an error, and an `expand` by an empty stream. -/
example : ((run step (start threeWorkers .roundRobin 4 : PooledCalls ℕ ℕ ℕ)
    [.call .ask, .stop, .call .ask, .call .expand, .route ⟨id, id⟩ (.ok ()),
      .route ⟨id, id⟩ (.ok ()), .finish, .reply 0 (.ok 7), .poll 0, .poll 1,
      .poll 2]).calls.map fun c => (c.given, c.ended)) =
    [([.ok 7], true),
      ([.error (.actorNotFound "virtual pool router dropped before forwarding ask")], true),
      ([], true)] := by
  rfl

end PooledCalls

end Dactor
