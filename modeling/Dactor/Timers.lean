/-
Dactor/Timers.lean

Timers on an actor (`timer.rs`): `send_after` tells the actor one message,
`send_interval` one message a tick, until its token is cancelled or a tell
fails.

A tell fails when the actor is gone, and also when its mailbox is full.  So an
interval timer on a bounded mailbox ends at the first tick that finds it full,
and does not come back when there is room again.  (The interval is not zero:
`tokio::time::interval` panics on a zero one, in the task of the timer.)

Main result: `timers_exact`.
-/
import Dactor.Mailbox
import Dactor.Runs
import Dactor.Slots

namespace Dactor

open Channels Runs

variable {M : Type}

/-! ### Timers and the mailbox they tell -/

inductive TimerKind (M : Type)
  | after (msg : M)
  /-- The messages that the factory makes, call by call, and the token. -/
  | interval (msgFactory : ℕ → M) (cancel : ℕ)

def TimerKind.message : TimerKind M → ℕ → M
  | .after msg, _ => msg
  | .interval msgFactory _, j => msgFactory j

/-- The task of a timer, with the number of messages it has made. -/
structure Timer (M : Type) where
  kind : TimerKind M
  made : ℕ
  running : Bool

/-- Where a message is from: the timer `k`, with the number `j`, or elsewhere. -/
abbrev Origin := Option (ℕ × ℕ)

/-- An actor with its timers.  `entered` lists everything that got into the
mailbox, `taken` what the actor has taken out. -/
structure TimedActor (M : Type) where
  mailbox : Mailbox (Origin × M)
  entered : List (Origin × M)
  taken : List (Origin × M)
  timers : List (Timer M)
  cancelled : List ℕ

inductive TimerOp (M : Type)
  | sendAfter (msg : M)
  | sendInterval (msgFactory : ℕ → M) (cancel : ℕ)
  /-- The task of a timer gets to run.  Its message may be vetoed by an outbound
  interceptor, of which it does not hear. -/
  | elapse (k : ℕ) (vetoed : Bool)
  | cancel (token : ℕ)
  /-- `JoinHandle::abort`. -/
  | abort (k : ℕ)
  | tell (msg : M) (vetoed : Bool)
  | recv
  /-- The actor ends. -/
  | close

namespace TimedActor

def start (config : MailboxConfig) : TimedActor M := ⟨.new config, [], [], [], []⟩

/-- `ActorRef::tell`. -/
def tell (s : TimedActor M) (x : Origin × M) (vetoed : Bool) :
    Except ActorSendError Unit × TimedActor M :=
  if vetoed then (.ok (), s)
  else
    ((s.mailbox.send x).1, { s with
      mailbox := (s.mailbox.send x).2
      entered := if s.mailbox.Admits then s.entered ++ [x] else s.entered })

/-- A running timer gets to run. -/
def fire (s : TimedActor M) (k : ℕ) (t : Timer M) (vetoed : Bool) : TimedActor M :=
  match t.kind with
  | .after msg =>
    let s' := (s.tell (some (k, t.made), msg) vetoed).2
    { s' with timers := s.timers.set k { t with made := t.made + 1, running := false } }
  | .interval msgFactory cancel =>
    -- `biased`: the token comes before the tick
    if cancel ∈ s.cancelled then { s with timers := s.timers.set k { t with running := false } }
    else
      match s.tell (some (k, t.made), msgFactory t.made) vetoed with
      | (.ok (), s') => { s' with timers := s.timers.set k { t with made := t.made + 1 } }
      | (.error _, s') =>
        { s' with timers := s.timers.set k { t with made := t.made + 1, running := false } }

def elapse (s : TimedActor M) (k : ℕ) (vetoed : Bool) : TimedActor M :=
  match s.timers[k]? with
  | none => s
  | some t => if t.running then s.fire k t vetoed else s

def abort (s : TimedActor M) (k : ℕ) : TimedActor M :=
  match s.timers[k]? with
  | none => s
  | some t => { s with timers := s.timers.set k { t with running := false } }

def recv (s : TimedActor M) : TimedActor M :=
  match s.mailbox.recv with
  | none => s
  | some (x, mailbox) => { s with mailbox, taken := s.taken ++ [x] }

def step (s : TimedActor M) : TimerOp M → TimedActor M
  | .sendAfter msg => { s with timers := s.timers ++ [⟨.after msg, 0, true⟩] }
  | .sendInterval msgFactory cancel =>
    { s with timers := s.timers ++ [⟨.interval msgFactory cancel, 0, true⟩] }
  | .elapse k vetoed => s.elapse k vetoed
  | .cancel token => { s with cancelled := token :: s.cancelled }
  | .abort k => s.abort k
  | .tell msg vetoed => (s.tell (none, msg) vetoed).2
  | .recv => s.recv
  | .close => { s with mailbox := s.mailbox.close }

/-! ### What the results say -/

/-- The number of a message, if it is from the timer `k`. -/
def index (k : ℕ) : Origin × M → Option ℕ
  | (some (k', j), _) => if k' = k then some j else none
  | (none, _) => none

/-- The numbers of the messages of a timer that got into the mailbox. -/
def indices (s : TimedActor M) (k : ℕ) : List ℕ := s.entered.filterMap (index k)

def Running (k : ℕ) (s : TimedActor M) : Prop := ∃ t, s.timers[k]? = some t ∧ t.running = true

end TimedActor

/-- A tell to the mailbox succeeds. -/
def Mailbox.Takes {T : Type} (mb : Mailbox T) : Prop :=
  mb.channel.closed = false ∧ (mb.channel.HasRoom ∨ mb.config.sender = .bounded .dropNewest)

namespace TimedActor

/-- What a running timer outlasts: only its own turns and its own abort can end
it, and a turn does not if it is one of an interval whose token is not
cancelled, with a message that is vetoed or that the mailbox takes. -/
def Spares (k : ℕ) (s : TimedActor M) : TimerOp M → Prop
  | .elapse k' vetoed => k' = k → ∀ t, s.timers[k]? = some t →
      ∃ msgFactory cancel, t.kind = .interval msgFactory cancel ∧ cancel ∉ s.cancelled ∧
        (vetoed = true ∨ s.mailbox.Takes)
  | .abort k' => k' ≠ k
  | _ => True

end TimedActor

/-! ### A tell -/

theorem Mailbox.send_ok_iff {T : Type} (mb : Mailbox T) (msg : T) :
    (mb.send msg).1 = .ok () ↔ mb.Takes := by
  show (mb.config.sender.send msg mb.channel).1 = .ok () ↔ _
  rw [Takes]
  by_cases hadm : mb.channel.Admits
  · rcases mb.config.sender with - | (- | - | -) <;>
      simp [MailboxSender.send, Channel.trySend_of_admits hadm, hadm.1, hadm.2]
  · rcases Channel.not_admits_iff.mp hadm with hclosed | ⟨hopen, hfull⟩
    · rcases mb.config.sender with - | (- | - | -) <;>
        simp [MailboxSender.send, Channel.trySend_of_closed hclosed, hclosed]
    · rcases mb.config.sender with - | (- | - | -) <;>
        simp [MailboxSender.send, Channel.trySend_of_full hopen hfull, hopen, hfull]

namespace TimedActor

variable {s : TimedActor M}

theorem tell_ok_iff (x : Origin × M) (vetoed : Bool) :
    (s.tell x vetoed).1 = .ok () ↔ vetoed = true ∨ s.mailbox.Takes := by
  cases vetoed with
  | true => exact iff_of_true rfl (.inl rfl)
  | false =>
      rw [or_iff_right Bool.false_ne_true]
      exact s.mailbox.send_ok_iff x

@[simp] theorem tell_timers (x : Origin × M) (vetoed : Bool) :
    (s.tell x vetoed).2.timers = s.timers := by
  cases vetoed <;> rfl

@[simp] theorem tell_config (x : Origin × M) (vetoed : Bool) :
    (s.tell x vetoed).2.mailbox.config = s.mailbox.config := by
  cases vetoed <;> rfl

theorem tell_entered (x : Origin × M) (vetoed : Bool) :
    (s.tell x vetoed).2.entered =
      if vetoed = false ∧ s.mailbox.Admits then s.entered ++ [x] else s.entered := by
  cases vetoed with
  | true => rfl
  | false =>
      by_cases h : s.mailbox.Admits
      · rw [if_pos ⟨rfl, h⟩]
        exact if_pos h
      · rw [if_neg fun hand => h hand.2]
        exact if_neg h

/-- What a turn of a running timer comes to. -/
theorem fire_cases (s : TimedActor M) (k : ℕ) (t : Timer M) (ht : t.running = true)
    (vetoed : Bool) :
    (∃ msgFactory cancel, t.kind = .interval msgFactory cancel ∧ cancel ∈ s.cancelled ∧
      s.fire k t vetoed = { s with timers := s.timers.set k ⟨t.kind, t.made, false⟩ }) ∨
    ∃ running, s.fire k t vetoed =
        { (s.tell (some (k, t.made), t.kind.message t.made) vetoed).2 with
          timers := s.timers.set k ⟨t.kind, t.made + 1, running⟩ } ∧
      (running = true ↔ ∃ msgFactory cancel, t.kind = .interval msgFactory cancel ∧
        cancel ∉ s.cancelled ∧ (vetoed = true ∨ s.mailbox.Takes)) := by
  obtain ⟨kind, made, running⟩ := t
  obtain rfl : running = true := ht
  rcases kind with msg | ⟨msgFactory, cancel⟩
  · exact .inr ⟨false, rfl, iff_of_false Bool.false_ne_true (by rintro ⟨_, _, h, -⟩; cases h)⟩
  · by_cases hcancel : cancel ∈ s.cancelled
    · exact .inl ⟨msgFactory, cancel, rfl, hcancel, by simp only [fire, if_pos hcancel]⟩
    · right
      have htold := tell_ok_iff (s := s) (some (k, made), msgFactory made) vetoed
      rcases hsent : s.tell (some (k, made), msgFactory made) vetoed with ⟨e | ⟨⟩, s'⟩
      · rw [hsent] at htold
        have hrefused : ¬ (vetoed = true ∨ s.mailbox.Takes) := fun h => by cases htold.mpr h
        refine ⟨false, ?_, iff_of_false Bool.false_ne_true ?_⟩
        · simp only [fire, if_neg hcancel, hsent, TimerKind.message]
        · rintro ⟨_, _, -, -, h⟩
          exact hrefused h
      · rw [hsent] at htold
        refine ⟨true, ?_, iff_of_true rfl ⟨msgFactory, cancel, rfl, hcancel, htold.mp rfl⟩⟩
        simp only [fire, if_neg hcancel, hsent, TimerKind.message]

/-- The turn of a timer is not felt by another. -/
theorem elapse_timers_of_ne {k k' : ℕ} (h : k' ≠ k) (vetoed : Bool) :
    (s.elapse k' vetoed).timers[k]? = s.timers[k]? := by
  rw [elapse]
  split
  · rfl
  · split
    · next t _ ht =>
        rcases fire_cases s k' t ht vetoed with ⟨f, c, -, -, hfire⟩ | ⟨running, hfire, -⟩
        · rw [hfire, List.getElem?_set_ne h]
        · rw [hfire, List.getElem?_set_ne h]
    · rfl

/-! ### Which runs a timer survives -/

theorem running_step_iff (k : ℕ) (s : TimedActor M) (op : TimerOp M) (h : Running k s) :
    Running k (s.step op) ↔ Spares k s op := by
  obtain ⟨t, hk, ht⟩ := h
  obtain ⟨hlt, -⟩ := List.getElem?_eq_some_iff.mp hk
  cases op with
  | sendAfter msg =>
      exact iff_of_true ⟨t, by rw [step, List.getElem?_append_left hlt]; exact hk, ht⟩ trivial
  | sendInterval msgFactory cancel =>
      exact iff_of_true ⟨t, by rw [step, List.getElem?_append_left hlt]; exact hk, ht⟩ trivial
  | cancel token => exact iff_of_true ⟨t, hk, ht⟩ trivial
  | tell msg vetoed => exact iff_of_true ⟨t, by rw [step, tell_timers]; exact hk, ht⟩ trivial
  | close => exact iff_of_true ⟨t, hk, ht⟩ trivial
  | recv =>
      refine iff_of_true ⟨t, ?_, ht⟩ trivial
      rw [step, recv]
      split
      · exact hk
      · exact hk
  | abort k' =>
      rw [step, abort, Spares]
      by_cases hkk : k' = k
      · subst hkk
        refine iff_of_false ?_ (fun hne => hne rfl)
        rintro ⟨t', hk', ht'⟩
        simp only [hk, List.getElem?_set_self hlt] at hk'
        cases hk'
        cases ht'
      · refine iff_of_true ⟨t, ?_, ht⟩ hkk
        split
        · exact hk
        · rw [List.getElem?_set_ne hkk]
          exact hk
  | elapse k' vetoed =>
      rw [step, elapse, Spares]
      by_cases hkk : k' = k
      · subst hkk
        simp only [hk, ht, if_true, Option.some.injEq, forall_eq', forall_const]
        rcases fire_cases s k' t ht vetoed with ⟨f, c, hkind, hc, hfire⟩ | ⟨running, hfire, hrun⟩
        · rw [hfire]
          refine iff_of_false ?_ ?_
          · rintro ⟨t', hk', ht'⟩
            rw [List.getElem?_set_self hlt] at hk'
            cases hk'
            cases ht'
          · rintro ⟨f', c', hkind', hc', -⟩
            obtain ⟨rfl, rfl⟩ := TimerKind.interval.inj (hkind.symm.trans hkind')
            exact hc' hc
        · rw [hfire, ← hrun]
          constructor
          · rintro ⟨t', hk', ht'⟩
            rw [List.getElem?_set_self hlt] at hk'
            cases hk'
            exact ht'
          · intro hrunning
            exact ⟨_, List.getElem?_set_self hlt, hrunning⟩
      · refine iff_of_true ⟨t, ?_, ht⟩ fun h => absurd h hkk
        have hsame := elapse_timers_of_ne (s := s) hkk vetoed
        rw [elapse] at hsame
        rw [hsame]
        exact hk

/-- A timer that has ended makes no more messages, and does not run again. -/
theorem ended_step {k : ℕ} {t : Timer M} (ht : t.running = false) (s : TimedActor M)
    (op : TimerOp M) (hk : s.timers[k]? = some t) : (s.step op).timers[k]? = some t := by
  obtain ⟨hlt, -⟩ := List.getElem?_eq_some_iff.mp hk
  cases op with
  | sendAfter msg => rwa [step, List.getElem?_append_left hlt]
  | sendInterval msgFactory cancel => rwa [step, List.getElem?_append_left hlt]
  | cancel token => exact hk
  | tell msg vetoed => rwa [step, tell_timers]
  | close => exact hk
  | recv =>
      rw [step, recv]
      split
      · exact hk
      · exact hk
  | abort k' =>
      rw [step, abort]
      by_cases hkk : k' = k
      · subst hkk
        obtain ⟨kind, made, running⟩ := t
        obtain rfl : running = false := ht
        simp only [hk, List.getElem?_set_self hlt]
      · split
        · exact hk
        · rwa [List.getElem?_set_ne hkk]
  | elapse k' vetoed =>
      by_cases hkk : k' = k
      · subst hkk
        simp only [step, elapse, hk, ht, Bool.false_eq_true, if_false]
      · rwa [step, elapse_timers_of_ne hkk]

/-! ### What gets into the mailbox -/

theorem index_eq_some {k j : ℕ} {x : Origin × M} : index k x = some j ↔ x.1 = some (k, j) := by
  obtain ⟨- | ⟨k', j'⟩, m⟩ := x
  · simp [index]
  · by_cases h : k' = k
    · simp [index, h]
    · simp [index, h]

/-- The messages of each timer got in one after the other, as it made them. -/
structure Orderly (s : TimedActor M) : Prop where
  made : ∀ k j m, (some (k, j), m) ∈ s.entered →
    ∃ t, s.timers[k]? = some t ∧ j < t.made ∧ t.kind.message j = m
  increasing : ∀ k, (s.indices k).Pairwise (· < ·)
  /-- They are with the actor, in the order in which they got in. -/
  held : s.taken ++ s.mailbox.channel.queue <+: s.entered
  /-- Only what waits when the actor ends is lost. -/
  held_of_open : s.mailbox.channel.closed = false →
    s.taken ++ s.mailbox.channel.queue = s.entered

theorem Orderly.lt_made (h : s.Orderly) {k j : ℕ} {t : Timer M} (hk : s.timers[k]? = some t)
    (hj : j ∈ s.indices k) : j < t.made := by
  obtain ⟨⟨o, m⟩, hmem, hindex⟩ := List.mem_filterMap.mp hj
  obtain rfl : o = some (k, j) := index_eq_some.mp hindex
  obtain ⟨t', hk', hlt, -⟩ := h.made k j m hmem
  obtain rfl : t = t' := Option.some.inj (hk.symm.trans hk')
  exact hlt

/-- A change of the timers that forgets no message of them. -/
theorem Orderly.timers (h : s.Orderly) {timers : List (Timer M)}
    (htimers : ∀ (k : ℕ) (t : Timer M), s.timers[k]? = some t →
      ∃ t' : Timer M, timers[k]? = some t' ∧ t'.kind = t.kind ∧ t.made ≤ t'.made) :
    ({ s with timers } : TimedActor M).Orderly where
  made k j m hmem := by
    obtain ⟨t, hk, hlt, hmsg⟩ := h.made k j m hmem
    obtain ⟨t', hk', hkind, hle⟩ := htimers k t hk
    exact ⟨t', hk', hlt.trans_le hle, by rw [hkind]; exact hmsg⟩
  increasing := h.increasing
  held := h.held
  held_of_open := h.held_of_open

theorem indices_concat (s : TimedActor M) (k : ℕ) (x : Origin × M) :
    (s.entered ++ [x]).filterMap (index k) = s.indices k ++ (index k x).toList := by
  rw [List.filterMap_append, indices]
  cases h : index k x with
  | none => simp [h]
  | some j => simp [h]

/-- A tell of something new from its timer, or from elsewhere. -/
theorem Orderly.tell (h : s.Orderly) (x : Origin × M) (vetoed : Bool)
    (hmade : ∀ k j, x.1 = some (k, j) →
      ∃ t, s.timers[k]? = some t ∧ j < t.made ∧ t.kind.message j = x.2)
    (hnew : ∀ k j, x.1 = some (k, j) → ∀ i ∈ s.indices k, i < j) :
    (s.tell x vetoed).2.Orderly := by
  by_cases hin : vetoed = false ∧ s.mailbox.Admits
  · obtain ⟨rfl, hadm⟩ := hin
    have hentered : (s.tell x false).2.entered = s.entered ++ [x] := by
      rw [tell_entered, if_pos ⟨rfl, hadm⟩]
    have hqueue : (s.tell x false).2.mailbox.channel.queue = s.mailbox.channel.queue ++ [x] :=
      (s.mailbox.send_queue x).trans (if_pos hadm)
    have hwas := h.held_of_open hadm.1
    have hall : (s.tell x false).2.taken ++ (s.tell x false).2.mailbox.channel.queue
        = (s.tell x false).2.entered := by
      rw [hqueue, hentered, ← hwas, List.append_assoc]
      rfl
    refine ⟨fun k j m hmem => ?_, fun k => ?_, ?_, fun _ => hall⟩
    · rw [hentered, List.mem_append, List.mem_singleton] at hmem
      rw [tell_timers]
      rcases hmem with hmem | rfl
      · exact h.made k j m hmem
      · exact hmade k j rfl
    · rw [indices, hentered, indices_concat]
      refine List.pairwise_append.mpr ⟨h.increasing k, ?_, ?_⟩
      · cases index k x <;> simp
      · intro i hi j hj
        rw [Option.mem_toList] at hj
        exact hnew k j (index_eq_some.mp hj) i hi
    · rw [hall]
  · have hsame : (s.tell x vetoed).2.entered = s.entered := by rw [tell_entered, if_neg hin]
    have hqueue : (s.tell x vetoed).2.mailbox.channel.queue = s.mailbox.channel.queue := by
      cases vetoed with
      | true => rfl
      | false => exact (s.mailbox.send_queue x).trans (if_neg fun hadm => hin ⟨rfl, hadm⟩)
    have hclosed : (s.tell x vetoed).2.mailbox.channel.closed = s.mailbox.channel.closed := by
      cases vetoed with
      | true => rfl
      | false => exact s.mailbox.send_closed x
    have htaken : (s.tell x vetoed).2.taken = s.taken := by cases vetoed <;> rfl
    refine ⟨fun k j m hmem => ?_, fun k => ?_, ?_, fun hopen => ?_⟩
    · rw [hsame] at hmem
      rw [tell_timers]
      exact h.made k j m hmem
    · rw [indices, hsame]
      exact h.increasing k
    · rw [htaken, hqueue, hsame]
      exact h.held
    · rw [htaken, hqueue, hsame]
      exact h.held_of_open (hclosed.symm.trans hopen)

theorem orderly_start (config : MailboxConfig) : (start config : TimedActor M).Orderly where
  made _ _ _ hmem := absurd hmem List.not_mem_nil
  increasing _ := List.Pairwise.nil
  held := List.prefix_rfl
  held_of_open _ := rfl

theorem Orderly.concat (h : s.Orderly) (t : Timer M) :
    ({ s with timers := s.timers ++ [t] } : TimedActor M).Orderly :=
  h.timers fun k t' hk => by
    refine ⟨t', ?_, rfl, le_rfl⟩
    rw [List.getElem?_append_left (List.getElem?_eq_some_iff.mp hk).1]
    exact hk

theorem Orderly.set (h : s.Orderly) {k : ℕ} {t : Timer M} (hk : s.timers[k]? = some t)
    {t' : Timer M} (hkind : t'.kind = t.kind) (hmade : t.made ≤ t'.made) :
    ({ s with timers := s.timers.set k t' } : TimedActor M).Orderly :=
  h.timers fun _ _ hj =>
    Slots.rel_set (R := fun t t' : Timer M => t'.kind = t.kind ∧ t.made ≤ t'.made)
      (fun _ => ⟨rfl, le_rfl⟩) hk ⟨hkind, hmade⟩ hj

/-- A turn that makes a message: the timer counts it, and then tells it. -/
theorem Orderly.tick (h : s.Orderly) {k : ℕ} {t : Timer M} (hk : s.timers[k]? = some t)
    (vetoed running : Bool) :
    ({ (s.tell (some (k, t.made), t.kind.message t.made) vetoed).2 with
        timers := s.timers.set k ⟨t.kind, t.made + 1, running⟩ } : TimedActor M).Orderly := by
  obtain ⟨hlt, -⟩ := List.getElem?_eq_some_iff.mp hk
  have hset : ({ s with timers := s.timers.set k ⟨t.kind, t.made + 1, running⟩ } :
      TimedActor M).Orderly := h.set hk rfl (Nat.le_succ _)
  have htell := hset.tell (some (k, t.made), t.kind.message t.made) vetoed ?_ ?_
  · cases vetoed with
    | true => exact htell
    | false => exact htell
  · rintro k' j hkj
    cases hkj
    exact ⟨_, List.getElem?_set_self hlt, Nat.lt_succ_self _, rfl⟩
  · rintro k' j hkj i hi
    cases hkj
    exact h.lt_made hk hi

theorem orderly_step (s : TimedActor M) (op : TimerOp M) (h : s.Orderly) : (s.step op).Orderly := by
  cases op with
  | sendAfter msg => exact h.concat _
  | sendInterval msgFactory cancel => exact h.concat _
  | cancel token => exact ⟨h.made, h.increasing, h.held, h.held_of_open⟩
  | tell msg vetoed => exact h.tell _ vetoed (fun _ _ hx => by cases hx) (fun _ _ hx => by cases hx)
  | close =>
      refine ⟨h.made, h.increasing, ?_, fun hopen => by cases hopen⟩
      show s.taken ++ [] <+: s.entered
      rw [List.append_nil]
      exact (List.prefix_append _ _).trans h.held
  | recv =>
      rw [step, recv]
      split
      · exact h
      · next x mailbox hrecv =>
          obtain ⟨hqueue, hclosed⟩ := Mailbox.recv_eq_some hrecv
          have hsame : (s.taken ++ [x]) ++ mailbox.channel.queue
              = s.taken ++ s.mailbox.channel.queue := by
            rw [hqueue, List.append_assoc]
            rfl
          refine ⟨h.made, h.increasing, ?_, fun hopen => ?_⟩
          · show (s.taken ++ [x]) ++ mailbox.channel.queue <+: s.entered
            rw [hsame]
            exact h.held
          · show (s.taken ++ [x]) ++ mailbox.channel.queue = s.entered
            rw [hsame]
            exact h.held_of_open (hclosed.symm.trans hopen)
  | abort k =>
      rw [step, abort]
      split
      · exact h
      · next t hk => exact h.set hk rfl le_rfl
  | elapse k vetoed =>
      rw [step, elapse]
      split
      · exact h
      · next t hk =>
          split
          · next ht =>
              rcases fire_cases s k t ht vetoed with ⟨f, c, -, -, hfire⟩ | ⟨running, hfire, -⟩
              · rw [hfire]
                exact h.set hk rfl le_rfl
              · rw [hfire]
                exact h.tick hk vetoed running
          · exact h

/-! ### Nothing is left out -/

/-- Everything a timer has made got into the mailbox, save a last message that
was refused. -/
def Gapless (k : ℕ) (s : TimedActor M) : Prop :=
  ∀ t : Timer M, s.timers[k]? = some t → s.indices k = List.range t.made ∨
    t.running = false ∧ s.indices k = List.range (t.made - 1)

/-- What the runs without a silent loss keep. -/
structure Steady (config : MailboxConfig) (k : ℕ) (s : TimedActor M) : Prop extends s.Orderly where
  config_eq : s.mailbox.config = config
  gapless : s.Gapless k

/-- A timer that has not been made has told nothing. -/
theorem Orderly.indices_eq_nil (h : s.Orderly) {k : ℕ} (hk : s.timers[k]? = none) :
    s.indices k = [] := by
  rw [List.eq_nil_iff_forall_not_mem]
  intro j hj
  obtain ⟨⟨o, m⟩, hmem, hindex⟩ := List.mem_filterMap.mp hj
  obtain rfl : o = some (k, j) := index_eq_some.mp hindex
  obtain ⟨t, hk', -⟩ := h.made k j m hmem
  rw [hk] at hk'
  cases hk'

theorem Steady.concat {config : MailboxConfig} {k : ℕ} (h : s.Steady config k)
    (kind : TimerKind M) : ({ s with timers := s.timers ++ [⟨kind, 0, true⟩] } :
      TimedActor M).Steady config k where
  toOrderly := h.toOrderly.concat _
  config_eq := h.config_eq
  gapless t hk := by
    rcases Slots.concat_cases hk with hk | ⟨rfl, rfl⟩
    · exact h.gapless t hk
    · exact .inl (h.toOrderly.indices_eq_nil (List.getElem?_eq_none le_rfl))

theorem Steady.ended {config : MailboxConfig} {k k' : ℕ} (h : s.Steady config k) {t : Timer M}
    (hk : s.timers[k']? = some t) :
    ({ s with timers := s.timers.set k' ⟨t.kind, t.made, false⟩ } :
      TimedActor M).Steady config k where
  toOrderly := h.toOrderly.set hk rfl le_rfl
  config_eq := h.config_eq
  gapless t' hk' := by
    rcases Slots.set_cases hk' with ⟨rfl, rfl⟩ | ⟨-, hk'⟩
    · exact (h.gapless t hk).imp_right fun hend => ⟨rfl, hend.2⟩
    · exact h.gapless t' hk'

theorem tell_indices_of_ne {k : ℕ} {x : Origin × M} (hx : index k x = none) (vetoed : Bool) :
    (s.tell x vetoed).2.indices k = s.indices k := by
  rw [indices, tell_entered]
  split
  · rw [indices_concat, hx]
    exact List.append_nil _
  · rfl

theorem elapse_of_ne {k k' : ℕ} (h : k' ≠ k) (vetoed : Bool) :
    (s.elapse k' vetoed).indices k = s.indices k ∧
      (s.elapse k' vetoed).mailbox.config = s.mailbox.config := by
  rw [elapse]
  split
  · exact ⟨rfl, rfl⟩
  · split
    · next t _ ht =>
        rcases fire_cases s k' t ht vetoed with ⟨f, c, -, -, hfire⟩ | ⟨running, hfire, -⟩
        · rw [hfire]
          exact ⟨rfl, rfl⟩
        · have hother : index k (some (k', t.made), t.kind.message t.made) = none := if_neg h
          rw [hfire]
          exact ⟨tell_indices_of_ne hother vetoed, tell_config _ vetoed⟩
    · exact ⟨rfl, rfl⟩

/-- A turn of the timer itself. -/
theorem Steady.tick {config : MailboxConfig} (hconfig : config.sender ≠ .bounded .dropNewest)
    {k : ℕ} (h : s.Steady config k) {t : Timer M} (hk : s.timers[k]? = some t)
    (ht : t.running = true) {running : Bool}
    (hrun : running = true ↔ ∃ msgFactory cancel, t.kind = .interval msgFactory cancel ∧
      cancel ∉ s.cancelled ∧ (false = true ∨ s.mailbox.Takes)) :
    ({ (s.tell (some (k, t.made), t.kind.message t.made) false).2 with
        timers := s.timers.set k ⟨t.kind, t.made + 1, running⟩ } :
      TimedActor M).Steady config k where
  toOrderly := h.toOrderly.tick hk false running
  config_eq := h.config_eq
  gapless t' hk' := by
    obtain ⟨hlt, -⟩ := List.getElem?_eq_some_iff.mp hk
    rw [List.getElem?_set_self hlt] at hk'
    cases hk'
    have hwas : s.indices k = List.range t.made :=
      (h.gapless t hk).resolve_right fun hend => by rw [ht] at hend; cases hend.1
    show (s.tell (some (k, t.made), t.kind.message t.made) false).2.indices k = _ ∨ _ ∧
      (s.tell (some (k, t.made), t.kind.message t.made) false).2.indices k = _
    rw [indices, tell_entered]
    by_cases hadm : s.mailbox.Admits
    · left
      rw [if_pos ⟨rfl, hadm⟩, indices_concat, hwas, index_eq_some.mpr rfl]
      exact List.range_succ.symm
    · right
      rw [if_neg fun hand => hadm hand.2]
      refine ⟨?_, hwas⟩
      -- the tell is refused, and the timer ends
      rw [Bool.eq_false_iff]
      intro hrunning
      obtain ⟨_, _, -, -, hfalse | htakes⟩ := hrun.mp hrunning
      · cases hfalse
      · rcases htakes.2 with hroom | hdrop
        · exact hadm ⟨htakes.1, hroom⟩
        · rw [h.config_eq] at hdrop
          exact hconfig hdrop

theorem steady_step {config : MailboxConfig} (hconfig : config.sender ≠ .bounded .dropNewest)
    (k : ℕ) (s : TimedActor M) (op : TimerOp M) (hop : op ≠ .elapse k true)
    (h : s.Steady config k) : (s.step op).Steady config k := by
  have horderly := orderly_step s op h.toOrderly
  cases op with
  | sendAfter msg => exact h.concat _
  | sendInterval msgFactory cancel => exact h.concat _
  | cancel token => exact ⟨horderly, h.config_eq, h.gapless⟩
  | close => exact ⟨horderly, h.config_eq, h.gapless⟩
  | tell msg vetoed =>
      refine ⟨horderly, (tell_config _ _).trans h.config_eq, fun t hk => ?_⟩
      rw [step, tell_timers] at hk
      rw [step, tell_indices_of_ne rfl]
      exact h.gapless t hk
  | recv =>
      rw [step, recv] at horderly ⊢
      split at horderly
      · exact h
      · next x mailbox hrecv =>
          exact ⟨horderly, (Mailbox.recv_config hrecv).trans h.config_eq, h.gapless⟩
  | abort k' =>
      rw [step, abort]
      split
      · exact h
      · next t hk => exact h.ended hk
  | elapse k' vetoed =>
      by_cases hkk : k' = k
      · subst hkk
        obtain rfl : vetoed = false := by
          rw [← Bool.not_eq_true]
          rintro rfl
          exact hop rfl
        rw [step, elapse]
        split
        · exact h
        · next t hk =>
            split
            · next ht =>
                rcases fire_cases s k' t ht false with ⟨f, c, -, -, hfire⟩ | ⟨running, hfire, hrun⟩
                · rw [hfire]
                  exact h.ended hk
                · rw [hfire]
                  exact h.tick hconfig hk ht hrun
            · exact h
      · obtain ⟨hindices, hsame⟩ := elapse_of_ne (s := s) hkk vetoed
        refine ⟨horderly, hsame.trans h.config_eq, fun t hk => ?_⟩
        rw [step, elapse_timers_of_ne hkk] at hk
        rw [step, hindices]
        exact h.gapless t hk

theorem steady_start (config : MailboxConfig) (k : ℕ) :
    (start config : TimedActor M).Steady config k where
  toOrderly := orderly_start config
  config_eq := rfl
  gapless _ hk := by cases hk

/-! ### Whole runs -/

/-- **Timers are exact**, on any mailbox and in any interleaving of timers,
cancellations, aborts, other senders and the actor.

What gets in from a timer are the messages it made, each at most once and in
the order in which it made them, and until the actor ends all of them are with
it.  If none of them is vetoed, and the mailbox does not drop what is too much
for it, they are all there without a gap, save a last one that was refused.

A running timer stays so exactly as long as it is an interval, nobody aborts
it, and each of its turns finds its token not cancelled and a mailbox that
takes the message, or has it vetoed.  One that has ended does so for good, and
makes no more messages. -/
theorem timers_exact (config : MailboxConfig) (ops : List (TimerOp M)) (k : ℕ) :
    (run step (start config) ops).Orderly ∧
    (config.sender ≠ .bounded .dropNewest →
      Admissible step (fun _ op => op ≠ .elapse k true) (start config) ops →
        (run step (start config) ops).Gapless k) ∧
    (Running k (run step (start config) ops) → ∀ more,
      (Always step (Running k) (run step (start config) ops) more ↔
        Admissible step (Spares k) (run step (start config) ops) more)) ∧
    ∀ t, (run step (start config) ops).timers[k]? = some t → t.running = false →
      ∀ more, (run step (start config) (ops ++ more)).timers[k]? = some t := by
  refine ⟨?_, fun hconfig hops => ?_, fun hrunning more => ?_, fun t hk ht more => ?_⟩
  · exact run_induction orderly_step ops (orderly_start config)
  · exact (always_of_admissible (steady_step hconfig k) (steady_start config k) hops).last.gapless
  · exact always_iff_admissible (running_step_iff k) hrunning
  · rw [run_append]
    exact run_induction (ended_step ht) more hk

/-- A mailbox for one message: the second tick finds it full, and the interval is
over although the actor takes the message right after. -/
theorem timers_exact_full :
    ¬ Always step (Running 0)
      (run step (start (.bounded 1 .rejectWithError)) [.sendInterval id 0])
      [.elapse 0 false, .elapse 0 false, .recv] := by
  intro h
  obtain ⟨-, hsecond, -⟩ := (((timers_exact (.bounded 1 .rejectWithError)
    [.sendInterval (id : ℕ → ℕ) 0] 0).2.2.1 ⟨_, rfl, rfl⟩ _).mp h)
  obtain ⟨f, c, -, -, hfalse | ⟨-, hroom | hdrop⟩⟩ := hsecond rfl _ rfl
  · cases hfalse
  · exact absurd (hroom 1 rfl) (by decide)
  · cases hdrop

end TimedActor

end Dactor
