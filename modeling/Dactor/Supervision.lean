/-
Dactor/Supervision.lean

Supervision strategies and their restart budget.

The built-in strategies differ in whose restarts they count: `OneForOne`
keeps a budget for each child, `AllForOne` and `RestForOne` one for the whole
group, under a sentinel id.  The tracker forgets restarts as they leave the
window; `Supervised.decisions_eq` says that it decides as `ledger` does, which
forgets nothing and looks at the full history of decisions.

Main result: `restart_budget_exact`.
-/
import Dactor.Basic
import Dactor.Runs
import Dactor.SlidingWindow

namespace Dactor

open Runs SlidingWindow

/-! ### The strategies -/

/-- What a supervisor should do when a child fails. -/
inductive SupervisionAction
  | restart | stop | escalate
  deriving DecidableEq, Repr

/-- The instants of the restarts that are remembered, by child. -/
structure RestartTracker where
  maxRestarts : UInt32
  within : Nat
  timestamps : ActorId → List Nat

namespace RestartTracker

def new (maxRestarts : UInt32) (within : Nat) : RestartTracker := ⟨maxRestarts, within, fun _ => []⟩

/-- `record` at the instant `now`: whether the restart is allowed. -/
def record (t : RestartTracker) (childId : ActorId) (now : Nat) : Bool × RestartTracker :=
  let entries := (t.timestamps childId).filter fun s => durationSince now s ≤ t.within
  -- `entries.len() as u32 >= max_restarts`; a refusal only prunes
  if t.maxRestarts ≤ UInt32.ofNat entries.length then
    (false, { t with timestamps := Function.update t.timestamps childId entries })
  else (true, { t with timestamps := Function.update t.timestamps childId (entries ++ [now]) })

/-- The id under which a group's restarts are counted. -/
def sentinel : ActorId := ⟨⟨"__supervision_group__"⟩, 0⟩

def recordGlobal (t : RestartTracker) (now : Nat) : Bool × RestartTracker := t.record sentinel now

end RestartTracker

/-- The action a strategy makes of the tracker's answer. -/
def SupervisionAction.ofAllowed (allowed : Bool) : SupervisionAction :=
  if allowed then .restart else .stop

theorem SupervisionAction.ofAllowed_eq_restart (allowed : Bool) :
    SupervisionAction.ofAllowed allowed = .restart ↔ allowed = true := by
  cases allowed with
  | false => exact iff_of_false (fun h => by cases h) Bool.false_ne_true
  | true => exact iff_of_true rfl rfl

structure OneForOne where
  tracker : RestartTracker

def OneForOne.onChildFailed (s : OneForOne) (childId : ActorId) (_childName : String)
    (_error : ActorError) (now : Nat) : SupervisionAction × OneForOne :=
  let r := s.tracker.record childId now
  (.ofAllowed r.1, ⟨r.2⟩)

structure AllForOne where
  tracker : RestartTracker

def AllForOne.onChildFailed (s : AllForOne) (_childId : ActorId) (_childName : String)
    (_error : ActorError) (now : Nat) : SupervisionAction × AllForOne :=
  let r := s.tracker.recordGlobal now
  (.ofAllowed r.1, ⟨r.2⟩)

structure RestForOne where
  tracker : RestartTracker
  children : List ActorId

namespace RestForOne

def registerChild (s : RestForOne) (childId : ActorId) : RestForOne :=
  { s with children := s.children ++ [childId] }

/-- The failed child and every child registered after it. -/
def childrenToRestart (s : RestForOne) (failedId : ActorId) : List ActorId :=
  match s.children.idxOf? failedId with
  | some pos => s.children.drop pos
  | none => [failedId]

def onChildFailed (s : RestForOne) (_childId : ActorId) (_childName : String)
    (_error : ActorError) (now : Nat) : SupervisionAction × RestForOne :=
  let r := s.tracker.recordGlobal now
  (.ofAllowed r.1, { s with tracker := r.2 })

end RestForOne

/-! ### Supervisors -/

/-- A call of `on_child_failed`, and when it is made. -/
structure Failure where
  childId : ActorId
  childName : String
  error : ActorError
  time : Nat
  deriving DecidableEq, Repr

/-- The built-in strategies. -/
inductive Strategy
  | oneForOne (s : OneForOne)
  | allForOne (s : AllForOne)
  | restForOne (s : RestForOne)

def Strategy.onChildFailed (f : Failure) : Strategy → SupervisionAction × Strategy
  | .oneForOne s =>
    let r := s.onChildFailed f.childId f.childName f.error f.time
    (r.1, .oneForOne r.2)
  | .allForOne s =>
    let r := s.onChildFailed f.childId f.childName f.error f.time
    (r.1, .allForOne r.2)
  | .restForOne s =>
    let r := s.onChildFailed f.childId f.childName f.error f.time
    (r.1, .restForOne r.2)

inductive StrategyKind
  | oneForOne | allForOne | restForOne
  deriving DecidableEq, Repr

/-- The strategy as it is created, with the children that are registered. -/
def StrategyKind.build (kind : StrategyKind) (maxRestarts : UInt32) (within : Nat)
    (children : List ActorId) : Strategy :=
  match kind with
  | .oneForOne => .oneForOne ⟨.new maxRestarts within⟩
  | .allForOne => .allForOne ⟨.new maxRestarts within⟩
  | .restForOne => .restForOne ⟨.new maxRestarts within, children⟩

/-- Two children draw on the same budget. -/
def StrategyKind.SameBudget (kind : StrategyKind) (a b : ActorId) : Prop :=
  match kind with
  | .oneForOne => a = b
  | .allForOne | .restForOne => True

instance StrategyKind.SameBudget.decidable (kind : StrategyKind) (a b : ActorId) :
    Decidable (kind.SameBudget a b) :=
  match kind with
  | .oneForOne => inferInstanceAs (Decidable (a = b))
  | .allForOne => isTrue trivial
  | .restForOne => isTrue trivial

/-- A strategy and the decisions it has made. -/
structure Supervised where
  strategy : Strategy
  decisions : List (Failure × SupervisionAction)

def Supervised.start (kind : StrategyKind) (maxRestarts : UInt32) (within : Nat)
    (children : List ActorId) : Supervised :=
  ⟨kind.build maxRestarts within children, []⟩

def Supervised.step (s : Supervised) (f : Failure) : Supervised :=
  let r := s.strategy.onChildFailed f
  ⟨r.2, s.decisions ++ [(f, r.1)]⟩

/-! ### The full history -/

/-- The instants of the restarts that were charged to the budget of
`child`. -/
def restarts (kind : StrategyKind) (child : ActorId) (past : List (Failure × SupervisionAction)) :
    List Nat :=
  (past.filter fun d => d.2 = .restart ∧ kind.SameBudget d.1.childId child).map (·.1.time)

/-- The decision by the full history: a restart while fewer than
`maxRestarts` restarts are recent. -/
def decideByHistory (kind : StrategyKind) (maxRestarts : UInt32) (within : Nat)
    (past : List (Failure × SupervisionAction)) (f : Failure) : SupervisionAction :=
  .ofAllowed ((recent within f.time (restarts kind f.childId past)).length < maxRestarts.toNat)

def ledgerStep (kind : StrategyKind) (maxRestarts : UInt32) (within : Nat)
    (past : List (Failure × SupervisionAction)) (f : Failure) :
    List (Failure × SupervisionAction) :=
  past ++ [(f, decideByHistory kind maxRestarts within past f)]

/-- The decisions of a supervisor that forgets nothing. -/
def ledger (kind : StrategyKind) (maxRestarts : UInt32) (within : Nat) (failures : List Failure) :
    List (Failure × SupervisionAction) :=
  run (ledgerStep kind maxRestarts within) [] failures

/-! ### The tracker against the history -/

/-- The id under which a strategy charges the restarts of a child. -/
def StrategyKind.key (kind : StrategyKind) (child : ActorId) : ActorId :=
  match kind with
  | .oneForOne => child
  | .allForOne | .restForOne => RestartTracker.sentinel

theorem StrategyKind.sameBudget_iff (kind : StrategyKind) (a b : ActorId) :
    kind.SameBudget a b ↔ kind.key a = kind.key b := by
  cases kind with
  | oneForOne => exact Iff.rfl
  | allForOne => exact iff_of_true trivial rfl
  | restForOne => exact iff_of_true trivial rfl

def Strategy.tracker : Strategy → RestartTracker
  | .oneForOne s => s.tracker
  | .allForOne s => s.tracker
  | .restForOne s => s.tracker

def Strategy.kind : Strategy → StrategyKind
  | .oneForOne _ => .oneForOne
  | .allForOne _ => .allForOne
  | .restForOne _ => .restForOne

/-- Every strategy asks its tracker, each under its own key. -/
theorem Strategy.onChildFailed_spec (s : Strategy) (f : Failure) :
    let r := s.tracker.record (s.kind.key f.childId) f.time
    (s.onChildFailed f).1 = .ofAllowed r.1 ∧ (s.onChildFailed f).2.tracker = r.2 ∧
      (s.onChildFailed f).2.kind = s.kind := by
  cases s with
  | oneForOne s => exact ⟨rfl, rfl, rfl⟩
  | allForOne s => exact ⟨rfl, rfl, rfl⟩
  | restForOne s => exact ⟨rfl, rfl, rfl⟩

/-- From the instant `now` on, a key's remembered restarts tell the same as
the full list `log` of them. -/
structure RestartTracker.Remembers (t : RestartTracker) (now : Nat) (key : ActorId)
    (log : List Nat) : Prop where
  recent_eq : ∀ t', now ≤ t' → recent t.within t' (t.timestamps key) = recent t.within t' log
  length_le : (t.timestamps key).length ≤ t.maxRestarts.toNat

theorem RestartTracker.remembers_new (maxRestarts : UInt32) (within now : Nat) (key : ActorId) :
    (new maxRestarts within).Remembers now key [] :=
  ⟨fun _ _ => rfl, Nat.zero_le _⟩

theorem RestartTracker.Remembers.later {t : RestartTracker} {now now' : Nat} {key : ActorId}
    {log : List Nat} (h : t.Remembers now key log) (hnow : now ≤ now') :
    t.Remembers now' key log :=
  ⟨fun t' ht' => h.recent_eq t' (hnow.trans ht'), h.length_le⟩

/-- The tracker allows a restart exactly if the full list has room for it,
and then remembers one more. -/
theorem RestartTracker.Remembers.record {t : RestartTracker} {now now' : Nat} {key : ActorId}
    {log : List Nat} (h : t.Remembers now key log) (hnow : now ≤ now') :
    let allowed := decide ((recent t.within now' log).length < t.maxRestarts.toNat)
    (t.record key now').1 = allowed ∧
      (t.record key now').2.Remembers now' key (if allowed then log ++ [now'] else log) := by
  intro allowed
  have hentries : (t.timestamps key).filter (fun s => durationSince now' s ≤ t.within)
      = recent t.within now' log := h.recent_eq now' hnow
  have hle : (recent t.within now' log).length ≤ t.maxRestarts.toNat := by
    rw [← h.recent_eq now' hnow]
    exact (List.length_filter_le ..).trans h.length_le
  have hcast : t.maxRestarts ≤ UInt32.ofNat (recent t.within now' log).length ↔
      t.maxRestarts.toNat ≤ (recent t.within now' log).length := by
    rw [UInt32.le_iff_toNat_le,
      UInt32.toNat_ofNat_of_lt' (Nat.lt_of_le_of_lt hle t.maxRestarts.toNat_lt)]
  have hpruned : ∀ t', now' ≤ t' →
      recent t.within t' (recent t.within now' log) = recent t.within t' log :=
    fun t' ht' => recent_recent ht'
  simp only [RestartTracker.record, hentries, hcast]
  by_cases hroom : (recent t.within now' log).length < t.maxRestarts.toNat
  · have hallowed : allowed = true := decide_eq_true hroom
    rw [if_neg (Nat.not_le_of_lt hroom), hallowed, if_pos rfl]
    refine ⟨rfl, fun t' ht' => ?_, ?_⟩
    · show recent t.within t' (Function.update t.timestamps key _ key) = _
      rw [Function.update_self, recent_append, recent_append, hpruned t' ht']
    · show (Function.update t.timestamps key _ key).length ≤ _
      rw [Function.update_self, List.length_append]
      exact hroom
  · have hallowed : allowed = false := decide_eq_false hroom
    rw [if_pos (Nat.le_of_not_lt hroom), hallowed, if_neg Bool.false_ne_true]
    refine ⟨rfl, fun t' ht' => ?_, ?_⟩
    · show recent t.within t' (Function.update t.timestamps key _ key) = _
      rw [Function.update_self, hpruned t' ht']
    · show (Function.update t.timestamps key _ key).length ≤ _
      rw [Function.update_self]
      exact hle

theorem RestartTracker.record_of_ne (t : RestartTracker) {key key' : ActorId} (now : Nat)
    (h : key' ≠ key) : (t.record key now).2.timestamps key' = t.timestamps key' := by
  rw [RestartTracker.record]
  split
  · exact Function.update_of_ne h ..
  · exact Function.update_of_ne h ..

theorem RestartTracker.record_limits (t : RestartTracker) (key : ActorId) (now : Nat) :
    (t.record key now).2.maxRestarts = t.maxRestarts ∧
      (t.record key now).2.within = t.within := by
  rw [RestartTracker.record]
  split
  · exact ⟨rfl, rfl⟩
  · exact ⟨rfl, rfl⟩

/-- What the tracker remembers of another key is as before. -/
theorem RestartTracker.Remembers.record_of_ne {t : RestartTracker} {now : Nat}
    {key key' : ActorId} {log : List Nat} (h : t.Remembers now key' log) (asked : Nat)
    (hne : key' ≠ key) : (t.record key asked).2.Remembers now key' log := by
  have htimes := t.record_of_ne asked hne
  obtain ⟨hmax, hwithin⟩ := t.record_limits key asked
  refine ⟨?_, ?_⟩
  · intro t' ht'
    rw [htimes, hwithin]
    exact h.recent_eq t' ht'
  · rw [htimes, hmax]
    exact h.length_le

/-! ### Runs -/

section History

variable {kind : StrategyKind} {maxRestarts : UInt32} {within : Nat}

/-- Children with one budget share its restarts. -/
theorem restarts_congr {child child' : ActorId} (h : kind.SameBudget child child')
    (past : List (Failure × SupervisionAction)) :
    restarts kind child past = restarts kind child' past := by
  simp only [restarts, kind.sameBudget_iff, (kind.sameBudget_iff _ _).mp h]

/-- A restart is charged to the budget of the failed child, and a refusal to
none. -/
theorem restarts_concat_same {f : Failure} {child : ActorId} (h : kind.SameBudget f.childId child)
    (past : List (Failure × SupervisionAction)) (allowed : Bool) :
    restarts kind child (past ++ [(f, .ofAllowed allowed)]) =
      if allowed then restarts kind child past ++ [f.time] else restarts kind child past := by
  rw [restarts, List.filter_append, List.map_append]
  cases allowed with
  | false =>
      rw [List.filter_cons_of_neg (by simp [SupervisionAction.ofAllowed]), List.filter_nil]
      exact List.append_nil _
  | true =>
      rw [List.filter_cons_of_pos (by simp [SupervisionAction.ofAllowed, h]), List.filter_nil]
      rfl

theorem restarts_concat_other {f : Failure} {child : ActorId}
    (h : ¬ kind.SameBudget f.childId child) (past : List (Failure × SupervisionAction))
    (action : SupervisionAction) :
    restarts kind child (past ++ [(f, action)]) = restarts kind child past := by
  rw [restarts, List.filter_append, List.filter_cons_of_neg (by simp [h]), List.filter_nil,
    List.append_nil]
  rfl

theorem ledger_concat (failures : List Failure) (f : Failure) :
    ledger kind maxRestarts within (failures ++ [f]) =
      ledgerStep kind maxRestarts within (ledger kind maxRestarts within failures) f :=
  run_append ..

/-- What a supervisor has in common with the full history. -/
structure Supervised.Faithful (kind : StrategyKind) (maxRestarts : UInt32) (within : Nat)
    (failures : List Failure) (s : Supervised) : Prop where
  kind_eq : s.strategy.kind = kind
  maxRestarts_eq : s.strategy.tracker.maxRestarts = maxRestarts
  within_eq : s.strategy.tracker.within = within
  decisions_eq : s.decisions = ledger kind maxRestarts within failures
  remembers : ∀ now, (∀ f ∈ failures, f.time ≤ now) → ∀ child,
    s.strategy.tracker.Remembers now (kind.key child) (restarts kind child s.decisions)

theorem Supervised.Faithful.start (kind : StrategyKind) (maxRestarts : UInt32) (within : Nat)
    (children : List ActorId) :
    (Supervised.start kind maxRestarts within children).Faithful kind maxRestarts within [] := by
  cases kind with
  | oneForOne => exact ⟨rfl, rfl, rfl, rfl, fun now _ _ => RestartTracker.remembers_new _ _ now _⟩
  | allForOne => exact ⟨rfl, rfl, rfl, rfl, fun now _ _ => RestartTracker.remembers_new _ _ now _⟩
  | restForOne => exact ⟨rfl, rfl, rfl, rfl, fun now _ _ => RestartTracker.remembers_new _ _ now _⟩

theorem Supervised.Faithful.step {failures : List Failure} {s : Supervised} {f : Failure}
    (h : s.Faithful kind maxRestarts within failures) (hf : ∀ g ∈ failures, g.time ≤ f.time) :
    (s.step f).Faithful kind maxRestarts within (failures ++ [f]) := by
  obtain ⟨haction, htracker, hkind⟩ := s.strategy.onChildFailed_spec f
  rw [h.kind_eq] at haction htracker hkind
  obtain ⟨hallowed, hmine⟩ := (h.remembers f.time hf f.childId).record (Nat.le_refl f.time)
  obtain ⟨hmax, hwithin⟩ := s.strategy.tracker.record_limits (kind.key f.childId) f.time
  rw [h.within_eq, h.maxRestarts_eq] at hallowed hmine
  have hdecision : (s.strategy.onChildFailed f).1 =
      decideByHistory kind maxRestarts within s.decisions f := by
    rw [haction, hallowed]
    rfl
  refine ⟨hkind, ?_, ?_, ?_, ?_⟩
  · show (s.strategy.onChildFailed f).2.tracker.maxRestarts = _
    rw [htracker, hmax, h.maxRestarts_eq]
  · show (s.strategy.onChildFailed f).2.tracker.within = _
    rw [htracker, hwithin, h.within_eq]
  · show s.decisions ++ [(f, (s.strategy.onChildFailed f).1)] = _
    rw [ledger_concat, ledgerStep, hdecision, h.decisions_eq]
  · intro now hnow child
    have hlast : f.time ≤ now := hnow f (by simp)
    show (s.strategy.onChildFailed f).2.tracker.Remembers now _
      (restarts kind child (s.decisions ++ [(f, (s.strategy.onChildFailed f).1)]))
    rw [htracker]
    by_cases hbudget : kind.SameBudget f.childId child
    · -- the budget that was asked
      have hkey := (kind.sameBudget_iff _ _).mp hbudget
      rw [haction, hallowed, restarts_concat_same hbudget]
      rw [restarts_congr hbudget, hkey] at hmine ⊢
      exact hmine.later hlast
    · rw [restarts_concat_other hbudget]
      have hkey := mt (kind.sameBudget_iff _ _).mpr hbudget
      have hold := h.remembers now (fun g hg => hnow g (List.mem_append_left _ hg)) child
      exact hold.record_of_ne f.time (Ne.symm hkey)

/-- At non-decreasing times, the tracker decides as the full history does. -/
theorem Supervised.decisions_eq (kind : StrategyKind) (maxRestarts : UInt32) (within : Nat)
    (children : List ActorId) {failures : List Failure}
    (h : failures.Pairwise fun f g => f.time ≤ g.time) :
    (run Supervised.step (.start kind maxRestarts within children) failures).decisions =
      ledger kind maxRestarts within failures := by
  have hall : (run Supervised.step (.start kind maxRestarts within children) failures).Faithful
      kind maxRestarts within failures := by
    induction failures using List.reverseRecOn with
    | nil => exact .start kind maxRestarts within children
    | append_singleton failures f ih =>
        obtain ⟨hbefore, -, hlast⟩ := List.pairwise_append.mp h
        rw [run_append]
        exact (ih hbefore).step fun g hg => hlast g hg f (by simp)
  exact hall.decisions_eq

/-! ### What the full history decides -/

theorem ledger_map_fst (failures : List Failure) :
    (ledger kind maxRestarts within failures).map Prod.fst = failures := by
  induction failures using List.reverseRecOn with
  | nil => rfl
  | append_singleton failures f ih =>
      rw [ledger_concat, ledgerStep, List.map_append, ih]
      rfl

/-- Every decision is made by the history before it. -/
theorem ledger_decision {failures : List Failure} {pre : List (Failure × SupervisionAction)}
    {f : Failure} {action : SupervisionAction}
    (h : pre ++ [(f, action)] <+: ledger kind maxRestarts within failures) :
    action = decideByHistory kind maxRestarts within pre f := by
  induction failures using List.reverseRecOn with
  | nil => cases pre <;> cases List.prefix_nil.mp h
  | append_singleton failures g ih =>
      rw [ledger_concat, ledgerStep] at h
      rcases List.prefix_concat_iff.mp h with heq | hpre
      · obtain ⟨rfl, hlast⟩ := List.append_inj' heq rfl
        cases hlast
        rfl
      · exact ih hpre

/-- The restarts charged to a budget are metered by it. -/
theorem ledger_metered (child : ActorId) (failures : List Failure) :
    Metered within maxRestarts.toNat
      (restarts kind child (ledger kind maxRestarts within failures)) := by
  induction failures using List.reverseRecOn with
  | nil => exact metered_nil within maxRestarts.toNat
  | append_singleton failures f ih =>
      rw [ledger_concat, ledgerStep]
      by_cases hbudget : kind.SameBudget f.childId child
      · rw [decideByHistory, restarts_concat_same hbudget, restarts_congr hbudget]
        split
        · next hroom => exact ih.concat (of_decide_eq_true hroom)
        · exact ih
      · rw [restarts_concat_other hbudget]
        exact ih

/-- Decisions that do not depend on the others can be made without them. -/
theorem ledger_filter {keep : Failure × SupervisionAction → Bool}
    (hkeep : ∀ past f action, keep (f, action) = true →
      restarts kind f.childId (past.filter keep) = restarts kind f.childId past)
    (failures : List Failure) :
    ledger kind maxRestarts within
        (((ledger kind maxRestarts within failures).filter keep).map Prod.fst) =
      (ledger kind maxRestarts within failures).filter keep := by
  induction failures using List.reverseRecOn with
  | nil => rfl
  | append_singleton failures f ih =>
      rw [ledger_concat, ledgerStep, List.filter_append]
      by_cases hf : keep (f, decideByHistory kind maxRestarts within
          (ledger kind maxRestarts within failures) f) = true
      · rw [List.filter_cons_of_pos hf, List.filter_nil, List.map_append]
        show ledger kind maxRestarts within (_ ++ [f]) = _
        rw [ledger_concat, ih, ledgerStep, decideByHistory, hkeep _ f _ hf]
        rfl
      · rw [List.filter_cons_of_neg hf, List.filter_nil, List.append_nil]
        exact ih

end History

/-- **The restart budget is exact.**  A failure is answered by a restart
exactly if fewer than `max_restarts` restarts charged to the same budget lie
in the window that ends with it.  So no interval of length `within` holds
more restarts, a refusal takes nothing from the budget, and under `OneForOne`
a child is treated as if it were alone. -/
theorem restart_budget_exact (kind : StrategyKind) (maxRestarts : UInt32) (within : Nat)
    (children : List ActorId) (failures : List Failure)
    (h : failures.Pairwise fun f g => f.time ≤ g.time) :
    let decisions := fun failures =>
      (run Supervised.step (.start kind maxRestarts within children) failures).decisions
    (decisions failures).map Prod.fst = failures ∧
    (∀ pre f action, pre ++ [(f, action)] <+: decisions failures →
      (action = .restart ↔ ((restarts kind f.childId pre).filter fun t =>
        f.time - within ≤ t ∧ t ≤ f.time).length < maxRestarts.toNat)) ∧
    (∀ child a b, b ≤ a + within → ((restarts kind child (decisions failures)).filter fun t =>
      a ≤ t ∧ t ≤ b).length ≤ maxRestarts.toNat) ∧
    (decisions (((decisions failures).filter (·.2 = .restart)).map Prod.fst) =
      (decisions failures).filter (·.2 = .restart)) ∧
    (kind = .oneForOne → ∀ child, (decisions failures).filter (·.1.childId = child) =
      decisions (failures.filter (·.childId = child))) := by
  intro decisions
  have hledger : ∀ part : List Failure, part.Sublist failures →
      decisions part = ledger kind maxRestarts within part :=
    fun part hpart => Supervised.decisions_eq kind maxRestarts within children (h.sublist hpart)
  have hfst : (ledger kind maxRestarts within failures).map Prod.fst = failures :=
    ledger_map_fst failures
  have hkept : ∀ keep : Failure × SupervisionAction → Bool,
      (((ledger kind maxRestarts within failures).filter keep).map Prod.fst).Sublist failures := by
    intro keep
    have hsub : ((ledger kind maxRestarts within failures).filter keep).Sublist
      (ledger kind maxRestarts within failures) := List.filter_sublist
    simpa only [hfst] using hsub.map Prod.fst
  rw [hledger failures (List.Sublist.refl failures)]
  refine ⟨hfst, ?_, ?_, ?_, ?_⟩
  · intro pre f action hpre
    have hbefore : ∀ t ∈ restarts kind f.childId pre, t ≤ f.time := by
      intro t ht
      obtain ⟨d, hd, rfl⟩ := List.mem_map.mp ht
      have hprefix : pre.map Prod.fst ++ [f] <+: failures := by
        simpa only [hfst, List.map_append, List.map_cons, List.map_nil] using hpre.map Prod.fst
      have hsorted := List.pairwise_append.mp (h.sublist hprefix.sublist)
      exact hsorted.2.2 d.1 (List.mem_map_of_mem (List.mem_of_mem_filter hd)) f (by simp)
    have hrecent : recent within f.time (restarts kind f.childId pre) =
        (restarts kind f.childId pre).filter fun t => f.time - within ≤ t ∧ t ≤ f.time := by
      apply List.filter_congr
      intro t ht
      have hle := hbefore t ht
      rw [decide_eq_decide]
      omega
    rw [ledger_decision hpre, decideByHistory, SupervisionAction.ofAllowed_eq_restart,
      decide_eq_true_iff, hrecent]
  · intro child a b hab
    exact (ledger_metered child failures).interval hab
  · rw [hledger _ (hkept _)]
    apply ledger_filter
    intro past f action _
    simp only [restarts, List.filter_filter]
    congr 1
    apply List.filter_congr
    intro d _
    simp only [Bool.decide_and, Bool.and_right_comm, Bool.and_self]
  · rintro rfl child
    let keep := fun d : Failure × SupervisionAction => decide (d.1.childId = child)
    have hpart : failures.filter (·.childId = child) =
        ((ledger .oneForOne maxRestarts within failures).filter keep).map Prod.fst := by
      conv_lhs => rw [← hfst]
      exact List.filter_map
    rw [hledger _ List.filter_sublist, hpart]
    symm
    apply ledger_filter
    intro past f action hf
    have hchild : f.childId = child := of_decide_eq_true hf
    simp only [restarts, List.filter_filter]
    congr 1
    apply List.filter_congr
    intro d _
    simp only [StrategyKind.SameBudget, hchild, keep, Bool.decide_and, Bool.and_assoc,
      Bool.and_self]

/-- One child that fails at the given instants. -/
def flakyWorker (times : List Nat) : List Failure :=
  times.map fun t => ⟨⟨⟨"node-1"⟩, 1⟩, "worker", .internal "boom", t⟩

/-- One restart in ten: the failures at five and at ten are refused, both
ends of the window counted, and the one at eleven is not. -/
theorem restart_budget_exact_flakyWorker :
    let failures := flakyWorker [0, 5, 10, 11]
    let decisions := (run Supervised.step (.start .oneForOne 1 10 []) failures).decisions
    decisions.map Prod.snd = [.restart, .stop, .stop, .restart] ∧
      ((restarts .oneForOne ⟨⟨"node-1"⟩, 1⟩ decisions).filter fun t =>
        0 ≤ t ∧ t ≤ 10).length ≤ 1 :=
  ⟨by decide, (restart_budget_exact .oneForOne 1 10 [] (flakyWorker [0, 5, 10, 11])
    (by decide)).2.2.1 _ 0 10 (by decide)⟩

end Dactor
