/-
Dactor/Runs.lean

Runs of step systems.  A step system is a function `step : S → O → S`; a run
folds a list of operations over a start state.  The module holds the rules
by which a fact about one step becomes a fact about a whole run:

* `Admissible`, `Always` — side conditions met, and properties held, along
  a run; `always_of_admissible` and `always_iff_admissible` connect them,
  and `admissible_congr` exchanges one condition for another;
* `always_induction`, `run_induction` — an invariant kept by every step
  holds all along every run, and at its end;
* `run_of_mem` — what an operation of the run brings about, and every step
  keeps, holds at its end;
* `history_induction` — the same for a relation between the state and the
  operations that led to it;
* `outputs`, `outputs_induction` — what the operations of a run put out, and
  a relation between that and the state;
* `run_sim` — two systems whose steps keep a relation reach related states.

Nothing here is about a particular system: states, operations and outputs
are arbitrary types.
-/
import Mathlib.Data.List.Basic
import Mathlib.Data.List.Induction

namespace Runs

variable {S T O : Type*}

/-! ### Runs -/

/-- The state reached from `s` by the operations `ops`, in order. -/
def run (step : S → O → S) (s : S) (ops : List O) : S := ops.foldl step s

@[simp] theorem run_cons (step : S → O → S) (s : S) (o : O) (ops : List O) :
    run step s (o :: ops) = run step (step s o) ops := rfl

/-! ### Conditions and properties along a run -/

/-- Every operation of the run meets the condition `ok` in the state in
which it is performed. -/
def Admissible (step : S → O → S) (ok : S → O → Prop) : S → List O → Prop
  | _, [] => True
  | s, o :: ops => ok s o ∧ Admissible step ok (step s o) ops

instance Admissible.decidable (step : S → O → S) (ok : S → O → Prop)
    [∀ s o, Decidable (ok s o)] :
    (s : S) → (ops : List O) → Decidable (Admissible step ok s ops)
  | _, [] => isTrue trivial
  | s, o :: ops =>
      have := Admissible.decidable step ok (step s o) ops
      inferInstanceAs (Decidable (ok s o ∧ Admissible step ok (step s o) ops))

/-- Every state visited by the run, the first and the last included, has
the property `P`. -/
def Always (step : S → O → S) (P : S → Prop) : S → List O → Prop
  | s, [] => P s
  | s, o :: ops => P s ∧ Always step P (step s o) ops

theorem Always.first {step : S → O → S} {P : S → Prop} {s : S} {ops : List O}
    (h : Always step P s ops) : P s := by
  cases ops with
  | nil => exact h
  | cons o ops => exact h.1

theorem Always.last {step : S → O → S} {P : S → Prop} {s : S} {ops : List O}
    (h : Always step P s ops) : P (run step s ops) := by
  induction ops generalizing s with
  | nil => exact h
  | cons o ops ih => exact ih h.2

theorem Always.mono {step : S → O → S} {P Q : S → Prop}
    (hPQ : ∀ s, P s → Q s) {s : S} {ops : List O}
    (h : Always step P s ops) : Always step Q s ops := by
  induction ops generalizing s with
  | nil => exact hPQ s h
  | cons o ops ih => exact ⟨hPQ s h.1, ih h.2⟩

/-- An invariant kept by every step holds all along every run. -/
theorem always_induction {step : S → O → S} {Inv : S → Prop}
    (hstep : ∀ s o, Inv s → Inv (step s o)) (ops : List O) {s : S}
    (h : Inv s) : Always step Inv s ops := by
  induction ops generalizing s with
  | nil => exact h
  | cons o ops ih => exact ⟨h, ih (hstep s o h)⟩

/-- An invariant kept by every step holds at the end of every run. -/
theorem run_induction {step : S → O → S} {Inv : S → Prop}
    (hstep : ∀ s o, Inv s → Inv (step s o)) (ops : List O) {s : S}
    (h : Inv s) : Inv (run step s ops) :=
  (always_induction hstep ops h).last

/-- An operation that brings about `Q` wherever `P` holds, when every step
keeps both: if it occurs in a run, `Q` holds at the end. -/
theorem run_of_mem {step : S → O → S} {P Q : S → Prop} {o : O}
    (hP : ∀ s o, P s → P (step s o)) (hQ : ∀ s o, Q s → Q (step s o))
    (ho : ∀ s, P s → Q (step s o)) {s : S} {ops : List O} (h : P s) (hmem : o ∈ ops) :
    Q (run step s ops) := by
  induction ops generalizing s with
  | nil => cases hmem
  | cons o' ops ih =>
      rcases List.mem_cons.mp hmem with rfl | hlater
      · exact run_induction hQ ops (ho s h)
      · exact ih (hP s o' h) hlater

/-- An invariant kept by every step that meets `ok` holds all along an
admissible run. -/
theorem always_of_admissible {step : S → O → S} {ok : S → O → Prop}
    {Inv : S → Prop} (hstep : ∀ s o, ok s o → Inv s → Inv (step s o))
    {s : S} {ops : List O} (h : Inv s) (hops : Admissible step ok s ops) :
    Always step Inv s ops := by
  induction ops generalizing s with
  | nil => exact h
  | cons o ops ih => exact ⟨h, ih (hstep s o hops.1 h) hops.2⟩

/-- Two properties that agree wherever an invariant holds hold along the
same runs. -/
theorem always_congr {step : S → O → S} {P Q : S → Prop} {Inv : S → Prop}
    (hstep : ∀ s o, Inv s → Inv (step s o)) (hPQ : ∀ s, Inv s → (P s ↔ Q s)) {s : S}
    {ops : List O} (h : Inv s) : Always step P s ops ↔ Always step Q s ops := by
  induction ops generalizing s with
  | nil => exact hPQ s h
  | cons o ops ih => exact and_congr (hPQ s h) (ih (hstep s o h))

/-- A property that no step brings back once it is lost held all along, if it
holds at the end. -/
theorem always_of_last {step : S → O → S} {P : S → Prop} {Inv : S → Prop}
    (hstep : ∀ s o, Inv s → Inv (step s o)) (hback : ∀ s o, Inv s → P (step s o) → P s)
    {s : S} {ops : List O} (hs : Inv s) (h : P (run step s ops)) : Always step P s ops := by
  induction ops generalizing s with
  | nil => exact h
  | cons o ops ih =>
      have hrest : Always step P (step s o) ops := ih (hstep s o hs) h
      exact ⟨hback s o hs hrest.first, hrest⟩

/-- Such a property `P`, promised only for the states after an event `E`, is
promised for all states of the runs in which the event occurs. -/
theorem always_imp_iff {step : S → O → S} {E P : S → Prop} {Inv : S → Prop}
    (hstep : ∀ s o, Inv s → Inv (step s o)) (hE : ∀ s o, E s → E (step s o))
    (hback : ∀ s o, Inv s → P (step s o) → P s) {s : S} {ops : List O} (hs : Inv s) :
    Always step (fun s => E s → P s) s ops ↔ (E (run step s ops) → Always step P s ops) := by
  constructor
  · intro h hend
    exact always_of_last hstep hback hs (h.last hend)
  · intro h
    by_cases hend : E (run step s ops)
    · refine Always.mono ?_ (h hend)
      intro s hP _
      exact hP
    · -- the event does not occur in the run
      have hnever : Always step (fun s => ¬ E s) s ops := by
        refine always_of_last hstep (fun s o _ hnot hs => ?_) hs hend
        exact hnot (hE s o hs)
      refine Always.mono ?_ hnever
      intro s hnot hs
      exact absurd hs hnot

/-- When `ok` is exactly the condition under which one step keeps `P`, a
run keeps `P` throughout iff it is admissible. -/
theorem always_iff_admissible {step : S → O → S} {ok : S → O → Prop}
    {P : S → Prop} (hstep : ∀ s o, P s → (P (step s o) ↔ ok s o))
    {s : S} {ops : List O} (h : P s) :
    Always step P s ops ↔ Admissible step ok s ops := by
  induction ops generalizing s with
  | nil => exact ⟨fun _ => trivial, fun _ => h⟩
  | cons o ops ih =>
      constructor
      · rintro ⟨-, hrest⟩
        have hnext : P (step s o) := hrest.first
        exact ⟨(hstep s o h).mp hnext, (ih hnext).mp hrest⟩
      · rintro ⟨hok, hrest⟩
        have hnext : P (step s o) := (hstep s o h).mpr hok
        exact ⟨h, (ih hnext).mpr hrest⟩

/-- The same within the runs that meet a further condition `ok`, and with an
invariant to help: there the steps that keep `P` are the ones that meet
`safe`. -/
theorem always_iff_of_inv {step : S → O → S} {ok safe : S → O → Prop} {Inv P : S → Prop}
    (hinv : ∀ s o, ok s o → Inv s → Inv (step s o))
    (hstep : ∀ s o, ok s o → Inv s → P s → (P (step s o) ↔ safe s o))
    {s : S} {ops : List O} (hs : Inv s) (h : P s) (hops : Admissible step ok s ops) :
    Always step P s ops ↔ Admissible step safe s ops := by
  induction ops generalizing s with
  | nil => exact ⟨fun _ => trivial, fun _ => h⟩
  | cons o ops ih =>
      obtain ⟨hok, hlater⟩ := hops
      have hs' : Inv (step s o) := hinv s o hok hs
      constructor
      · rintro ⟨-, hrest⟩
        have hnext : P (step s o) := hrest.first
        exact ⟨(hstep s o hok hs h).mp hnext, (ih hs' hnext hlater).mp hrest⟩
      · rintro ⟨hsafe, hrest⟩
        have hnext : P (step s o) := (hstep s o hok hs h).mpr hsafe
        exact ⟨h, (ih hs' hnext hlater).mpr hrest⟩

/-- A condition that always holds admits every run. -/
theorem admissible_of_forall {step : S → O → S} {ok : S → O → Prop} (h : ∀ s o, ok s o) (s : S)
    (ops : List O) : Admissible step ok s ops := by
  induction ops generalizing s with
  | nil => exact trivial
  | cons o ops ih => exact ⟨h s o, ih (step s o)⟩

/-- Steps that lead to a property only from the condition. -/
theorem Always.admissible {step : S → O → S} {ok : S → O → Prop} {P : S → Prop}
    (hstep : ∀ s o, P (step s o) → ok s o) {s : S} {ops : List O} (h : Always step P s ops) :
    Admissible step ok s ops := by
  induction ops generalizing s with
  | nil => exact trivial
  | cons o ops ih => exact ⟨hstep s o h.2.first, ih h.2⟩

/-- Two conditions that agree wherever an invariant holds admit the same
runs. -/
theorem admissible_congr {step : S → O → S} {ok ok' : S → O → Prop}
    {Inv : S → Prop} (hstep : ∀ s o, Inv s → Inv (step s o))
    (hok : ∀ s o, Inv s → (ok s o ↔ ok' s o)) {s : S} {ops : List O} (h : Inv s) :
    Admissible step ok s ops ↔ Admissible step ok' s ops := by
  induction ops generalizing s with
  | nil => exact Iff.rfl
  | cons o ops ih => exact and_congr (hok s o h) (ih (hstep s o h))

/-- The same when the invariant is kept by the steps that meet one of the conditions. -/
theorem admissible_congr_of_inv {step : S → O → S} {ok ok' : S → O → Prop} {Inv : S → Prop}
    (hstep : ∀ s o, ok s o → Inv s → Inv (step s o))
    (hok : ∀ s o, Inv s → (ok' s o ↔ ok s o)) {s : S} {ops : List O} (h : Inv s) :
    Admissible step ok' s ops ↔ Admissible step ok s ops := by
  induction ops generalizing s with
  | nil => exact Iff.rfl
  | cons o ops ih =>
      constructor
      · rintro ⟨ho, hops⟩
        have ho := (hok s o h).mp ho
        exact ⟨ho, (ih (hstep s o ho h)).mp hops⟩
      · rintro ⟨ho, hops⟩
        exact ⟨(hok s o h).mpr ho, (ih (hstep s o ho h)).mpr hops⟩

theorem run_append (step : S → O → S) (s : S) (ops more : List O) :
    run step s (ops ++ more) = run step (run step s ops) more :=
  List.foldl_append

theorem admissible_append {step : S → O → S} {ok : S → O → Prop} {s : S} {ops more : List O} :
    Admissible step ok s (ops ++ more) ↔
      Admissible step ok s ops ∧ Admissible step ok (run step s ops) more := by
  induction ops generalizing s with
  | nil => exact (iff_of_eq (true_and _)).symm
  | cons o ops ih =>
      rw [List.cons_append, run_cons]
      show ok s o ∧ Admissible step ok (step s o) (ops ++ more) ↔ _
      rw [ih, ← and_assoc]
      exact Iff.rfl

/-! ### Histories -/

/-- A relation between the past operations and the state, kept by every
admissible step, holds at the end of an admissible run. -/
theorem history_induction {step : S → O → S} {ok : S → O → Prop} {s₀ : S}
    {Inv : List O → S → Prop}
    (hstep : ∀ past s o, ok s o → Inv past s → Inv (past ++ [o]) (step s o))
    (h : Inv [] s₀) {ops : List O} (hops : Admissible step ok s₀ ops) :
    Inv ops (run step s₀ ops) := by
  induction ops using List.reverseRecOn with
  | nil => exact h
  | append_singleton ops o ih =>
      obtain ⟨hpast, hlast⟩ := admissible_append.mp hops
      rw [run_append]
      exact hstep ops _ o hlast.1 (ih hpast)

/-! ### Outputs -/

/-- What the operations of a run put out, each in the state in which it is
performed. -/
def outputs (step : S → O → S) (out : S → O → List T) : S → List O → List T
  | _, [] => []
  | s, o :: ops => out s o ++ outputs step out (step s o) ops

theorem outputs_append (step : S → O → S) (out : S → O → List T) (s : S) (ops more : List O) :
    outputs step out s (ops ++ more) =
      outputs step out s ops ++ outputs step out (run step s ops) more := by
  induction ops generalizing s with
  | nil => rfl
  | cons o ops ih => rw [List.cons_append, outputs, outputs, ih, run_cons, List.append_assoc]

/-- A relation between what was put out so far and the state, kept by every
step, holds at the end of every run. -/
theorem outputs_induction {step : S → O → S} {out : S → O → List T} {Inv : List T → S → Prop}
    (hstep : ∀ past s o, Inv past s → Inv (past ++ out s o) (step s o)) {s₀ : S} (h : Inv [] s₀)
    (ops : List O) : Inv (outputs step out s₀ ops) (run step s₀ ops) := by
  induction ops using List.reverseRecOn with
  | nil => exact h
  | append_singleton ops o ih =>
      rw [outputs_append, run_append]
      have hlast := hstep _ _ o ih
      rwa [← List.append_nil (out _ o)] at hlast

/-! ### Simulation -/

/-- Two systems whose steps keep a relation between their states end in
related states. -/
theorem run_sim {step : S → O → S} {step' : T → O → T} (Rel : S → T → Prop)
    (hstep : ∀ s t o, Rel s t → Rel (step s o) (step' t o)) (ops : List O) {s : S} {t : T}
    (h : Rel s t) : Rel (run step s ops) (run step' t ops) := by
  induction ops generalizing s t with
  | nil => exact h
  | cons o ops ih => exact ih (hstep s t o h)

/-- A view of a system that some operations change, each as an operation of
the viewed system, and the others leave alone. -/
theorem run_view {O' : Type*} {step : S → O → S} {step' : T → O' → T} (view : S → T)
    {seen : O → Option O'}
    (h : ∀ s o, view (step s o) = (seen o).elim (view s) (step' (view s))) (s : S)
    (ops : List O) : view (run step s ops) = run step' (view s) (ops.filterMap seen) := by
  induction ops generalizing s with
  | nil => rfl
  | cons o ops ih =>
      rw [run_cons, ih, h, List.filterMap_cons]
      cases seen o with
      | none => rfl
      | some o' => rfl

end Runs
