/-
Dactor/Cascades.lean

Components one behind the other.  An input is offered to the first; a
component either answers it, and those behind do not learn of it, or passes
it on.  Either way its state may change.

* `offer` — one input through the components.
* `alone`, `passed` — one component by itself: its state after a sequence of
  inputs, and the inputs it passed on.
* `reaching` — the inputs that reach the component at a place.
* `run_offer` — in a run of the cascade every component is in the state it
  would be in alone with the inputs that reached it; `offer_answer` — and the
  answer is the first one.

Components, inputs and answers are arbitrary types; the components share a
type but need not share a behaviour.
-/
import Dactor.Runs

namespace Cascades

open Runs

variable {C I A : Type*} (react : C → I → Option A × C)

/-- One input through the components; `none` if all of them pass it on. -/
def offer : List C → I → Option A × List C
  | [], _ => (none, [])
  | c :: cs, i =>
    match react c i with
    | (some a, c) => (some a, c :: cs)
    | (none, c) => ((offer cs i).1, c :: (offer cs i).2)

/-- A component after the inputs `is`. -/
def alone (c : C) (is : List I) : C := run (fun c i => (react c i).2) c is

/-- The inputs of `is` that a component passes on. -/
def passed : C → List I → List I
  | _, [] => []
  | c, i :: is =>
    if (react c i).1.isNone then i :: passed (react c i).2 is else passed (react c i).2 is

/-- The inputs that reach the component at a place. -/
def reaching : List C → ℕ → List I → List I
  | _, 0, is => is
  | [], _ + 1, is => is
  | c :: cs, k + 1, is => reaching cs k (passed react c is)

/-- Every component alone with what reached it. -/
def apart (cs : List C) (is : List I) : List C :=
  cs.mapIdx fun k c => alone react c (reaching react cs k is)

variable {react}

/-! ### One input -/

theorem offer_cons (c : C) (cs : List C) (i : I) :
    offer react (c :: cs) i =
      if (react c i).1.isNone then ((offer react cs i).1, (react c i).2 :: (offer react cs i).2)
      else ((react c i).1, (react c i).2 :: cs) := by
  rw [offer]
  rcases react c i with ⟨- | a, c⟩
  · rfl
  · rfl

/-- The answer is the first one. -/
theorem offer_answer (cs : List C) (i : I) :
    (offer react cs i).1 = cs.findSome? fun c => (react c i).1 := by
  induction cs with
  | nil => rfl
  | cons c cs ih =>
      rw [offer_cons, List.findSome?_cons]
      cases (react c i).1 with
      | none => exact ih
      | some a => rfl

/-! ### Runs -/

theorem alone_cons (c : C) (i : I) (is : List I) :
    alone react c (i :: is) = alone react (react c i).2 is := rfl

theorem apart_cons (c : C) (cs : List C) (is : List I) :
    apart react (c :: cs) is = alone react c is :: apart react cs (passed react c is) := by
  rw [apart, List.mapIdx_cons]
  rfl

/-- The first component sees everything, and those behind it see what it
passes on. -/
theorem run_offer_cons (c : C) (cs : List C) (is : List I) :
    run (fun cs i => (offer react cs i).2) (c :: cs) is
      = alone react c is :: run (fun cs i => (offer react cs i).2) cs (passed react c is) := by
  induction is generalizing c cs with
  | nil => rfl
  | cons i is ih =>
      rw [run_cons, offer_cons, alone_cons, passed]
      split
      · exact ih _ _
      · exact ih _ _

/-- In a run every component is in the state it would be in alone with the
inputs that reached it. -/
theorem run_offer (cs : List C) (is : List I) :
    run (fun cs i => (offer react cs i).2) cs is = apart react cs is := by
  induction cs generalizing is with
  | nil =>
      induction is with
      | nil => rfl
      | cons i is ih => exact ih
  | cons c cs ih => rw [run_offer_cons, ih, apart_cons]

/-! ### What a component passes on -/

/-- A component without a state passes on what it would pass on at any time. -/
theorem passed_of_fixed {c : C} (h : ∀ i, (react c i).2 = c) (is : List I) :
    passed react c is = is.filter fun i => (react c i).1.isNone := by
  induction is with
  | nil => rfl
  | cons i is ih => rw [passed, List.filter_cons, h, ih]

theorem alone_of_fixed {c : C} (h : ∀ i, (react c i).2 = c) (is : List I) :
    alone react c is = c := by
  induction is with
  | nil => rfl
  | cons i is ih => rw [alone_cons, h, ih]

end Cascades
