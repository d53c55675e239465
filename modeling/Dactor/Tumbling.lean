/-
Dactor/Tumbling.lean

Tumbling windows: arrivals cut into windows, where a window is opened by an
arrival that finds the one before it expired.

* `Cut` — the windows of a sequence of arrivals; `Cut.join` and
  `Cut.openNext` are the two ways in which it grows.
* `numbered` — every arrival with its number in its window, from zero.
* `windows` — the windows of a sequence, computed arrival by arrival.
* `Cut.interval` — when a window is over after `d`, an interval of length at
  most `d` meets at most two of them, so it holds at most twice as many low
  numbers as a window does.

Instants are natural numbers.
-/
import Mathlib.Data.List.Chain
import Mathlib.Data.List.Basic
import Mathlib.Order.Basic

namespace Tumbling

/-- A window: when it was opened, and what arrived in it. -/
structure Window (α : Type) where
  start : ℕ
  arrivals : List α
  deriving DecidableEq

section Cut

variable {α : Type} (time : α → ℕ)

/-- The first arrival opened the window. -/
def Window.Opened (w : Window α) : Prop := w.arrivals.head?.map time = some w.start

/-- The windows of a sequence of arrivals; `expired start t` says that a
window opened at `start` is over at `t`. -/
structure Cut (expired : ℕ → ℕ → Prop) (arrivals : List α) (ws : List (Window α)) : Prop where
  flatten : ws.flatMap Window.arrivals = arrivals
  inside : ∀ w ∈ ws, ∀ a ∈ w.arrivals, ¬ expired w.start (time a)
  next : ws.IsChain fun v w => w.Opened time ∧ expired v.start w.start

variable {time} {expired : ℕ → ℕ → Prop} {arrivals : List α} {front : List (Window α)}
  {w : Window α} {a : α}

/-- One window without arrivals yet. -/
theorem cut_empty (time : α → ℕ) (expired : ℕ → ℕ → Prop) (start : ℕ) :
    Cut time expired [] [⟨start, []⟩] := by
  refine ⟨rfl, ?_, List.isChain_singleton _⟩
  intro w hw a ha
  rw [List.mem_singleton.mp hw] at ha
  cases ha

theorem cut_single (ha : ¬ expired (time a) (time a)) :
    Cut time expired [a] [⟨time a, [a]⟩] := by
  refine ⟨rfl, ?_, List.isChain_singleton _⟩
  intro w hw b hb
  rw [List.mem_singleton.mp hw] at hb ⊢
  rw [List.mem_singleton.mp hb]
  exact ha

theorem Window.Opened.concat (h : w.Opened time) (a : α) :
    Window.Opened time ⟨w.start, w.arrivals ++ [a]⟩ := by
  obtain ⟨b, hb, hstart⟩ := Option.map_eq_some_iff.mp h
  show (w.arrivals ++ [a]).head?.map time = some w.start
  rw [List.head?_append, hb, ← hstart]
  rfl

/-- An arrival that finds the last window open belongs to it. -/
theorem Cut.join (h : Cut time expired arrivals (front ++ [w]))
    (ha : ¬ expired w.start (time a)) :
    Cut time expired (arrivals ++ [a]) (front ++ [⟨w.start, w.arrivals ++ [a]⟩]) := by
  obtain ⟨hflat, hinside, hnext⟩ := h
  refine ⟨?_, ?_, ?_⟩
  · rw [← hflat]
    simp
  · intro v hv b hb
    rcases List.mem_append.mp hv with hv | hv
    · exact hinside v (List.mem_append_left _ hv) b hb
    · rw [List.mem_singleton.mp hv] at hb ⊢
      rcases List.mem_append.mp hb with hb | hb
      · exact hinside w (by simp) b hb
      · rw [List.mem_singleton.mp hb]
        exact ha
  · obtain ⟨hfront, -, hlink⟩ := List.isChain_append.mp hnext
    refine List.isChain_append.mpr ⟨hfront, List.isChain_singleton _, ?_⟩
    intro v hv u hu
    cases hu
    obtain ⟨hopened, hexpired⟩ := hlink v hv w rfl
    exact ⟨hopened.concat a, hexpired⟩

/-- An arrival that finds the last window expired opens the next. -/
theorem Cut.openNext (h : Cut time expired arrivals (front ++ [w]))
    (ha : expired w.start (time a)) (hself : ¬ expired (time a) (time a)) :
    Cut time expired (arrivals ++ [a]) (front ++ [w] ++ [⟨time a, [a]⟩]) := by
  obtain ⟨hflat, hinside, hnext⟩ := h
  refine ⟨?_, ?_, ?_⟩
  · rw [← hflat]
    simp
  · intro v hv b hb
    rcases List.mem_append.mp hv with hv | hv
    · exact hinside v hv b hb
    · exact (cut_single hself).inside v hv b hb
  · refine List.isChain_append.mpr ⟨hnext, List.isChain_singleton _, ?_⟩
    intro v hv u hu
    rw [List.getLast?_concat] at hv
    cases hv
    cases hu
    exact ⟨rfl, ha⟩

end Cut

/-! ### Numbers in a window -/

section Numbered

variable {α : Type}

/-- Every arrival with its number in its window. -/
def numbered (ws : List (Window α)) : List (α × ℕ) := ws.flatMap fun w => w.arrivals.zipIdx

theorem numbered_append (ws ws' : List (Window α)) :
    numbered (ws ++ ws') = numbered ws ++ numbered ws' :=
  List.flatMap_append

theorem numbered_single (start : ℕ) (arrivals : List α) :
    numbered [⟨start, arrivals⟩] = arrivals.zipIdx := by
  simp [numbered]

/-- The number of an arrival that joins the last window is what arrived
there before it. -/
theorem numbered_join (front : List (Window α)) (w : Window α) (a : α) :
    numbered (front ++ [⟨w.start, w.arrivals ++ [a]⟩])
      = numbered (front ++ [w]) ++ [(a, w.arrivals.length)] := by
  rw [numbered_append, numbered_append, numbered_single, numbered, List.zipIdx_append,
    List.append_assoc]
  simp [numbered]

theorem numbered_openNext (ws : List (Window α)) (start : ℕ) (a : α) :
    numbered (ws ++ [⟨start, [a]⟩]) = numbered ws ++ [(a, 0)] := by
  rw [numbered_append, numbered_single]
  rfl

/-- There are at most `m` numbers below `m`. -/
theorem length_zipIdx_filter_le (m : ℕ) (p : α → Bool) (l : List α) (k : ℕ) :
    ((l.zipIdx k).filter fun x => x.2 < m ∧ p x.1).length ≤ m - k := by
  induction l generalizing k with
  | nil => exact Nat.zero_le _
  | cons a l ih =>
      have hrest := ih (k + 1)
      rw [List.zipIdx_cons, List.filter_cons]
      split
      · next h =>
        have hk : k < m := (of_decide_eq_true h).1
        rw [List.length_cons]
        omega
      · omega

end Numbered

/-! ### The windows of a sequence -/

section Windows

variable {α : Type} (time : α → ℕ) (expired : ℕ → ℕ → Prop) [DecidableRel expired]

/-- Where an arrival belongs: the windows before its own, and its own with
the arrival in it. -/
def place (ws : List (Window α)) (a : α) : List (Window α) × Window α :=
  match ws.getLast? with
  | none => (ws, ⟨time a, [a]⟩)
  | some w =>
    if expired w.start (time a) then (ws, ⟨time a, [a]⟩)
    else (ws.dropLast, ⟨w.start, w.arrivals ++ [a]⟩)

def addArrival (ws : List (Window α)) (a : α) : List (Window α) :=
  (place time expired ws a).1 ++ [(place time expired ws a).2]

/-- The windows of a sequence of arrivals, when every window is opened by
one. -/
def windows (arrivals : List α) : List (Window α) := arrivals.foldl (addArrival time expired) []

theorem windows_concat (arrivals : List α) (a : α) :
    windows time expired (arrivals ++ [a])
      = addArrival time expired (windows time expired arrivals) a :=
  List.foldl_concat ..

/-- The two ways in which an arrival is placed. -/
theorem place_cases (ws : List (Window α)) (a : α) :
    ((ws = [] ∨ ∃ front w, ws = front ++ [w] ∧ expired w.start (time a)) ∧
      place time expired ws a = (ws, ⟨time a, [a]⟩)) ∨
    ∃ front w, ws = front ++ [w] ∧ ¬ expired w.start (time a) ∧
      place time expired ws a = (front, ⟨w.start, w.arrivals ++ [a]⟩) := by
  rcases List.eq_nil_or_concat' ws with rfl | ⟨front, w, rfl⟩
  · exact .inl ⟨.inl rfl, rfl⟩
  · by_cases h : expired w.start (time a)
    · exact .inl ⟨.inr ⟨front, w, rfl, h⟩, by simp [place, h]⟩
    · exact .inr ⟨front, w, rfl, h, by simp [place, h]⟩

/-- The window of an arrival has at most one more than any before it. -/
theorem length_place_le {ws : List (Window α)} {c : ℕ} (h : ∀ w ∈ ws, w.arrivals.length ≤ c)
    (a : α) : 0 < (place time expired ws a).2.arrivals.length ∧
      (place time expired ws a).2.arrivals.length ≤ c + 1 := by
  rcases place_cases time expired ws a with ⟨-, hplace⟩ | ⟨front, w, rfl, -, hplace⟩
  · rw [hplace]
    exact ⟨Nat.one_pos, Nat.succ_le_succ (Nat.zero_le c)⟩
  · have hw := h w (by simp)
    rw [hplace]
    show 0 < (w.arrivals ++ [a]).length ∧ (w.arrivals ++ [a]).length ≤ c + 1
    rw [List.length_append, List.length_singleton]
    omega

/-- Only the window of an arrival grows. -/
theorem forall_length_addArrival {ws : List (Window α)} {a : α} {c : ℕ} :
    (∀ w ∈ addArrival time expired ws a, w.arrivals.length ≤ c) ↔
      (∀ w ∈ ws, w.arrivals.length ≤ c) ∧ (place time expired ws a).2.arrivals.length ≤ c := by
  rw [addArrival, List.forall_mem_append, List.forall_mem_singleton]
  rcases place_cases time expired ws a with ⟨-, hplace⟩ | ⟨front, w, rfl, -, hplace⟩
  · rw [hplace]
  · rw [hplace, List.forall_mem_append, List.forall_mem_singleton]
    show _ ∧ (w.arrivals ++ [a]).length ≤ c ↔ _ ∧ (w.arrivals ++ [a]).length ≤ c
    rw [List.length_append, List.length_singleton]
    constructor
    · rintro ⟨hfront, hw⟩
      exact ⟨⟨hfront, by omega⟩, hw⟩
    · rintro ⟨⟨hfront, -⟩, hw⟩
      exact ⟨hfront, hw⟩

variable {time expired}

/-- Windows at the front can be forgotten, once they are over. -/
theorem addArrival_append {front ws : List (Window α)} {a : α}
    (h : ∀ w ∈ front, expired w.start (time a)) :
    addArrival time expired (front ++ ws) a = front ++ addArrival time expired ws a := by
  rcases List.eq_nil_or_concat' ws with rfl | ⟨ws, v, rfl⟩
  · rw [List.append_nil, addArrival]
    rcases place_cases time expired front a with ⟨-, hplace⟩ | ⟨front', w, rfl, hw, -⟩
    · rw [hplace]
      rfl
    · exact absurd (h w (by simp)) hw
  · rw [← List.append_assoc]
    by_cases hv : expired v.start (time a)
    · simp [addArrival, place, hv]
    · simp [addArrival, place, hv]

/-- They cut the sequence, and their first arrivals open them. -/
theorem windows_cut (hself : ∀ t, ¬ expired t t) (arrivals : List α) :
    Cut time expired arrivals (windows time expired arrivals) ∧
      ∀ w ∈ windows time expired arrivals, w.Opened time := by
  induction arrivals using List.reverseRecOn with
  | nil => exact ⟨⟨rfl, fun w hw => (by cases hw), List.isChain_nil⟩, fun w hw => (by cases hw)⟩
  | append_singleton arrivals a ih =>
      obtain ⟨hcut, hopened⟩ := ih
      rw [windows_concat, addArrival]
      rcases place_cases time expired (windows time expired arrivals) a with
        ⟨hlast, hplace⟩ | ⟨front, w, hws, ha, hplace⟩
      · rw [hplace]
        refine ⟨?_, ?_⟩
        · rcases hlast with hnil | ⟨front, w, hws, ha⟩
          · rw [hnil] at hcut ⊢
            rw [← hcut.flatten]
            exact cut_single (hself (time a))
          · rw [hws] at hcut ⊢
            exact hcut.openNext ha (hself (time a))
        · intro v hv
          rcases List.mem_append.mp hv with hv | hv
          · exact hopened v hv
          · rw [List.mem_singleton.mp hv]
            rfl
      · rw [hws] at hcut hopened
        rw [hplace]
        refine ⟨hcut.join ha, ?_⟩
        intro v hv
        rcases List.mem_append.mp hv with hv | hv
        · exact hopened v (List.mem_append_left _ hv)
        · rw [List.mem_singleton.mp hv]
          exact (hopened w (by simp)).concat a

/-- An arrival is numbered by the length of its window. -/
theorem numbered_addArrival (ws : List (Window α)) (a : α) :
    numbered (addArrival time expired ws a)
      = numbered ws ++ [(a, (place time expired ws a).2.arrivals.length - 1)] := by
  rw [addArrival]
  rcases place_cases time expired ws a with ⟨-, hplace⟩ | ⟨front, w, rfl, -, hplace⟩
  · rw [hplace]
    exact numbered_openNext ws (time a) a
  · rw [hplace]
    show _ = _ ++ [(a, (w.arrivals ++ [a]).length - 1)]
    rw [List.length_append, List.length_singleton, Nat.add_sub_cancel]
    exact numbered_join front w a

end Windows

/-! ### Intervals -/

section Interval

variable {α : Type} {time : α → ℕ} {arrivals : List α} {d m a b : ℕ} {ws : List (Window α)}

/-- The low numbers of the windows in an interval. -/
def lowIn (time : α → ℕ) (m a b : ℕ) (ws : List (Window α)) : List (α × ℕ) :=
  (numbered ws).filter fun x => x.2 < m ∧ a ≤ time x.1 ∧ time x.1 ≤ b

theorem lowIn_cons (w : Window α) (ws : List (Window α)) :
    lowIn time m a b (w :: ws) = lowIn time m a b [w] ++ lowIn time m a b ws := by
  rw [lowIn, lowIn, lowIn, ← List.filter_append, ← numbered_append]
  rfl

theorem length_lowIn_single (w : Window α) : (lowIn time m a b [w]).length ≤ m := by
  have hle := length_zipIdx_filter_le m (fun x => decide (a ≤ time x ∧ time x ≤ b)) w.arrivals 0
  simpa [lowIn, numbered] using hle

/-- Windows without an arrival in the interval. -/
theorem lowIn_eq_nil (h : ∀ w ∈ ws, ∀ x ∈ w.arrivals, ¬ (a ≤ time x ∧ time x ≤ b)) :
    lowIn time m a b ws = [] := by
  apply List.filter_eq_nil_iff.mpr
  rintro ⟨x, i⟩ hx
  obtain ⟨w, hw, hxi⟩ := List.mem_flatMap.mp hx
  have hmem : x ∈ w.arrivals := List.fst_mem_of_mem_zipIdx hxi
  simp only [decide_eq_true_eq, not_and]
  intro _ hax hxb
  exact h w hw x hmem ⟨hax, hxb⟩

/-- Arrivals in order: nothing in a window, or after it, comes before the
arrival that opened it. -/
theorem start_le_of_opened {v : Window α} (hv : v.Opened time)
    (horder : ((v :: ws).flatMap Window.arrivals).Pairwise fun x y => time x ≤ time y) :
    ∀ w ∈ v :: ws, ∀ x ∈ w.arrivals, v.start ≤ time x := by
  intro w hw x hx
  obtain ⟨y, hy, hstart⟩ := Option.map_eq_some_iff.mp hv
  obtain ⟨rest, hrest⟩ := List.head?_eq_some_iff.mp hy
  have hmem : x ∈ (v :: ws).flatMap Window.arrivals := List.mem_flatMap.mpr ⟨w, hw, hx⟩
  rw [List.flatMap_cons, hrest, List.cons_append] at horder hmem
  rw [← hstart]
  rcases List.mem_cons.mp hmem with rfl | hmem
  · exact Nat.le_refl _
  · exact (List.pairwise_cons.mp horder).1 x hmem

/-- Nothing comes before the arrival that opened its window. -/
theorem Cut.start_le {expired : ℕ → ℕ → Prop} (h : Cut time expired arrivals ws)
    (hopened : ∀ w ∈ ws, w.Opened time) (horder : arrivals.Pairwise fun x y => time x ≤ time y) :
    ∀ w ∈ ws, ∀ x ∈ w.arrivals, w.start ≤ time x := by
  intro w hw x hx
  have hself : (([w] : List (Window α)).flatMap Window.arrivals).Pairwise
      fun x y => time x ≤ time y := by
    rw [← h.flatten, List.pairwise_flatMap] at horder
    rw [List.flatMap_cons, List.flatMap_nil, List.append_nil]
    exact horder.1 w hw
  exact start_le_of_opened (hopened w hw) hself w List.mem_cons_self x hx

/-- Windows of length `d` are opened at least `d` apart. -/
theorem Cut.starts (h : Cut time (fun s t => d ≤ t - s) arrivals ws) (hd : 0 < d) :
    ws.Pairwise fun v w => v.start + d ≤ w.start := by
  have htrans : Trans (fun v w : Window α => v.start + d ≤ w.start)
      (fun v w : Window α => v.start + d ≤ w.start)
      (fun v w : Window α => v.start + d ≤ w.start) :=
    ⟨fun huv hvw => Nat.le_trans (Nat.le_trans huv (Nat.le_add_right _ d)) hvw⟩
  apply List.isChain_iff_pairwise.mp
  apply h.next.imp
  rintro v w ⟨-, hvw⟩
  omega

/-- Windows that are kept because they were opened late enough are what is
left when the others are dropped at the front. -/
theorem filter_eq_dropWhile {p : Window α → Bool}
    (hws : ws.Pairwise fun v w => p w = true → p v = true) :
    ws.filter (fun w => !p w) = ws.dropWhile p := by
  induction ws with
  | nil => rfl
  | cons v ws ih =>
      obtain ⟨hv, hrest⟩ := List.pairwise_cons.mp hws
      rcases hp : p v with - | -
      · rw [List.dropWhile_cons_of_neg (by simp [hp])]
        apply List.filter_eq_self.mpr
        intro w hw
        rcases List.mem_cons.mp hw with rfl | hw
        · simp [hp]
        · rcases hpw : p w with - | -
          · rfl
          · rw [hv w hw hpw] at hp
            cases hp
      · rw [List.dropWhile_cons_of_pos hp, List.filter_cons_of_neg (by simp [hp])]
        exact ih hrest

/-- The windows after the next one are opened more than `d` after anything
that arrived in this one. -/
theorem lt_of_two_later {u v : Window α} {x : α}
    (hnext : (v :: u :: ws).IsChain fun v w => w.Opened time ∧ d ≤ w.start - v.start)
    (horder : (ws.flatMap Window.arrivals).Pairwise fun x y => time x ≤ time y)
    (hx : ¬ d ≤ time x - v.start) : ∀ w ∈ ws, ∀ y ∈ w.arrivals, time x + d < time y := by
  obtain ⟨⟨-, hu⟩, hnext⟩ := List.isChain_cons_cons.mp hnext
  cases ws with
  | nil =>
      intro w hw
      cases hw
  | cons first ws =>
      obtain ⟨⟨hopened, hfirst⟩, -⟩ := List.isChain_cons_cons.mp hnext
      intro w hw y hy
      have hle := start_le_of_opened hopened horder w hw y hy
      omega

/-- An interval of length at most `d`, with both its ends, meets at most two
windows of length `d`. -/
theorem Cut.interval (h : Cut time (fun s t => d ≤ t - s) arrivals ws)
    (horder : arrivals.Pairwise fun x y => time x ≤ time y) (hab : b ≤ a + d) :
    (lowIn time m a b ws).length ≤ 2 * m := by
  obtain ⟨rfl, hinside, hnext⟩ := h
  induction ws with
  | nil => exact Nat.zero_le _
  | cons v ws ih =>
      rw [List.flatMap_cons] at horder
      obtain ⟨-, hlater, -⟩ := List.pairwise_append.mp horder
      rw [lowIn_cons]
      by_cases hmeets : ∃ x ∈ v.arrivals, a ≤ time x ∧ time x ≤ b
      · obtain ⟨x, hx, hax, -⟩ := hmeets
        have hfirst : (lowIn time m a b [v]).length ≤ m := length_lowIn_single v
        cases ws with
        | nil =>
            rw [List.length_append]
            show _ + 0 ≤ _
            omega
        | cons u ws =>
            have hsecond : (lowIn time m a b [u]).length ≤ m := length_lowIn_single u
            have hrest : lowIn time m a b ws = [] := by
              apply lowIn_eq_nil
              rintro w hw y hy ⟨-, hyb⟩
              rw [List.flatMap_cons] at hlater
              have hlt := lt_of_two_later hnext (List.pairwise_append.mp hlater).2.1
                (hinside v List.mem_cons_self x hx) w hw y hy
              omega
            rw [lowIn_cons u ws, hrest, List.append_nil, List.length_append]
            omega
      · have hnone : lowIn time m a b [v] = [] := by
          apply lowIn_eq_nil
          intro w hw x hx hmet
          rw [List.mem_singleton.mp hw] at hx
          exact hmeets ⟨x, hx, hmet⟩
        rw [hnone, List.nil_append]
        exact ih (fun w hw => hinside w (List.mem_cons_of_mem v hw)) hnext.tail hlater

end Interval

end Tumbling
