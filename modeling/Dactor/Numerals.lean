/-
Dactor/Numerals.lean

Decimal numerals as character lists: the canonical spelling of a natural number
(`0`, or a digit string that does not start with `0`), the bounded left-to-right
reader `readDigits`, and the fact that reading and printing are inverse on the
canonical spellings.  Printing is the core function `Nat.toDigits 10`, and the
value of a digit string is the core function `Nat.ofDigitChars 10`.

The module names nothing of the program that is verified with it.
-/
import Mathlib.Algebra.Order.Ring.Nat
import Mathlib.Data.List.Basic
import Mathlib.Tactic.Tauto

namespace Numerals

/-- `cs` consists of the ASCII digits `0` to `9`. -/
def IsDigits (cs : List Char) : Prop := ∀ c ∈ cs, c.isDigit = true

/-- The canonical spellings: the numeral `0`, and a non-zero digit followed by digits. -/
def IsNumeral (cs : List Char) : Prop :=
  cs = ['0'] ∨ ∃ d ds, cs = d :: ds ∧ d.isDigit = true ∧ d ≠ '0' ∧ IsDigits ds

/-- The number a digit string denotes. -/
def value (cs : List Char) : ℕ := Nat.ofDigitChars 10 cs 0

/-- A bounded reader: multiply by ten, add the digit, and give up as soon as an
intermediate result exceeds `max` or a character is not a digit. -/
def readDigits (max : ℕ) : ℕ → List Char → Option ℕ
  | acc, [] => some acc
  | acc, c :: cs =>
    if c.isDigit then
      if acc * 10 ≤ max then
        if acc * 10 + (c.toNat - '0'.toNat) ≤ max then
          readDigits max (acc * 10 + (c.toNat - '0'.toNat)) cs
        else none
      else none
    else none

/-! ### Single digits -/

theorem isDigit_bounds {c : Char} (h : c.isDigit = true) : 48 ≤ c.toNat ∧ c.toNat ≤ 57 := by
  simp only [Char.isDigit, Bool.and_eq_true, decide_eq_true_eq] at h
  exact ⟨h.1, h.2⟩

theorem digitChar_of_isDigit {c : Char} (h : c.isDigit = true) :
    Nat.digitChar (c.toNat - 48) = c := by
  obtain ⟨hlo, hhi⟩ := isDigit_bounds h
  apply Char.toNat_inj.mp
  rw [Nat.toNat_digitChar_of_lt_ten (by omega)]
  omega

theorem digit_pos {c : Char} (h : c.isDigit = true) (hz : c ≠ '0') : 0 < c.toNat - 48 := by
  obtain ⟨hlo, -⟩ := isDigit_bounds h
  have hne : c.toNat ≠ 48 := by
    intro he
    exact hz (Char.toNat_inj.mp he)
  omega

/-! ### The bounded reader -/

theorem le_ofDigitChars (cs : List Char) (acc : ℕ) : acc ≤ Nat.ofDigitChars 10 cs acc := by
  induction cs generalizing acc with
  | nil => exact le_refl acc
  | cons c cs ih =>
    rw [Nat.ofDigitChars_cons]
    exact le_trans (by omega) (ih _)

/-- The reader answers exactly on digit strings whose value stays within the bound:
a prefix never exceeds the whole, so no early refusal is wrong. -/
theorem readDigits_eq_some {max acc n : ℕ} {cs : List Char} (hacc : acc ≤ max) :
    readDigits max acc cs = some n ↔
      IsDigits cs ∧ Nat.ofDigitChars 10 cs acc = n ∧ n ≤ max := by
  induction cs generalizing acc with
  | nil =>
    simp only [readDigits, Option.some.injEq, Nat.ofDigitChars_nil]
    constructor
    · rintro rfl
      exact ⟨by simp [IsDigits], rfl, hacc⟩
    · exact fun h => h.2.1
  | cons c cs ih =>
    have hdig : '0'.toNat = 48 := rfl
    simp only [readDigits, Nat.ofDigitChars_cons, hdig, mul_comm 10 acc]
    have hcons : IsDigits (c :: cs) ↔ c.isDigit = true ∧ IsDigits cs := by simp [IsDigits]
    by_cases hc : c.isDigit = true
    · have hle := le_ofDigitChars cs (acc * 10 + (c.toNat - 48))
      by_cases hb : acc * 10 + (c.toNat - 48) ≤ max
      · rw [if_pos hc, if_pos (by omega), if_pos hb, ih hb, hcons]
        tauto
      · have hnone : ¬ Nat.ofDigitChars 10 cs (acc * 10 + (c.toNat - 48)) ≤ max := by omega
        have hstop : (if acc * 10 ≤ max then
            if acc * 10 + (c.toNat - 48) ≤ max then
              readDigits max (acc * 10 + (c.toNat - 48)) cs else none else none) = none := by
          rw [if_neg hb, ite_self]
        rw [if_pos hc, hstop]
        constructor
        · intro h
          cases h
        · rintro ⟨-, rfl, hn⟩
          exact absurd hn hnone
    · rw [if_neg hc]
      constructor
      · intro h
        cases h
      · rintro ⟨hd, -⟩
        exact absurd (hcons.mp hd).1 hc

/-! ### Canonical spellings -/

theorem IsNumeral.isDigits {cs : List Char} (h : IsNumeral cs) : IsDigits cs := by
  rcases h with rfl | ⟨d, ds, rfl, hd, -, hds⟩
  · simp [IsDigits]
  · intro c hc
    rcases List.mem_cons.mp hc with rfl | hc
    · exact hd
    · exact hds c hc

/-- Digits that follow a positive accumulator are appended to its spelling. -/
theorem toDigits_append_digits {acc : ℕ} (hpos : 0 < acc) {cs : List Char} (hcs : IsDigits cs) :
    Nat.toDigits 10 acc ++ cs = Nat.toDigits 10 (Nat.ofDigitChars 10 cs acc) := by
  induction cs generalizing acc with
  | nil => rw [Nat.ofDigitChars_nil, List.append_nil]
  | cons c cs ih =>
    have hc : c.isDigit = true := hcs c List.mem_cons_self
    obtain ⟨-, hhi⟩ := isDigit_bounds hc
    have hlt : c.toNat - 48 < 10 := by omega
    have hstep := Nat.toDigits_append_toDigits (b := 10) (by decide) hpos hlt
    rw [Nat.toDigits_of_lt_base hlt, digitChar_of_isDigit hc] at hstep
    rw [List.append_cons, hstep, Nat.ofDigitChars_cons]
    exact ih (by omega) (fun c' h' => hcs c' (List.mem_cons_of_mem c h'))

/-- **Printing undoes reading on canonical spellings.** -/
theorem toDigits_value {cs : List Char} (h : IsNumeral cs) : Nat.toDigits 10 (value cs) = cs := by
  rcases h with rfl | ⟨d, ds, rfl, hd, hz, hds⟩
  · rfl
  · obtain ⟨-, hhi⟩ := isDigit_bounds hd
    have happ := toDigits_append_digits (digit_pos hd hz) hds
    rw [Nat.toDigits_of_lt_base (by omega), digitChar_of_isDigit hd] at happ
    show Nat.toDigits 10 (Nat.ofDigitChars 10 (d :: ds) 0) = d :: ds
    rw [Nat.ofDigitChars_cons]
    simpa using happ.symm

/-- **Every printed number is canonically spelled.** -/
theorem isNumeral_toDigits (n : ℕ) : IsNumeral (Nat.toDigits 10 n) := by
  induction n using Nat.strong_induction_on with
  | _ n ih =>
    by_cases hlt : n < 10
    · rw [Nat.toDigits_of_lt_base hlt]
      have hd : (Nat.digitChar n).isDigit = true :=
        Nat.isDigit_of_mem_toDigits (b := 10) (n := n) (by decide) (by decide)
          (by rw [Nat.toDigits_of_lt_base hlt]; exact List.mem_singleton_self _)
      by_cases hz : Nat.digitChar n = '0'
      · exact Or.inl (by rw [hz])
      · exact Or.inr ⟨_, [], rfl, hd, hz, by simp [IsDigits]⟩
    · have hle : 10 ≤ n := Nat.le_of_not_lt hlt
      have hdig : IsDigits (Nat.toDigits 10 n) := fun c hc =>
        Nat.isDigit_of_mem_toDigits (by decide) (by decide) hc
      rw [Nat.toDigits_of_base_le (by decide) hle] at hdig ⊢
      -- the leading digits are those of the quotient, which is not zero
      rcases ih (n / 10) (by omega) with h0 | ⟨d, ds, hq, hd, hz, -⟩
      · have hval := congrArg (fun l => Nat.ofDigitChars 10 l 0) h0
        simp only [Nat.ofDigitChars_ten_toDigits] at hval
        have : n / 10 = 0 := hval
        omega
      · rw [hq] at hdig ⊢
        exact Or.inr ⟨d, ds ++ [_], rfl, hd, hz,
          fun c hc => hdig c (List.mem_cons_of_mem d hc)⟩

/-- **Reading undoes printing.** -/
theorem value_toDigits (n : ℕ) : value (Nat.toDigits 10 n) = n :=
  Nat.ofDigitChars_ten_toDigits

end Numerals
