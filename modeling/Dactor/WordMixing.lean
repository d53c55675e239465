/-
Dactor/WordMixing.lean

Mixing steps on machine words that lose nothing.

An xor-shift adds to a word its own upper bits, shifted down.  It is linear,
and it is undone by doing it again with what has been recovered so far
(`unshift`): after as many rounds as the word has bits there is no error left.
Additions and multiplications by a unit are covered by Mathlib, so a hash made
of such steps is a bijection.

The words are `BitVec w` for any width, and `UInt64`.  Nothing here is about a
particular hash.
-/
import Mathlib.Algebra.Group.Units.Basic
import Mathlib.Data.UInt

namespace WordMixing

variable {w : ℕ}

/-! ### The xor-shift -/

def xorShift (k : ℕ) (x : BitVec w) : BitVec w := x ^^^ (x >>> k)

theorem xorShift_xor (k : ℕ) (x y : BitVec w) :
    xorShift k (x ^^^ y) = xorShift k x ^^^ xorShift k y := by
  unfold xorShift
  rw [BitVec.ushiftRight_xor_distrib]
  ac_rfl

theorem xorShift_ushiftRight (k j : ℕ) (x : BitVec w) :
    xorShift k (x >>> j) = xorShift k x >>> j := by
  unfold xorShift
  rw [BitVec.ushiftRight_xor_distrib, ← BitVec.shiftRight_add, ← BitVec.shiftRight_add,
    Nat.add_comm]

/-! ### Its inverse -/

/-- The word before the shift, as far as `n` rounds recover it. -/
def unshift (k : ℕ) (y : BitVec w) : ℕ → BitVec w
  | 0 => y
  | n + 1 => y ^^^ (unshift k y n >>> k)

/-- The error is shifted down by `k` in every round. -/
theorem xorShift_unshift (k : ℕ) (y : BitVec w) (n : ℕ) :
    xorShift k (unshift k y n) = y ^^^ (y >>> (k * (n + 1))) := by
  induction n with
  | zero =>
      rw [Nat.zero_add, Nat.mul_one]
      rfl
  | succ n ih =>
      rw [unshift, xorShift_xor, xorShift_ushiftRight, ih, BitVec.ushiftRight_xor_distrib,
        ← BitVec.shiftRight_add, xorShift, BitVec.xor_assoc, ← BitVec.xor_assoc (y >>> k),
        BitVec.xor_self, BitVec.zero_xor]
      rfl

theorem xorShift_surjective {k : ℕ} (hk : 0 < k) :
    Function.Surjective (xorShift k : BitVec w → BitVec w) := by
  intro y
  refine ⟨unshift k y w, ?_⟩
  have hout : w ≤ k * (w + 1) := by
    calc w ≤ 1 * (w + 1) := by omega
      _ ≤ k * (w + 1) := Nat.mul_le_mul_right _ hk
  rw [xorShift_unshift, BitVec.ushiftRight_eq_zero hout, BitVec.xor_zero]

/-- A word that is its own shift has no bits. -/
theorem eq_zero_of_ushiftRight_eq {k : ℕ} (hk : 0 < k) {x : BitVec w} (h : x >>> k = x) :
    x = 0#w := by
  have hdiv : x.toNat / 2 ^ k = x.toNat := by
    rw [← Nat.shiftRight_eq_div_pow, ← BitVec.toNat_ushiftRight, h]
  by_contra hne
  have hpos : 0 < x.toNat := by
    apply Nat.pos_of_ne_zero
    intro h0
    exact hne (BitVec.eq_of_toNat_eq h0)
  have hlt := Nat.div_lt_self hpos (Nat.one_lt_two_pow hk.ne')
  omega

theorem xorShift_injective {k : ℕ} (hk : 0 < k) :
    Function.Injective (xorShift k : BitVec w → BitVec w) := by
  intro x y h
  -- the difference of the two is its own shift
  have hdiff : xorShift k (x ^^^ y) = 0#w := by
    rw [xorShift_xor, h, BitVec.xor_self]
  have hself : (x ^^^ y) >>> k = x ^^^ y := (BitVec.xor_eq_zero_iff.mp hdiff).symm
  exact BitVec.xor_eq_zero_iff.mp (eq_zero_of_ushiftRight_eq hk hself)

/-! ### On `UInt64` -/

/-- An xor-shift of a 64-bit word. -/
theorem uint64_xorShift_bijective {k : UInt64} (hpos : 0 < k.toNat) (hlt : k.toNat < 64) :
    Function.Bijective fun x : UInt64 => x ^^^ (x >>> k) := by
  have hstep : ∀ x : UInt64, (x ^^^ (x >>> k)).toBitVec = xorShift k.toNat x.toBitVec := by
    intro x
    have hk : (k.toBitVec % 64#64).toNat = k.toNat := by
      rw [BitVec.toNat_umod]
      exact Nat.mod_eq_of_lt hlt
    rw [UInt64.toBitVec_xor, UInt64.toBitVec_shiftRight, xorShift, ← hk]
    rfl
  constructor
  · intro x y h
    apply UInt64.toBitVec_injective
    apply xorShift_injective hpos
    rw [← hstep, ← hstep]
    exact congrArg UInt64.toBitVec h
  · intro y
    obtain ⟨x, hx⟩ := xorShift_surjective hpos y.toBitVec
    refine ⟨UInt64.ofBitVec x, UInt64.toBitVec_injective ?_⟩
    exact (hstep (UInt64.ofBitVec x)).trans hx

end WordMixing
