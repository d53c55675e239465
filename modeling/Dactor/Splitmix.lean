/-
Dactor/Splitmix.lean

The hash behind random routing, `splitmix64`, is a bijection.

It is an addition, two rounds of an xor-shift and a multiplication, and a last
xor-shift.  Each is a bijection of the words: the multipliers are odd, and
their inverses are written out.  `pool.rs` and `virtual_pool.rs` have a copy
each.

Main result: `splitmix64_bijective`.
-/
import Dactor.Pools
import Dactor.WordMixing

namespace Dactor

open WordMixing

/-- The copy in `virtual_pool.rs`. -/
def VirtualPool.splitmix64 (x : UInt64) : UInt64 :=
  let x := x + 0x9e3779b97f4a7c15
  let x := (x ^^^ (x >>> 30)) * 0xbf58476d1ce4e5b9
  let x := (x ^^^ (x >>> 27)) * 0x94d049bb133111eb
  x ^^^ (x >>> 31)

/-! ### The steps -/

/-- A multiplication by a word that has an inverse. -/
theorem mul_bijective {c : UInt64} (inverse : UInt64) (h : c * inverse = 1) :
    Function.Bijective fun x : UInt64 => x * c :=
  (Units.mkOfMulEqOne c inverse h).mulRight_bijective

theorem add_bijective (c : UInt64) : Function.Bijective fun x : UInt64 => x + c :=
  (Equiv.addRight c).bijective

/-- A round: an xor-shift and a multiplication. -/
theorem round_bijective {k c : UInt64} (hpos : 0 < k.toNat) (hlt : k.toNat < 64)
    (inverse : UInt64) (h : c * inverse = 1) :
    Function.Bijective fun x : UInt64 => (x ^^^ (x >>> k)) * c :=
  (mul_bijective inverse h).comp (uint64_xorShift_bijective hpos hlt)

/-- **The hash is a bijection, and the two copies are the same function.** -/
theorem splitmix64_bijective :
    Function.Bijective splitmix64 ∧ ∀ x, VirtualPool.splitmix64 x = splitmix64 x := by
  have hfirst : Function.Bijective fun x : UInt64 => (x ^^^ (x >>> 30)) * 0xbf58476d1ce4e5b9 :=
    round_bijective (by decide) (by decide) 0x96de1b173f119089 (by decide)
  have hsecond : Function.Bijective fun x : UInt64 => (x ^^^ (x >>> 27)) * 0x94d049bb133111eb :=
    round_bijective (by decide) (by decide) 0x319642b2d24d8ec3 (by decide)
  have hlast : Function.Bijective fun x : UInt64 => x ^^^ (x >>> 31) :=
    uint64_xorShift_bijective (by decide) (by decide)
  refine ⟨?_, fun _ => rfl⟩
  exact hlast.comp (hsecond.comp (hfirst.comp (add_bijective 0x9e3779b97f4a7c15)))

end Dactor
