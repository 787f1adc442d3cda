/-!
# Modular powers

Powers by repeated squaring, and inverses modulo a prime.
-/

namespace ClusterCerts.Crypto

def powMod (m b e : Nat) : Nat :=
  if e = 0 then 1 % m
  else
    let s := powMod m (b * b % m) (e / 2)
    if e % 2 = 1 then b * s % m else s
termination_by e
decreasing_by omega

theorem powMod_eq (m b e : Nat) : powMod m b e = Nat.pow b e % m := by
  simp only [Nat.pow_eq]
  fun_induction powMod m b e with
  | case1 => simp
  | case2 b e _ s hodd ih =>
    have he : e = 2 * (e / 2) + 1 := by omega
    rw [show s = _ from ih]
    conv => rhs; rw [he, Nat.pow_succ, Nat.pow_mul, Nat.pow_two]
    rw [Nat.mul_mod, Nat.mod_mod, ← Nat.pow_mod, Nat.mul_comm, ← Nat.mul_mod]
  | case3 b e _ s heven ih =>
    have he : e = 2 * (e / 2) := by omega
    rw [show s = _ from ih]
    conv => rhs; rw [he, Nat.pow_mul, Nat.pow_two]
    rw [← Nat.pow_mod]

def invMod (p a : Nat) : Nat := powMod p a (p - 2)

end ClusterCerts.Crypto
