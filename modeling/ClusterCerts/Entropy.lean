import ClusterCerts.Crypto.Sha2

/-!
# Entropy

Numbers that nobody can foresee without the seed they are made from: each is the hash of the
seed and of how many were drawn before it.
-/

namespace ClusterCerts

structure Entropy where
  seed : Bytes
  drawn : Nat := 0
deriving DecidableEq

namespace Entropy

def draw (e : Entropy) : Nat × Entropy :=
  (Bytes.toNat (Crypto.Sha2.sha512.digest (e.seed ++ Bytes.ofNat 8 e.drawn)),
    { e with drawn := e.drawn + 1 })

end Entropy

/-- What is drawn for one certificate: a key, a nonce for its signature, and a password and a
salt for its key store. -/
structure Material where
  key : Nat
  nonce : Nat
  password : Nat
  salt : Nat
deriving DecidableEq

def Material.draw (e : Entropy) : Material × Entropy :=
  let (key, e) := e.draw
  let (nonce, e) := e.draw
  let (password, e) := e.draw
  let (salt, e) := e.draw
  (⟨key, nonce, password, salt⟩, e)

end ClusterCerts
