import ClusterCerts.Authority
import ClusterCerts.Proofs.Der.Elements

/-!
# Lengths of certificates

How long a certificate gets by its signature, its public key and its serial number does not
depend on the numbers that were drawn for them, so it is bounded without computing with curves.
-/

namespace ClusterCerts

open Crypto Der

namespace SigningKey

def signatureBound : SigningKey → Nat
  | ed25519 _ => 64
  | p256 _ => 279
  | p384 _ => 407
  | rsa size _ _ => size

theorem sign_lt {c : Curve} (h : 0 < c.order) (scalar nonce : Nat) (message : Bytes) :
    (c.sign scalar nonce message).1 < c.order ∧ (c.sign scalar nonce message).2 < c.order :=
  ⟨Nat.mod_lt _ h, Nat.mod_lt _ h⟩

theorem length_encodeEcdsa_le {k bound : Nat} {rs : Nat × Nat}
    (h : rs.1 < bound ∧ rs.2 < bound) (hbound : bound ≤ Nat.pow 256 (k + 1)) :
    (encodeEcdsa rs).length ≤ 8 * k + 31 := by
  have hr := length_encodeNatural_le (Nat.lt_of_lt_of_le h.1 hbound)
  have hs := length_encodeNatural_le (Nat.lt_of_lt_of_le h.2 hbound)
  refine Nat.le_trans (length_encodeSequence_le _) ?_
  simp only [List.flatten_cons, List.flatten_nil, List.append_nil, List.length_append]
  omega

theorem length_sign_le (key : SigningKey) (nonce : Nat) (message : Bytes) :
    (key.sign nonce message).length ≤ key.signatureBound := by
  cases key with
  | ed25519 seed =>
    simp [sign, signatureBound, Ed25519.sign, Ed25519.encode, Ed25519.ofLittleEndian]
  | p256 scalar => exact length_encodeEcdsa_le (k := 31) (sign_lt (by decide) _ _ _) (by decide)
  | p384 scalar => exact length_encodeEcdsa_le (k := 47) (sign_lt (by decide) _ _ _) (by decide)
  | rsa size modulus exponent => simp [sign, signatureBound, Rsa.sign]

end SigningKey

namespace Certificate

variable {c : Certificate} {serial : Nat} {publicKey : Bytes} {key : SigningKey} {nonce : Nat}

/-- The body with an empty public key and the serial number zero stands for all others. -/
theorem length_encodeBody_le (c : Certificate) (serial : Nat) (algorithm publicKey : Bytes) :
    (c.encodeBody serial algorithm publicKey).length ≤
      2 * ((c.encodeBody 0 algorithm []).length + (encodeNatural serial).length +
        publicKey.length) + 3 := by
  have hle := length_flatten_le_encodeSequence
    [encodeExplicit 0 (encodeNatural 2), encodeNatural 0, algorithm,
      DistinguishedName.encode c.issuer,
      encodeSequence [encodeTime c.notBefore, encodeTime c.notAfter],
      DistinguishedName.encode c.subject, [],
      encodeExplicit 3 (encodeSequence (c.extensions.map Extension.encode))]
  refine Nat.le_trans (length_encodeSequence_le _) ?_
  rw [encodeBody]
  simp only [List.flatten_cons, List.flatten_nil, List.append_nil, List.length_append,
    List.nil_append] at hle ⊢
  omega

theorem length_algorithm_le (c : Certificate) (algorithm : Bytes) :
    algorithm.length ≤ (c.encodeBody 0 algorithm []).length := by
  refine Nat.le_trans ?_ (length_flatten_le_encodeSequence _)
  simp only [List.flatten_cons, List.length_append]
  omega

end Certificate

namespace Authority

theorem length_publicKeyInfo_le (scalar : Nat) : (publicKeyInfo scalar).length ≤ 315 := by
  have hkey : (Curve.p256.publicKey scalar).length = 65 := by simp [Curve.publicKey, Curve.p256]
  have halgorithm : SigningKey.ecAlgorithm.length = 21 := by decide
  have hbits := length_encode_le 0x03 (0 :: Curve.p256.publicKey scalar)
  refine Nat.le_trans (length_encodeSequence_le _) ?_
  simp only [List.flatten_cons, List.flatten_nil, List.append_nil, List.length_append, encodeBits,
    List.length_cons] at hbits ⊢
  omega

theorem length_serial_le (scalar : Nat) : (encodeNatural (serial scalar)).length ≤ 45 :=
  length_encodeNatural_le (k := 19)
    (Nat.lt_of_lt_of_le (Nat.mod_lt _ (by decide)) (by decide))

theorem length_issue_le (c : Certificate) (scalar : Nat) (key : SigningKey) (nonce : Nat) :
    (c.issue (serial scalar) (publicKeyInfo scalar) key nonce).length ≤
      6 * (c.encodeBody 0 key.algorithm []).length + 4 * key.signatureBound + 1500 := by
  have hbody := c.length_encodeBody_le (serial scalar) key.algorithm (publicKeyInfo scalar)
  have hpublicKey := length_publicKeyInfo_le scalar
  have hserial := length_serial_le scalar
  have halgorithm := c.length_algorithm_le key.algorithm
  have hsign := key.length_sign_le nonce
    (c.encodeBody (serial scalar) key.algorithm (publicKeyInfo scalar))
  have hbits := length_encode_le 0x03 (0 :: key.sign nonce
    (c.encodeBody (serial scalar) key.algorithm (publicKeyInfo scalar)))
  refine Nat.le_trans (length_encodeSequence_le _) ?_
  simp only [List.flatten_cons, List.flatten_nil, List.append_nil, List.length_append, encodeBits,
    List.length_cons] at hbits ⊢
  omega

end Authority

end ClusterCerts
