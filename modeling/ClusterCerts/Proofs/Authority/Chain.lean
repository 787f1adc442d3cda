import ClusterCerts.Proofs.Authority.Issue
import ClusterCerts.Proofs.Certificate.Issuer
import ClusterCerts.Proofs.Pem.Block

/-!
# Chains of names

Whether the issuer of what an authority issues is the subject of its own certificate, attribute
for attribute. It is for every authority that was created, and for one that was loaded if and only
if no type of attribute is repeated in that subject.
-/

namespace ClusterCerts

namespace Authority

open Certificate Der

variable {a : Authority} {s : Subject} {days : UInt32} {now : Instant} {e : Entropy} {b : Bundle}
variable {w : Window} {m : Material} {name certText keyText : String}

def certificate? (a : Authority) : Option Certificate :=
  Pem.blockData? a.certPem >>= Certificate.ofDer?

/-- An authority that was loaded from texts or created. -/
inductive Obtained : Authority → Prop
  | loaded {certText keyText : String} {a : Authority} (h : load certText keyText = .ok a) :
      Obtained a
  | created {name : String} {days : UInt32} {now : Instant} {e : Entropy} {a : Authority}
      (h : (create name days now e).result = .ok a) : Obtained a

theorem issuerName?_of_load (h : load certText keyText = .ok a) :
    ∃ ca, a.certificate? = some ca ∧ ca.issuerName? = some a.issuer := by
  simp only [load, bind, Except.bind] at h
  split at h
  · split at h
    · split at h
      · next issuer hissuer =>
        obtain ⟨ca, hca, hname⟩ := Option.bind_eq_some_iff.1 hissuer
        split at h
        · cases h
        · split at h
          · cases h
          · cases h
            exact ⟨ca, hca, hname⟩
      · cases h
    · cases h
  · cases h

theorem load_ok {keyDer certDer : Bytes} {key : SigningKey} {ca : Certificate}
    {issuer : List Attribute} (hblock : Pem.blockData? keyText = some keyDer)
    (hkey : SigningKey.ofPkcs8? keyDer = some key)
    (hca : (Pem.blockData? certText >>= ofDer?) = some ca) (hissuer : ca.issuerName? = some issuer)
    (hder : Stored.der (Bytes.ofString certText) = .ok certDer)
    (hname : Stored.commonName certDer = .ok name) :
    load certText keyText = .ok { certPem := certText, certDer, name, key, keyDer, issuer } := by
  have hread : ((Pem.blockData? certText).bind ofDer?).bind issuerName? = some issuer := by
    rw [Option.bind_eq_bind] at hca
    rw [hca]
    exact hissuer
  rw [load]
  simp only [hblock, hkey, hread, hder, hname, bind, Except.bind]
  rfl

theorem plain_root (name : String) : Plain (.ofAttributes [.ofString Oid.commonName name]) := by
  apply DistinguishedName.plain_ofAttributes
  intro x hx
  rw [List.mem_singleton.1 hx]
  show utf8StringTag < 31
  decide

theorem blockData?_certificatePem (der : Bytes) :
    Pem.blockData? (certificatePem der) = some der := by
  apply Pem.blockData?_encode
  · decide
  · decide

def rootDer (name : String) (w : Window) (m : Material) : Bytes :=
  let scalar := Crypto.Curve.p256.toScalar m.key
  (root name w scalar).issue (serial scalar) (publicKeyInfo scalar) (.p256 scalar) m.nonce

theorem certPem_ofMaterial (name : String) (w : Window) (m : Material) :
    (ofMaterial name w m).certPem = certificatePem (rootDer name w m) := rfl

theorem ofDer?_rootDer (h₀ : 0 ≤ yearOfSecond w.notBefore) (h : w.notBefore ≤ w.notAfter)
    (h₁ : yearOfSecond w.notAfter ≤ 9999) (hshort : Short (rootDer name w m)) :
    ofDer? (rootDer name w m) = some (root name w (Crypto.Curve.p256.toScalar m.key)) :=
  ofDer?_issue_of_plain (plain_root name) (reads_publicKeyInfo (short_publicKey hshort))
    (plain_root name) h₀ h h₁ hshort

theorem short_rootDer
    (h : (Bytes.ofString (certificatePem (rootDer name w m))).length < lengthBound) :
    Short (rootDer name w m) :=
  Short.of_le h (Pem.length_le_length_encode plain_label _)

theorem certificate?_ofMaterial (h₀ : 0 ≤ yearOfSecond w.notBefore) (h : w.notBefore ≤ w.notAfter)
    (h₁ : yearOfSecond w.notAfter ≤ 9999) (hshort : Short (rootDer name w m)) :
    (ofMaterial name w m).certificate? =
      some (root name w (Crypto.Curve.p256.toScalar m.key)) := by
  rw [certificate?, certPem_ofMaterial, blockData?_certificatePem, Option.bind_eq_bind,
    Option.bind_some, ofDer?_rootDer h₀ h h₁ hshort]

theorem certificate?_of_create (h : (create name days now e).result = .ok a)
    (hlength : (Bytes.ofString a.certPem).length < lengthBound) :
    ∃ ca, a.certificate? = some ca ∧ ca.subject = .ofAttributes [.ofString Oid.commonName name] ∧
      a.issuer = [.ofString Oid.commonName name] := by
  obtain ⟨-, w, hw, h₀, rfl⟩ := create_ok_iff.1 h
  obtain ⟨-, h₁⟩ := Window.ofDays_ok hw
  rw [certPem_ofMaterial] at hlength
  exact ⟨_, certificate?_ofMaterial h₀ (Window.le_of_ofDays hw) h₁ (short_rootDer hlength), rfl,
    rfl⟩

theorem issuer_of_obtained (h : Obtained a)
    (hlength : (Bytes.ofString a.certPem).length < lengthBound) :
    ∃ ca as, a.certificate? = some ca ∧ ca.subject = .ofAttributes as ∧
      a.issuer = Attribute.merge as ∧ ∀ x ∈ as, x.tag < 31 := by
  cases h with
  | loaded h =>
    obtain ⟨ca, hca, hname⟩ := issuerName?_of_load h
    rw [issuerName?] at hname
    simp only [Option.bind_eq_bind, Option.bind_eq_some_iff, Option.pure_def,
      Option.some.injEq] at hname
    obtain ⟨-, -, as, has, hissuer⟩ := hname
    obtain ⟨hsubject, htext⟩ := DistinguishedName.of_plainAttributes? has
    exact ⟨ca, as, hca, hsubject, hissuer.symm,
      fun x hx => Attribute.tag_lt_of_isText (htext x hx)⟩
  | created h =>
    obtain ⟨ca, hca, hsubject, hissuer⟩ := certificate?_of_create h hlength
    refine ⟨ca, _, hca, hsubject, hissuer, ?_⟩
    intro x hx
    rw [List.mem_singleton.1 hx]
    show utf8StringTag < 31
    decide

theorem certificate_of_issue (hissuer : ∀ x ∈ a.issuer, x.tag < 31)
    (h : (a.issue s days now e).result = .ok b) (hlength : b.cert.length < lengthBound) :
    ∃ c, Stored.certificate b.cert = .ok c ∧ c.issuer = .ofAttributes a.issuer := by
  obtain ⟨-, -, w, hw, h₀, rfl⟩ := issue_ok_iff.1 h
  obtain ⟨-, h₁⟩ := Window.ofDays_ok hw
  have hshort := short_bundleDer hlength
  have hread := ofDer?_issue_of_plain (DistinguishedName.plain_ofAttributes hissuer)
    (reads_publicKeyInfo (short_publicKey hshort)) (plain_leaf a.issuer s w) h₀
    (Window.le_of_ofDays hw) h₁ hshort
  rw [bundle_cert]
  exact ⟨leaf a.issuer s w, certificate_encode hread, rfl⟩

/-- The issuer of what an authority issues is the subject of the certificate of the authority,
with each type of attribute once, in its first place and with its last value. So the two are
equal, attribute for attribute, if and only if no type is repeated, as in every authority that
was created. -/
theorem issuer_eq_subject_iff (a : Authority) (h : Obtained a)
    (hlength : (Bytes.ofString a.certPem).length < lengthBound) (s : Subject) (days : UInt32)
    (now : Instant) (e : Entropy) (b : Bundle) (hissue : (a.issue s days now e).result = .ok b)
    (hcert : b.cert.length < lengthBound) :
    ∃ ca c, a.certificate? = some ca ∧ Stored.certificate b.cert = .ok c ∧
      c.issuer = .ofAttributes (Attribute.merge ca.subject.flatten) ∧
      (c.issuer = ca.subject ↔ (ca.subject.flatten.map Attribute.oid).Nodup) ∧
      ((∃ name days now e, (create name days now e).result = .ok a) → c.issuer = ca.subject) := by
  obtain ⟨ca, as, hca, hsubject, hissuer, htag⟩ := issuer_of_obtained h hlength
  obtain ⟨c, hc, hname⟩ := certificate_of_issue (a := a)
    (fun x hx => htag x (Attribute.mem_merge (hissuer ▸ hx))) hissue hcert
  have hflatten : ca.subject.flatten = as := by
    rw [hsubject, DistinguishedName.flatten_ofAttributes]
  have hiff : c.issuer = ca.subject ↔ (as.map Attribute.oid).Nodup := by
    rw [hname, hsubject, hissuer, DistinguishedName.ofAttributes_inj, Attribute.merge_eq_self_iff]
  refine ⟨ca, c, hca, hc, ?_⟩
  rw [hflatten]
  refine ⟨hissuer ▸ hname, hiff, ?_⟩
  rintro ⟨name, days', now', e', hcreate⟩
  obtain ⟨ca', hca', hsubject', -⟩ := certificate?_of_create hcreate hlength
  obtain rfl : ca = ca' := Option.some.inj (hca.symm.trans hca')
  rw [hiff, DistinguishedName.ofAttributes_inj.1 (hsubject.symm.trans hsubject')]
  simp

def sampleName : List Attribute :=
  let unit := [0x55, 0x04, 0x0b]
  [.ofString Oid.commonName "ca", .ofString unit "east", .ofString unit "ops"]

def sampleKey : SigningKey := .ed25519 (List.replicate 32 1)

def sampleCa : Certificate where
  issuer := .ofAttributes sampleName
  notBefore := 1700000000
  notAfter := 1800000000
  subject := .ofAttributes sampleName
  extensions := [.authority]

def sampleCaDer : Bytes :=
  let publicKey := encodeSequence [sampleKey.algorithm, encodeBits []]
  encodeSequence
    [sampleCa.encodeBody 1 sampleKey.algorithm publicKey, sampleKey.algorithm, encodeBits []]

def sampleKeyDer : Bytes :=
  encodeSequence [encodeNatural 0, encodeSequence [encodeOid Oid.ed25519],
    encodeOctets (encodeOctets (List.replicate 32 1))]

def sampleLoaded : Authority where
  certPem := certificatePem sampleCaDer
  certDer := sampleCaDer
  name := "ca"
  key := sampleKey
  keyDer := sampleKeyDer
  issuer := Attribute.merge sampleName

theorem ofDer?_sample : ofDer? sampleCaDer = some sampleCa := by decide +kernel

theorem certificate?_sample : sampleLoaded.certificate? = some sampleCa := by
  rw [certificate?, show sampleLoaded.certPem = certificatePem sampleCaDer from rfl,
    blockData?_certificatePem, Option.bind_eq_bind, Option.bind_some, ofDer?_sample]

theorem load_sample :
    load (certificatePem sampleCaDer) (keyPem sampleKeyDer) = .ok sampleLoaded := by
  have hblock : Pem.blockData? (keyPem sampleKeyDer) = some sampleKeyDer :=
    Pem.blockData?_encode (by decide) (by decide) sampleKeyDer
  have hkey : SigningKey.ofPkcs8? sampleKeyDer = some sampleKey := by decide +kernel
  have hissuer : sampleCa.issuerName? = some (Attribute.merge sampleName) := by decide
  have hname : Stored.commonName sampleCaDer = .ok "ca" :=
    Except.eq_ok_of_toOption (by decide +kernel)
  have hder : Stored.der (Bytes.ofString (certificatePem sampleCaDer)) = .ok sampleCaDer :=
    Stored.der_encode plain_label.feed_not_mem sampleCaDer
  exact load_ok hblock hkey certificate?_sample hissuer hder hname

theorem obtained_sample : Obtained sampleLoaded := .loaded load_sample

theorem length_encode {label : String} (hlabel : Pem.OneLine label.toList) (data : Bytes) :
    (Bytes.ofString (Pem.encode label data)).length = (Pem.encodeChars label data).length := by
  rw [Pem.ofString_encode hlabel, Bytes.ofAscii, List.length_map]

theorem length_certPem_sample : (Bytes.ofString sampleLoaded.certPem).length < lengthBound := by
  rw [show sampleLoaded.certPem = Pem.encode "CERTIFICATE" sampleCaDer from rfl,
    length_encode plain_label]
  decide +kernel

def sampleBundle : Bundle :=
  sampleLoaded.bundle sampleSubject ⟨2523996400, 2555536000⟩ (Material.draw { seed := [7] }).1

theorem issue_sample : (sampleLoaded.issue sampleSubject 365 sampleNow { seed := [7] }).result =
    .ok sampleBundle :=
  issue_ok_iff.2 ⟨by decide, by decide, _, ofDays_sampleNow, writable_sampleNow, rfl⟩

theorem length_cert_sample : sampleBundle.cert.length < lengthBound :=
  length_cert_lt (by decide +kernel)

theorem issuer_eq_subject_iff_sample : ∃ b, Obtained sampleLoaded ∧
    (Bytes.ofString sampleLoaded.certPem).length < lengthBound ∧
    (sampleLoaded.issue sampleSubject 365 sampleNow { seed := [7] }).result = .ok b ∧
    b.cert.length < lengthBound ∧
    ∃ ca c, sampleLoaded.certificate? = some ca ∧ Stored.certificate b.cert = .ok c ∧
      c.issuer = .ofAttributes (Attribute.merge ca.subject.flatten) ∧
      (c.issuer = ca.subject ↔ (ca.subject.flatten.map Attribute.oid).Nodup) ∧
      ((∃ name days now e, (create name days now e).result = .ok sampleLoaded) →
        c.issuer = ca.subject) := by
  exact ⟨sampleBundle, obtained_sample, length_certPem_sample, issue_sample, length_cert_sample,
    issuer_eq_subject_iff sampleLoaded obtained_sample length_certPem_sample sampleSubject 365
      sampleNow { seed := [7] } sampleBundle issue_sample length_cert_sample⟩

/-- The second unit stands in the place of the first, so the names do not chain. -/
theorem issuer_ne_subject_of_repeated : ∃ b c, Obtained sampleLoaded ∧
    (sampleLoaded.issue sampleSubject 365 sampleNow { seed := [7] }).result = .ok b ∧
    sampleLoaded.certificate? = some sampleCa ∧ Stored.certificate b.cert = .ok c ∧
    c.issuer ≠ sampleCa.subject := by
  have htag : ∀ x ∈ sampleLoaded.issuer, x.tag < 31 := by decide
  have hrepeated : ¬ (sampleName.map Attribute.oid).Nodup := by decide
  obtain ⟨c, hc, hname⟩ := certificate_of_issue htag issue_sample length_cert_sample
  refine ⟨sampleBundle, c, obtained_sample, issue_sample, certificate?_sample, hc, ?_⟩
  rw [hname, show sampleCa.subject = .ofAttributes sampleName from rfl, ne_eq,
    DistinguishedName.ofAttributes_inj]
  exact fun h => hrepeated (Attribute.merge_eq_self_iff.1 h)

end Authority
end ClusterCerts
