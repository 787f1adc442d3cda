import ClusterCerts.Authority
import ClusterCerts.Proofs.Authority.Window
import ClusterCerts.Proofs.Certificate.AltNames
import ClusterCerts.Proofs.Certificate.Forms
import ClusterCerts.Proofs.Certificate.Lengths

/-!
# Issued certificates

What an authority issues reads back as what was asked for: the alternative names, the common
name and the times of validity. The bytes of the certificate are PEM of a certificate that has
these, for every issuer, key, serial number and signature.
-/

namespace ClusterCerts

namespace Authority

open Certificate Der

variable {a : Authority} {s : Subject} {days : UInt32} {now : Instant} {e : Entropy} {b : Bundle}

theorem issue_ok_iff :
    (a.issue s days now e).result = .ok b ↔
      s.commonName ≠ "" ∧ foreignName? s = none ∧
        ∃ w, Window.ofDays days now = .ok w ∧ w.Writable ∧
          a.bundle s w (Material.draw e).1 = b := by
  rw [issue]
  split
  · next hname => simp [hname]
  · next hname =>
    rw [Outcome.after_result]
    split
    · next hw => simp [hw]
    · next w hw =>
      split
      · next hforeign => simp [hforeign]
      · next hforeign =>
        split
        · next hwritable => simp [hname, hforeign, hw, hwritable]
        · next hwritable => simp [hw, hwritable]

theorem create_ok_iff {name : String} :
    (create name days now e).result = .ok a ↔
      name ≠ "" ∧ ∃ w, Window.ofDays days now = .ok w ∧ w.Writable ∧
        ofMaterial name w (Material.draw e).1 = a := by
  rw [create, Outcome.after_result]
  split
  · next hname => simp [hname]
  · next hname =>
    split
    · next hw => simp [hw]
    · next w hw =>
      split
      · next hwritable => simp [hname, hw, hwritable]
      · next hwritable => simp [hw, hwritable]

theorem plain_leaf (issuer : List Attribute) (s : Subject) (w : Window) :
    Plain (leaf issuer s w).subject := by
  intro group hgroup
  obtain ⟨written, hwritten, rfl⟩ := List.mem_map.1 hgroup
  refine ⟨by simp, ?_⟩
  intro a ha
  rw [List.mem_singleton.1 ha]
  rcases List.mem_cons.1 hwritten with rfl | hwritten
  · show utf8StringTag < 31
    decide
  · obtain ⟨o, -, rfl⟩ := Option.map_eq_some_iff.1 (Option.mem_toList.1 hwritten)
    show utf8StringTag < 31
    decide

theorem reads_publicKeyInfo {scalar : Nat} (h : Short (publicKeyInfo scalar)) :
    Reads readPublicKey (publicKeyInfo scalar) () := by
  have hshort : Short SigningKey.ecAlgorithm := h.of_mem (by simp)
  have halgorithm : Reads readAlgorithm SigningKey.ecAlgorithm () :=
    reads_algorithm_of_oid hshort.of_encode
  exact reads_publicKey halgorithm h

def bundleDer (a : Authority) (s : Subject) (w : Window) (m : Material) : Bytes :=
  let scalar := Crypto.Curve.p256.toScalar m.key
  (leaf a.issuer s w).issue (serial scalar) (publicKeyInfo scalar) a.key m.nonce

theorem bundle_cert (a : Authority) (s : Subject) (w : Window) (m : Material) :
    (a.bundle s w m).cert = Bytes.ofString (Pem.encode "CERTIFICATE" (a.bundleDer s w m)) := by
  simp only [bundle, bundleDer, certificatePem]

variable {w : Window} {m : Material}

theorem ofDer?_bundleDer (h₀ : 0 ≤ yearOfSecond w.notBefore) (h : w.notBefore ≤ w.notAfter)
    (h₁ : yearOfSecond w.notAfter ≤ 9999) (hshort : Short (a.bundleDer s w m)) :
    ∃ issuer, ofDer? (a.bundleDer s w m) = some { leaf a.issuer s w with issuer } := by
  have hpublicKey := reads_publicKeyInfo (short_publicKey hshort)
  exact ofDer?_issue hpublicKey (plain_leaf a.issuer s w) h₀ h h₁ hshort

theorem plain_label : Pem.OneLine "CERTIFICATE".toList := by decide

theorem certificate_encode {data : Bytes} {c : Certificate} (h : ofDer? data = some c) :
    Stored.certificate (Bytes.ofString (certificatePem data)) = .ok c := by
  have hder : Stored.der (Bytes.ofString (certificatePem data)) = .ok data :=
    Stored.der_encode plain_label.feed_not_mem data
  rw [Stored.certificate, hder]
  simp only [bind, Except.bind, h]
  rfl

theorem short_bundleDer (h : Short (a.bundle s w m).cert) : Short (a.bundleDer s w m) := by
  rw [bundle_cert] at h
  exact h.of_le (Pem.length_le_length_encode plain_label _)

theorem length_cert_lt (h : ((leaf a.issuer s w).encodeBody 0 a.key.algorithm []).length +
    a.key.signatureBound < Nat.pow 256 125) : (a.bundle s w m).cert.length < lengthBound := by
  have hder : (a.bundleDer s w m).length ≤ _ :=
    length_issue_le (leaf a.issuer s w) (Crypto.Curve.p256.toScalar m.key) a.key m.nonce
  have hlabel : "CERTIFICATE".toList.length = 11 := by decide
  have hpem := Pem.length_encode_le plain_label (a.bundleDer s w m)
  have hbound : 48 * Nat.pow 256 125 + 20000 < lengthBound := by decide
  rw [bundle_cert]
  omega

theorem certificate_bundle (h₀ : 0 ≤ yearOfSecond w.notBefore) (h : w.notBefore ≤ w.notAfter)
    (h₁ : yearOfSecond w.notAfter ≤ 9999) (hshort : Short (a.bundle s w m).cert) :
    ∃ issuer, Stored.certificate (a.bundle s w m).cert =
      .ok { leaf a.issuer s w with issuer } := by
  obtain ⟨issuer, hissuer⟩ := ofDer?_bundleDer h₀ h h₁ (short_bundleDer hshort)
  rw [bundle_cert]
  exact ⟨issuer, certificate_encode hissuer⟩

theorem filter_altNames (issuer : List Attribute) (s : Subject) (w : Window) :
    (leaf issuer s w).extensions.filter (fun e => e.oid = Oid.subjectAltName) =
      if s.dnsNames.isEmpty && s.addresses.isEmpty then []
      else [.altNames s.dnsNames.toList s.addresses.toList] := by
  simp only [leaf]
  split
  · rfl
  · rfl

theorem altNames?_leaf {issuer : List Attribute} {s : Subject} {w : Window}
    (read : DistinguishedName) (h : ∀ e ∈ (leaf issuer s w).extensions, Short e.value) :
    Certificate.altNames? { leaf issuer s w with issuer := read } =
      some (GeneralName.ofSubject s.dnsNames.toList s.addresses.toList) := by
  have hfilter := filter_altNames issuer s w
  rw [Certificate.altNames?, Certificate.extensionsOf]
  split at hfilter
  · next hnone =>
    simp only [SortedSet.isEmpty, Bool.and_eq_true, List.isEmpty_iff] at hnone
    rw [hfilter, hnone.1, hnone.2]
    rfl
  · have hmem : Extension.altNames s.dnsNames.toList s.addresses.toList ∈
        (leaf issuer s w).extensions := by
      have hfiltered := List.mem_singleton_self (Extension.altNames s.dnsNames.toList
        s.addresses.toList)
      rw [← hfilter] at hfiltered
      exact (List.mem_filter.1 hfiltered).1
    rw [hfilter]
    exact GeneralName.list?_altNames (h _ hmem)

theorem commonName_leaf (issuer : List Attribute) (s : Subject) (w : Window)
    (read : DistinguishedName) :
    Certificate.commonNameAttribute? { leaf issuer s w with issuer := read } =
      some (.ofString Oid.commonName s.commonName) := rfl

theorem short_extension_value (h : Short (a.bundleDer s w m)) :
    ∀ e ∈ (leaf a.issuer s w).extensions, Short e.value := by
  intro e he
  have hbody : Short ((leaf a.issuer s w).encodeBody
      (serial (Crypto.Curve.p256.toScalar m.key)) a.key.algorithm
      (publicKeyInfo (Crypto.Curve.p256.toScalar m.key))) := h.of_mem (by simp)
  have hextensions : Short (encodeExplicit 3
      (encodeSequence ((leaf a.issuer s w).extensions.map Extension.encode))) :=
    hbody.of_mem (by simp)
  have hextension : Short e.encode := hextensions.of_encode.of_mem (List.mem_map_of_mem he)
  have hvalue : Short (encodeOctets e.value) := hextension.of_mem (by simp)
  exact hvalue.of_encode

theorem leaf_of_issue (h : (a.issue s days now e).result = .ok b)
    (hlength : b.cert.length < lengthBound) :
    ∃ w m issuer, Window.ofDays days now = .ok w ∧ b = a.bundle s w m ∧
      Stored.certificate b.cert = .ok { leaf a.issuer s w with issuer } := by
  obtain ⟨-, -, w, hw, h₀, rfl⟩ := issue_ok_iff.1 h
  obtain ⟨-, h₁⟩ := Window.ofDays_ok hw
  obtain ⟨issuer, hcertificate⟩ := certificate_bundle h₀ (Window.le_of_ofDays hw) h₁ hlength
  exact ⟨w, _, issuer, hw, rfl, hcertificate⟩

theorem altNames?_of_issue (h : (a.issue s days now e).result = .ok b)
    (hlength : b.cert.length < lengthBound) : Stored.altNames? b.cert = some s.altNames := by
  obtain ⟨w, m, issuer, -, rfl, hcertificate⟩ := leaf_of_issue h hlength
  have haltNames := Stored.altNames?_of_certificate hcertificate
    (altNames?_leaf issuer (short_extension_value (short_bundleDer hlength)))
  rwa [Subject.ofList_texts] at haltNames

theorem notAfter_of_issue (h : (a.issue s days now e).result = .ok b)
    (hlength : b.cert.length < lengthBound) :
    Stored.notAfter b.cert = .ok (now.seconds + 86400 * days.toNat) ∧
      yearOfSecond (now.seconds + 86400 * days.toNat) ≤ 9999 := by
  obtain ⟨w, m, issuer, hw, -, hcertificate⟩ := leaf_of_issue h hlength
  obtain ⟨rfl, hlast⟩ := Window.ofDays_ok hw
  exact ⟨Stored.notAfter_of_certificate hcertificate, hlast⟩

/-- What is issued is read back: the names, so that the subject counts as unchanged, the common
name, and the end and the length of validity. The length is that of the days and an hour more; only
where a clock shows a leap second, as that of a system does not, it is a second less. -/
theorem read_of_issue (a : Authority) (s : Subject) (days : UInt32) (now : Instant) (e : Entropy)
    (b : Bundle) (h : (a.issue s days now e).result = .ok b)
    (hlength : b.cert.length < lengthBound) :
    Stored.altNames? b.cert = some s.altNames ∧
      Stored.subjectChanged b.cert s = false ∧
      Stored.commonName b.cert = .ok s.commonName ∧
      Stored.notAfter b.cert = .ok (now.seconds + 86400 * days.toNat) ∧
      ∃ c, Stored.certificate b.cert = .ok c ∧
        c.notAfter - c.notBefore = 86400 * days.toNat + 3600 - now.leap := by
  have hshort : Short b.cert := hlength
  obtain ⟨-, -, w, hw, h₀, rfl⟩ := issue_ok_iff.1 h
  obtain ⟨hwindow, h₁⟩ := Window.ofDays_ok hw
  have hbefore : w.notBefore = now.seconds + now.leap - 3600 :=
    congrArg Window.notBefore hwindow
  have hafter : w.notAfter = now.seconds + 86400 * days.toNat := congrArg Window.notAfter hwindow
  obtain ⟨issuer, hcertificate⟩ := certificate_bundle h₀ (Window.le_of_ofDays hw) h₁ hshort
  have haltNames := Stored.altNames?_of_certificate hcertificate
    (altNames?_leaf issuer (short_extension_value (short_bundleDer hshort)))
  rw [Subject.ofList_texts] at haltNames
  refine ⟨haltNames, Stored.subjectChanged_eq_false_iff.2 haltNames, ?_, ?_, _, hcertificate, ?_⟩
  · apply Stored.commonName_of_certificate hcertificate (commonName_leaf _ _ _ _)
    · show utf8StringTag ∈ Stored.textTags
      decide
    · exact Bytes.toString?_ofString s.commonName
  · rw [Stored.notAfter_of_certificate hcertificate, ← hafter]
    rfl
  · show w.notAfter - w.notBefore = _
    omega

def sampleAuthority : Authority where
  certPem := ""
  certDer := []
  name := "ca"
  key := .p256 5
  keyDer := []
  issuer := [.ofString Oid.commonName "ca"]

def sampleSubject : Subject where
  commonName := "node"
  dnsNames := SortedSet.ofList ["pool-0.kafka", "10.0.0.1"]
  addresses := SortedSet.ofList
    [.v4 [127, 0, 0, 1] rfl, .v6 [0, 0, 0, 0, 0, 0xffff, 0x7f00, 1] rfl]

def sampleNow : Instant := ⟨2524000000, 500, by decide, by decide⟩

theorem ofDays_sampleNow : Window.ofDays 365 sampleNow = .ok ⟨2523996400, 2555536000⟩ :=
  Except.eq_ok_of_toOption (by decide)

theorem writable_sampleNow : (⟨2523996400, 2555536000⟩ : Window).Writable := by decide

def sampleIssue : Outcome Entropy Bundle :=
  sampleAuthority.issue sampleSubject 365 sampleNow { seed := [7] }

theorem read_of_issue_sample :
    ∃ b, sampleIssue.result = .ok b ∧ b.cert.length < lengthBound ∧
      Stored.altNames? b.cert = some sampleSubject.altNames ∧
      Stored.subjectChanged b.cert sampleSubject = false ∧
      Stored.commonName b.cert = .ok "node" ∧
      Stored.notAfter b.cert = .ok 2555536000 ∧
      ∃ c, Stored.certificate b.cert = .ok c ∧ c.notAfter - c.notBefore = 31539600 := by
  have hissue := issue_ok_iff (a := sampleAuthority) (e := { seed := [7] }).2
    ⟨(by decide : sampleSubject.commonName ≠ ""), by decide, _, ofDays_sampleNow,
      writable_sampleNow, rfl⟩
  have hlength : (sampleAuthority.bundle sampleSubject ⟨2523996400, 2555536000⟩
      (Material.draw { seed := [7] }).1).cert.length < lengthBound :=
    length_cert_lt (by decide +kernel)
  exact ⟨_, hissue, hlength, read_of_issue _ _ _ _ _ _ hissue hlength⟩

end Authority
end ClusterCerts
