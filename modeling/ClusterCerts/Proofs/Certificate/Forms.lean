import ClusterCerts.Certificate.Encode
import ClusterCerts.Certificate.Stored
import ClusterCerts.Outcome
import ClusterCerts.Proofs.Pem.RoundTrip

/-!
# The two forms of a certificate

A certificate is stored as PEM or as DER, and its first bytes tell which. All that is asked of it
is asked of the DER form, and that is the data for every spelling of a PEM block, so both forms
get the same answers and fail alike. The data need not be a certificate for this.
-/

namespace ClusterCerts.Stored

open Pem (Spelling)

variable {label : String} {data : Bytes}

theorem der_of_not_pem (h : ¬Bytes.ofString "-----BEGIN" <+: data) : der data = .ok data := by
  rw [← List.isPrefixOf_iff_prefix] at h
  rw [der, if_neg h]

theorem der_spelling (hlabel : '\n' ∉ label.toList) (t : Spelling label data) :
    der t.bytes = .ok data := by
  rw [der, if_pos t.isPrefixOf_bytes, t.decode?_bytes hlabel]

theorem der_encode (hlabel : '\n' ∉ label.toList) (data : Bytes) :
    der (Bytes.ofString (Pem.encode label data)) = .ok data := by
  obtain ⟨t, ht, -⟩ := Pem.exists_spelling_encode label data
  rw [ht, der_spelling hlabel t]

/-- However the block of a certificate is spelled and whatever comes after it, each question gets
the answer that its data gets, the same failure included. -/
theorem forms_agree (hdata : ¬Bytes.ofString "-----BEGIN" <+: data)
    (t : Spelling "CERTIFICATE" data) :
    der t.bytes = .ok data ∧ der data = .ok data ∧
    altNames? t.bytes = altNames? data ∧
    notAfter t.bytes = notAfter data ∧
    commonName t.bytes = commonName data ∧
    ∀ (days : UInt32) (now : Instant),
      isExpiringAt t.bytes days now = isExpiringAt data days now := by
  have hpem : der t.bytes = .ok data := der_spelling (by decide) t
  have hplain : der data = .ok data := der_of_not_pem hdata
  have hread : certificate t.bytes = certificate data := by
    rw [certificate, certificate, hpem, hplain]
  have hends : notAfter t.bytes = notAfter data := by rw [notAfter, notAfter, hread]
  refine ⟨hpem, hplain, ?_, hends, ?_, fun days now => ?_⟩
  · rw [altNames?_eq, altNames?_eq, hread]
  · rw [commonName, commonName, hread]
  · rw [isExpiringAt, isExpiringAt, hends]

open Der

def sampleLeaf : Certificate where
  issuer := .ofAttributes [.ofString Oid.commonName "ca"]
  notBefore := 1700000000
  notAfter := 1800000000
  subject := .ofAttributes [.ofString Oid.commonName "node"]
  extensions := [.altNames ["node.example"] []]

def sampleLeafDer : Bytes :=
  let algorithm := encodeSequence [encodeOid Oid.ed25519]
  let publicKey := encodeSequence [algorithm, encodeBits []]
  encodeSequence [sampleLeaf.encodeBody 1 algorithm publicKey, algorithm, encodeBits []]

def sampleLine (i : Nat) : Pem.Line where
  text := ((Base64.encode sampleLeafDer).drop (64 * i)).take 64
  blanks := ['\r']
  isBlank_of_mem := by
    rw [List.forall_mem_singleton]
    decide
  feed_not_mem := by decide

def sampleSpelling : Spelling "CERTIFICATE" sampleLeafDer where
  opening := ['\r']
  lines := (List.range 3).map sampleLine
  closing := ['\r']
  after := some (Bytes.ofString (Pem.encode "CERTIFICATE" [0]))
  feed_not_mem_opening := by decide
  feed_not_mem_closing := by decide
  carries := by decide +kernel

theorem forms_agree_sample :
    ¬Bytes.ofString "-----BEGIN" <+: sampleLeafDer ∧
    altNames? sampleSpelling.bytes = some (SortedSet.ofList ["node.example"]) ∧
    notAfter sampleSpelling.bytes = .ok 1800000000 ∧
    commonName sampleSpelling.bytes = .ok "node" ∧
    isExpiringAt sampleSpelling.bytes 30 ⟨1800000000, 0, by decide, by decide⟩ = .ok true := by
  have hdata : ¬Bytes.ofString "-----BEGIN" <+: sampleLeafDer := by decide +kernel
  obtain ⟨-, -, hnames, hends, hname, hexpiring⟩ := forms_agree hdata sampleSpelling
  rw [hnames, hends, hname, hexpiring]
  refine ⟨hdata, by decide +kernel, Except.eq_ok_of_toOption (by decide +kernel),
    Except.eq_ok_of_toOption (by decide +kernel), Except.eq_ok_of_toOption (by decide +kernel)⟩

end ClusterCerts.Stored
