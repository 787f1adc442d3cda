import ClusterCerts.Certificate.Encode
import ClusterCerts.Proofs.Der.Time

/-!
# Reading certificates that were written

The parts of a certificate read back one by one: the attributes of a name, the algorithms, the
times of validity and the extensions. From these a certificate that was signed reads back with
its times, its subject and its extensions, whatever attributes the name of its issuer has, and
entirely if that name is plain.
-/

namespace ClusterCerts

namespace Certificate

open Der

/-- A name that reads back: every group has an attribute, and every tag number fits one byte. -/
def Plain (name : DistinguishedName) : Prop :=
  ∀ group ∈ name, group ≠ [] ∧ ∀ a ∈ group, a.tag < 31

theorem reads_attribute {a : Attribute} (htag : a.tag < 31) (h : Short a.encode) :
    Reads readAttribute a.encode a := by
  intro r
  have hparts : [encodeOid a.oid, Der.encode (UInt8.ofNat a.tag) a.value].flatten =
      encodeOid a.oid ++ Der.encode (UInt8.ofNat a.tag) a.value := by simp
  have hcontent : Short [encodeOid a.oid, Der.encode (UInt8.ofNat a.tag) a.value].flatten :=
    Short.of_encode h
  have hsequence := reads_sequence hcontent r
  rw [hparts] at hcontent hsequence
  have hoid := reads_oid hcontent.of_append_left.of_encode (Der.encode (UInt8.ofNat a.tag) a.value)
  have hnumber : (UInt8.ofNat a.tag).toNat % 32 = a.tag := by simp; omega
  have hvalue := reads_encode (UInt8.ofNat a.tag) (by omega)
    hcontent.of_append_right.of_encode []
  rw [List.append_nil] at hvalue
  simp only [readAttribute, Attribute.encode, hsequence, hoid, hvalue, Option.bind_eq_bind,
    Option.bind_some, ofTag, hnumber, Option.pure_def]

theorem reads_relativeName {group : List Attribute} (hne : group ≠ [])
    (htag : ∀ a ∈ group, a.tag < 31)
    (h : Short (encodeSet (group.map Attribute.encode))) :
    Reads readRelativeName (encodeSet (group.map Attribute.encode)) group := by
  intro r
  have hcontent := Short.of_encode h
  have htagged := reads_tagged 0x31 (n := setTag) rfl (by decide) hcontent r
  have hmany : many readAttribute (group.map Attribute.encode).flatten = (group.map id, []) := by
    apply many_flatten rfl
    intro a ha
    exact reads_attribute (htag a ha) (hcontent.of_mem_flatten (List.mem_map_of_mem ha))
  have hisEmpty : group.isEmpty = false := by simpa using hne
  simp only [readRelativeName, encodeSet, htagged, Option.bind_eq_bind, Option.bind_some, ofTag,
    hmany, List.map_id, hisEmpty, Option.pure_def]
  rfl

theorem reads_name {name : DistinguishedName} (hplain : Plain name)
    (h : Short (DistinguishedName.encode name)) :
    Reads readName (DistinguishedName.encode name) name := by
  intro r
  have hcontent := Short.of_encode h
  have hsequence := reads_sequence hcontent r
  have hmany : many readRelativeName
      (name.map fun group => encodeSet (group.map Attribute.encode)).flatten =
        (name.map id, []) := by
    apply many_flatten rfl
    intro group hgroup
    obtain ⟨hne, htag⟩ := hplain group hgroup
    exact reads_relativeName hne htag
      (hcontent.of_mem_flatten (List.mem_map.2 ⟨group, hgroup, rfl⟩))
  simp only [readName, DistinguishedName.encode, hsequence, hmany, List.map_id,
    Option.bind_eq_bind, Option.bind_some, Option.pure_def]

theorem exists_reads_name {name : DistinguishedName} (h : Short (DistinguishedName.encode name)) :
    ∃ read, Reads readName (DistinguishedName.encode name) read := by
  have hcontent := Short.of_encode h
  exists (many readRelativeName
    (name.map fun group => encodeSet (group.map Attribute.encode)).flatten).1
  intro r
  have hsequence := reads_sequence hcontent r
  simp only [readName, DistinguishedName.encode, hsequence, Option.bind_eq_bind, Option.bind_some,
    Option.pure_def]

theorem reads_algorithm_of_oid {oid : Bytes} {parts : List Bytes}
    (h : Short (encodeOid oid :: parts).flatten) :
    Reads readAlgorithm (encodeSequence (encodeOid oid :: parts)) () := by
  intro r
  have hsequence := reads_sequence h r
  rw [List.flatten_cons] at h hsequence
  have hoid := reads_oid h.of_append_left.of_encode parts.flatten
  simp only [readAlgorithm, hsequence, hoid, Option.bind_eq_bind, Option.bind_some,
    Option.pure_def]

theorem reads_algorithm (key : SigningKey) : Reads readAlgorithm key.algorithm () := by
  cases key with
  | ed25519 => exact reads_algorithm_of_oid (short_of_length_le (by decide))
  | p256 => exact reads_algorithm_of_oid (short_of_length_le (by decide))
  | p384 => exact reads_algorithm_of_oid (short_of_length_le (by decide))
  | rsa => exact reads_algorithm_of_oid (short_of_length_le (by decide))

theorem reads_publicKey {algorithm bits : Bytes} (halgorithm : Reads readAlgorithm algorithm ())
    (h : Short (encodeSequence [algorithm, encodeBits bits])) :
    Reads readPublicKey (encodeSequence [algorithm, encodeBits bits]) () := by
  intro r
  have hcontent := Short.of_encode h
  have hsequence := reads_sequence hcontent r
  have hshort : Short (encodeBits bits) := h.of_mem (by simp)
  have hbits := reads_bitString hshort.of_encode (isBitString_zero_cons bits) []
  have hparts : [algorithm, encodeBits bits].flatten = algorithm ++ (encodeBits bits ++ []) := by
    simp
  rw [hparts] at hsequence
  simp only [readPublicKey, hsequence, halgorithm (encodeBits bits ++ []), hbits,
    Option.bind_eq_bind, Option.bind_some, Option.pure_def]

theorem reads_natural_two : Reads natural (Der.encode 0x02 [2]) 2 := by
  intro r
  have hprimitive : primitive integerTag (Der.encode 0x02 [2] ++ r) = some ([2], r) :=
    reads_primitive 0x02 rfl (by decide) (by decide) (short_of_length_le (by decide)) r
  rw [natural, hprimitive]
  rfl

theorem reads_version : Reads readVersion (encodeExplicit 0 (encodeNatural 2)) () := by
  intro r
  have hnumeral : numeral 2 = [2] := by rw [numeral]; rfl
  have hwritten : encodeNatural 2 = Der.encode 0x02 [2] := by
    rw [encodeNatural, hnumeral]
    rfl
  have hshort : Short (Der.encode 0x02 [2]) := short_of_length_le (by decide)
  have hheader := header_encode 0xa0 (by decide) hshort r
  rw [hwritten, readVersion]
  simp only [encodeExplicit, Nat.add_zero, show UInt8.ofNat 0xa0 = 0xa0 from rfl, hheader,
    Option.bind_eq_bind, Option.bind_some, ofTag, reads_natural_two r]
  rfl

theorem reads_validity {notBefore notAfter : Int} (h₀ : 0 ≤ yearOfSecond notBefore)
    (h : notBefore ≤ notAfter) (h₁ : yearOfSecond notAfter ≤ 9999)
    (hshort : Short (encodeSequence [encodeTime notBefore, encodeTime notAfter])) :
    Reads readValidity (encodeSequence [encodeTime notBefore, encodeTime notAfter])
      (notBefore, notAfter) := by
  intro r
  have hmono := yearOfSecond_mono h
  have hbefore := reads_encodeTime h₀ (Int.le_trans hmono h₁) (encodeTime notAfter ++ [])
  have hafter := reads_encodeTime (Int.le_trans h₀ hmono) h₁ []
  have hsequence := reads_sequence (Short.of_encode hshort) r
  have hparts : [encodeTime notBefore, encodeTime notAfter].flatten =
      encodeTime notBefore ++ (encodeTime notAfter ++ []) := by simp
  rw [hparts] at hsequence
  simp only [readValidity, hsequence, hbefore, hafter, Option.bind_eq_bind, Option.bind_some,
    Option.pure_def]

theorem reads_critical : Reads readCritical encodeTrue true := by
  intro r
  have hprimitive : primitive booleanTag (Der.encode 0x01 [0xff] ++ r) = some ([0xff], r) :=
    reads_primitive 0x01 rfl (by decide) (by decide) (short_of_length_le (by decide)) r
  rw [readCritical, encodeTrue, hprimitive]
  rfl

theorem readCritical_octets {value : Bytes} (h : Short value) (r : Bytes) :
    readCritical (encodeOctets value ++ r) = some (false, encodeOctets value ++ r) := by
  have helement := reads_encode 0x04 (by decide) h r
  have hother : (ofTag 0x04 value).number ≠ booleanTag := by
    show 4 ≠ booleanTag
    decide
  rw [readCritical, primitive, tagged, encodeOctets]
  simp only [helement, Option.bind_eq_bind, Option.bind_some, if_neg hother, Option.bind_none]

theorem reads_extension {e : Extension} (h : Short e.encode) : Reads readExtension e.encode e := by
  intro r
  obtain ⟨type, critical, value⟩ := e
  have hcontent := Short.of_encode h
  have hsequence := reads_sequence hcontent r
  have hparts : ([encodeOid type] ++ (if critical then [encodeTrue] else []) ++
      [encodeOctets value]).flatten =
        encodeOid type ++
          ((if critical then encodeTrue else []) ++ (encodeOctets value ++ [])) := by
    cases critical <;> simp
  dsimp only at hcontent hsequence
  rw [hparts] at hcontent hsequence
  have hoid := reads_oid hcontent.of_append_left.of_encode
    ((if critical then encodeTrue else []) ++ (encodeOctets value ++ []))
  have hvalue := hcontent.of_append_right.of_append_right.of_append_left.of_encode
  have hcritical : readCritical ((if critical then encodeTrue else []) ++
      (encodeOctets value ++ [])) = some (critical, encodeOctets value ++ []) := by
    cases critical with
    | true => exact reads_critical _
    | false => exact readCritical_octets hvalue []
  have hoctets := reads_primitive 0x04 (n := octetStringTag) rfl (by decide) (by decide)
    hvalue []
  rw [← encodeOctets] at hoctets
  simp only [readExtension, Extension.encode, hsequence, hoid, hcritical, hoctets,
    Option.bind_eq_bind, Option.bind_some, Option.pure_def]

theorem extensions?_encode {extensions : List Extension}
    (h : Short (encodeExplicit 3 (encodeSequence (extensions.map Extension.encode)))) :
    extensions? (encodeExplicit 3 (encodeSequence (extensions.map Extension.encode))) =
      some extensions := by
  have hcontent := Short.of_encode h
  have hheader := header_encode 0xa3 (by decide) hcontent []
  have hsequence := reads_sequence hcontent.of_encode []
  have hall : all readExtension (extensions.map Extension.encode).flatten =
      some (extensions.map id) := by
    apply all_flatten rfl
    intro e he
    exact reads_extension (hcontent.of_mem (List.mem_map_of_mem he))
  have htag : encodeExplicit 3 (encodeSequence (extensions.map Extension.encode)) =
      Der.encode 0xa3 (encodeSequence (extensions.map Extension.encode)) := rfl
  have hnumber : (ofTag 0xa3 []).number = 3 := rfl
  have hne : (Der.encode 0xa3 (encodeSequence (extensions.map Extension.encode))).isEmpty = false :=
    rfl
  rw [List.append_nil] at hheader
  rw [htag, extensions?, hne]
  simp only [hheader, hnumber, hsequence, hall, List.map_id, Option.bind_eq_bind, Option.bind_some]
  rfl

theorem readUniqueIdentifier_extensions {n : Nat} (hn : n ≠ 3) {content : Bytes}
    (h : Short content) :
    readUniqueIdentifier n (encodeExplicit 3 content) = some ((), encodeExplicit 3 content) := by
  have helement := reads_encode 0xa3 (by decide) h []
  have hother : ¬ ((ofTag 0xa3 content).tagClass = .contextSpecific ∧
      (ofTag 0xa3 content).number = n) := fun hn' => hn hn'.2.symm
  have htag : encodeExplicit 3 content = Der.encode 0xa3 content := rfl
  rw [List.append_nil] at helement
  rw [htag]
  simp only [readUniqueIdentifier, helement, if_neg hother]

variable {c : Certificate} {serial : Nat} {algorithm publicKey : Bytes}

theorem body?_encodeBody {issuer : DistinguishedName}
    (hissuer : Reads readName (DistinguishedName.encode c.issuer) issuer)
    (halgorithm : Reads readAlgorithm algorithm ())
    (hpublicKey : Reads readPublicKey publicKey ()) (hsubject : Plain c.subject)
    (h₀ : 0 ≤ yearOfSecond c.notBefore) (h : c.notBefore ≤ c.notAfter)
    (h₁ : yearOfSecond c.notAfter ≤ 9999)
    (hshort : Short (c.encodeBody serial algorithm publicKey)) :
    ∃ content, Reads sequence (c.encodeBody serial algorithm publicKey) content ∧
      body? content = some { c with issuer } := by
  have hpart {part : Bytes} (hmem : part ∈ _) : Short part := hshort.of_mem hmem
  have hversion := reads_version
  have hserialNumber : Short (encodeNatural serial) := hpart (by simp)
  have hserial : Reads (tagged integerTag) (encodeNatural serial) _ :=
    reads_tagged 0x02 rfl (by decide) hserialNumber.of_encode
  have hvalidity := reads_validity h₀ h h₁ (hpart (by simp))
  have hname := reads_name hsubject (hpart (by simp))
  have hextensions :
      Short (encodeExplicit 3 (encodeSequence (c.extensions.map Extension.encode))) :=
    hpart (by simp)
  refine ⟨_, reads_sequence (Short.of_encode hshort), ?_⟩
  simp only [List.flatten_cons, List.flatten_nil, List.append_nil]
  rw [body?, hversion]
  simp only [Option.bind_eq_bind, Option.bind_some, hserial _, halgorithm _, hissuer _,
    hvalidity _, hname _, hpublicKey _,
    readUniqueIdentifier_extensions (n := 1) (by decide) hextensions.of_encode,
    readUniqueIdentifier_extensions (n := 2) (by decide) hextensions.of_encode,
    extensions?_encode hextensions, Option.pure_def]

variable {key : SigningKey} {nonce : Nat}

theorem ofDer?_issue_of_reads {issuer : DistinguishedName}
    (hissuer : Reads readName (DistinguishedName.encode c.issuer) issuer)
    (hpublicKey : Reads readPublicKey publicKey ()) (hsubject : Plain c.subject)
    (h₀ : 0 ≤ yearOfSecond c.notBefore) (h : c.notBefore ≤ c.notAfter)
    (h₁ : yearOfSecond c.notAfter ≤ 9999) (hshort : Short (c.issue serial publicKey key nonce)) :
    ofDer? (c.issue serial publicKey key nonce) = some { c with issuer } := by
  have hpart {part : Bytes} (hmem : part ∈ _) : Short part := hshort.of_mem hmem
  have hbodyShort : Short (c.encodeBody serial key.algorithm publicKey) := hpart (by simp)
  obtain ⟨content, hbody, hread⟩ := body?_encodeBody hissuer (reads_algorithm key) hpublicKey
    hsubject h₀ h h₁ hbodyShort
  have hsequence := reads_sequence (Short.of_encode hshort) []
  have hsignature : Short (encodeBits (key.sign nonce
      (c.encodeBody serial key.algorithm publicKey))) := hpart (by simp)
  have hbits := reads_bitString hsignature.of_encode (isBitString_zero_cons _) []
  rw [List.append_nil] at hsequence
  simp only [List.flatten_cons, List.flatten_nil] at hsequence
  rw [ofDer?, issue]
  simp only [hsequence, hbody _, hread, reads_algorithm key _, hbits, Option.bind_eq_bind,
    Option.bind_some, Option.pure_def]

theorem short_issuer (hshort : Short (c.issue serial publicKey key nonce)) :
    Short (DistinguishedName.encode c.issuer) := by
  have hbody : Short (c.encodeBody serial key.algorithm publicKey) := hshort.of_mem (by simp)
  exact hbody.of_mem (by simp)

theorem short_publicKey (hshort : Short (c.issue serial publicKey key nonce)) :
    Short publicKey := by
  have hbody : Short (c.encodeBody serial key.algorithm publicKey) := hshort.of_mem (by simp)
  exact hbody.of_mem (by simp)

theorem ofDer?_issue (hpublicKey : Reads readPublicKey publicKey ())
    (hsubject : Plain c.subject) (h₀ : 0 ≤ yearOfSecond c.notBefore)
    (h : c.notBefore ≤ c.notAfter) (h₁ : yearOfSecond c.notAfter ≤ 9999)
    (hshort : Short (c.issue serial publicKey key nonce)) :
    ∃ issuer, ofDer? (c.issue serial publicKey key nonce) = some { c with issuer } := by
  obtain ⟨issuer, hissuer⟩ := exists_reads_name (short_issuer hshort)
  exact ⟨issuer, ofDer?_issue_of_reads hissuer hpublicKey hsubject h₀ h h₁ hshort⟩

theorem ofDer?_issue_of_plain (hissuer : Plain c.issuer)
    (hpublicKey : Reads readPublicKey publicKey ()) (hsubject : Plain c.subject)
    (h₀ : 0 ≤ yearOfSecond c.notBefore) (h : c.notBefore ≤ c.notAfter)
    (h₁ : yearOfSecond c.notAfter ≤ 9999) (hshort : Short (c.issue serial publicKey key nonce)) :
    ofDer? (c.issue serial publicKey key nonce) = some c :=
  ofDer?_issue_of_reads (reads_name hissuer (short_issuer hshort)) hpublicKey hsubject
    h₀ h h₁ hshort

end Certificate

end ClusterCerts
