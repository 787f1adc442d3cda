import ClusterCerts.Certificate.AltNames
import ClusterCerts.Event
import ClusterCerts.Instant
import ClusterCerts.Pem
import ClusterCerts.Subject

/-!
# Stored certificates

What is asked of the bytes of a stored certificate, which are PEM or DER: its end of validity,
its common name, its alternative names, and whether these still fit a subject. The bytes may
be anything; a certificate that cannot be read fits no subject.
-/

namespace ClusterCerts.Stored

/-- The DER form. Bytes that begin like PEM have to be PEM; all others are taken as they are. -/
def der (cert : Bytes) : Except Error Bytes :=
  if (Bytes.ofString "-----BEGIN").isPrefixOf cert then
    match Pem.decode? cert with
    | some data => .ok data
    | none => .error (.parse .pem)
  else .ok cert

def certificate (cert : Bytes) : Except Error Certificate := do
  match Certificate.ofDer? (← der cert) with
  | some c => return c
  | none => throw (.parse .certificate)

def notAfter (cert : Bytes) : Except Error Int := return (← certificate cert).notAfter

def textTags : List Nat :=
  [Der.utf8StringTag, Der.numericStringTag, Der.printableStringTag, Der.ia5StringTag]

def commonName (cert : Bytes) : Except Error String := do
  match (← certificate cert).commonNameAttribute? with
  | none => throw (.parse .noCommonName)
  | some a =>
    match if a.tag ∈ textTags then Bytes.toString? a.value else none with
    | some s => return s
    | none => throw (.parse .commonName)

/-- Whether validity ends within so many days of an instant. A threshold before all instants
has passed. -/
def isExpiringAt (cert : Bytes) (renewalDays : UInt32) (now : Instant) : Except Error Bool := do
  let ends ← notAfter cert
  match Instant.ofSeconds? (ends - 86400 * renewalDays.toNat) with
  | some threshold => return threshold.Before now
  | none => return true

def readNames (cert : Bytes) : Except NamesFault (SortedSet String) :=
  match der cert with
  | .error cause => .error (.envelope cause)
  | .ok data =>
    match Certificate.ofDer? data with
    | none => .error .certificate
    | some c =>
      match c.altNames? with
      | none => .error .extension
      | some names => .ok (SortedSet.ofList (names.filterMap GeneralName.text?))

def altNames? (cert : Bytes) : Option (SortedSet String) := (readNames cert).toOption

def altNamesMatch (current : Option (SortedSet String)) (desired : SortedSet String) : Bool :=
  current = some desired

def subjectChanged (cert : Bytes) (desired : Subject) : Bool :=
  !altNamesMatch (altNames? cert) desired.altNames

def comparisonEvents (cert : Bytes) (desired : Subject) (pod : String) : List Event :=
  let current := altNames? cert
  (match readNames cert with
    | .ok _ => []
    | .error cause => [.certUnreadable cause]) ++
  if altNamesMatch current desired.altNames then [.altNamesMatch pod]
  else [.altNamesDiffer pod, .currentAltNames current, .desiredAltNames desired.altNames]

theorem notAfter_of_certificate {cert : Bytes} {c : Certificate} (h : certificate cert = .ok c) :
    notAfter cert = .ok c.notAfter := by
  rw [notAfter, h]
  rfl

theorem commonName_of_certificate {cert : Bytes} {c : Certificate} {a : Attribute} {name : String}
    (h : certificate cert = .ok c) (ha : c.commonNameAttribute? = some a) (htag : a.tag ∈ textTags)
    (hname : Bytes.toString? a.value = some name) : commonName cert = .ok name := by
  rw [commonName, h]
  simp only [bind, Except.bind, ha, if_pos htag, hname]
  rfl

theorem altNames?_eq (cert : Bytes) : altNames? cert =
    ((certificate cert).toOption.bind Certificate.altNames?).map fun names =>
      SortedSet.ofList (names.filterMap GeneralName.text?) := by
  rw [altNames?, readNames, certificate]
  cases der cert with
  | error cause => rfl
  | ok data =>
    simp only [bind, Except.bind]
    cases Certificate.ofDer? data with
    | none => rfl
    | some c =>
      simp only [pure, Except.pure, Except.toOption, Option.bind_some]
      cases c.altNames? <;> rfl

theorem altNames?_of_certificate {cert : Bytes} {c : Certificate} {names : List GeneralName}
    (h : certificate cert = .ok c) (hnames : c.altNames? = some names) :
    altNames? cert = some (SortedSet.ofList (names.filterMap GeneralName.text?)) := by
  rw [altNames?_eq, h]
  simp only [Except.toOption, Option.bind_some, hnames, Option.map_some]

theorem subjectChanged_eq_false_iff {cert : Bytes} {desired : Subject} :
    subjectChanged cert desired = false ↔ altNames? cert = some desired.altNames := by
  simp [subjectChanged, altNamesMatch]

end ClusterCerts.Stored
