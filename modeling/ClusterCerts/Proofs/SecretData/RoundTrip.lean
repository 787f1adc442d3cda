import ClusterCerts.Outcome
import ClusterCerts.Proofs.Text.Base64
import ClusterCerts.SecretData

/-!
# Reading secret data that was written

An entry name spells its pod and its kind whatever the pod is called, so entries of different
pods never meet. What a map stores under an entry is read back from there, and reading the
secret data of a map gives the map, with nothing to report.
-/

namespace ClusterCerts.SecretData

theorem dot_not_mem_suffix (k : EntryKind) : '.' ∉ k.suffix.toList := by
  cases k <;> decide

theorem ofSuffix?_suffix (k : EntryKind) : EntryKind.ofSuffix? k.suffix = some k := by
  cases k <;> decide

theorem podAndKind?_entryName (pod : String) (k : EntryKind) :
    podAndKind? (entryName pod k) = some (pod, k) := by
  have hname : (entryName pod k).toList = pod.toList ++ '.' :: k.suffix.toList := by
    simp [entryName]
  simp only [podAndKind?, hname, Text.splitLast?_append _ (dot_not_mem_suffix k),
    String.ofList_toList, ofSuffix?_suffix, Option.bind_eq_bind, Option.bind_some, Option.pure_def]

theorem entryName_inj {pod pod' : String} {k k' : EntryKind} :
    entryName pod k = entryName pod' k' ↔ pod = pod' ∧ k = k' := by
  refine ⟨fun h => ?_, fun ⟨hp, hk⟩ => by rw [hp, hk]⟩
  have hs := (podAndKind?_entryName pod k).symm.trans (h ▸ podAndKind?_entryName pod' k')
  simpa using hs

def content (b : Bundle) : EntryKind → Option Bytes
  | .crt => some b.cert
  | .key => some b.key.pem
  | .p12 => b.keyStore.map (·.bytes)
  | .password => b.keyStore.map fun s => Bytes.ofString s.password

theorem mem_entriesOf_iff {pod name text : String} {b : Bundle} :
    (name, text) ∈ entriesOf pod b ↔ ∃ k bytes, content b k = some bytes ∧
      name = entryName pod k ∧ text = Base64.encodeString bytes := by
  have hkinds (P : EntryKind → Prop) : (∃ k, P k) ↔ P .crt ∨ P .key ∨ P .p12 ∨ P .password := by
    refine ⟨fun ⟨k, h⟩ => ?_, ?_⟩
    · cases k <;> simp [h]
    · rintro (h | h | h | h) <;> exact ⟨_, h⟩
  rw [hkinds]
  cases hs : b.keyStore <;> simp [entriesOf, content, hs]

theorem get?_encode (certs : CertificateMap) (pod : String) (k : EntryKind) :
    (encode certs).get? (entryName pod k) =
      ((certs.get? pod).bind fun b => content b k).map Base64.encodeString := by
  have hmem (text : String) :
      (entryName pod k, text) ∈ certs.entries.flatMap (fun e => entriesOf e.1 e.2) ↔
        ((certs.get? pod).bind fun b => content b k).map Base64.encodeString = some text := by
    simp only [List.mem_flatMap, Prod.exists, mem_entriesOf_iff, entryName_inj,
      ← SortedMap.get?_eq_some_iff, Option.map_eq_some_iff, Option.bind_eq_some_iff]
    constructor
    · rintro ⟨pod', b, hb, k', bytes, hc, ⟨rfl, rfl⟩, rfl⟩
      exact ⟨bytes, ⟨b, hb, hc⟩, rfl⟩
    · rintro ⟨bytes, ⟨b, hb, hc⟩, rfl⟩
      exact ⟨pod, b, hb, k, bytes, hc, ⟨rfl, rfl⟩, rfl⟩
  refine Option.ext fun text => ?_
  rw [encode, SortedMap.get?_ofList_iff_of_unique, hmem]
  intro v v' h h'
  exact Option.some.inj (((hmem v).1 h).symm.trans ((hmem v').1 h'))

variable {certs : CertificateMap} {pod : String}

theorem bytes?_encode (k : EntryKind) :
    bytes? (encode certs) pod k = (certs.get? pod).bind fun b => content b k := by
  rw [bytes?, get?_encode]
  cases (certs.get? pod).bind fun b => content b k with
  | none => rfl
  | some bytes => exact Base64.decodeString?_encodeString bytes

theorem isCorrupt_encode (k : EntryKind) : isCorrupt (encode certs) pod k = false := by
  rw [isCorrupt, get?_encode]
  cases (certs.get? pod).bind fun b => content b k with
  | none => rfl
  | some bytes => simp [Base64.decodeString?_encodeString]

theorem bundle_encode : (bundle (encode certs) pod).toOption = certs.get? pod := by
  have hsound : EntryKind.all.any (isCorrupt (encode certs) pod) = false := by
    simp [EntryKind.all, isCorrupt_encode]
  simp only [bundle, hsound, bytes?_encode]
  cases certs.get? pod with
  | none => rfl
  | some b =>
    obtain ⟨key, cert, store⟩ := b
    cases store <;> simp [content, Bytes.toString?_ofString, Except.toOption]

theorem mem_pods_of_get? {data : SecretData} {k : EntryKind} {text : String}
    (h : data.get? (entryName pod k) = some text) : pod ∈ pods data := by
  have hk : entryName pod k ∈ data.keys := SortedMap.mem_keys_iff_exists.2 ⟨text, h⟩
  simp only [pods, SortedSet.mem_ofList, List.mem_filterMap]
  exact ⟨_, hk, by simp [podAndKind?_entryName]⟩

theorem mem_pods_of_bundle {data : SecretData} {b : Bundle} (h : bundle data pod = .ok b) :
    pod ∈ pods data := by
  cases hc : data.get? (entryName pod .crt) with
  | some text => exact mem_pods_of_get? hc
  | none =>
    have hbytes : bytes? data pod .crt = none := by simp [bytes?, hc]
    rw [bundle, hbytes] at h
    split at h <;> cases h

theorem get?_decode (data : SecretData) (pod : String) :
    (decode data).get? pod = (bundle data pod).toOption := by
  refine Option.ext fun b => ?_
  have hmem (b : Bundle) : (pod, b) ∈ data.pods.toList.filterMap (fun pod =>
      (bundle data pod).toOption.map fun b => (pod, b)) ↔ (bundle data pod).toOption = some b := by
    simp only [List.mem_filterMap, Option.map_eq_some_iff, Prod.mk.injEq]
    constructor
    · rintro ⟨pod', -, b', hb, rfl, rfl⟩
      exact hb
    · intro hb
      have hok : bundle data pod = .ok b := by
        cases h : bundle data pod <;> simp_all [Except.toOption]
      exact ⟨pod, mem_pods_of_bundle hok, b, hb, rfl, rfl⟩
  rw [decode, SortedMap.get?_ofList_iff_of_unique, hmem]
  intro v v' h h'
  exact Option.some.inj (((hmem v).1 h).symm.trans ((hmem v').1 h'))

theorem decode_of_encode (certs : CertificateMap) : decode (encode certs) = certs :=
  SortedMap.ext_get? fun pod => by rw [get?_decode, bundle_encode]

theorem exists_of_mem_encode {e : String × String} (h : e ∈ (encode certs).entries) :
    ∃ pod b k bytes, certs.get? pod = some b ∧ content b k = some bytes ∧
      e = (entryName pod k, Base64.encodeString bytes) := by
  obtain ⟨name, text⟩ := e
  have hlist : (name, text) ∈ certs.entries.flatMap fun e => entriesOf e.1 e.2 := by
    rcases SortedMap.mem_or_of_get?_insertAll (SortedMap.get?_eq_some_iff.2 h) with hlist | hempty
    · exact hlist
    · cases hempty
  obtain ⟨⟨pod, b⟩, hb, hentry⟩ := List.mem_flatMap.1 hlist
  obtain ⟨k, bytes, hbytes, rfl, rfl⟩ := mem_entriesOf_iff.1 hentry
  exact ⟨pod, b, k, bytes, SortedMap.get?_eq_some_iff.2 hb, hbytes, rfl⟩

theorem bundle_of_mem_pods (h : pod ∈ (encode certs).pods.toList) :
    ∃ b, bundle (encode certs) pod = .ok b := by
  obtain ⟨name, hname, hpod⟩ := List.mem_filterMap.1 (SortedSet.mem_ofList.1 h)
  obtain ⟨e, he, rfl⟩ := List.mem_map.1 hname
  obtain ⟨pod', b, k, bytes, hb, -, rfl⟩ := exists_of_mem_encode he
  rw [podAndKind?_entryName] at hpod
  obtain rfl : pod' = pod := Option.some.inj hpod
  exact ⟨b, Except.eq_ok_of_toOption (bundle_encode.trans hb)⟩

theorem decodeEvents_encode (certs : CertificateMap) : decodeEvents (encode certs) = [] := by
  rw [decodeEvents, List.append_eq_nil_iff, List.filterMap_eq_nil_iff, List.filterMap_eq_nil_iff]
  constructor
  · intro e he
    obtain ⟨pod, b, k, bytes, -, -, rfl⟩ := exists_of_mem_encode he
    simp [podAndKind?_entryName, Base64.decodeString?_encodeString]
  · intro pod hpod
    obtain ⟨b, hb⟩ := bundle_of_mem_pods hpod
    rw [hb]

/-- Decoding undoes encoding, and finds nothing that is worth a report: no pod is dropped. -/
theorem decode_encode (certs : CertificateMap) :
    decode (encode certs) = certs ∧ decodeEvents (encode certs) = [] :=
  ⟨decode_of_encode certs, decodeEvents_encode certs⟩

end ClusterCerts.SecretData
