import ClusterCerts.Proofs.Certificate.Reading
import ClusterCerts.Subject

/-!
# Reading alternative names that were written

DNS names and addresses that were written into the extension read back in their order, as the
names and the addresses they were, and have these as their texts.
-/

namespace ClusterCerts

namespace GeneralName

open Der

def write : GeneralName → Bytes
  | dns name => encodeImplicit 2 (Bytes.ofString name)
  | ip bytes => encodeImplicit 7 bytes
  | _ => []

def ofSubject (dnsNames : List String) (addresses : List Address) : List GeneralName :=
  dnsNames.map dns ++ addresses.map fun a => ip a.toBytes

theorem reads_dns {name : String} (h : Short (dns name).write) :
    Reads read (dns name).write (dns name) := by
  intro r
  have helement := reads_encode 0x82 (by decide) h.of_encode r
  have hname : ofElement? (ofTag 0x82 (Bytes.ofString name)) = some (dns name) := by
    show (Bytes.toString? (Bytes.ofString name)).map dns = some (dns name)
    rw [Bytes.toString?_ofString]
    rfl
  have htag : (dns name).write = Der.encode 0x82 (Bytes.ofString name) := rfl
  rw [htag, read]
  simp only [helement, hname, Option.bind_eq_bind, Option.bind_some, Option.pure_def]

theorem reads_ip {bytes : Bytes} (h : Short (ip bytes).write) :
    Reads read (ip bytes).write (ip bytes) := by
  intro r
  have helement := reads_encode 0x87 (by decide) h.of_encode r
  have hname : ofElement? (ofTag 0x87 bytes) = some (ip bytes) := rfl
  have htag : (ip bytes).write = Der.encode 0x87 bytes := rfl
  rw [htag, read]
  simp only [helement, hname, Option.bind_eq_bind, Option.bind_some, Option.pure_def]

variable {dnsNames : List String} {addresses : List Address}

theorem altNames_value (dnsNames : List String) (addresses : List Address) :
    (Extension.altNames dnsNames addresses).value =
      encodeSequence ((ofSubject dnsNames addresses).map write) := by
  simp only [Extension.altNames, ofSubject, List.map_append, List.map_map]
  rfl

theorem list?_altNames (h : Short (Extension.altNames dnsNames addresses).value) :
    list? (Extension.altNames dnsNames addresses).value = some (ofSubject dnsNames addresses) := by
  rw [altNames_value] at h ⊢
  have hsequence := reads_sequence h.of_encode []
  have hall : all read ((ofSubject dnsNames addresses).map write).flatten =
      some ((ofSubject dnsNames addresses).map id) := by
    apply all_flatten rfl
    intro name hname
    have hshort := h.of_mem (List.mem_map_of_mem hname)
    rcases List.mem_append.1 hname with hname | hname
    · obtain ⟨s, -, rfl⟩ := List.mem_map.1 hname
      exact reads_dns hshort
    · obtain ⟨a, -, rfl⟩ := List.mem_map.1 hname
      exact reads_ip hshort
  rw [List.append_nil] at hsequence
  simp only [list?, hsequence, hall, List.map_id, Option.bind_eq_bind, Option.bind_some]

theorem texts_ofSubject (dnsNames : List String) (addresses : List Address) :
    (ofSubject dnsNames addresses).filterMap text? = dnsNames ++ addresses.map Address.text := by
  have hdns : (dnsNames.map dns).filterMap text? = dnsNames := by
    rw [List.filterMap_map]
    exact List.filterMap_some
  have hip : (addresses.map fun a => ip a.toBytes).filterMap text? =
      addresses.map Address.text := by
    have htext : text? ∘ (fun a : Address => ip a.toBytes) = some ∘ Address.text := by
      funext a
      simp [text?, Address.ofBytes?_toBytes]
    rw [List.filterMap_map, htext, List.filterMap_eq_map]
  rw [ofSubject, List.filterMap_append, hdns, hip]

end GeneralName

theorem Subject.ofList_texts (s : Subject) :
    SortedSet.ofList ((GeneralName.ofSubject s.dnsNames.toList s.addresses.toList).filterMap
      GeneralName.text?) = s.altNames := by
  rw [GeneralName.texts_ofSubject]
  apply SortedSet.ext_mem
  intro name
  rw [altNames, SortedSet.mem_ofList, SortedSet.mem_insertAll, List.mem_append]
  exact Or.comm

end ClusterCerts
