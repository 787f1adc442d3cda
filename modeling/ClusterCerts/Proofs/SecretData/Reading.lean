import ClusterCerts.Proofs.SecretData.RoundTrip
import Mathlib.Data.List.Induction

/-!
# Reading any secret data

What is read for a pod, whatever the data is: a bundle if and only if the entries of the pod allow
for one, and then the bytes that they spell. Entries of other pods have no part in this, though
they may come in between when all entries are collected in one pass. What was read is written back
as it was, since base64 that is read strictly has one spelling.
-/

namespace ClusterCerts.SecretData

variable {data other : SecretData} {pod name text : String} {k : EntryKind} {bytes : Bytes}
  {b : Bundle}

def Spells (data : SecretData) (pod : String) (k : EntryKind) (bytes : Bytes) : Prop :=
  data.get? (entryName pod k) = some (Base64.encodeString bytes)

/-- The entries of a pod from which a bundle can be read. -/
structure Readable (data : SecretData) (pod : String) : Prop where
  crt : data.contains (entryName pod .crt) = true
  key : data.contains (entryName pod .key) = true
  base64 : ∀ k text, data.get? (entryName pod k) = some text →
    ∃ bytes, text = Base64.encodeString bytes
  password : data.contains (entryName pod .p12) = true → ∀ bytes, Spells data pod .password bytes →
    ∃ text, bytes = Bytes.ofString text

/-- The bundle has what the entries of the pod spell. -/
structure Holds (data : SecretData) (pod : String) (b : Bundle) : Prop where
  cert : Spells data pod .crt b.cert
  key : Spells data pod .key b.key.pem
  keyStore : ∀ s, b.keyStore = some s ↔
    Spells data pod .p12 s.bytes ∧ Spells data pod .password (Bytes.ofString s.password)
  keyStore_isSome : b.keyStore.isSome = true ↔
    data.contains (entryName pod .p12) = true ∧ data.contains (entryName pod .password) = true

theorem bytes?_eq_some_iff : bytes? data pod k = some bytes ↔ Spells data pod k bytes := by
  simp only [bytes?, Spells, Option.bind_eq_some_iff, Base64.decodeString?_eq_some_iff]
  constructor
  · rintro ⟨text, htext, rfl⟩
    exact htext
  · exact fun h => ⟨_, h, rfl⟩

theorem isCorrupt_eq_false_iff : isCorrupt data pod k = false ↔
    ∀ text, data.get? (entryName pod k) = some text →
      ∃ bytes, text = Base64.encodeString bytes := by
  unfold isCorrupt
  cases data.get? (entryName pod k) with
  | none => simp
  | some text =>
    simp only [Option.isNone_eq_false_iff, Option.isSome_iff_exists,
      Base64.decodeString?_eq_some_iff, Option.some.injEq, forall_eq']

theorem all_sound_iff : EntryKind.all.any (isCorrupt data pod) = false ↔
    ∀ k, isCorrupt data pod k = false := by
  have hall (k : EntryKind) : k ∈ EntryKind.all := by cases k <;> decide
  rw [List.any_eq_false]
  exact ⟨fun h k => by simpa using h k (hall k), fun h k _ => by simp [h k]⟩

theorem Spells.contains (h : Spells data pod k bytes) :
    data.contains (entryName pod k) = true := by
  rw [SortedMap.contains, h]
  rfl

theorem Spells.unique {bytes' : Bytes} (h : Spells data pod k bytes)
    (h' : Spells data pod k bytes') : bytes = bytes' :=
  Option.some.inj ((bytes?_eq_some_iff.2 h).symm.trans (bytes?_eq_some_iff.2 h'))

theorem exists_spells (hsound : isCorrupt data pod k = false)
    (h : data.contains (entryName pod k) = true) : ∃ bytes, Spells data pod k bytes := by
  obtain ⟨text, htext⟩ := Option.isSome_iff_exists.1 h
  obtain ⟨bytes, rfl⟩ := isCorrupt_eq_false_iff.1 hsound text htext
  exact ⟨bytes, htext⟩

theorem holds_of_bytes? {cert key : Bytes} {keyStore : Option KeyStore}
    (hcert : bytes? data pod .crt = some cert) (hkey : bytes? data pod .key = some key)
    (hsome : keyStore.isSome = true ↔
      data.contains (entryName pod .p12) = true ∧ data.contains (entryName pod .password) = true)
    (hstore : ∀ s, keyStore = some s →
      Spells data pod .p12 s.bytes ∧ Spells data pod .password (Bytes.ofString s.password)) :
    Holds data pod { key := ⟨key⟩, cert, keyStore } where
  cert := bytes?_eq_some_iff.1 hcert
  key := bytes?_eq_some_iff.1 hkey
  keyStore s := by
    refine ⟨hstore s, fun ⟨hp12, hpassword⟩ => ?_⟩
    obtain ⟨s', hs'⟩ := Option.isSome_iff_exists.1 (hsome.2 ⟨hp12.contains, hpassword.contains⟩)
    obtain ⟨hp12', hpassword'⟩ := hstore s' hs'
    obtain ⟨bytes', password'⟩ := s'
    obtain ⟨bytes, password⟩ := s
    obtain rfl : bytes' = bytes := hp12'.unique hp12
    obtain rfl : password' = password := Bytes.ofString_injective (hpassword'.unique hpassword)
    exact hs'
  keyStore_isSome := hsome

theorem readable_of_bundle (h : bundle data pod = .ok b) :
    Readable data pod ∧ Holds data pod b := by
  rw [bundle] at h
  split at h
  · cases h
  · next hsound =>
    have hsound := all_sound_iff.1 (Bool.eq_false_iff.2 hsound)
    have hbase64 (k : EntryKind) := isCorrupt_eq_false_iff.1 (hsound k)
    split at h
    · next cert key hcert hkey =>
      have hcrt := (bytes?_eq_some_iff.1 hcert).contains
      have hkey' := (bytes?_eq_some_iff.1 hkey).contains
      split at h
      · next stored password hp12 hpassword =>
        rw [bytes?_eq_some_iff] at hp12 hpassword
        split at h
        · next text htext =>
          cases h
          have hutf8 := (Bytes.ofString_of_toString? htext).symm
          refine ⟨⟨hcrt, hkey', hbase64, fun _ bytes hbytes => ⟨text, ?_⟩⟩,
            holds_of_bytes? hcert hkey ?_ ?_⟩
          · exact (hbytes.unique hpassword).trans hutf8
          · exact iff_of_true rfl ⟨hp12.contains, hpassword.contains⟩
          · rintro s hs
            cases hs
            exact ⟨hp12, hutf8 ▸ hpassword⟩
        · cases h
      · next hstore =>
        cases h
        have hnone : ¬(data.contains (entryName pod .p12) = true ∧
            data.contains (entryName pod .password) = true) := by
          rintro ⟨hp12, hpassword⟩
          obtain ⟨stored, hstored⟩ := exists_spells (hsound .p12) hp12
          obtain ⟨password, hspelled⟩ := exists_spells (hsound .password) hpassword
          exact hstore stored password (bytes?_eq_some_iff.2 hstored)
            (bytes?_eq_some_iff.2 hspelled)
        refine ⟨⟨hcrt, hkey', hbase64, fun hp12 bytes hbytes => ?_⟩,
          holds_of_bytes? hcert hkey (iff_of_false (by simp) hnone) (by simp)⟩
        exact absurd ⟨hp12, hbytes.contains⟩ hnone
    · cases h

theorem bundle_of_readable (h : Readable data pod) : ∃ b, bundle data pod = .ok b := by
  have hsound (k : EntryKind) : isCorrupt data pod k = false :=
    isCorrupt_eq_false_iff.2 (h.base64 k)
  obtain ⟨cert, hcert⟩ := exists_spells (hsound .crt) h.crt
  obtain ⟨key, hkey⟩ := exists_spells (hsound .key) h.key
  rw [← bytes?_eq_some_iff] at hcert hkey
  rw [bundle, if_neg (Bool.eq_false_iff.1 (all_sound_iff.2 hsound)), hcert, hkey]
  cases hp12 : bytes? data pod .p12 with
  | none => exact ⟨_, rfl⟩
  | some stored =>
    cases hpassword : bytes? data pod .password with
    | none => exact ⟨_, rfl⟩
    | some password =>
      rw [bytes?_eq_some_iff] at hp12 hpassword
      obtain ⟨text, rfl⟩ := h.password hp12.contains password hpassword
      simp only [Bytes.toString?_ofString]
      exact ⟨_, rfl⟩

theorem bundle_congr (h : ∀ k, other.get? (entryName pod k) = data.get? (entryName pod k)) :
    bundle other pod = bundle data pod := by
  have hcorrupt (k : EntryKind) : isCorrupt other pod k = isCorrupt data pod k := by
    rw [isCorrupt, isCorrupt, h k]
  have hbytes (k : EntryKind) : bytes? other pod k = bytes? data pod k := by
    rw [bytes?, bytes?, h k]
  simp only [bundle, funext hcorrupt, hbytes]

theorem get?_decode_eq_some_iff : data.decode.get? pod = some b ↔ bundle data pod = .ok b := by
  rw [get?_decode]
  exact ⟨Except.eq_ok_of_toOption, fun h => by rw [h]; rfl⟩

theorem mem_decode_keys_iff : pod ∈ data.decode.keys ↔ Readable data pod := by
  rw [SortedMap.mem_keys_iff_exists]
  simp only [get?_decode_eq_some_iff]
  constructor
  · rintro ⟨b, hb⟩
    exact (readable_of_bundle hb).1
  · exact bundle_of_readable

theorem Holds.spells_content (h : Holds data pod b) (hcontent : content b k = some bytes) :
    Spells data pod k bytes := by
  cases k with
  | crt => exact Option.some.inj hcontent ▸ h.cert
  | key => exact Option.some.inj hcontent ▸ h.key
  | p12 =>
    obtain ⟨s, hs, rfl⟩ := Option.map_eq_some_iff.1 hcontent
    exact ((h.keyStore s).1 hs).1
  | password =>
    obtain ⟨s, hs, rfl⟩ := Option.map_eq_some_iff.1 hcontent
    exact ((h.keyStore s).1 hs).2

theorem get?_encode_decode (h : (encode data.decode).get? name = some text) :
    data.get? name = some text := by
  obtain ⟨pod, b, k, bytes, hb, hcontent, he⟩ :=
    exists_of_mem_encode (SortedMap.get?_eq_some_iff.1 h)
  obtain ⟨rfl, rfl⟩ := Prod.mk.inj he
  exact (readable_of_bundle (get?_decode_eq_some_iff.1 hb)).2.spells_content hcontent

/-- What was collected from some entries: the bytes of each pod by the suffix of their entry, and
the pods of which an entry is not base64. -/
structure Collected where
  parts : SortedMap String (SortedMap String Bytes) := ∅
  corrupt : SortedSet String := ∅

namespace Collected

def add (c : Collected) (e : String × String) : Collected :=
  match podAndKind? e.1 with
  | none => c
  | some (pod, k) =>
    match Base64.decodeString? e.2 with
    | some bytes =>
      let parts := ((c.parts.get? pod).getD ∅).insert k.suffix bytes
      { c with parts := c.parts.insert pod parts }
    | none => { c with corrupt := c.corrupt.insert pod }

def bundle? (parts : SortedMap String Bytes) : Option Bundle :=
  match parts.get? EntryKind.crt.suffix, parts.get? EntryKind.key.suffix with
  | some cert, some key =>
    match parts.get? EntryKind.p12.suffix, parts.get? EntryKind.password.suffix with
    | some bytes, some password =>
      (Bytes.toString? password).map fun password =>
        { key := ⟨key⟩, cert, keyStore := some ⟨bytes, password⟩ }
    | _, _ => some { key := ⟨key⟩, cert }
  | _, _ => none

def bundles (c : Collected) : CertificateMap :=
  .ofList (c.parts.entries.filterMap fun e =>
    if e.1 ∈ c.corrupt then none else (bundle? e.2).map fun b => (e.1, b))

def bytes? (c : Collected) (pod : String) (k : EntryKind) : Option Bytes :=
  (c.parts.get? pod).bind fun parts => parts.get? k.suffix

end Collected

def collect (data : SecretData) : Collected := data.entries.foldl Collected.add {}

theorem podAndKind?_eq_some_iff : podAndKind? name = some (pod, k) ↔ name = entryName pod k := by
  refine ⟨fun h => ?_, fun h => h ▸ podAndKind?_entryName pod k⟩
  simp only [podAndKind?, Option.bind_eq_bind, Option.bind_eq_some_iff, Option.pure_def,
    Option.some.injEq, Prod.mk.injEq, Prod.exists] at h
  obtain ⟨before, after, hsplit, kind, hkind, rfl, rfl⟩ := h
  have hsuffix : kind.suffix = String.ofList after := by
    simpa using List.find?_some hkind
  rw [← String.toList_inj, Text.eq_of_splitLast? hsplit]
  simp [entryName, hsuffix]

structure Collects (es : List (String × String)) (c : Collected) : Prop where
  bytes : ∀ pod k bytes, c.bytes? pod k = some bytes ↔
    ∃ text, (entryName pod k, text) ∈ es ∧ Base64.decodeString? text = some bytes
  corrupt : ∀ pod, pod ∈ c.corrupt ↔
    ∃ k text, (entryName pod k, text) ∈ es ∧ Base64.decodeString? text = none

theorem suffix_inj {k k' : EntryKind} : k.suffix = k'.suffix ↔ k = k' := by
  cases k <;> cases k' <;> decide

theorem Collected.bytes?_insert (c : Collected) (pod pod' : String) (k k' : EntryKind)
    (bytes : Bytes) :
    ({ c with parts := c.parts.insert pod (((c.parts.get? pod).getD ∅).insert k.suffix bytes) } :
      Collected).bytes? pod' k' =
      if pod' = pod ∧ k' = k then some bytes else c.bytes? pod' k' := by
  unfold bytes?
  rw [SortedMap.get?_insert]
  by_cases hpod : pod' = pod
  · subst hpod
    simp only [if_true, Option.bind_some, SortedMap.get?_insert, suffix_inj, true_and]
    cases c.parts.get? pod' <;> rfl
  · simp only [hpod, false_and, if_false]

theorem exists_mem_concat_iff {es : List (String × String)} {name' : String} {P : String → Prop} :
    (∃ text', (name', text') ∈ es ++ [(name, text)] ∧ P text') ↔
      (∃ text', (name', text') ∈ es ∧ P text') ∨ name' = name ∧ P text := by
  simp only [List.mem_append, List.mem_singleton, Prod.mk.injEq, or_and_right, exists_or, and_assoc,
    exists_and_left, exists_eq_left]

theorem Collects.add {es : List (String × String)} {c : Collected} (h : Collects es c)
    {e : String × String} (hnew : e.1 ∉ es.map (·.1)) : Collects (es ++ [e]) (c.add e) := by
  obtain ⟨name, text⟩ := e
  cases hname : podAndKind? name with
  | none =>
    -- the name is that of no entry of any pod
    have hother (pod : String) (k : EntryKind) : entryName pod k ≠ name := by
      rintro rfl
      rw [podAndKind?_entryName] at hname
      cases hname
    have hadd : c.add (name, text) = c := by simp [Collected.add, hname]
    rw [hadd]
    constructor
    · simpa [exists_mem_concat_iff, hother] using h.bytes
    · simpa [exists_mem_concat_iff, hother] using h.corrupt
  | some found =>
    obtain ⟨pod, k⟩ := found
    obtain rfl := podAndKind?_eq_some_iff.1 hname
    cases htext : Base64.decodeString? text with
    | none =>
      have hadd : c.add (entryName pod k, text) = { c with corrupt := c.corrupt.insert pod } := by
        simp [Collected.add, hname, htext]
      rw [hadd]
      constructor
      · intro pod' k' bytes
        refine (h.bytes pod' k' bytes).trans ?_
        simp only [exists_mem_concat_iff, htext, reduceCtorEq, and_false, or_false]
      · intro pod'
        simp only [SortedSet.mem_insert, h.corrupt pod', exists_mem_concat_iff, entryName_inj,
          htext, and_true, exists_or, exists_and_left, exists_eq, or_comm]
    | some read =>
      have hadd : c.add (entryName pod k, text) = { c with
          parts := c.parts.insert pod (((c.parts.get? pod).getD ∅).insert k.suffix read) } := by
        simp [Collected.add, hname, htext]
      rw [hadd]
      constructor
      · intro pod' k' bytes
        rw [Collected.bytes?_insert, exists_mem_concat_iff, entryName_inj, htext]
        split
        · next hsame =>
          obtain ⟨rfl, rfl⟩ := hsame
          have hold : ¬∃ text', (entryName pod' k', text') ∈ es ∧
              Base64.decodeString? text' = some bytes := by
            rintro ⟨text', hmem, -⟩
            exact hnew (List.mem_map.2 ⟨_, hmem, rfl⟩)
          simp [hold]
        · next hother => simp [hother, h.bytes]
      · intro pod'
        simpa only [exists_mem_concat_iff, htext, reduceCtorEq, and_false, or_false]
          using h.corrupt pod'

theorem collects_foldl {es : List (String × String)} (h : (es.map (·.1)).Nodup) :
    Collects es (es.foldl Collected.add {}) := by
  induction es using List.reverseRecOn with
  | nil => exact ⟨by simp [Collected.bytes?], by simp⟩
  | append_singleton es e ih =>
    rw [List.map_append, List.nodup_append] at h
    obtain ⟨hes, -, hapart⟩ := h
    rw [List.foldl_append]
    exact (ih hes).add fun hmem => hapart e.1 hmem e.1 (by simp) rfl

theorem collects_collect (data : SecretData) : Collects data.entries (collect data) := by
  apply collects_foldl
  rw [List.Nodup, List.pairwise_map]
  refine data.sorted.imp fun hlt heq => ?_
  rw [heq, Std.ReflOrd.compare_self] at hlt
  cases hlt

theorem bytes?_collect (data : SecretData) (pod : String) (k : EntryKind) :
    (collect data).bytes? pod k = bytes? data pod k := by
  refine Option.ext fun bytes => ?_
  rw [(collects_collect data).bytes, bytes?, Option.bind_eq_some_iff]
  simp only [SortedMap.get?_eq_some_iff]

theorem mem_corrupt_collect_iff :
    pod ∈ (collect data).corrupt ↔ EntryKind.all.any (isCorrupt data pod) = true := by
  rw [← Bool.not_eq_false, all_sound_iff, (collects_collect data).corrupt, not_forall]
  refine exists_congr fun k => ?_
  simp only [Bool.not_eq_false, isCorrupt, ← SortedMap.get?_eq_some_iff]
  cases data.get? (entryName pod k) with
  | none => simp
  | some text => simp

theorem Collected.bundle?_eq (parts : SortedMap String Bytes)
    (h : ∀ k, parts.get? k.suffix = SecretData.bytes? data pod k)
    (hsound : EntryKind.all.any (isCorrupt data pod) = false) :
    bundle? parts = (bundle data pod).toOption := by
  simp only [bundle?, bundle, hsound, h]
  cases SecretData.bytes? data pod .crt with
  | none => rfl
  | some cert =>
    cases SecretData.bytes? data pod .key with
    | none => rfl
    | some key =>
      cases SecretData.bytes? data pod .p12 with
      | none => rfl
      | some bytes =>
        cases SecretData.bytes? data pod .password with
        | none => rfl
        | some password =>
          cases htext : Bytes.toString? password with
          | none => simp [htext, Except.toOption]
          | some text => simp [htext, Except.toOption]

theorem bundles_collect (data : SecretData) : (collect data).bundles = data.decode := by
  refine SortedMap.ext_get? fun pod => ?_
  rw [get?_decode]
  refine Option.ext fun b => ?_
  have hmem (b : Bundle) : (pod, b) ∈ (collect data).parts.entries.filterMap (fun e =>
      if e.1 ∈ (collect data).corrupt then none
        else (Collected.bundle? e.2).map fun b => (e.1, b)) ↔
      (bundle data pod).toOption = some b := by
    simp only [List.mem_filterMap, Option.ite_none_left_eq_some, Option.map_eq_some_iff,
      Prod.mk.injEq, Prod.exists, ← SortedMap.get?_eq_some_iff, mem_corrupt_collect_iff,
      Bool.not_eq_true]
    constructor
    · rintro ⟨pod', parts, hparts, hsound, b', hb, rfl, rfl⟩
      rw [← Collected.bundle?_eq parts (fun k => ?_) hsound, hb]
      rw [← bytes?_collect, Collected.bytes?, hparts, Option.bind_some]
    · intro hb
      have hok := Except.eq_ok_of_toOption hb
      have hsound : EntryKind.all.any (isCorrupt data pod) = false :=
        all_sound_iff.2 fun k => isCorrupt_eq_false_iff.2 ((readable_of_bundle hok).1.base64 k)
      have hcrt := bytes?_eq_some_iff.2 (readable_of_bundle hok).2.cert
      rw [← bytes?_collect] at hcrt
      obtain ⟨parts, hparts, -⟩ := Option.bind_eq_some_iff.1 hcrt
      refine ⟨pod, parts, hparts, hsound, b, ?_, rfl, rfl⟩
      rw [Collected.bundle?_eq parts (fun k => ?_) hsound, hb]
      rw [← bytes?_collect, Collected.bytes?, hparts, Option.bind_some]
  rw [Collected.bundles, SortedMap.get?_ofList_iff_of_unique, hmem]
  intro v v' h h'
  exact Option.some.inj (((hmem v).1 h).symm.trans ((hmem v').1 h'))

/-- Reading is exact and local to a pod. A pod has a bundle if and only if its entries are
readable, the bundle has what they spell, and other entries have no part in it. Reading all
entries in one pass comes to the same, and writing what was read gives back entries of the data
with the very same texts. -/
theorem decode_exact (data : SecretData) :
    (∀ pod, pod ∈ data.decode.keys ↔ Readable data pod) ∧
      (∀ pod b, data.decode.get? pod = some b → Holds data pod b) ∧
      (∀ pod other, (∀ k, other.get? (entryName pod k) = data.get? (entryName pod k)) →
        (decode other).get? pod = data.decode.get? pod) ∧
      (collect data).bundles = data.decode ∧
      ∀ name text, (encode data.decode).get? name = some text → data.get? name = some text := by
  refine ⟨fun pod => mem_decode_keys_iff, fun pod b hb => ?_, fun pod other h => ?_,
    bundles_collect data, fun name text => get?_encode_decode⟩
  · exact (readable_of_bundle (get?_decode_eq_some_iff.1 hb)).2
  · rw [get?_decode, get?_decode, bundle_congr h]

end ClusterCerts.SecretData
