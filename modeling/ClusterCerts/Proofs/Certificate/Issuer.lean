import ClusterCerts.Certificate.Encode
import ClusterCerts.Proofs.Certificate.Reading

/-!
# Names of issuers

The name that a CA writes as the issuer has each type of attribute once, in its first place and
with its last value. So it is the subject that it was made from if and only if no type is repeated
there.
-/

namespace ClusterCerts

namespace Attribute

variable {a b : Attribute} {as bs : List Attribute}

/-- Each type of attribute once, in its first place and with its last value. -/
def merge (as : List Attribute) : List Attribute := as.foldl (fun done a => a.put done) []

theorem put_of_not_mem (h : a.oid ∉ bs.map oid) : a.put bs = bs ++ [a] := by
  induction bs with
  | nil => rfl
  | cons b bs ih =>
    rw [List.map_cons, List.mem_cons, not_or] at h
    rw [put, if_neg (Ne.symm h.1), ih h.2]
    rfl

theorem map_oid_put_of_mem (h : a.oid ∈ bs.map oid) : (a.put bs).map oid = bs.map oid := by
  induction bs with
  | nil => cases h
  | cons b bs ih =>
    rw [put]
    split
    · next hb => rw [List.map_cons, List.map_cons, hb]
    · next hb =>
      rw [List.map_cons, List.mem_cons] at h
      rw [List.map_cons, List.map_cons, ih (h.resolve_left (Ne.symm hb))]

theorem nodup_put (h : (bs.map oid).Nodup) : ((a.put bs).map oid).Nodup := by
  by_cases ha : a.oid ∈ bs.map oid
  · rw [map_oid_put_of_mem ha]
    exact h
  · rw [put_of_not_mem ha, List.map_append, List.nodup_append]
    refine ⟨h, by simp, ?_⟩
    intro o ho o' ho' heq
    rw [List.map_singleton, List.mem_singleton] at ho'
    exact ha (ho' ▸ heq ▸ ho)

theorem mem_put (h : b ∈ a.put bs) : b = a ∨ b ∈ bs := by
  induction bs with
  | nil => exact .inl (List.mem_singleton.1 h)
  | cons c bs ih =>
    rw [put] at h
    split at h
    · exact (List.mem_cons.1 h).imp_right fun h => List.mem_cons_of_mem c h
    · rcases List.mem_cons.1 h with rfl | h
      · exact .inr List.mem_cons_self
      · exact (ih h).imp_right fun h => List.mem_cons_of_mem c h

theorem nodup_foldl_put (h : (bs.map oid).Nodup) :
    ((as.foldl (fun done a => a.put done) bs).map oid).Nodup := by
  induction as generalizing bs with
  | nil => exact h
  | cons a as ih => exact ih (nodup_put h)

theorem mem_foldl_put (h : b ∈ as.foldl (fun done a => a.put done) bs) : b ∈ as ∨ b ∈ bs := by
  induction as generalizing bs with
  | nil => exact .inr h
  | cons a as ih =>
    rcases ih h with has | hput
    · exact .inl (List.mem_cons_of_mem a has)
    · rcases mem_put hput with rfl | hbs
      · exact .inl List.mem_cons_self
      · exact .inr hbs

theorem foldl_put_of_nodup (h : ((bs ++ as).map oid).Nodup) :
    as.foldl (fun done a => a.put done) bs = bs ++ as := by
  induction as generalizing bs with
  | nil => rw [List.append_nil]; rfl
  | cons a as ih =>
    have happend : bs ++ a :: as = (bs ++ [a]) ++ as := by simp
    have hnew : a.oid ∉ bs.map oid := by
      intro hmem
      rw [List.map_append, List.nodup_append] at h
      exact h.2.2 _ hmem _ (List.mem_map_of_mem List.mem_cons_self) rfl
    rw [List.foldl_cons, put_of_not_mem hnew, happend]
    exact ih (happend ▸ h)

theorem merge_eq_self_iff : merge as = as ↔ (as.map oid).Nodup := by
  constructor
  · intro h
    rw [← h]
    exact nodup_foldl_put .nil
  · intro h
    exact foldl_put_of_nodup (List.nil_append as ▸ h)

theorem mem_merge (h : a ∈ merge as) : a ∈ as :=
  (mem_foldl_put h).resolve_right List.not_mem_nil

theorem tag_lt_of_isText (h : a.isText = true) : a.tag < 31 := by
  by_contra htag
  have hother : ∀ n ∈ [Der.utf8StringTag, Der.printableStringTag, Der.ia5StringTag,
      Der.teletexStringTag, Der.bmpStringTag, Der.universalStringTag], a.tag ≠ n := by
    intro n hn heq
    have hsmall : ∀ n ∈ [Der.utf8StringTag, Der.printableStringTag, Der.ia5StringTag,
      Der.teletexStringTag, Der.bmpStringTag, Der.universalStringTag], n < 31 := by decide
    exact htag (heq ▸ hsmall n hn)
  simp at hother
  simp [isText, hother] at h

end Attribute

namespace DistinguishedName

variable {as bs : List Attribute}

@[simp] theorem flatten_ofAttributes (as : List Attribute) : (ofAttributes as).flatten = as := by
  induction as with
  | nil => rfl
  | cons a as ih => exact congrArg (a :: ·) ih

theorem ofAttributes_inj : ofAttributes as = ofAttributes bs ↔ as = bs := by
  constructor
  · intro h
    rw [← flatten_ofAttributes as, h, flatten_ofAttributes]
  · exact congrArg ofAttributes

theorem plain_ofAttributes (h : ∀ a ∈ as, a.tag < 31) : Certificate.Plain (ofAttributes as) := by
  intro group hgroup
  obtain ⟨a, ha, rfl⟩ := List.mem_map.1 hgroup
  refine ⟨by simp, ?_⟩
  intro b hb
  rw [List.mem_singleton.1 hb]
  exact h a ha

theorem of_plainAttributes? {name : DistinguishedName}
    (h : Certificate.plainAttributes? name = some as) :
    name = ofAttributes as ∧ ∀ a ∈ as, a.isText = true := by
  induction name generalizing as with
  | nil =>
    cases h
    exact ⟨rfl, by simp⟩
  | cons group name ih =>
    rw [Certificate.plainAttributes?, List.mapM_cons] at h
    simp only [Option.bind_eq_bind, Option.bind_eq_some_iff, Option.pure_def,
      Option.some.injEq] at h
    obtain ⟨a, ha, rest, hrest, rfl⟩ := h
    obtain ⟨hname, htext⟩ := ih hrest
    split at ha
    · split at ha
      · next b hb =>
        cases ha
        exact ⟨by rw [hname]; rfl, List.forall_mem_cons.2 ⟨hb, htext⟩⟩
      · cases ha
    · cases ha

end DistinguishedName

end ClusterCerts
