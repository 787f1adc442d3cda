import ClusterCerts.Proofs.Address.Spellings

/-!
# Addresses read back

The canonical text of an address is one of its spellings, so it reads as that address. A literal has
no characters but decimal and hexadecimal digits, dots, colons and the brackets around it, so a text
with a hyphen is always a name.
-/

namespace ClusterCerts.Address

variable {gs : List UInt16}

theorem readLiteral?_eq_none_of_hyphen {s : String} (h : '-' ∈ s.toList) :
    readLiteral? s = none := by
  rw [Option.eq_none_iff_forall_ne_some]
  intro a ha
  have hliteral : ¬Literal '-' := by unfold Literal; decide
  rcases readLiteral?_iff.1 ha with hplain | ⟨cs, htext, hplain⟩
  · exact hliteral (hplain.literal h)
  · rw [htext] at h
    have hmem : '-' ∈ cs := by simpa using h
    exact hliteral (hplain.literal hmem)

theorem spellsGroup_hexText (g : UInt16) : SpellsGroup (hexText g) g := by
  rw [← group?_eq_some_iff, group?_eq (hexText_ne_nil g)]
  · obtain ⟨ds, hds, hvalue⟩ := exists_mapM_hexText g
    rw [hds, Option.map_some, hvalue, UInt16.ofNat_toNat]
  · exact (Nat.length_toDigits_le_iff (by decide) (by decide)).2 g.toNat_lt

theorem spellsGroup_map_hexText (gs : List UInt16) :
    List.Forall₂ SpellsGroup (gs.map hexText) gs := by
  rw [List.forall₂_map_left_iff, List.forall₂_same]
  exact fun g _ => spellsGroup_hexText g

theorem eq_zeros_append (gs : List UInt16) :
    gs = List.replicate (zeros gs) 0 ++ gs.drop (zeros gs) := by
  induction gs with
  | nil => rfl
  | cons g gs ih =>
    by_cases hg : g = 0
    · have hzeros : zeros (g :: gs) = zeros gs + 1 := by simp [zeros, hg]
      rw [hzeros, List.replicate_succ, List.drop_succ_cons, List.cons_append, ← ih, hg]
    · simp [zeros, hg]

theorem written_mapped {tail : List UInt16} (htail : tail.length = 2) :
    Written ("::ffff:".toList ++ dotted (tail.flatMap fun g => Bytes.ofNat 2 g.toNat))
      (List.replicate 5 0 ++ 0xffff :: tail) := by
  let os := tail.flatMap fun g => Bytes.ofNat 2 g.toNat
  have hos : os.length = 4 := by rw [length_flatMap_groups, htail]
  have hffff : List.Forall₂ SpellsGroup [hexText 0xffff] [0xffff] :=
    .cons (spellsGroup_hexText 0xffff) .nil
  have hgroups : groupsOfOctets os = tail := groupsOfBytes_flatMap tail
  have htext : joined [] ++ "::".toList ++ joined ([hexText 0xffff] ++ [dotted os]) =
      "::ffff:".toList ++ dotted os := by
    have hone : joined [hexText 0xffff] = "ffff".toList := by decide
    rw [joined_append_singleton (List.cons_ne_nil _ _), hone]
    simp [joined]
  have hpos : 0 < 5 := by decide
  have hwritten := Written.gap hpos .nil (.tail hffff hos)
  rwa [hgroups, htext] at hwritten

theorem written_textV6 (h : gs.length = 8) : Written (textV6 gs) gs := by
  by_cases hmapped : gs.take 6 = [0, 0, 0, 0, 0, 0xffff]
  · have hgs : gs = List.replicate 5 0 ++ 0xffff :: gs.drop 6 := by
      conv_lhs => rw [← List.take_append_drop 6 gs, hmapped]
      rfl
    have htail : (gs.drop 6).length = 2 := by simp [h]
    have hwritten := written_mapped htail
    rw [← hgs] at hwritten
    rwa [textV6, if_pos hmapped]
  · let start := gapStart gs
    let len := zeros (gs.drop start)
    have htext : textV6 gs = if 1 < len then
        coloned (gs.take start) ++ "::".toList ++ coloned (gs.drop (start + len))
      else coloned gs := if_neg hmapped
    by_cases hlen : 1 < len
    · have hgs : gs = gs.take start ++ List.replicate len 0 ++ gs.drop (start + len) := by
        conv_lhs => rw [← List.take_append_drop start gs, eq_zeros_append (gs.drop start)]
        rw [List.drop_drop, List.append_assoc]
      have hpos : 0 < len := Nat.lt_trans (by decide) hlen
      have hwritten := Written.gap hpos (spellsGroup_map_hexText (gs.take start))
        (.groups (spellsGroup_map_hexText (gs.drop (start + len))))
      rw [← hgs] at hwritten
      rwa [htext, if_pos hlen]
    · rw [htext, if_neg hlen]
      exact .whole (.groups (spellsGroup_map_hexText gs))

theorem plain_text (a : Address) : Plain a.text.toList a := by
  rw [text, String.toList_ofList]
  cases a with
  | v4 os h => exact .v4 os h
  | v6 gs h => exact .v6 gs h (written_textV6 h)

theorem read?_text (a : Address) : read? a.text = some a := read?_eq_some_iff.2 (plain_text a)

theorem readLiteral?_text (a : Address) : readLiteral? a.text = some a :=
  readLiteral?_iff.2 (.plain (plain_text a))

end ClusterCerts.Address
