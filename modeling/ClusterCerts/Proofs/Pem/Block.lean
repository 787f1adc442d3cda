import ClusterCerts.Pem.Block
import ClusterCerts.Proofs.Pem.RoundTrip

/-!
# Reading the block that was written

The stricter reader of PEM, too, gets the data back from a block that was written, for every
label that has no dashes in it.
-/

namespace ClusterCerts.Pem

open Text

theorem around?_line {line rest : List Char} (hline : '\n' ∉ line) (hhead : rest.head? ≠ some '\n')
    (hrest : around? ['\n', '\n'] rest = none) :
    around? ['\n', '\n'] (line ++ '\n' :: rest) = none := by
  induction line with
  | nil =>
    have hprefix : ¬ ['\n', '\n'].isPrefixOf ('\n' :: rest) = true := by
      rw [List.isPrefixOf_iff_prefix, List.cons_prefix_cons]
      rintro ⟨-, t, rfl⟩
      exact hhead rfl
    rw [List.nil_append, around?, if_neg hprefix, hrest]
    rfl
  | cons c line ih =>
    have hc : '\n' ≠ c := fun hc => hline (hc ▸ List.mem_cons_self)
    have hprefix : ¬ ['\n', '\n'].isPrefixOf (c :: (line ++ '\n' :: rest)) = true := by
      rw [List.isPrefixOf_iff_prefix, List.cons_prefix_cons]
      exact fun h => hc h.1
    rw [List.cons_append, around?, if_neg hprefix, ih fun h => hline (List.mem_cons_of_mem c h)]
    rfl

variable {cs : List Char}

theorem head?_linesOf (k : Nat) (cs : List Char) : (linesOf k cs).head? = cs.head? := by
  cases cs with
  | nil => rw [linesOf]
  | cons c cs => rw [linesOf]; rfl

theorem around?_linesOf (k : Nat) (h : ∀ c ∈ cs, c ∈ Base64.alphabet) :
    around? ['\n', '\n'] (linesOf k cs) = none := by
  induction cs using linesOf.induct (k := k) with
  | case1 =>
    rw [linesOf]
    rfl
  | case2 c cs ih =>
    have hfeed {d : Char} (hd : d ∈ c :: cs) : d ≠ '\n' := (mem_alphabet (h d hd)).2.1
    rw [linesOf]
    apply around?_line
    · intro hmem
      rcases List.mem_cons.1 hmem with hc | hc
      · exact hfeed List.mem_cons_self hc.symm
      · exact hfeed (List.mem_cons_of_mem c (List.mem_of_mem_take hc)) rfl
    · rw [head?_linesOf]
      intro hhead
      exact hfeed (List.mem_cons_of_mem c (List.mem_of_mem_drop (List.mem_of_mem_head? hhead))) rfl
    · exact ih fun d hd => h d (List.mem_cons_of_mem c (List.mem_of_mem_drop hd))

theorem filter_linesOf (k : Nat) (h : ∀ c ∈ cs, c ∈ Base64.alphabet) :
    (linesOf k cs).filter (fun c => !isBlank c) = cs := by
  induction cs using linesOf.induct (k := k) with
  | case1 =>
    rw [linesOf]
    rfl
  | case2 c cs ih =>
    have hrest := ih fun d hd => h d (List.mem_cons_of_mem c (List.mem_of_mem_drop hd))
    have hline : (c :: cs.take k).filter (fun c => !isBlank c) = c :: cs.take k := by
      rw [List.filter_eq_self]
      intro d hd
      have hmem : d ∈ c :: cs := by
        rcases List.mem_cons.1 hd with rfl | hd
        · exact List.mem_cons_self
        · exact List.mem_cons_of_mem c (List.mem_of_mem_take hd)
      rw [(mem_alphabet (h d hmem)).2.2.2]
      rfl
    have hfeed : isBlank '\n' = true := by decide
    rw [linesOf, List.filter_append, hline, List.filter_cons, hfeed, hrest]
    simp

theorem isSpace_eq_false {c : Char} (hfeed : c ≠ '\n') (hblank : isBlank c = false) :
    isSpace c = false := by
  have hspaces : isBlank ' ' = true ∧ isBlank '\t' = true ∧ isBlank '\r' = true := by decide
  rw [isSpace, decide_eq_false_iff_not]
  rintro (rfl | rfl | rfl | rfl)
  · simp [hspaces.1] at hblank
  · simp [hspaces.2.1] at hblank
  · exact hfeed rfl
  · simp [hspaces.2.2] at hblank

theorem dash_not_mem_linesOf {k : Nat} (h : ∀ c ∈ cs, c ∈ Base64.alphabet) :
    '-' ∉ linesOf k cs := by
  intro hmem
  rcases mem_linesOf hmem with hmem | hfeed
  · exact (mem_alphabet (h _ hmem)).2.2.1 rfl
  · cases hfeed

theorem splitHeaders_linesOf (k : Nat) (h : ∀ c ∈ cs, c ∈ Base64.alphabet) :
    splitHeaders (linesOf k cs) = ([], linesOf k cs) := by
  have hreturn : '\r' ∉ linesOf k cs := by
    intro hmem
    rcases mem_linesOf hmem with hmem | hfeed
    · have hblank : isBlank '\r' = true := by decide
      rw [(mem_alphabet (h _ hmem)).2.2.2] at hblank
      cases hblank
    · cases hfeed
  have hnone : around? ['\r', '\n', '\r', '\n'] (linesOf k cs) = none :=
    around?_eq_none List.mem_cons_self hreturn
  rw [splitHeaders, around?_linesOf k h, hnone]

theorem dropWhile_linesOf (h : ∀ c ∈ cs, c ∈ Base64.alphabet) (r : List Char) :
    ('\n' :: (linesOf 63 cs ++ endMark ++ r)).dropWhile isSpace =
      linesOf 63 cs ++ endMark ++ r := by
  have hmark : endMark = '-' :: endMark.tail := by decide
  have hfeed : isSpace '\n' = true := by decide
  have hdash : isSpace '-' = false := by decide
  rw [List.dropWhile_cons, hfeed, if_pos rfl]
  cases cs with
  | nil =>
    rw [linesOf, hmark, List.nil_append, List.cons_append, List.dropWhile_cons, hdash]
    rfl
  | cons c cs =>
    obtain ⟨-, hline, -, hblank⟩ := mem_alphabet (h c List.mem_cons_self)
    rw [linesOf, List.cons_append, List.cons_append, List.cons_append, List.dropWhile_cons,
      isSpace_eq_false hline hblank]
    rfl

theorem blockData?_encode {label : String} (hne : label.toList ≠ []) (hdash : '-' ∉ label.toList)
    (data : Bytes) : blockData? (encode label data) = some data := by
  have halphabet : ∀ c ∈ Base64.encode data, c ∈ Base64.alphabet :=
    fun c hc => Base64.mem_alphabet_of_mem_encode hc
  have htext : (encode label data).toList = [] ++ beginMark ++ (label.toList ++ dashes ++
      ('\n' :: (linesOf 63 (Base64.encode data) ++ endMark ++
        (label.toList ++ dashes ++ ['\n'])))) := by
    simp [encode, encodeChars]
  have hbegin (r : List Char) : around? beginMark ([] ++ beginMark ++ r) = some ([], r) :=
    around?_append (c := '-') (by decide) (by simp) r
  have hlabel (r : List Char) : around? dashes (label.toList ++ dashes ++ r) =
      some (label.toList, r) := around?_append (c := '-') (by decide) hdash r
  have hend (r : List Char) : around? endMark (linesOf 63 (Base64.encode data) ++ endMark ++ r) =
      some (linesOf 63 (Base64.encode data), r) :=
    around?_append (c := '-') (by decide) (dash_not_mem_linesOf halphabet) r
  have hheaders : areHeaders [] = true := by decide
  rw [blockData?, htext]
  simp only [hbegin, hlabel, dropWhile_linesOf halphabet, hend, splitHeaders_linesOf 63 halphabet,
    hheaders, filter_linesOf 63 halphabet, Base64.decode?_encode, Option.bind_eq_bind,
    Option.bind_some, Base64.guard_of, hne, ne_eq, not_false_eq_true, and_self]

end ClusterCerts.Pem
