import ClusterCerts.Address.Text
import Mathlib.Data.List.Forall2
import Mathlib.Data.List.Induction
import Mathlib.Data.Option.Basic

/-!
# The numbers of an address

An octet is written in one way only, in decimal and without zeros in front. A group has as many
spellings as there are ways to put zeros in front of up to four hexadecimal digits and to choose
the case of each. The reader takes exactly these.
-/

namespace ClusterCerts.Address

variable {cs : List Char} {c : Char} {g : UInt16} {gs : List UInt16}

theorem mapM_eq_some_iff {α β : Type} {f : α → Option β} {xs : List α} {ys : List β} :
    xs.mapM f = some ys ↔ List.Forall₂ (fun x y => f x = some y) xs ys := by
  induction xs generalizing ys with
  | nil => cases ys <;> simp
  | cons x xs ih =>
    simp only [List.mapM_cons, Option.bind_eq_bind, Option.bind_eq_some_iff, Option.pure_def,
      Option.some.injEq]
    constructor
    · rintro ⟨y, hy, rest, hrest, rfl⟩
      exact .cons hy (ih.1 hrest)
    · intro h
      cases h with
      | cons hy hrest => exact ⟨_, hy, _, ih.2 hrest, rfl⟩

theorem forall₂_exists_right {α β : Type} {R : α → β → Prop} {xs : List α} {ys : List β}
    (h : List.Forall₂ R xs ys) {x : α} (hx : x ∈ xs) : ∃ y, R x y := by
  induction h with
  | nil => cases hx
  | cons hy _ ih =>
    rcases List.mem_cons.1 hx with rfl | hx
    · exact ⟨_, hy⟩
    · exact ih hx

def valueOf (base : Nat) (ds : List Nat) : Nat := ds.foldl (fun n d => base * n + d) 0

theorem map_digitChar_eq {base : Nat} (hbase : 1 < base) {ds : List Nat} (hne : ds ≠ [])
    (h : ∀ d ∈ ds, d < base) :
    ∃ k, ds.map Nat.digitChar = List.replicate k '0' ++ Nat.toDigits base (valueOf base ds) := by
  induction ds using List.reverseRecOn with
  | nil => exact absurd rfl hne
  | append_singleton ds d ih =>
    have hd : d < base := h d (by simp)
    have hvalue : valueOf base (ds ++ [d]) = base * valueOf base ds + d := by simp [valueOf]
    rw [hvalue, List.map_append, List.map_singleton, ← Nat.toDigits_of_lt_base hd]
    cases hds : ds with
    | nil => exact ⟨0, by simp [valueOf]⟩
    | cons x xs =>
      rw [← hds]
      obtain ⟨k, hk⟩ := ih (by simp [hds]) fun d hd => h d (List.mem_append_left _ hd)
      rw [hk]
      by_cases hzero : valueOf base ds = 0
      · refine ⟨k + 1, ?_⟩
        simp [hzero, List.replicate_succ']
      · refine ⟨k, ?_⟩
        rw [List.append_assoc, Nat.toDigits_append_toDigits hbase (Nat.pos_of_ne_zero hzero) hd]

theorem exists_digits {base : Nat} (hbase : 1 < base) (n : Nat) : ∃ ds, (∀ d ∈ ds, d < base) ∧
    ds.map Nat.digitChar = Nat.toDigits base n ∧ valueOf base ds = n := by
  induction n using Nat.strongRecOn with
  | ind n ih =>
    by_cases hn : n < base
    · exact ⟨[n], by simpa using hn, by simp [Nat.toDigits_of_lt_base hn], by simp [valueOf]⟩
    · have hn : base ≤ n := Nat.not_lt.1 hn
      obtain ⟨ds, hsmall, hds, hvalue⟩ := ih (n / base) (Nat.div_lt_self (by omega) hbase)
      refine ⟨ds ++ [n % base], ?_, ?_, ?_⟩
      · intro d hd
        rcases List.mem_append.1 hd with hd | hd
        · exact hsmall d hd
        · rw [List.mem_singleton.1 hd]
          exact Nat.mod_lt n (by omega)
      · rw [Nat.toDigits_of_base_le hbase hn, List.map_append, hds]
        rfl
      · have hlast : valueOf base (ds ++ [n % base]) = base * valueOf base ds + n % base := by
          simp [valueOf]
        rw [hlast, hvalue, Nat.div_add_mod]

theorem digitChar_of_isDigit (h : c.isDigit = true) :
    c.toNat - 48 < 10 ∧ Nat.digitChar (c.toNat - 48) = c := by
  obtain ⟨hfirst, hlast⟩ := Char.isDigit_iff_toNat.1 h
  have hnine : '9'.toNat = 57 := rfl
  have hzero : '0'.toNat = 48 := rfl
  have hlt : c.toNat - 48 < 10 := by omega
  refine ⟨hlt, Char.toNat_inj.1 ?_⟩
  rw [Nat.toNat_digitChar_of_lt_ten hlt]
  omega

theorem hexDigit?_eq_none_of_large (h : 128 ≤ c.toNat) : hexDigit? c = none := by
  have hdigit : c.isDigit = false := by
    rw [Bool.eq_false_iff, ne_eq, Char.isDigit_iff_toNat]
    have hnine : '9'.toNat = 57 := rfl
    omega
  have hle (d : Char) (hd : d.toNat < 128) : ¬c ≤ d := fun hcd => by
    have hcode : c.toNat ≤ d.toNat := hcd
    omega
  simp [hexDigit?, hdigit, hle 'f' (by decide), hle 'F' (by decide)]

theorem toLower_of_large (h : 128 ≤ c.toNat) : c.toLower = c := by
  unfold Char.toLower
  refine dif_neg fun hc => ?_
  have hcode : c.toNat ≤ 90 := hc.2
  omega

theorem hexDigit?_spec (c : Char) : hexDigit? c.toLower = hexDigit? c ∧
    ∀ d, hexDigit? c = some d → d < 16 ∧ c.toLower = Nat.digitChar d := by
  by_cases h : c.toNat < 128
  · have hascii : ∀ n : Fin 128, hexDigit? (Char.ofNat n).toLower = hexDigit? (Char.ofNat n) ∧
        ∀ d ∈ hexDigit? (Char.ofNat n), d < 16 ∧ (Char.ofNat n).toLower = Nat.digitChar d := by
      decide
    simpa using hascii ⟨c.toNat, h⟩
  · have hlarge : 128 ≤ c.toNat := Nat.not_lt.1 h
    rw [toLower_of_large hlarge, hexDigit?_eq_none_of_large hlarge]
    simp

theorem hexDigit?_digitChar {d : Nat} (hd : d < 16) : hexDigit? (Nat.digitChar d) = some d := by
  have h : ∀ d : Fin 16, hexDigit? (Nat.digitChar d) = some d.val := by decide
  exact h ⟨d, hd⟩

theorem octet?_toDigits (o : UInt8) : octet? (Nat.toDigits 10 o.toNat) = some o := by
  have h : ∀ n : Fin 256, octet? (Nat.toDigits 10 n) = some (UInt8.ofNat n) := by decide +kernel
  simpa using h ⟨o.toNat, o.toNat_lt⟩

theorem toDigits_ofDigitChars (hne : cs ≠ []) (hdigits : ∀ c ∈ cs, c.isDigit = true)
    (hlead : cs.length = 1 ∨ cs.head? ≠ some '0') :
    Nat.toDigits 10 (Nat.ofDigitChars 10 cs 0) = cs := by
  let ds := cs.map fun c => c.toNat - 48
  have hvalue : valueOf 10 ds = Nat.ofDigitChars 10 cs 0 := by
    simp [ds, valueOf, Nat.ofDigitChars, List.foldl_map]
  have hsmall : ∀ d ∈ ds, d < 10 := by
    simpa [ds] using fun c hc => (digitChar_of_isDigit (hdigits c hc)).1
  have hchars : ds.map Nat.digitChar = cs := by
    rw [List.map_map]
    exact (List.map_congr_left fun c hc => (digitChar_of_isDigit (hdigits c hc)).2).trans
      (List.map_id cs)
  obtain ⟨k, hk⟩ := map_digitChar_eq (by decide) (by simpa [ds] using hne) hsmall
  rw [hchars, hvalue] at hk
  have hpos := List.length_pos_iff.2 (Nat.toDigits_ne_nil (b := 10) (n := Nat.ofDigitChars 10 cs 0))
  cases k with
  | zero => simpa using hk.symm
  | succ k =>
    rcases hlead with hone | hhead
    · have hlength := congrArg List.length hk
      simp only [List.length_append, List.length_replicate] at hlength
      omega
    · rw [hk] at hhead
      simp [List.replicate_succ] at hhead

theorem octet?_eq_some_iff {o : UInt8} : octet? cs = some o ↔ cs = Nat.toDigits 10 o.toNat := by
  constructor
  · intro h
    simp only [octet?, Option.ite_none_right_eq_some, Option.some.injEq] at h
    obtain ⟨⟨hne, -, hdigits, hlead⟩, hsmall, rfl⟩ := h
    rw [UInt8.toNat_ofNat', Nat.mod_eq_of_lt (by omega)]
    exact (toDigits_ofDigitChars hne (List.all_eq_true.1 hdigits) hlead).symm
  · rintro rfl
    exact octet?_toDigits o

def hexText (g : UInt16) : List Char := Nat.toDigits 16 g.toNat

theorem hexText_ne_nil (g : UInt16) : hexText g ≠ [] := Nat.toDigits_ne_nil

/-- Four digits at most, in either case, with or without zeros in front. -/
def SpellsGroup (cs : List Char) (g : UInt16) : Prop :=
  cs.length ≤ 4 ∧ ∃ k, cs.map Char.toLower = List.replicate k '0' ++ hexText g

theorem mapM_hexDigit?_toLower : (cs.map Char.toLower).mapM hexDigit? = cs.mapM hexDigit? := by
  simp [List.mapM_map, (hexDigit?_spec _).1, Function.comp_def]

theorem mapM_hexDigit?_digitChar {ds : List Nat} (h : ∀ d ∈ ds, d < 16) :
    (ds.map Nat.digitChar).mapM hexDigit? = some ds := by
  rw [mapM_eq_some_iff, List.forall₂_map_left_iff, List.forall₂_same]
  exact fun d hd => hexDigit?_digitChar (h d hd)

theorem exists_mapM_hexText (g : UInt16) :
    ∃ ds, (hexText g).mapM hexDigit? = some ds ∧ valueOf 16 ds = g.toNat := by
  have hbase : 1 < 16 := by decide
  obtain ⟨ds, hsmall, hds, hvalue⟩ := exists_digits hbase g.toNat
  exact ⟨ds, by rw [hexText, ← hds, mapM_hexDigit?_digitChar hsmall], hvalue⟩

theorem map_toLower_of_mapM {ds : List Nat} (h : cs.mapM hexDigit? = some ds) :
    cs.map Char.toLower = ds.map Nat.digitChar ∧ ∀ d ∈ ds, d < 16 := by
  have hdigits := mapM_eq_some_iff.1 h
  clear h
  induction hdigits with
  | nil => simp
  | cons hd _ ih =>
    obtain ⟨hsmall, hlower⟩ := (hexDigit?_spec _).2 _ hd
    simpa [hsmall, hlower] using ih

theorem valueOf_zeros_append (base k : Nat) (ds : List Nat) :
    valueOf base (List.replicate k 0 ++ ds) = valueOf base ds := by
  induction k with
  | zero => rfl
  | succ k ih => simpa [valueOf, List.replicate_succ] using ih

theorem group?_eq (hne : cs ≠ []) (hlength : cs.length ≤ 4) :
    group? cs = (cs.mapM hexDigit?).map fun ds => UInt16.ofNat (valueOf 16 ds) := by
  have hguard : (guard (cs ≠ [] ∧ cs.length ≤ 4) : Option Unit) = some () := if_pos ⟨hne, hlength⟩
  simp [group?, hguard, valueOf, Nat.mul_comm, Option.map_eq_bind]

theorem bounds_of_group? (h : group? cs = some g) : cs ≠ [] ∧ cs.length ≤ 4 := by
  by_contra hno
  simp [group?, guard, hno] at h

theorem group?_eq_some_iff : group? cs = some g ↔ SpellsGroup cs g := by
  constructor
  · intro h
    obtain ⟨hne, hlength⟩ := bounds_of_group? h
    rw [group?_eq hne hlength] at h
    obtain ⟨ds, hds, rfl⟩ := Option.map_eq_some_iff.1 h
    obtain ⟨hlower, hsmall⟩ := map_toLower_of_mapM hds
    have hsome : ds ≠ [] := by
      rintro rfl
      simp [hne] at hlower
    obtain ⟨k, hk⟩ := map_digitChar_eq (by decide) hsome hsmall
    have hdigits : (Nat.toDigits 16 (valueOf 16 ds)).length ≤ 4 := by
      have htotal := congrArg List.length (hlower.trans hk)
      simp only [List.length_map, List.length_append, List.length_replicate] at htotal
      omega
    have hvalue : valueOf 16 ds < UInt16.size :=
      (Nat.length_toDigits_le_iff (by decide) (by decide)).1 hdigits
    refine ⟨hlength, k, ?_⟩
    rw [hexText, UInt16.toNat_ofNat_of_lt' hvalue, hlower, hk]
  · rintro ⟨hlength, k, hlower⟩
    have hne : cs ≠ [] := by
      rintro rfl
      simp [hexText_ne_nil] at hlower
    obtain ⟨ds, hds, hvalue⟩ := exists_mapM_hexText g
    have hzeros : (List.replicate k '0').mapM hexDigit? = some (List.replicate k 0) := by
      have hsmall : ∀ d ∈ List.replicate k 0, d < 16 := by simp
      have hmap := mapM_hexDigit?_digitChar hsmall
      rwa [List.map_replicate] at hmap
    rw [group?_eq hne hlength, ← mapM_hexDigit?_toLower, hlower, List.mapM_append, hzeros, hds]
    simp [valueOf_zeros_append, hvalue]

theorem mapM_group?_eq_some_iff {texts : List (List Char)} :
    texts.mapM group? = some gs ↔ List.Forall₂ SpellsGroup texts gs := by
  simp only [mapM_eq_some_iff, group?_eq_some_iff]

end ClusterCerts.Address
