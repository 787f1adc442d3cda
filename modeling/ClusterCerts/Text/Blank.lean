import ClusterCerts.Text.Ranges

/-!
# Blanks

The characters with the property white space, and texts without blanks at their end.
-/

namespace ClusterCerts.Text

/-- Code points with the property `White_Space`. -/
def blank : CodeRanges :=
  [(0x9, 0xD), (0x20, 0x20), (0x85, 0x85), (0xA0, 0xA0), (0x1680, 0x1680), (0x2000, 0x200A),
   (0x2028, 0x2029), (0x202F, 0x202F), (0x205F, 0x205F), (0x3000, 0x3000)]

def isBlank (c : Char) : Bool := blank.contains c

def trimEnd (cs : List Char) : List Char := (cs.reverse.dropWhile isBlank).reverse

theorem trimEnd_eq {cs : List Char} (h : ∀ c ∈ cs, isBlank c = false) : trimEnd cs = cs := by
  have hdrop : cs.reverse.dropWhile isBlank = cs.reverse := by
    cases hcs : cs.reverse with
    | nil => rfl
    | cons c r =>
      have hmem : c ∈ cs := List.mem_reverse.1 (hcs ▸ List.mem_cons_self)
      rw [List.dropWhile_cons, h c hmem]
      rfl
  rw [trimEnd, hdrop, List.reverse_reverse]

end ClusterCerts.Text
