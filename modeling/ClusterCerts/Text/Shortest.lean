import ClusterCerts.Text.Decimal

/-!
# Shortest decimals

The text of a floating point number: the fewest digits that read back as the number, and of
those the nearest. A number is a whole multiple of a power of two, and the reals that round to
it form an interval around it; each decimal grid in turn is tried at the two points next to
the number.
-/

namespace ClusterCerts.Text

structure DecimalDigits where
  digits : Nat
  exponent : Int
deriving DecidableEq, Repr

def ratioPow (base : Nat) (e : Int) : Nat × Nat :=
  if 0 ≤ e then (Nat.pow base e.toNat, 1) else (1, Nat.pow base e.natAbs)

/-- The shortest decimal in the interval around `m * 2 ^ q`. Below the number the interval is
half as wide if `narrow`; its ends belong to it if `closed`. -/
def shortestDigits (m : Nat) (q : Int) (narrow closed : Bool) : DecimalDigits :=
  -- in quarters of a unit in the last place
  let (un, ud) := ratioPow 2 (q - 2)
  let mid := 4 * m * un
  let lo := (4 * m - if narrow then 1 else 2) * un
  let hi := (4 * m + 2) * un
  -- a power of ten above the number
  let top : Int := ((4 * m * un / ud).log2 : Int) * 30103 / 100000 + 2 -
    (if 4 * m * un < ud then ((ud / (4 * m * un)).log2 : Int) * 30103 / 100000 else 0)
  let fits := fun (d : Nat) (gn gd : Nat) =>
    let x := d * gn * ud
    if closed then lo * gd ≤ x && x ≤ hi * gd else lo * gd < x && x < hi * gd
  let tries := (List.range 24).filterMap fun (i : Nat) =>
    let e := top - (i : Int)
    let (gn, gd) := ratioPow 10 e
    let d := mid * gd / (gn * ud)
    let below := mid * gd - d * gn * ud
    let above := (d + 1) * gn * ud - mid * gd
    match 0 < d && fits d gn gd, fits (d + 1) gn gd with
    | true, true => some ⟨if below < above ∨ (below = above ∧ d % 2 = 0) then d else d + 1, e⟩
    | true, false => some ⟨d, e⟩
    | false, true => some ⟨d + 1, e⟩
    | false, false => none
  tries.head?.getD ⟨m, 0⟩

def stripZeros (fuel : Nat) (d : DecimalDigits) : DecimalDigits :=
  match fuel with
  | 0 => d
  | k + 1 =>
    if d.digits % 10 = 0 ∧ d.digits ≠ 0 then stripZeros k ⟨d.digits / 10, d.exponent + 1⟩ else d

def digitsOfBits (bits : Nat) : DecimalDigits :=
  let one : Nat := 1 <<< 52
  let e : Nat := bits / one % 2048
  let f : Nat := bits % one
  let m : Nat := if e = 0 then f else f + one
  let q : Int := (if e = 0 then 1 else (e : Int)) - 1075
  stripZeros 20 (shortestDigits m q (f == 0 && 1 < e) (m % 2 == 0))

/-- Positional between 0.00001 and 10 to the 16, and with an exponent outside; there is always
a point or an exponent. -/
def renderDigits (d : DecimalDigits) : List Char :=
  let ds := Nat.toDigits 10 d.digits
  let n : Int := ds.length
  let point := n + d.exponent
  if 0 ≤ d.exponent ∧ point ≤ 16 then ds ++ List.replicate d.exponent.toNat '0' ++ ".0".toList
  else if 0 < point ∧ point ≤ 16 then ds.take point.toNat ++ '.' :: ds.drop point.toNat
  else if -5 < point ∧ point ≤ 0 then "0.".toList ++ List.replicate point.natAbs '0' ++ ds
  else
    let e := point - 1
    let exponent := (if e < 0 then ['-'] else []) ++ Nat.toDigits 10 e.natAbs
    ds.take 1 ++ (if n = 1 then [] else '.' :: ds.drop 1) ++ 'e' :: exponent

def floatText (x : Float) : String :=
  let bits := x.toBits.toNat
  let signBit : Nat := 1 <<< 63
  let sign := if signBit ≤ bits then ['-'] else []
  let magnitude := bits % signBit
  String.ofList
    (sign ++ if magnitude = 0 then "0.0".toList else renderDigits (digitsOfBits magnitude))

end ClusterCerts.Text
