/-! Binary64 values held by their bit pattern. -/
namespace SellerSync

/-- A binary64 floating-point value by its bit pattern, so that values compare by identity and
reduce in proofs; arithmetic goes through `Float`. -/
structure Binary64 where
  bits : UInt64
  deriving DecidableEq, Repr, Inhabited

namespace Binary64

def ofFloat (f : Float) : Binary64 := ⟨f.toBits⟩

def toFloat (x : Binary64) : Float := Float.ofBits x.bits

def negative (x : Binary64) : Bool := (x.bits >>> 63) == 1

def field (x : Binary64) : Nat := ((x.bits >>> 52) &&& 0x7FF).toNat

def fraction (x : Binary64) : Nat := (x.bits &&& 0xFFFFFFFFFFFFF).toNat

def isFinite (x : Binary64) : Bool := x.field != 2047

def isNaN (x : Binary64) : Bool := x.field == 2047 && x.fraction != 0

def isZero (x : Binary64) : Bool := x.field == 0 && x.fraction == 0

def significand (x : Binary64) : Nat :=
  if x.field = 0 then x.fraction else x.fraction + Nat.pow 2 52

def exponent (x : Binary64) : Int :=
  if x.field = 0 then -1074 else (x.field : Int) - 1075

def make (negative : Bool) (field fraction : Nat) : Binary64 :=
  ⟨((if negative then (1 : UInt64) else 0) <<< 63) ||| (field.toUInt64 <<< 52) |||
    fraction.toUInt64⟩

def infinity (negative : Bool) : Binary64 := make negative 2047 0

def zero (negative : Bool) : Binary64 := make negative 0 0

def nan : Binary64 := make false 2047 (Nat.pow 2 51)

def neg (x : Binary64) : Binary64 := ⟨x.bits ^^^ 0x8000000000000000⟩

def divPow2 (num den : Nat) (k : Int) : Nat × Nat × Nat :=
  if 0 ≤ k then
    let d := den * Nat.pow 2 k.toNat
    (num / d, num % d, d)
  else
    let n := num * Nat.pow 2 (-k).toNat
    (n / den, n % den, den)

def ofRatio (negative : Bool) (num den : Nat) : Binary64 :=
  if num = 0 ∨ den = 0 then zero negative else
  let k0 : Int := (num.log2 : Int) - (den.log2 : Int) - 52
  let k1 := if (divPow2 num den k0).1 < Nat.pow 2 52 then k0 - 1 else k0
  let k := max k1 (-1074)
  let (q, r, d) := divPow2 num den k
  let q := if 2 * r > d ∨ (2 * r = d ∧ q % 2 = 1) then q + 1 else q
  let (q, k) := if q = Nat.pow 2 53 then (Nat.pow 2 52, k + 1) else (q, k)
  if q < Nat.pow 2 52 then make negative 0 q
  else
    let field := k + 1075
    if field ≥ 2047 then infinity negative else make negative field.toNat (q - Nat.pow 2 52)

def decimalLength (n : Nat) : Nat := (Nat.repr n).length

def ofDecimal (negative : Bool) (digits : Nat) (exp10 : Int) : Binary64 :=
  if digits = 0 then zero negative
  else if exp10 + decimalLength digits > 310 then infinity negative
  else if exp10 + decimalLength digits < -330 then zero negative
  else if 0 ≤ exp10 then ofRatio negative (digits * Nat.pow 10 exp10.toNat) 1
  else ofRatio negative digits (Nat.pow 10 (-exp10).toNat)

def ofInt (n : Int) : Binary64 := ofRatio (n < 0) n.natAbs 1

def scaled (x : Nat) (e2 p : Int) : Nat × Nat :=
  (x * Nat.pow 2 e2.toNat * Nat.pow 10 (-p).toNat, Nat.pow 2 (-e2).toNat * Nat.pow 10 p.toNat)

def decimalExponent (m : Nat) (e : Int) : Int :=
  let (n, d) := scaled m e (-400)
  (decimalLength (n / d) : Int) - 1 - 400

def stripZeros (d : Nat) (p : Int) : (fuel : Nat) → Nat × Int
  | 0 => (d, p)
  | fuel + 1 => if d ≠ 0 ∧ d % 10 = 0 then stripZeros (d / 10) (p + 1) fuel else (d, p)

def roundHalfEven (n d : Nat) : Nat :=
  let q := n / d
  let r := n % d
  if 2 * r > d ∨ (2 * r = d ∧ q % 2 = 1) then q + 1 else q

def searchDigits (v lo hi : Nat) (e2 t : Int) (inclusive : Bool) :
    (n : Nat) → (fuel : Nat) → Nat × Int
  | n, 0 => (roundHalfEven (scaled v e2 (t - n + 1)).1 (scaled v e2 (t - n + 1)).2, t - n + 1)
  | n, fuel + 1 =>
    let p := t - n + 1
    let (ln, ld) := scaled lo e2 p
    let (hn, hd) := scaled hi e2 p
    let dLow := if inclusive then (ln + ld - 1) / ld else ln / ld + 1
    let dHigh := if inclusive then hn / hd else if hn % hd = 0 then hn / hd - 1 else hn / hd
    if dLow ≤ dHigh then
      let (vn, vd) := scaled v e2 p
      let near := roundHalfEven vn vd
      (max dLow (min dHigh near), p)
    else searchDigits v lo hi e2 t inclusive (n + 1) fuel

def shortest (x : Binary64) : Nat × Int :=
  let m := x.significand
  let e2 := x.exponent - 2
  let v := 4 * m
  let lo := if x.fraction = 0 ∧ x.field > 1 then v - 1 else v - 2
  let (d, p) := searchDigits v lo (v + 2) e2 (decimalExponent m x.exponent) (m % 2 = 0) 1 17
  stripZeros d p 40

def zeros (n : Nat) : String := String.ofList (List.replicate n '0')

def toJsonText (x : Binary64) : String :=
  let sign := if x.negative then "-" else ""
  if x.isZero then sign ++ "0.0" else
  let (d, k) := x.shortest
  let ds := Nat.repr d
  let len : Int := ds.length
  let kk := len + k
  let body :=
    if 0 ≤ k ∧ kk ≤ 16 then ds ++ zeros k.toNat ++ ".0"
    else if 0 < kk ∧ kk ≤ 16 then
      String.ofList (ds.toList.take kk.toNat) ++ "." ++ String.ofList (ds.toList.drop kk.toNat)
    else if -5 < kk ∧ kk ≤ 0 then "0." ++ zeros (-kk).toNat ++ ds
    else
      let e := (if kk - 1 < 0 then "" else "+") ++ toString (kk - 1)
      if ds.length = 1 then ds ++ "e" ++ e
      else String.ofList (ds.toList.take 1) ++ "." ++ String.ofList (ds.toList.drop 1) ++ "e" ++ e
  sign ++ body

def toPlainText (x : Binary64) : String :=
  if x.isNaN then "NaN"
  else if !x.isFinite then (if x.negative then "-inf" else "inf")
  else
  let sign := if x.negative then "-" else ""
  if x.isZero then sign ++ "0" else
  let (d, k) := x.shortest
  let ds := Nat.repr d
  let kk := (ds.length : Int) + k
  let body :=
    if 0 ≤ k then ds ++ zeros k.toNat
    else if 0 < kk then
      String.ofList (ds.toList.take kk.toNat) ++ "." ++ String.ofList (ds.toList.drop kk.toNat)
    else "0." ++ zeros (-kk).toNat ++ ds
  sign ++ body

def toRatio (x : Binary64) : Bool × Nat × Nat :=
  (x.negative, x.significand * Nat.pow 2 x.exponent.toNat, Nat.pow 2 (-x.exponent).toNat)

def mul (a b : Binary64) : Binary64 :=
  let (sa, na, da) := a.toRatio
  let (sb, nb, db) := b.toRatio
  ofRatio (sa != sb) (na * nb) (da * db)

def div (a b : Binary64) : Binary64 :=
  let (sa, na, da) := a.toRatio
  let (sb, nb, db) := b.toRatio
  ofRatio (sa != sb) (na * db) (da * nb)

def pow10 (k : Nat) : Binary64 := ofRatio false (Nat.pow 10 k) 1

def scaledValue (x : Binary64) (scale : Nat) : Int :=
  let (s, n, _) := x.toRatio
  if s then -((n * scale : Nat) : Int) else ((n * scale : Nat) : Int)

def add (a b : Binary64) : Binary64 :=
  if a.isNaN || b.isNaN then nan
  else if !a.isFinite then (if !b.isFinite && a.negative != b.negative then nan else a)
  else if !b.isFinite then b
  else
    let da := a.toRatio.2.2
    let db := b.toRatio.2.2
    let sum := a.scaledValue db + b.scaledValue da
    if sum = 0 then zero (a.negative && b.negative)
    else ofRatio (sum < 0) sum.natAbs (da * db)

def sub (a b : Binary64) : Binary64 := add a b.neg

def le (a b : Binary64) : Bool :=
  if a.isNaN || b.isNaN then false
  else if !a.isFinite then a.negative || (!b.isFinite && !b.negative)
  else if !b.isFinite then !b.negative
  else a.scaledValue b.toRatio.2.2 ≤ b.scaledValue a.toRatio.2.2

def eqValue (a b : Binary64) : Bool := a.le b && b.le a

end Binary64

end SellerSync
