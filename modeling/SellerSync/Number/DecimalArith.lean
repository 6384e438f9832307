import SellerSync.Number.Decimal
/-! Arithmetic on scaled decimals and their conversions from and to binary64. -/
namespace SellerSync

namespace Decimal

def add? (a b : Decimal) : Option Decimal :=
  if a.isZero then some b else
  if b.isZero then some a else
  let s := max a.scale b.scale
  let na : Int := (if a.negative then -1 else 1) * (a.mantissa * Nat.pow 10 (s - a.scale) : Nat)
  let nb : Int := (if b.negative then -1 else 1) * (b.mantissa * Nat.pow 10 (s - b.scale) : Nat)
  let t := na + nb
  ofScaled (t < 0) t.natAbs s

def sum? (ds : List Decimal) : Option Decimal := ds.foldlM add? zero

def mul? (a b : Decimal) : Option Decimal :=
  if a.isZero || b.isZero then some zero else
  ofScaled (a.negative != b.negative) (a.mantissa * b.mantissa) (a.scale + b.scale)

def shortenWhile (more : Nat → Int → Bool) : Nat → Int → (fuel : Nat) → Nat × Int
  | bits, e10, 0 => (bits, e10)
  | bits, e10, fuel + 1 =>
    if more bits e10 then
      let r := bits % 10
      let q := bits / 10
      if q = 0 then (0, 0)
      else shortenWhile more (if r ≥ 5 then q + 1 else q) (e10 + 1) fuel
    else (bits, e10)

def absorbFives : Nat → Int → (e5 : Nat) → Nat × Int
  | bits, e10, 0 => (bits, e10)
  | bits, e10, e5 + 1 =>
    if bits % 2 = 0 then absorbFives (bits / 2) (e10 + 1) e5
    else if bits * 5 ≤ maxMantissa then absorbFives (bits * 5) e10 e5
    else absorbFives (bits / 2) (e10 + 1) e5

def absorbFifths : Nat → Int → (e5 : Nat) → Nat × Int
  | bits, e10, 0 => (bits, e10)
  | bits, e10, e5 + 1 =>
    if bits < Nat.pow 2 95 then absorbFifths (bits * 2) (e10 - 1) e5
    else absorbFifths (bits / 5) e10 e5

def ofBinary64? (x : Binary64) (short : Bool) : Option Decimal :=
  if !x.isFinite then none
  else if x.isZero then some zero
  else
    let e2 := x.exponent
    let bits := x.significand
    let (bits, e10) :=
      if e2 < 0 then absorbFives bits e2 (-e2).toNat
      else absorbFifths bits e2 e2.toNat
    if e10 > 0 then none
    else
      let (bits, e10) := shortenWhile (fun _ e => e < -(maxScale : Int)) bits e10 1200
      let (bits, e10) :=
        if short then shortenWhile (fun b e => e < 0 ∧ b ≥ Nat.pow 2 52) bits e10 100 else (bits, e10)
      some (make x.negative bits (-e10).toNat)

def ofBinary64Exact? (x : Binary64) : Option Decimal := ofBinary64? x false

def ofBinary64Short? (x : Binary64) : Option Decimal := ofBinary64? x true

def toBinary64 (d : Decimal) : Binary64 :=
  if d.scale = 0 then Binary64.ofInt (if d.negative then -(d.mantissa : Int) else d.mantissa)
  else
    let precision := Nat.pow 10 d.scale
    let whole := d.mantissa / precision
    let frac := d.mantissa % precision
    let wholeF := (Binary64.ofRatio false whole 1).toFloat
    let value :=
      if frac = 0 then wholeF
      else
        let fracF := (Binary64.ofRatio false frac 1).toFloat /
          (Binary64.ofRatio false precision 1).toFloat
        let v := wholeF + fracF
        let roundTo := (Binary64.ofRatio false precision 1).toFloat
        (v * roundTo).round / roundTo
    Binary64.ofFloat (if d.negative then -value else value)

end Decimal

end SellerSync
