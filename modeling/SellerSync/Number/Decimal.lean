import SellerSync.Number.Binary64
/-! Money amounts as scaled decimals: `(-1)^negative · mantissa / 10^scale` with a mantissa below
`2^96` and a scale of at most 28. -/
namespace SellerSync

/-- A scaled decimal amount. Values built here keep `mantissa < 2^96`, `scale ≤ 28` and a
positive sign on zero. -/
structure Decimal where
  negative : Bool
  mantissa : Nat
  scale : Nat
  deriving DecidableEq, Repr, Inhabited

namespace Decimal

def maxScale : Nat := 28

def maxMantissa : Nat := Nat.pow 2 96 - 1

def make (negative : Bool) (mantissa scale : Nat) : Decimal :=
  ⟨negative && mantissa != 0, mantissa, scale⟩

def zero : Decimal := ⟨false, 0, 0⟩

def ofInt (n : Int) : Decimal := make (n < 0) n.natAbs 0

def isZero (d : Decimal) : Bool := d.mantissa == 0

def fits (d : Decimal) : Bool := d.mantissa ≤ maxMantissa && d.scale ≤ maxScale

def toText (d : Decimal) : String :=
  let digits := Nat.repr d.mantissa
  let padded :=
    if digits.length ≤ d.scale then Binary64.zeros (d.scale + 1 - digits.length) ++ digits
    else digits
  let cut := padded.length - d.scale
  let body :=
    if d.scale = 0 then padded
    else String.ofList (padded.toList.take cut) ++ "." ++ String.ofList (padded.toList.drop cut)
  (if d.negative && d.mantissa != 0 then "-" else "") ++ body

instance : ToString Decimal := ⟨toText⟩

def toRatio (d : Decimal) : Int × Nat :=
  ((if d.negative then -(d.mantissa : Int) else d.mantissa), Nat.pow 10 d.scale)

def compare (a b : Decimal) : Ordering :=
  let (na, da) := a.toRatio
  let (nb, db) := b.toRatio
  Ord.compare (na * db) (nb * da)

def lt (a b : Decimal) : Bool := compare a b == .lt

def normalize (d : Decimal) : Decimal :=
  let rec go (m s : Nat) : (fuel : Nat) → Nat × Nat
    | 0 => (m, s)
    | fuel + 1 => if s > 0 ∧ m % 10 = 0 then go (m / 10) (s - 1) fuel else (m, s)
  let (m, s) := go d.mantissa d.scale d.scale
  if m = 0 then zero else make d.negative m s

def roundDiv (n d : Nat) (halfUp : Bool) : Nat :=
  let q := n / d
  let r := n % d
  if 2 * r > d ∨ (2 * r = d ∧ (halfUp ∨ q % 2 = 1)) then q + 1 else q

def ofScaled (negative : Bool) (num scale : Nat) : Option Decimal :=
  if num ≤ maxMantissa ∧ scale ≤ maxScale then some (make negative num scale) else
  let rec go (drop : Nat) : (fuel : Nat) → Option Decimal
    | 0 => none
    | fuel + 1 =>
      if drop > scale then none else
      let m := roundDiv num (Nat.pow 10 drop) false
      if m ≤ maxMantissa ∧ scale - drop ≤ maxScale then some (make negative m (scale - drop))
      else go (drop + 1) fuel
  go 1 (scale + 1)

def roundAwayFromZero (d : Decimal) (dp : Nat) : Decimal :=
  if d.scale ≤ dp then d
  else make d.negative (roundDiv d.mantissa (Nat.pow 10 (d.scale - dp)) true) dp

def trunc (d : Decimal) : Decimal := make d.negative (d.mantissa / Nat.pow 10 d.scale) 0

def toI64? (d : Decimal) : Option Int :=
  let w := d.mantissa / Nat.pow 10 d.scale
  if d.negative then (if w ≤ Nat.pow 2 63 then some (-(w : Int)) else none)
  else if w < Nat.pow 2 63 then some w else none

def withScale (d : Decimal) (s : Nat) : Option Decimal :=
  if s ≤ maxScale then some { d with scale := s } else none

/-- Reading state: the mantissa so far, places after the point, whether a point and a digit were
seen, and whether the mantissa has grown past `wideFrom`. -/
structure Reading where
  mantissa : Nat := 0
  scale : Nat := 0
  point : Bool := false
  digit : Bool := false
  wide : Bool := false

def wideFrom : Nat := (Nat.pow 2 64 - 1) / 10 - 255

def roundAt (r : Reading) (negative : Bool) (next : Char) (rest : List Char) : Option Decimal :=
  let dv? : Option Nat :=
    if next.isDigit then some (next.toNat - 48)
    else if next = '_' then some 0
    else none
  match dv? with
  | none => none
  | some dv =>
    if !rest.all (fun c => c.isDigit || c = '_') then none
    else if dv < 5 then some (make negative r.mantissa r.scale)
    else
      let m := r.mantissa + 1
      if m ≤ maxMantissa then some (make negative m r.scale)
      else if r.scale = 0 then none
      else some (make negative ((m + 4) / 10) (r.scale - 1))

def roundAfterFull (r : Reading) (negative : Bool) (next : Char) (rest : List Char) :
    Option Decimal :=
  if r.wide ∧ next = '_' then
    match rest.dropWhile (· = '_') with
    | [] => some (make negative r.mantissa r.scale)
    | c :: after => roundAt r negative c after
  else roundAt r negative next rest

def readDigits (negative : Bool) : Reading → List Char → Option Decimal
  | r, [] => if r.digit then some (make negative r.mantissa r.scale) else none
  | r, c :: rest =>
    if c.isDigit then
      let m := r.mantissa * 10 + (c.toNat - 48)
      if m > maxMantissa then
        if r.point then roundAt r negative c rest else none
      else
        let r' := { r with mantissa := m, scale := if r.point then r.scale + 1 else r.scale,
                           digit := true }
        match rest with
        | [] => some (make negative r'.mantissa r'.scale)
        | next :: rest' =>
          if r'.point ∧ r'.scale ≥ maxScale then roundAfterFull r' negative next rest'
          else readDigits negative { r' with wide := r'.wide || m ≥ wideFrom } rest
    else if c = '.' ∧ !r.point then readDigits negative { r with point := true } rest
    else if c = '_' ∧ r.digit then readDigits negative r rest
    else none

def parse? (s : String) : Option Decimal :=
  match s.toList with
  | [] => none
  | '-' :: rest => readDigits true {} rest
  | '+' :: rest => readDigits false {} rest
  | cs => readDigits false {} cs

def parseExponent? (cs : List Char) : Option Nat :=
  let ds := match cs with
    | '+' :: r => r
    | r => r
  if ds.isEmpty ∨ !ds.all Char.isDigit then none
  else
    let v := ds.foldl (fun n c => 10 * n + (c.toNat - 48)) 0
    if v < Nat.pow 2 32 then some v else none

def parseScientific? (s : String) : Option Decimal := do
  let cs := s.toList
  let i := cs.findIdx (fun c => c = 'e' ∨ c = 'E')
  if i ≥ cs.length then none
  let base ← parse? (String.ofList (cs.take i))
  match cs.drop (i + 1) with
  | '-' :: expo =>
    let e ← parseExponent? expo
    if e > maxScale then none
    if base.scale + e ≤ maxScale then base.withScale (base.scale + e)
    else
      let drop := base.scale + e - maxScale
      some (make base.negative (roundDiv base.mantissa (Nat.pow 10 drop) true) maxScale)
  | expo =>
    let e ← parseExponent? expo
    if e ≤ base.scale then base.withScale (base.scale - e)
    else if e > maxScale then none
    else
      let m := base.mantissa * Nat.pow 10 e
      let d ← ofScaled base.negative m base.scale
      pure d.normalize

end Decimal

end SellerSync
