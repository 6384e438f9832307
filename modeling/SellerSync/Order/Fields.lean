import SellerSync.Number.DecimalArith
import SellerSync.Time.Rfc3339
import SellerSync.Text.Blank
import SellerSync.Text.Lowercase
import SellerSync.Json.Decode
import SellerSync.Error
/-! Permissive readings of marketplace fields. -/
namespace SellerSync

namespace Fields

/-- An amount from any JSON value, or none. -/
def money? : Json → Option Decimal
  | .num n =>
    match n.toI64? with
    | some i => some (Decimal.ofInt i)
    | none => (Decimal.ofBinary64Exact? n.toBinary64).map Decimal.normalize
  | .str s =>
    let t := Text.trim s
    if t.isEmpty then none
    else match Decimal.parse? t with
      | some d => some d
      | none => Decimal.parseScientific? t
  | _ => none

/-- Whole units of an amount, 0 when absent or beyond 64 bits. -/
def quantity (d : Option Decimal) : Int := (d.bind (·.trunc.toI64?)).getD 0

/-- A trimmed text, or none when blank. -/
def nonEmpty? (s : String) : Option String :=
  let t := Text.trim s
  if t.isEmpty then none else some t

def optNonEmpty (s : Option String) : Option String := s.bind nonEmpty?

/-- A trimmed, lowercased email. -/
def email? (s : Option String) : Option String := (optNonEmpty s).map Text.toLower

/-- An RFC 3339 time after trimming, or none. -/
def timestamp? (s : Option String) : Option Instant :=
  s.bind fun raw => (Instant.parseRfc3339 (Text.trim raw)).toOption

def id? : Json → Option String
  | .str s => nonEmpty? s
  | .num n => some n.render
  | _ => none

/-- Sum of the known amounts, none when none is known. -/
def sumKnown (xs : List (Option Decimal)) : Except SyncError (Option Decimal) :=
  xs.foldlM (fun acc x =>
    match x, acc with
    | none, _ => pure acc
    | some d, none => pure (Decimal.zero.add? d)
    | some d, some t =>
      match t.add? d with
      | some s => pure (some s)
      | none => throw SyncError.additionOverflow) none

/-- Any value, read as an amount. -/
def looseMoney : Decoder (Option Decimal) := fun j => .ok (money? j)

/-- Any value, read as an identifier. -/
def looseId : Decoder (Option String) := fun j => .ok (id? j)

/-- A list that may also be `null`. -/
def nullableList (d : Decoder α) : Decoder (List α)
  | .null => .ok []
  | j => Decode.list d j

end Fields

end SellerSync
